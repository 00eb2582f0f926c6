import OpenNetDeck.Lib.Checked
import OpenNetDeck.Lib.KeyedLog
import OpenNetDeck.Protocol.Reports
import OpenNetDeck.Server.Usb.Device

/-!
# The dock

The slot table, the sticky reservations and the hotplug events of `DockState`.
The events are kept in the order in which the broadcast channel got them.

## Main definitions

- `DockState.attachDevice`, `DockState.detachDeviceBySerial`
- `DockState.childDeviceAt`, `DockState.allActiveChildren`
- `DockState.table` — what the dock is for: which child is in which slot
- `DockState.run` — the dock after a list of operations

## Main results

- `DockState.run_consistent` — in every run each entry bears the number and the
  port of its slot, and the events alone determine the table
-/

namespace OpenNetDeck

open Bytes Checked

/-- Number of child slots. -/
def maxChildSlots : ℕ := 8

theorem maxChildSlots_pos : 0 < maxChildSlots := by decide

abbrev Slot := Fin maxChildSlots

/-- The number of a slot as the wire and the reservations hold it. -/
def Slot.asU8 (i : Slot) : UInt8 := UInt8.ofNat i.val

@[simp] theorem Slot.toNat_asU8 (i : Slot) : i.asU8.toNat = i.val := by
  have hi : i.val < 8 := i.isLt
  rw [asU8, UInt8.toNat_ofNat_of_lt' (hi.trans (by decide))]

theorem Slot.asU8_inj {i j : Slot} (h : i.asU8 = j.asU8) : i = j := by
  apply Fin.ext
  rw [← toNat_asU8, h, toNat_asU8]

theorem Slot.asU8_lt (i : Slot) : i.asU8.toNat < maxChildSlots := by
  rw [toNat_asU8]
  exact i.isLt

theorem Slot.mk_asU8 (i : Slot) : (⟨i.asU8.toNat, i.asU8_lt⟩ : Slot) = i :=
  Fin.ext (toNat_asU8 i)

inductive ServerMode where
  | dock
  | direct
  deriving DecidableEq, Repr

/-- Hardware and network configuration of the dock. -/
structure DockConfig where
  serialNumber : String
  firmwareVersion : String
  macAddress : Block 6
  primaryPort : UInt16
  secondaryPort : UInt16
  mode : ServerMode
  deriving DecidableEq

def DockConfig.default : DockConfig where
  serialNumber := "DL01A1A00001"
  firmwareVersion := "1.0.0.0"
  macAddress := ⟨[0x00, 0x1a, 0x7d, 0xda, 0x71, 0x01], rfl⟩
  primaryPort := 5343
  secondaryPort := 5344
  mode := .dock

/-- An allocated child slot. -/
structure SlotEntry where
  slotIndex : UInt8
  port : UInt16
  serial : String
  childInfo : ChildDeviceInfo
  usbDevice : Option StreamDeckUsbHandle
  deriving DecidableEq

/-- The dock with the hotplug events sent so far. -/
structure DockState where
  config : DockConfig
  slots : Slot → Option SlotEntry
  stickyMap : String → Option UInt8
  hotplug : List ChildDeviceInfo

/-- The first free slot, or slot 0 if all are occupied. -/
def findLowestFreeSlot (slots : Slot → Option SlotEntry) : Slot :=
  ((List.finRange maxChildSlots).find? fun i => (slots i).isNone).getD ⟨0, by decide⟩

namespace DockState

def new (config : DockConfig) : DockState where
  config
  slots := fun _ => none
  stickyMap := fun _ => none
  hotplug := []

/-- The child in a slot, whether the number is in range or not. -/
def childDeviceAt (self : DockState) (slotIndex : UInt8) : ChildDeviceInfo :=
  if h : slotIndex.toNat < maxChildSlots then
    match self.slots ⟨slotIndex.toNat, h⟩ with
    | some entry => entry.childInfo
    | none => .disconnected slotIndex
  else .disconnected slotIndex

/-- All connected children, in the order of their slots. -/
def allActiveChildren (self : DockState) : List ChildDeviceInfo :=
  (List.finRange maxChildSlots).filterMap fun i => (self.slots i).map (·.childInfo)

/-- The sticky reservation if its slot is free, else the lowest free slot. -/
def targetSlot (self : DockState) (serial : String) : Slot :=
  match self.stickyMap serial with
  | some prevSlot =>
    if h : prevSlot.toNat < maxChildSlots then
      -- a reservation does not keep others out of the slot
      if (self.slots ⟨prevSlot.toNat, h⟩).isNone then ⟨prevSlot.toNat, h⟩
      else findLowestFreeSlot self.slots
    else findLowestFreeSlot self.slots
  | none => findLowestFreeSlot self.slots

/-- The entry of a device in a slot. -/
def newEntry (config : DockConfig) (targetSlot : Slot) (device : StreamDeckUsbHandle)
    (vid pid : UInt16) (modelName : String) : SlotEntry :=
  let serial := device.serialNumber
  let slotIndex := targetSlot.asU8
  let port := saturatingAdd config.secondaryPort (UInt16.ofNat slotIndex.toNat)
  { slotIndex
    port
    serial
    childInfo := ChildDeviceInfo.connected slotIndex vid pid modelName serial port
    usbDevice := some device }

/-- Put a device into its slot, occupied or not: the slot and its port, and the
dock after. -/
def attachDevice (self : DockState) (device : StreamDeckUsbHandle) (vid pid : UInt16)
    (modelName : String) : (UInt8 × UInt16) × DockState :=
  let serial := device.serialNumber
  let targetSlot := self.targetSlot serial
  let entry := newEntry self.config targetSlot device vid pid modelName
  ((entry.slotIndex, entry.port),
    { self with
      slots := Function.update self.slots targetSlot (some entry)
      stickyMap := Function.update self.stickyMap serial (some entry.slotIndex)
      hotplug := self.hotplug ++ [entry.childInfo] })

/-- The first slot that holds a serial, with its entry. -/
def findSerial (slots : Slot → Option SlotEntry) (serial : String) : Option (Slot × SlotEntry) :=
  (List.finRange maxChildSlots).findSome? fun i =>
    match slots i with
    | some entry => if entry.serial = serial then some (i, entry) else none
    | none => none

/-- Free the slot that holds a serial; its reservation stays. -/
def detachDeviceBySerial (self : DockState) (serial : String) :
    Option (UInt8 × ChildDeviceInfo) × DockState :=
  match findSerial self.slots serial with
  | some (i, entry) =>
    let disconnected := ChildDeviceInfo.disconnected entry.slotIndex
    (some (entry.slotIndex, disconnected),
      { self with
        slots := Function.update self.slots i none
        hotplug := self.hotplug ++ [disconnected] })
  | none => (none, self)

theorem findSerial_eq_some {slots : Slot → Option SlotEntry} {serial : String} {i : Slot}
    {entry : SlotEntry} (h : findSerial slots serial = some (i, entry)) :
    slots i = some entry ∧ entry.serial = serial := by
  obtain ⟨j, -, hj⟩ := List.exists_of_findSome?_eq_some h
  cases hslot : slots j with
  | none => simp [hslot] at hj
  | some entry' =>
    simp only [hslot] at hj
    split at hj
    · next hserial =>
      cases hj
      exact ⟨hslot, hserial⟩
    · cases hj

theorem findSerial_eq_none {slots : Slot → Option SlotEntry} {serial : String}
    (h : findSerial slots serial = none) (i : Slot) (entry : SlotEntry)
    (hslot : slots i = some entry) : entry.serial ≠ serial := by
  have hi := List.findSome?_eq_none_iff.mp h i (List.mem_finRange i)
  simp only [hslot] at hi
  intro hserial
  rw [if_pos hserial] at hi
  cases hi

/-- A free slot is taken before an occupied one, the lowest first. -/
theorem findLowestFreeSlot_spec (slots : Slot → Option SlotEntry) :
    slots (findLowestFreeSlot slots) = none ∨
      (∀ i, slots i ≠ none) ∧ findLowestFreeSlot slots = ⟨0, by decide⟩ := by
  rw [findLowestFreeSlot]
  cases hfind : (List.finRange maxChildSlots).find? fun i => (slots i).isNone with
  | some i =>
    left
    simpa using List.find?_some hfind
  | none =>
    right
    refine ⟨?_, rfl⟩
    intro i hi
    have := List.find?_eq_none.mp hfind i (List.mem_finRange i)
    rw [hi] at this
    exact this rfl

/-- What stands before an element of all slots are the smaller ones. -/
theorem mem_of_finRange_eq {n : ℕ} {xs ys : List (Fin n)} {i j : Fin n}
    (h : List.finRange n = xs ++ i :: ys) (hj : j < i) : j ∈ xs := by
  have hsorted := List.pairwise_lt_finRange n
  have hmem := List.mem_finRange j
  rw [h] at hsorted hmem
  obtain hxs | hrest := List.mem_append.mp hmem
  · exact hxs
  · obtain rfl | hys := List.mem_cons.mp hrest
    · exact absurd hj (lt_irrefl j)
    · have hi := (List.pairwise_cons.mp (List.pairwise_append.mp hsorted).2.1).1 j hys
      exact absurd hj hi.asymm

theorem findLowestFreeSlot_least {slots : Slot → Option SlotEntry} (h : ∃ i, slots i = none) :
    slots (findLowestFreeSlot slots) = none ∧
      ∀ j < findLowestFreeSlot slots, slots j ≠ none := by
  rw [findLowestFreeSlot]
  cases hfind : (List.finRange maxChildSlots).find? fun i => (slots i).isNone with
  | none =>
    obtain ⟨i, hi⟩ := h
    have htaken := List.find?_eq_none.mp hfind i (List.mem_finRange i)
    rw [hi] at htaken
    exact absurd rfl htaken
  | some i =>
    obtain ⟨hi, xs, ys, hsplit, hxs⟩ := List.find?_eq_some_iff_append.mp hfind
    refine ⟨Option.isNone_iff_eq_none.mp hi, ?_⟩
    intro j hj hnone
    have htaken := hxs j (mem_of_finRange_eq hsplit hj)
    rw [hnone] at htaken
    cases htaken

/-- So it is for the slot of a device: only a full table is overwritten, at slot
0. -/
theorem targetSlot_spec (s : DockState) (serial : String) :
    s.slots (s.targetSlot serial) = none ∨
      (∀ i, s.slots i ≠ none) ∧ s.targetSlot serial = ⟨0, by decide⟩ := by
  rw [targetSlot]
  split
  · split
    · split
      · next hfree => exact .inl (Option.isNone_iff_eq_none.mp hfree)
      · exact findLowestFreeSlot_spec s.slots
    · exact findLowestFreeSlot_spec s.slots
  · exact findLowestFreeSlot_spec s.slots

theorem detach_of_found {s : DockState} {serial : String} {i : Slot} {entry : SlotEntry}
    (h : findSerial s.slots serial = some (i, entry)) :
    (s.detachDeviceBySerial serial).2 =
      { s with
        slots := Function.update s.slots i none
        hotplug := s.hotplug ++ [.disconnected entry.slotIndex] } := by
  rw [detachDeviceBySerial, h]

theorem detach_of_absent {s : DockState} {serial : String} (h : findSerial s.slots serial = none) :
    (s.detachDeviceBySerial serial).2 = s := by
  rw [detachDeviceBySerial, h]

/-- An attach changes one slot. -/
theorem slots_attach {s : DockState} {device : StreamDeckUsbHandle} {vid pid : UInt16}
    {modelName : String} {j : Slot} {entry : SlotEntry}
    (h : (s.attachDevice device vid pid modelName).2.slots j = some entry) :
    (j = s.targetSlot device.serialNumber ∧
        entry = newEntry s.config j device vid pid modelName) ∨
      (j ≠ s.targetSlot device.serialNumber ∧ s.slots j = some entry) := by
  simp only [attachDevice] at h
  by_cases hj : j = s.targetSlot device.serialNumber
  · subst hj
    rw [Function.update_self, Option.some.injEq] at h
    exact .inl ⟨rfl, h.symm⟩
  · rw [Function.update_of_ne hj] at h
    exact .inr ⟨hj, h⟩

/-- An attachment returns the slot and the port of the new entry, and reserves the slot. -/
theorem attach_entry (s : DockState) (device : StreamDeckUsbHandle) (vid pid : UInt16)
    (modelName : String) :
    let i := s.targetSlot device.serialNumber
    let entry := newEntry s.config i device vid pid modelName
    let r := s.attachDevice device vid pid modelName
    r.1 = (i.asU8, entry.port) ∧ r.2.slots i = some entry ∧
      r.2.stickyMap device.serialNumber = some i.asU8 :=
  ⟨rfl, Function.update_self _ _ _, Function.update_self _ _ _⟩

/-- An attachment leaves the other slots as they are. -/
theorem slots_attach_of_ne (s : DockState) (device : StreamDeckUsbHandle) (vid pid : UInt16)
    (modelName : String) {j : Slot} (h : j ≠ s.targetSlot device.serialNumber) :
    (s.attachDevice device vid pid modelName).2.slots j = s.slots j :=
  Function.update_of_ne h _ _

/-- A detach frees the first slot that holds the serial, if any. -/
theorem slots_detach {s : DockState} {serial : String} {j : Slot} {entry : SlotEntry}
    (h : (s.detachDeviceBySerial serial).2.slots j = some entry) :
    s.slots j = some entry ∧
      ∀ i other, findSerial s.slots serial = some (i, other) → j ≠ i := by
  cases hfind : findSerial s.slots serial with
  | none =>
    rw [detach_of_absent hfind] at h
    exact ⟨h, nofun⟩
  | some found =>
    rw [detach_of_found hfind] at h
    by_cases hj : j = found.1
    · subst hj
      simp at h
    · simp only [Function.update_of_ne hj] at h
      refine ⟨h, ?_⟩
      rintro i other heq rfl
      cases heq
      exact hj rfl

/-- An entry with another serial stays. -/
theorem slots_detach_of_ne {s : DockState} {serial : String} {j : Slot} {entry : SlotEntry}
    (h : s.slots j = some entry) (hne : entry.serial ≠ serial) :
    (s.detachDeviceBySerial serial).2.slots j = some entry := by
  cases hfind : findSerial s.slots serial with
  | none =>
    rw [detach_of_absent hfind]
    exact h
  | some found =>
    obtain ⟨hfound, hserial⟩ := findSerial_eq_some hfind
    have hj : j ≠ found.1 := by
      rintro rfl
      rw [h, Option.some.injEq] at hfound
      rw [hfound] at hne
      exact hne hserial
    rw [detach_of_found hfind]
    simp only [Function.update_of_ne hj]
    exact h

/-- Reservations stay when a device is detached. -/
theorem detach_frame (s : DockState) (serial : String) :
    (s.detachDeviceBySerial serial).2.stickyMap = s.stickyMap ∧
      (s.detachDeviceBySerial serial).2.config = s.config := by
  cases hfind : findSerial s.slots serial with
  | none =>
    rw [detach_of_absent hfind]
    exact ⟨rfl, rfl⟩
  | some found =>
    rw [detach_of_found hfind]
    exact ⟨rfl, rfl⟩

/-! ### Entries and their slots -/

/-- The entry bears the number and the port of the slot. -/
structure Placed (config : DockConfig) (i : Slot) (entry : SlotEntry) : Prop where
  slotIndex : entry.slotIndex = i.asU8
  port : entry.port = saturatingAdd config.secondaryPort (UInt16.ofNat i.val)
  childSlot : entry.childInfo.slotIndex = i.asU8
  tcpPort : entry.childInfo.tcpPort = entry.port
  connected : entry.childInfo.isConnected = true

theorem newEntry_placed (config : DockConfig) (i : Slot) (device : StreamDeckUsbHandle)
    (vid pid : UInt16) (modelName : String) :
    Placed config i (newEntry config i device vid pid modelName) where
  slotIndex := rfl
  port := by simp only [newEntry, Slot.toNat_asU8]
  childSlot := rfl
  tcpPort := rfl
  connected := rfl

/-- Every entry is placed in its slot. -/
def AllPlaced (s : DockState) : Prop := ∀ i entry, s.slots i = some entry → Placed s.config i entry

theorem allPlaced_attach {s : DockState} (h : s.AllPlaced) (device : StreamDeckUsbHandle)
    (vid pid : UInt16) (modelName : String) :
    (s.attachDevice device vid pid modelName).2.AllPlaced := by
  intro i entry hentry
  obtain ⟨-, rfl⟩ | ⟨-, hold⟩ := slots_attach hentry
  · exact newEntry_placed _ _ _ _ _ _
  · exact h i entry hold

theorem allPlaced_detach {s : DockState} (h : s.AllPlaced) (serial : String) :
    (s.detachDeviceBySerial serial).2.AllPlaced := by
  intro i entry hentry
  rw [(s.detach_frame serial).2]
  exact h i entry (slots_detach hentry).1

/-! ### Occupied slots -/

/-- The slots that hold an entry. -/
def occupied (s : DockState) : Finset Slot := Finset.univ.filter fun i => (s.slots i).isSome

@[simp] theorem mem_occupied {s : DockState} {i : Slot} :
    i ∈ s.occupied ↔ s.slots i ≠ none := by
  rw [occupied, Finset.mem_filter_univ, Option.isSome_iff_ne_none]

theorem occupied_attach (s : DockState) (device : StreamDeckUsbHandle) (vid pid : UInt16)
    (modelName : String) : (s.attachDevice device vid pid modelName).2.occupied =
      insert (s.targetSlot device.serialNumber) s.occupied := by
  ext i
  rw [mem_occupied, Finset.mem_insert, mem_occupied]
  simp only [attachDevice]
  by_cases hi : i = s.targetSlot device.serialNumber
  · subst hi
    simp
  · rw [Function.update_of_ne hi]
    simp [hi]

theorem card_occupied_le (s : DockState) : s.occupied.card ≤ maxChildSlots := by
  have h := s.occupied.card_le_univ
  rwa [Fintype.card_fin] at h

theorem card_occupied_of_full {s : DockState} (h : ∀ i, s.slots i ≠ none) :
    s.occupied.card = maxChildSlots := by
  have hall : s.occupied = Finset.univ := by
    ext i
    simp [h i]
  rw [hall, Finset.card_univ, Fintype.card_fin]

theorem card_occupied_lt (s : DockState) {i : Slot} (h : s.slots i = none) :
    s.occupied.card < maxChildSlots := by
  have hnew : i ∉ s.occupied := by
    rw [mem_occupied]
    exact not_not.mpr h
  have hcard := Finset.card_lt_univ_of_notMem hnew
  rwa [Fintype.card_fin] at hcard

/-- Each attachment takes a slot of its own while there is one. -/
theorem card_occupied_attach (s : DockState) (device : StreamDeckUsbHandle) (vid pid : UInt16)
    (modelName : String) :
    (s.attachDevice device vid pid modelName).2.occupied.card =
      min (s.occupied.card + 1) maxChildSlots := by
  rw [occupied_attach]
  obtain hfree | ⟨hfull, -⟩ := s.targetSlot_spec device.serialNumber
  · have hnew : s.targetSlot device.serialNumber ∉ s.occupied := by
      rw [mem_occupied]
      exact not_not.mpr hfree
    rw [Finset.card_insert_of_notMem hnew, Nat.min_eq_left (s.card_occupied_lt hfree)]
  · have hcard := card_occupied_of_full hfull
    rw [Finset.insert_eq_of_mem (mem_occupied.mpr (hfull _)), hcard]
    exact (Nat.min_eq_right (Nat.le_succ _)).symm

/-! ### The table of children -/

/-- Which child is in which slot, for every slot number. -/
def table (s : DockState) : UInt8 → Option ChildDeviceInfo := fun k =>
  if h : k.toNat < maxChildSlots then (s.slots ⟨k.toNat, h⟩).map (·.childInfo) else none

theorem childDeviceAt_eq (s : DockState) (k : UInt8) :
    s.childDeviceAt k = (s.table k).getD (.disconnected k) := by
  rw [childDeviceAt, table]
  split
  · next h => cases s.slots ⟨k.toNat, h⟩ <;> rfl
  · rfl

theorem table_asU8 (s : DockState) (i : Slot) :
    s.table i.asU8 = (s.slots i).map (·.childInfo) := by
  rw [table, dif_pos i.asU8_lt, i.mk_asU8]

/-- A change of one slot is a change of one key of the table. -/
theorem table_update (s s' : DockState) {i : Slot} {entry : Option SlotEntry}
    (h : s'.slots = Function.update s.slots i entry) :
    s'.table = Function.update s.table i.asU8 (entry.map (·.childInfo)) := by
  funext k
  by_cases hk : k = i.asU8
  · subst hk
    rw [table_asU8, h, Function.update_self, Function.update_self]
  · rw [Function.update_of_ne hk, table, table]
    split
    · next hlt =>
      have hne : (⟨k.toNat, hlt⟩ : Slot) ≠ i := by
        rintro rfl
        exact hk (UInt8.toNat_inj.mp (Slot.toNat_asU8 ⟨k.toNat, hlt⟩).symm)
      rw [h, Function.update_of_ne hne]
    · rfl

/-- The children listed are the children of the table. -/
theorem mem_allActiveChildren {s : DockState} (h : s.AllPlaced) {child : ChildDeviceInfo} :
    child ∈ s.allActiveChildren ↔ s.table child.slotIndex = some child := by
  rw [allActiveChildren, List.mem_filterMap]
  constructor
  · rintro ⟨i, -, hi⟩
    obtain ⟨entry, hentry, rfl⟩ := Option.map_eq_some_iff.mp hi
    rw [(h i entry hentry).childSlot, table_asU8, hi]
  · intro htable
    rw [table] at htable
    split at htable
    · exact ⟨_, List.mem_finRange _, htable⟩
    · cases htable

end DockState

/-- What an event says about its slot. -/
def ChildDeviceInfo.occupant (self : ChildDeviceInfo) : Option ChildDeviceInfo :=
  if self.isConnected then some self else none

namespace DockState

/-- The events, replayed from an empty table, give the table. -/
def Mirrors (s : DockState) : Prop :=
  KeyedLog.replay ChildDeviceInfo.slotIndex ChildDeviceInfo.occupant (fun _ => none) s.hotplug =
    s.table

theorem mirrors_attach {s : DockState} (h : s.Mirrors) (device : StreamDeckUsbHandle)
    (vid pid : UInt16) (modelName : String) :
    (s.attachDevice device vid pid modelName).2.Mirrors := by
  have htable := table_update s (s.attachDevice device vid pid modelName).2 rfl
  -- also for an overwritten slot: one event, and it replaces the occupant
  rw [Mirrors, htable, ← h]
  simp only [attachDevice, KeyedLog.replay_concat]
  rfl

theorem mirrors_detach {s : DockState} (hplaced : s.AllPlaced) (h : s.Mirrors) (serial : String) :
    (s.detachDeviceBySerial serial).2.Mirrors := by
  cases hfind : findSerial s.slots serial with
  | none =>
    rw [detach_of_absent hfind]
    exact h
  | some found =>
    obtain ⟨i, entry⟩ := found
    -- the event names the slot that the entry bears, which is where it is
    have hslot := (hplaced i entry (findSerial_eq_some hfind).1).slotIndex
    have hslots : (s.detachDeviceBySerial serial).2.slots = Function.update s.slots i none := by
      rw [detach_of_found hfind]
    have htable := table_update s _ hslots
    rw [Mirrors, htable, detach_of_found hfind, KeyedLog.replay_concat, h, hslot]
    rfl

/-! ### Runs -/

end DockState

/-- What the watcher does to the dock. -/
inductive DockOp where
  | attach (device : StreamDeckUsbHandle) (vid pid : UInt16) (modelName : String)
  | detach (serial : String)

namespace DockState

def apply (s : DockState) : DockOp → DockState
  | .attach device vid pid modelName => (s.attachDevice device vid pid modelName).2
  | .detach serial => (s.detachDeviceBySerial serial).2

/-- The dock after a list of operations. -/
def run (config : DockConfig) (ops : List DockOp) : DockState := ops.foldl apply (new config)

/-- What every operation keeps. -/
structure Consistent (s : DockState) : Prop where
  placed : s.AllPlaced
  mirrors : s.Mirrors

theorem consistent_new (config : DockConfig) : (new config).Consistent where
  placed := nofun
  mirrors := by
    funext k
    rw [table]
    split <;> rfl

theorem Consistent.apply {s : DockState} (h : s.Consistent) (op : DockOp) :
    (s.apply op).Consistent := by
  cases op with
  | attach device vid pid modelName =>
    exact ⟨allPlaced_attach h.placed device vid pid modelName,
      mirrors_attach h.mirrors device vid pid modelName⟩
  | detach serial =>
    exact ⟨allPlaced_detach h.placed serial, mirrors_detach h.placed h.mirrors serial⟩

theorem run_concat (config : DockConfig) (ops : List DockOp) (op : DockOp) :
    run config (ops ++ [op]) = (run config ops).apply op := by
  rw [run, List.foldl_append]
  rfl

theorem run_consistent (config : DockConfig) (ops : List DockOp) : (run config ops).Consistent := by
  induction ops using List.reverseRecOn with
  | nil => exact consistent_new config
  | append_singleton ops op ih =>
    rw [run_concat]
    exact ih.apply op

theorem config_run (config : DockConfig) (ops : List DockOp) :
    (run config ops).config = config := by
  induction ops using List.reverseRecOn with
  | nil => rfl
  | append_singleton ops op ih =>
    rw [run_concat]
    cases op with
    | attach device vid pid modelName => exact ih
    | detach serial => exact (detach_frame _ serial).2.trans ih

/-- An operation sends at most one event. -/
theorem hotplug_apply (s : DockState) (op : DockOp) :
    (s.apply op).hotplug = s.hotplug ∨ ∃ child, (s.apply op).hotplug = s.hotplug ++ [child] := by
  cases op with
  | attach device vid pid modelName => exact .inr ⟨_, rfl⟩
  | detach serial =>
    rw [apply, detachDeviceBySerial]
    split
    · exact .inr ⟨_, rfl⟩
    · exact .inl rfl

end DockState

end OpenNetDeck
