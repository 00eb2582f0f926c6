import OpenNetDeck.Server.Sticky

/-!
# Slots and ports of attached decks

Which slot a deck is given after any history of attachments and detachments, what
else an operation changes, and which ports the occupied slots have.

## Main definitions

- `DockState.assigned` — the slots that the attachments of a run returned
- `DockState.IsNextSlot` — the slot that the history leaves to a serial

## Main results

- `slot_choice` — the last assignment if its slot is free, else the least free slot
- `attach_keeps_others` — only a full table loses an entry, that of slot 0
- `ports_distinct_iff` — the ports differ exactly for a base of at most 65528
-/

namespace OpenNetDeck

open Checked

namespace DockState

/-! ### Searches from slot 0 on -/

theorem findSerial_least {slots : Slot → Option SlotEntry} {serial : String} {i : Slot}
    {entry : SlotEntry} (h : findSerial slots serial = some (i, entry)) :
    ∀ j < i, ∀ other, slots j = some other → other.serial ≠ serial := by
  intro j hj other hother hserial
  obtain ⟨xs, k, ys, hsplit, hk, hxs⟩ := List.findSome?_eq_some_iff.mp h
  have hki : k = i := by
    cases hslot : slots k with
    | none => simp [hslot] at hk
    | some found =>
      simp only [hslot] at hk
      split at hk
      · cases hk
        rfl
      · cases hk
  subst hki
  have hnone := hxs j (mem_of_finRange_eq hsplit hj)
  simp only [hother, if_pos hserial] at hnone
  cases hnone

/-! ### The history -/

/-- The serial and the slot of an attachment. -/
def assignment (s : DockState) : DockOp → List (String × UInt8)
  | .attach device vid pid modelName =>
    [(device.serialNumber, (s.attachDevice device vid pid modelName).1.1)]
  | .detach _ => []

/-- The slots that the attachments of a run returned, in their order. -/
def assigned (s : DockState) : List DockOp → List (String × UInt8)
  | [] => []
  | op :: ops => s.assignment op ++ (s.apply op).assigned ops

/-- The slot of the most recent attachment of a serial. -/
def lastAssigned (config : DockConfig) (ops : List DockOp) (serial : String) : Option UInt8 :=
  (KeyedLog.last Prod.fst serial ((new config).assigned ops)).map Prod.snd

/-- The reservations are the assignments, replayed. -/
theorem stickyMap_apply (s : DockState) (op : DockOp) :
    (s.apply op).stickyMap =
      KeyedLog.replay Prod.fst (fun e => some e.2) s.stickyMap (s.assignment op) := by
  cases op with
  | attach device vid pid modelName => rfl
  | detach serial => exact (s.detach_frame serial).1

theorem stickyMap_foldl (s : DockState) (ops : List DockOp) :
    (ops.foldl apply s).stickyMap =
      KeyedLog.replay Prod.fst (fun e => some e.2) s.stickyMap (s.assigned ops) := by
  induction ops generalizing s with
  | nil => rfl
  | cons op ops ih =>
    rw [List.foldl_cons, ih, stickyMap_apply, assigned, KeyedLog.replay, KeyedLog.replay,
      KeyedLog.replay, List.foldl_append]

/-- A serial remembers its last assignment. -/
theorem stickyMap_run (config : DockConfig) (ops : List DockOp) (serial : String) :
    (run config ops).stickyMap serial = lastAssigned config ops serial := by
  rw [run, stickyMap_foldl, KeyedLog.replay_eq, lastAssigned]
  cases KeyedLog.last Prod.fst serial ((new config).assigned ops) <;> rfl

/-! ### The slot of the next attachment -/

/-- A free slot: the last one of the serial, or the least one if that is taken. -/
structure IsNextSlot (last : Option UInt8) (slots : Slot → Option SlotEntry) (i : Slot) :
    Prop where
  free : slots i = none
  choice : last = some i.asU8 ∨
    (∀ j, last = some j.asU8 → slots j ≠ none) ∧ ∀ j < i, slots j ≠ none

theorem targetSlot_isNextSlot {s : DockState} (h : ∃ i, s.slots i = none) (serial : String) :
    IsNextSlot (s.stickyMap serial) s.slots (s.targetSlot serial) := by
  obtain ⟨hfree, hleast⟩ := findLowestFreeSlot_least h
  rw [targetSlot]
  cases hlast : s.stickyMap serial with
  | none => exact ⟨hfree, .inr ⟨fun j hj => absurd hj.symm (Option.some_ne_none _), hleast⟩⟩
  | some k =>
    dsimp only
    by_cases hk : k.toNat < maxChildSlots
    · rw [dif_pos hk]
      have hasU8 : Slot.asU8 ⟨k.toNat, hk⟩ = k :=
        UInt8.toNat_inj.mp (Slot.toNat_asU8 ⟨k.toNat, hk⟩)
      by_cases hslot : s.slots ⟨k.toNat, hk⟩ = none
      · rw [if_pos (Option.isNone_iff_eq_none.mpr hslot)]
        exact ⟨hslot, .inl (congrArg some hasU8.symm)⟩
      · rw [if_neg fun hnone => hslot (Option.isNone_iff_eq_none.mp hnone)]
        refine ⟨hfree, .inr ⟨?_, hleast⟩⟩
        intro j hj
        rw [← hasU8, Option.some.injEq] at hj
        rwa [← Slot.asU8_inj hj]
    · rw [dif_neg hk]
      refine ⟨hfree, .inr ⟨?_, hleast⟩⟩
      intro j hj
      rw [Option.some.injEq] at hj
      exact absurd (hj ▸ j.asU8_lt) hk

/-- The last slot of the serial if it is free, else the least free one: there is one
answer. -/
theorem IsNextSlot.unique {last : Option UInt8} {slots : Slot → Option SlotEntry} {i j : Slot}
    (hi : IsNextSlot last slots i) (hj : IsNextSlot last slots j) : i = j := by
  obtain hlast | ⟨htaken, hleast⟩ := hi.choice
  · obtain hlast' | ⟨htaken', -⟩ := hj.choice
    · rw [hlast, Option.some.injEq] at hlast'
      exact Slot.asU8_inj hlast'
    · exact absurd hi.free (htaken' i hlast)
  · obtain hlast' | ⟨-, hleast'⟩ := hj.choice
    · exact absurd hj.free (htaken j hlast')
    · exact le_antisymm (not_lt.mp fun h => hleast j h hj.free)
        (not_lt.mp fun h => hleast' i h hi.free)

/-- The first slot with a serial is the one that is found. -/
theorem findSerial_of_least {slots : Slot → Option SlotEntry} {serial : String} {i : Slot}
    {entry : SlotEntry} (h : slots i = some entry) (hserial : entry.serial = serial)
    (hleast : ∀ j < i, ∀ other, slots j = some other → other.serial ≠ serial) :
    findSerial slots serial = some (i, entry) := by
  cases hfind : findSerial slots serial with
  | none => exact absurd hserial (findSerial_eq_none hfind i entry h)
  | some found =>
    obtain ⟨k, other⟩ := found
    obtain ⟨hk, hother⟩ := findSerial_eq_some hfind
    have hki : k = i := by
      apply le_antisymm
      · exact not_lt.mp fun hlt => findSerial_least hfind i hlt entry h hserial
      · exact not_lt.mp fun hlt => hleast k hlt other hk hother
    subst hki
    cases hk.symm.trans h
    rfl

theorem findSerial_of_absent {slots : Slot → Option SlotEntry} {serial : String}
    (h : ∀ i entry, slots i = some entry → entry.serial ≠ serial) :
    findSerial slots serial = none := by
  by_contra hfound
  obtain ⟨⟨i, entry⟩, hfind⟩ := Option.ne_none_iff_exists'.mp hfound
  obtain ⟨hi, hserial⟩ := findSerial_eq_some hfind
  exact h i entry hi hserial

end DockState

open DockState

/-- **Slot choice as a function of history**: with a free slot, an attachment returns
the slot of the serial's most recent attachment if that is free and else the least
free one. The device's entry is put into the slot that is returned, with its port, and the
serial's reservation is for it; neither another slot nor another reservation changes. A
detachment changes no reservation and frees the lowest slot with the serial, or does
nothing. -/
theorem slot_choice (config : DockConfig) (ops : List DockOp) :
    (∀ device vid pid modelName,
      let s := run config ops
      let r := s.attachDevice device vid pid modelName
      ((∃ i, s.slots i = none) → ∃ i, r.1.1 = Slot.asU8 i ∧
        IsNextSlot (lastAssigned config ops device.serialNumber) s.slots i) ∧
      (∃ i, r.1 = (Slot.asU8 i, (newEntry config i device vid pid modelName).port) ∧
        r.2.slots i = some (newEntry config i device vid pid modelName) ∧
        r.2.stickyMap device.serialNumber = some (Slot.asU8 i)) ∧
      (∀ j, Slot.asU8 j ≠ r.1.1 → r.2.slots j = s.slots j) ∧
      ∀ other, other ≠ device.serialNumber → r.2.stickyMap other = s.stickyMap other) ∧
    ∀ serial,
      let s := run config ops
      let r := s.detachDeviceBySerial serial
      r.2.stickyMap = s.stickyMap ∧
      (∀ i entry, s.slots i = some entry → entry.serial = serial →
        (∀ j < i, ∀ other, s.slots j = some other → other.serial ≠ serial) →
        r.2.slots = Function.update s.slots i none) ∧
      ((∀ i entry, s.slots i = some entry → entry.serial ≠ serial) → r = (none, s)) := by
  constructor
  · intro device vid pid modelName s r
    refine ⟨?_, ?_, ?_, ?_⟩
    · intro hfree
      refine ⟨s.targetSlot device.serialNumber, rfl, ?_⟩
      rw [← stickyMap_run]
      exact targetSlot_isNextSlot hfree device.serialNumber
    · have hentry := attach_entry s device vid pid modelName
      rw [config_run] at hentry
      exact ⟨s.targetSlot device.serialNumber, hentry⟩
    · intro j hj
      refine slots_attach_of_ne s device vid pid modelName fun htarget => hj ?_
      rw [htarget]
      rfl
    · intro other hother
      exact Function.update_of_ne hother _ _
  · intro serial s r
    refine ⟨(s.detach_frame serial).1, ?_, ?_⟩
    · intro i entry hi hserial hleast
      show (s.detachDeviceBySerial serial).2.slots = _
      rw [detach_of_found (findSerial_of_least hi hserial hleast)]
    · intro habsent
      show s.detachDeviceBySerial serial = _
      rw [detachDeviceBySerial, findSerial_of_absent habsent]

/-- **What an attachment overwrites**: while a slot is free every occupied slot keeps
its entry, and with a full table the new entry is that of slot 0 and the other seven
stay. -/
theorem attach_keeps_others (config : DockConfig) (ops : List DockOp)
    (device : StreamDeckUsbHandle) (vid pid : UInt16) (modelName : String) :
    let s := run config ops
    let s' := (s.attachDevice device vid pid modelName).2
    ((∃ i, s.slots i = none) →
      ∀ i entry, s.slots i = some entry → s'.slots i = some entry) ∧
    ((∀ i, s.slots i ≠ none) →
      s'.slots ⟨0, maxChildSlots_pos⟩ =
        some (newEntry config ⟨0, maxChildSlots_pos⟩ device vid pid modelName) ∧
      ∀ i, i ≠ ⟨0, maxChildSlots_pos⟩ → s'.slots i = s.slots i) := by
  intro s s'
  constructor
  · intro hfree i entry hi
    have htaken : s.slots i ≠ none := by
      rw [hi]
      exact Option.some_ne_none entry
    rw [← hi]
    exact slots_attach_of_ne s device vid pid modelName (targetSlot_ne_of_taken hfree htaken).symm
  · intro hfull
    have htarget : s.targetSlot device.serialNumber = ⟨0, maxChildSlots_pos⟩ := by
      obtain hfree | ⟨-, hzero⟩ := s.targetSlot_spec device.serialNumber
      · exact absurd hfree (hfull _)
      · exact hzero
    constructor
    · show Function.update s.slots (s.targetSlot device.serialNumber) _ _ = _
      rw [htarget, Function.update_self, config_run]
    · intro i hi
      refine slots_attach_of_ne s device vid pid modelName ?_
      rwa [htarget]

/-- Eight decks are plugged in. -/
def eightDecks : List DockOp := ["A", "B", "C", "D", "E", "F", "G", "H"].map plugIn

/-- A ninth deck takes the slot of the first. -/
theorem first_deck_evicted :
    let s := run .default eightDecks
    let s' := s.apply (plugIn "I")
    findSerial s.slots "I" = none ∧
      (s.slots ⟨0, maxChildSlots_pos⟩).map (·.serial) = some "A" ∧
      (s'.slots ⟨0, maxChildSlots_pos⟩).map (·.serial) = some "I" ∧
      findSerial s'.slots "A" = none := by
  decide +kernel

/-! ### Ports -/

namespace DockState

/-- `n` decks that are plugged in occupy `n` slots, as far as there are so many. -/
theorem card_occupied_plugIn (config : DockConfig) (serials : List String) :
    (run config (serials.map plugIn)).occupied.card = min serials.length maxChildSlots := by
  induction serials using List.reverseRecOn with
  | nil =>
    have hnone : (run config (([] : List String).map plugIn)).occupied = ∅ :=
      Finset.filter_false_of_mem fun i _ => Bool.false_ne_true
    rw [hnone]
    rfl
  | append_singleton serials serial ih =>
    rw [List.map_append, List.map_singleton, run_concat, plugIn, apply, card_occupied_attach, ih,
      List.length_append, List.length_singleton]
    omega

theorem eightDecks_full (config : DockConfig) (i : Slot) :
    ∃ entry, (run config eightDecks).slots i = some entry := by
  have hcard : (run config eightDecks).occupied.card = Fintype.card Slot :=
    (card_occupied_plugIn config _).trans (Fintype.card_fin _).symm
  have hi : i ∈ (run config eightDecks).occupied := by
    rw [Finset.eq_univ_of_card _ hcard]
    exact Finset.mem_univ i
  exact Option.ne_none_iff_exists'.mp (mem_occupied.mp hi)

/-- The port of an occupied slot. -/
theorem port_run {config : DockConfig} {ops : List DockOp} {i : Slot} {entry : SlotEntry}
    (h : (run config ops).slots i = some entry) :
    entry.port.toNat = min (config.secondaryPort.toNat + i.val) 65535 := by
  have hi : i.val < 8 := i.isLt
  rw [((run_consistent config ops).placed i entry h).port, config_run, toNat_saturatingAdd,
    UInt16.toNat_ofNat_of_lt' (hi.trans (by decide))]

/-- All occupied slots have ports of their own. -/
def PortsDistinct (s : DockState) : Prop :=
  ∀ i j entry other, s.slots i = some entry → s.slots j = some other → i ≠ j →
    entry.port ≠ other.port

end DockState

/-- **Ports of the bridges**: in every reachable state the ports of two occupied slots
differ exactly if the base leaves room for eight ports. -/
theorem ports_distinct_iff (config : DockConfig) :
    (∀ ops, (run config ops).PortsDistinct) ↔ config.secondaryPort.toNat ≤ 65528 := by
  constructor
  · intro h
    by_contra hbase
    -- slots 6 and 7 both saturate
    obtain ⟨entry, hentry⟩ := eightDecks_full config ⟨6, by decide⟩
    obtain ⟨other, hother⟩ := eightDecks_full config ⟨7, by decide⟩
    refine h eightDecks _ _ entry other hentry hother (by decide) ?_
    rw [← UInt16.toNat_inj, port_run hentry, port_run hother]
    dsimp only
    omega
  · intro hbase ops i j entry other hi hj hij hport
    have hval : i.val ≠ j.val := fun hval => hij (Fin.ext hval)
    have hi8 : i.val < 8 := i.isLt
    have hj8 : j.val < 8 := j.isLt
    rw [← UInt16.toNat_inj, port_run hi, port_run hj] at hport
    omega

/-- From 65529 on, the seventh and the eighth deck get the same port. -/
theorem ports_collide :
    let s := run { DockConfig.default with secondaryPort := 65529 } eightDecks
    (s.slots ⟨6, by decide⟩).map (·.port) = some 65535 ∧
      (s.slots ⟨7, by decide⟩).map (·.port) = some 65535 := by
  decide +kernel

end OpenNetDeck
