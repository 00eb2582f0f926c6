import OpenNetDeck.Server.Usb.Watcher

/-!
# The slot table and the bus

Passes of the watcher's loop in which every device opens and no bridge signals.
A pass attaches the new devices before it drops the ones that are gone, so a
full table overwrites slot 0 for a device whose slot is about to become free.

## Main definitions

- `UsbWatcher.tick` — a pass of the loop over one listing
- `UsbWatcher.Exact` — the slots hold the serials of a listing, each once
- `UsbWatcher.Fits` — the new devices find a slot, except perhaps for one that
  takes slot 0 from a device that is gone

## Main results

- `UsbWatcher.tick_exact` — a pass from an exact table is exact if and only if
  the listing fits
- `watcher_follows_bus` — so a run is, after every pass, if and only if every
  listing fits
-/

namespace OpenNetDeck

open Transition

/-- The Stream Decks of a listing. -/
def streamDecks (devices : List Detected) : List Detected :=
  devices.filter fun dev => isStreamdeckVendor dev.info.vendorId

def serials (devices : List Detected) : List String :=
  (streamDecks devices).map (·.info.serial)

/-- A listing of at most eight Stream Decks with distinct serials, all of which
open. -/
structure GoodListing (devices : List Detected) : Prop where
  length_le : (streamDecks devices).length ≤ maxChildSlots
  nodup : (serials devices).Nodup
  opens : ∀ dev ∈ streamDecks devices, dev.opens = true

/-- A pass of the loop: the listing, and the order in which the hash map lists
the bridges to drop. -/
structure Tick where
  devices : List Detected
  removedSerials : List String

/-- The steps of a pass without signals. -/
def Tick.actions (t : Tick) : List WatcherLoop.Action :=
  .listing t.devices :: (List.replicate t.devices.length .device ++
    (.collect t.removedSerials :: (List.replicate t.removedSerials.length .remove ++ [.sleep])))

namespace UsbWatcher

/-- The watcher after a pass of the loop. -/
def tick (w : UsbWatcher) (t : Tick) : Option UsbWatcher :=
  (run WatcherLoop.step ⟨w, .draining⟩ t.actions).map (·.watcher)

/-- The slot holds the serial. -/
def Holds (w : UsbWatcher) (i : Slot) (serial : String) : Prop :=
  ∃ entry, w.state.slots i = some entry ∧ entry.serial = serial

/-- The serials in the slots are those of the listing, each in one slot. -/
structure Exact (w : UsbWatcher) (devices : List Detected) : Prop where
  one : ∀ serial ∈ serials devices, ∃! i, w.Holds i serial
  only : ∀ i serial, w.Holds i serial → serial ∈ serials devices

/-- The number of Stream Decks in the listing that have no bridge. -/
def arriving (w : UsbWatcher) (devices : List Detected) : ℕ :=
  ((streamDecks devices).filter fun dev => dev.info.serial ∉ w.activeBridges).length

/-- `n` more devices find a slot, or all but one do and slot 0 holds a serial
that is not listed. -/
def Room (w : UsbWatcher) (n : ℕ) (listed : List String) : Prop :=
  w.state.occupied.card + n ≤ maxChildSlots ∨
    w.state.occupied.card + n = maxChildSlots + 1 ∧
      ∃ serial, w.Holds ⟨0, maxChildSlots_pos⟩ serial ∧ serial ∉ listed

/-- There is room for the new devices of a listing. -/
def Fits (w : UsbWatcher) (devices : List Detected) : Prop :=
  w.Room (w.arriving devices) (serials devices)

/-! ### A pass as two loops -/

theorem run_devices (w : UsbWatcher) (devices : List Detected) (seenSerials : List String) :
    ∃ seenSerials', (∀ serial, serial ∈ seenSerials' ↔
        serial ∈ serials devices ∨ serial ∈ seenSerials) ∧
      run WatcherLoop.step ⟨w, .scanning devices seenSerials⟩
          (List.replicate devices.length .device) =
        some ⟨devices.foldl scanDevice w, .scanning [] seenSerials'⟩ := by
  induction devices generalizing w seenSerials with
  | nil => exact ⟨seenSerials, by simp [serials, streamDecks], rfl⟩
  | cons dev devices ih =>
    obtain ⟨seenSerials', hseen, hrun⟩ := ih (w.scanDevice dev)
      (if isStreamdeckVendor dev.info.vendorId then dev.info.serial :: seenSerials
        else seenSerials)
    refine ⟨seenSerials', ?_, ?_⟩
    · intro serial
      rw [hseen]
      cases hvendor : isStreamdeckVendor dev.info.vendorId with
      | true => simp [serials, streamDecks, hvendor, or_left_comm, or_assoc]
      | false => simp [serials, streamDecks, hvendor]
    · rw [List.length_cons, List.replicate_succ, run_cons]
      exact hrun

theorem run_remove (w : UsbWatcher) (removedSerials : List String) :
    run WatcherLoop.step ⟨w, .removing removedSerials⟩
        (List.replicate removedSerials.length .remove) =
      some ⟨removedSerials.foldl dropBridge w, .removing []⟩ := by
  induction removedSerials generalizing w with
  | nil => rfl
  | cons serial removedSerials ih =>
    rw [List.length_cons, List.replicate_succ, run_cons]
    exact ih (w.dropBridge serial)

/-- A pass scans the listing and then drops the bridges of all other serials. -/
theorem tick_eq_some {w w' : UsbWatcher} {t : Tick} (h : w.tick t = some w') :
    w' = t.removedSerials.foldl dropBridge (t.devices.foldl scanDevice w) ∧
      ∀ serial, serial ∈ t.removedSerials ↔
        serial ∈ (t.devices.foldl scanDevice w).activeBridges ∧ serial ∉ serials t.devices := by
  obtain ⟨seenSerials, hseen, hdevices⟩ := run_devices w t.devices []
  obtain ⟨s, hrun, rfl⟩ := Option.map_eq_some_iff.mp h
  have hlisting : WatcherLoop.step ⟨w, .draining⟩ (.listing t.devices) =
      some ⟨w, .scanning t.devices []⟩ := rfl
  rw [Tick.actions, run_cons, hlisting, Option.bind_some, run_append, hdevices, Option.bind_some,
    run_cons, WatcherLoop.step] at hrun
  split at hrun
  · next hperm =>
    rw [Option.bind_some, run_append, run_remove, Option.bind_some] at hrun
    cases hrun
    refine ⟨rfl, ?_⟩
    intro serial
    rw [(List.isPerm_iff.mp hperm).mem_iff, WatcherLoop.unseen, List.mem_filter, AList.mem_keys,
      decide_eq_true_eq, hseen]
    simp
  · cases hrun

/-- There is a pass over every listing. -/
theorem exists_tick (w : UsbWatcher) (devices : List Detected) :
    ∃ removedSerials w', w.tick ⟨devices, removedSerials⟩ = some w' := by
  obtain ⟨seenSerials, -, hdevices⟩ := run_devices w devices []
  let scanned := devices.foldl scanDevice w
  let removedSerials := WatcherLoop.unseen scanned seenSerials
  have hcollect : WatcherLoop.step ⟨scanned, .scanning [] seenSerials⟩ (.collect removedSerials) =
      some ⟨scanned, .removing removedSerials⟩ :=
    if_pos (List.isPerm_iff.mpr (List.Perm.refl _))
  refine ⟨removedSerials, removedSerials.foldl dropBridge scanned, ?_⟩
  have hlisting : WatcherLoop.step ⟨w, .draining⟩ (.listing devices) =
      some ⟨w, .scanning devices []⟩ := rfl
  rw [tick, Tick.actions, run_cons, hlisting, Option.bind_some, run_append, hdevices,
    Option.bind_some, run_cons, hcollect, Option.bind_some, run_append, run_remove]
  rfl

/-! ### Slots and bridges -/

variable {config : DockConfig} {w : UsbWatcher}

/-- The serial of a slot has a bridge. -/
theorem Consistent.mem_of_holds (h : w.Consistent config) {i : Slot} {serial : String}
    (hholds : w.Holds i serial) : serial ∈ w.activeBridges := by
  obtain ⟨entry, hentry, rfl⟩ := hholds
  obtain ⟨bridge, hbridge, -⟩ := h.bridge i entry hentry
  rw [← AList.lookup_isSome, hbridge]
  rfl

theorem Consistent.holds_unique (h : w.Consistent config) {i j : Slot} {serial : String}
    (hi : w.Holds i serial) (hj : w.Holds j serial) : j = i := by
  obtain ⟨entry, hentry, rfl⟩ := hi
  obtain ⟨other, hother, hserial⟩ := hj
  exact h.unique hentry hother hserial

theorem holds_attach (w : UsbWatcher) (claimedDev : StreamDeckUsbHandle) (i : Slot)
    (serial : String) :
    (w.attach claimedDev).Holds i serial ↔
      (i = w.state.targetSlot claimedDev.serialNumber ∧ serial = claimedDev.serialNumber) ∨
        (i ≠ w.state.targetSlot claimedDev.serialNumber ∧ w.Holds i serial) := by
  obtain ⟨vid, pid, modelName, hstate, -⟩ := w.attach_eq claimedDev
  rw [Holds, hstate]
  by_cases hi : i = w.state.targetSlot claimedDev.serialNumber
  · subst hi
    simp only [DockState.attachDevice, Function.update_self, Option.some.injEq, true_and, ne_eq,
      not_true_eq_false, false_and, or_false, exists_eq_left']
    exact eq_comm
  · simp only [DockState.attachDevice, Function.update_of_ne hi, hi, false_and, false_or, ne_eq,
      not_false_eq_true, true_and]
    rfl

theorem mem_attach (w : UsbWatcher) (claimedDev : StreamDeckUsbHandle) (serial : String) :
    serial ∈ (w.attach claimedDev).activeBridges ↔
      serial = claimedDev.serialNumber ∨ serial ∈ w.activeBridges := by
  obtain ⟨vid, pid, modelName, -, hbridges⟩ := w.attach_eq claimedDev
  rw [hbridges, AList.mem_insert]

theorem card_occupied_attach (w : UsbWatcher) (claimedDev : StreamDeckUsbHandle) :
    (w.attach claimedDev).state.occupied.card = min (w.state.occupied.card + 1) maxChildSlots := by
  obtain ⟨vid, pid, modelName, hstate, -⟩ := w.attach_eq claimedDev
  rw [hstate, DockState.card_occupied_attach]

/-- A device that finds a free slot makes one more. -/
theorem card_occupied_attach_of_free {claimedDev : StreamDeckUsbHandle}
    (hfree : w.state.slots (w.state.targetSlot claimedDev.serialNumber) = none) :
    (w.attach claimedDev).state.occupied.card = w.state.occupied.card + 1 := by
  rw [card_occupied_attach, Nat.min_eq_left (w.state.card_occupied_lt hfree)]

/-- A free slot holds no serial. -/
theorem not_holds_of_free {i : Slot} (hfree : w.state.slots i = none) (serial : String) :
    ¬ w.Holds i serial := by
  rintro ⟨entry, hentry, -⟩
  rw [hfree] at hentry
  cases hentry

theorem exists_holds {i : Slot} (hi : w.state.slots i ≠ none) : ∃ serial, w.Holds i serial := by
  obtain ⟨entry, hentry⟩ := Option.ne_none_iff_exists'.mp hi
  exact ⟨entry.serial, entry, hentry, rfl⟩

theorem scanDevice_of_other {dev : Detected}
    (hvendor : isStreamdeckVendor dev.info.vendorId = false) : w.scanDevice dev = w := by
  rw [UsbWatcher.scanDevice, hvendor]
  rfl

theorem scanDevice_of_bridge {dev : Detected} (h : dev.info.serial ∈ w.activeBridges) :
    w.scanDevice dev = w := by
  obtain ⟨bridge, hbridge⟩ := Option.isSome_iff_exists.mp (AList.lookup_isSome.mpr h)
  rw [UsbWatcher.scanDevice, hbridge]
  exact ite_self _

theorem scanDevice_of_new {dev : Detected} (hvendor : isStreamdeckVendor dev.info.vendorId = true)
    (hopens : dev.opens = true) (h : dev.info.serial ∉ w.activeBridges) :
    w.scanDevice dev = w.attach (.openFromInfo dev.info) := by
  rw [UsbWatcher.scanDevice, if_pos hvendor, AList.lookup_eq_none.mpr h]
  exact if_pos hopens

/-! ### The devices of a listing, one by one -/

theorem streamDecks_cons_of_other {dev : Detected} {devices : List Detected}
    (hvendor : isStreamdeckVendor dev.info.vendorId = false) :
    streamDecks (dev :: devices) = streamDecks devices := by
  rw [streamDecks, List.filter_cons_of_neg (by simp [hvendor])]
  rfl

theorem streamDecks_cons_of_vendor {dev : Detected} {devices : List Detected}
    (hvendor : isStreamdeckVendor dev.info.vendorId = true) :
    streamDecks (dev :: devices) = dev :: streamDecks devices := by
  exact List.filter_cons_of_pos hvendor

theorem serials_cons_of_vendor {dev : Detected} {devices : List Detected}
    (hvendor : isStreamdeckVendor dev.info.vendorId = true) :
    serials (dev :: devices) = dev.info.serial :: serials devices := by
  rw [serials, streamDecks_cons_of_vendor hvendor]
  rfl

theorem arriving_cons_of_bridge {dev : Detected} {devices : List Detected}
    (h : dev.info.serial ∈ w.activeBridges) :
    w.arriving (dev :: devices) = w.arriving devices := by
  cases hvendor : isStreamdeckVendor dev.info.vendorId with
  | false => rw [arriving, streamDecks_cons_of_other hvendor, arriving]
  | true =>
    rw [arriving, streamDecks_cons_of_vendor hvendor, List.filter_cons_of_neg (by simp [h]),
      arriving]

/-- A device that gets a bridge is one that arrives less. -/
theorem arriving_cons_of_new {dev : Detected} {devices : List Detected}
    (hvendor : isStreamdeckVendor dev.info.vendorId = true)
    (h : dev.info.serial ∉ w.activeBridges) (hfresh : dev.info.serial ∉ serials devices) :
    w.arriving (dev :: devices) =
      (w.attach (.openFromInfo dev.info)).arriving devices + 1 := by
  rw [arriving, streamDecks_cons_of_vendor hvendor, List.filter_cons_of_pos (by simp [h]),
    List.length_cons, arriving]
  congr 2
  apply List.filter_congr
  intro other hother
  have hne : other.info.serial ≠ dev.info.serial := by
    intro heq
    apply hfresh
    rw [← heq]
    exact List.mem_map_of_mem hother
  simp [mem_attach, StreamDeckUsbHandle.openFromInfo, hne]

theorem Consistent.foldl_scanDevice (h : w.Consistent config) (devices : List Detected) :
    (devices.foldl UsbWatcher.scanDevice w).Consistent config := by
  induction devices generalizing w with
  | nil => exact h
  | cons dev devices ih => exact ih (h.scanDevice dev)

/-- After the scan the serials with a bridge are the old ones and those listed. -/
theorem mem_foldl_scanDevice (w : UsbWatcher) {devices : List Detected}
    (hopens : ∀ dev ∈ streamDecks devices, dev.opens = true) (serial : String) :
    serial ∈ (devices.foldl scanDevice w).activeBridges ↔
      serial ∈ w.activeBridges ∨ serial ∈ serials devices := by
  induction devices generalizing w with
  | nil => simp [serials, streamDecks]
  | cons dev devices ih =>
    rw [List.foldl_cons]
    cases hvendor : isStreamdeckVendor dev.info.vendorId with
    | false =>
      rw [streamDecks_cons_of_other hvendor] at hopens
      rw [ih _ hopens, scanDevice_of_other hvendor, serials, serials,
        streamDecks_cons_of_other hvendor]
    | true =>
      rw [streamDecks_cons_of_vendor hvendor] at hopens
      rw [ih _ fun other hother => hopens other (List.mem_cons_of_mem dev hother),
        serials_cons_of_vendor hvendor, List.mem_cons]
      by_cases hbridge : dev.info.serial ∈ w.activeBridges
      · rw [scanDevice_of_bridge hbridge]
        constructor
        · tauto
        · rintro (hold | rfl | hlisted)
          · exact .inl hold
          · exact .inl hbridge
          · exact .inr hlisted
      · rw [scanDevice_of_new hvendor (hopens dev List.mem_cons_self) hbridge, mem_attach,
          or_comm (a := serial = _), or_assoc]
        rfl

/-! ### Devices that lose their slot -/

/-- Every listed serial with a bridge is in a slot. -/
def Shown (w : UsbWatcher) (listed : List String) : Prop :=
  ∀ serial ∈ listed, serial ∈ w.activeBridges → ∃ i, w.Holds i serial

variable {listed : List String} {claimedDev : StreamDeckUsbHandle}

/-- A serial that has a bridge and no slot does not get one by an attach. -/
theorem shown_of_attach (hnew : claimedDev.serialNumber ∉ w.activeBridges)
    (h : (w.attach claimedDev).Shown listed) : w.Shown listed := by
  intro serial hlisted hbridge
  obtain ⟨i, hi⟩ := h serial hlisted ((w.mem_attach claimedDev serial).mpr (.inr hbridge))
  obtain ⟨-, rfl⟩ | ⟨-, hold⟩ := (w.holds_attach claimedDev i serial).mp hi
  · exact absurd hbridge hnew
  · exact ⟨i, hold⟩

theorem shown_of_foldl_scanDevice {devices : List Detected}
    (h : (devices.foldl scanDevice w).Shown listed) : w.Shown listed := by
  induction devices generalizing w with
  | nil => exact h
  | cons dev devices ih =>
    have hdev : (w.scanDevice dev).Shown listed := ih h
    obtain hsame | ⟨hnone, hattach⟩ := w.scanDevice_cases dev
    · rwa [hsame] at hdev
    · rw [hattach] at hdev
      exact shown_of_attach (AList.lookup_eq_none.mp hnone) hdev

/-- An attach loses no serial unless the device takes the slot of one. -/
theorem shown_attach (h : w.Shown listed)
    (htarget : ∀ serial ∈ listed, ¬ w.Holds (w.state.targetSlot claimedDev.serialNumber) serial) :
    (w.attach claimedDev).Shown listed := by
  intro serial hlisted hbridge
  rcases (w.mem_attach claimedDev serial).mp hbridge with rfl | hold
  · exact ⟨_, (w.holds_attach claimedDev _ _).mpr (.inl ⟨rfl, rfl⟩)⟩
  · obtain ⟨i, hi⟩ := h serial hlisted hold
    refine ⟨i, (w.holds_attach claimedDev i serial).mpr (.inr ⟨?_, hi⟩)⟩
    rintro rfl
    exact htarget serial hlisted hi

/-- A listed serial whose slot is taken is lost. -/
theorem Consistent.not_shown_attach (h : w.Consistent config)
    (hnew : claimedDev.serialNumber ∉ w.activeBridges) {serial : String} (hlisted : serial ∈ listed)
    (hholds : w.Holds (w.state.targetSlot claimedDev.serialNumber) serial) :
    ¬ (w.attach claimedDev).Shown listed := by
  have hbridge : serial ∈ w.activeBridges := h.mem_of_holds hholds
  intro hshown
  obtain ⟨i, hi⟩ := hshown serial hlisted ((w.mem_attach claimedDev serial).mpr (.inr hbridge))
  obtain ⟨-, rfl⟩ | ⟨hne, hold⟩ := (w.holds_attach claimedDev i serial).mp hi
  · exact hnew hbridge
  · exact hne (h.holds_unique hholds hold)

/-! ### Room for the devices that arrive -/

theorem room_attach_of_free
    (hfree : w.state.slots (w.state.targetSlot claimedDev.serialNumber) = none)
    (hlisted : claimedDev.serialNumber ∈ listed) (n : ℕ) :
    (w.attach claimedDev).Room n listed ↔ w.Room (n + 1) listed := by
  have hcard := card_occupied_attach_of_free hfree
  -- the device may have taken slot 0 itself, but it is listed
  have hzero : (∃ serial, (w.attach claimedDev).Holds ⟨0, by decide⟩ serial ∧ serial ∉ listed) ↔
      ∃ serial, w.Holds ⟨0, by decide⟩ serial ∧ serial ∉ listed := by
    refine exists_congr fun serial => and_congr_left fun hserial => ?_
    rw [holds_attach]
    constructor
    · rintro (⟨-, rfl⟩ | ⟨-, hold⟩)
      · exact absurd hlisted hserial
      · exact hold
    · intro hold
      refine .inr ⟨?_, hold⟩
      intro heq
      rw [heq] at hold
      exact not_holds_of_free hfree serial hold
  rw [Room, Room, hcard, hzero, add_right_comm, add_assoc]

theorem room_attach_of_full (hfull : ∀ i, w.state.slots i ≠ none)
    (htarget : w.state.targetSlot claimedDev.serialNumber = ⟨0, by decide⟩)
    (hlisted : claimedDev.serialNumber ∈ listed) (n : ℕ) :
    (w.attach claimedDev).Room n listed ↔ n = 0 := by
  have hcard : (w.attach claimedDev).state.occupied.card = maxChildSlots := by
    rw [card_occupied_attach, DockState.card_occupied_of_full hfull]
    exact Nat.min_eq_right (Nat.le_succ _)
  rw [Room, hcard]
  constructor
  · rintro (hle | ⟨-, serial, hholds, hserial⟩)
    · omega
    · obtain ⟨-, rfl⟩ | ⟨hne, -⟩ := (w.holds_attach claimedDev _ serial).mp hholds
      · exact absurd hlisted hserial
      · exact absurd htarget.symm hne
  · rintro rfl
    exact .inl le_rfl

theorem room_succ_of_full (hfull : ∀ i, w.state.slots i ≠ none) (n : ℕ) :
    w.Room (n + 1) listed ↔
      n = 0 ∧ ∃ serial, w.Holds ⟨0, by decide⟩ serial ∧ serial ∉ listed := by
  rw [Room, DockState.card_occupied_of_full hfull]
  constructor
  · rintro (hle | ⟨heq, hzero⟩)
    · omega
    · exact ⟨by omega, hzero⟩
  · rintro ⟨rfl, hzero⟩
    exact .inr ⟨rfl, hzero⟩

/-- There was room for a device if the attach loses no serial and leaves room for
the others. -/
theorem Consistent.room_attach (h : w.Consistent config) (hshown : w.Shown listed)
    (hnew : claimedDev.serialNumber ∉ w.activeBridges)
    (hlisted : claimedDev.serialNumber ∈ listed) (n : ℕ) :
    (w.attach claimedDev).Shown listed ∧ (w.attach claimedDev).Room n listed ↔
      w.Room (n + 1) listed := by
  obtain hfree | ⟨hfull, htarget⟩ := w.state.targetSlot_spec claimedDev.serialNumber
  · have hkept : (w.attach claimedDev).Shown listed :=
      shown_attach hshown fun serial _ => not_holds_of_free hfree serial
    rw [room_attach_of_free hfree hlisted]
    exact and_iff_right hkept
  · -- slot 0 is overwritten: all depends on whether its device is listed
    rw [room_attach_of_full hfull htarget hlisted, room_succ_of_full hfull, and_comm]
    refine and_congr_right fun _ => ?_
    obtain ⟨serial, hholds⟩ := exists_holds (hfull ⟨0, by decide⟩)
    constructor
    · intro hkept
      refine ⟨serial, hholds, ?_⟩
      intro hserial
      rw [← htarget] at hholds
      exact h.not_shown_attach hnew hserial hholds hkept
    · rintro ⟨serial, ⟨entry, hentry, rfl⟩, hserial⟩
      apply shown_attach hshown
      rintro _ hother ⟨other, hslot, rfl⟩
      rw [htarget, hentry, Option.some.injEq] at hslot
      subst hslot
      exact hserial hother

/-- Scanning a listing loses none of its serials if and only if there is room for
the devices that arrive. -/
theorem Consistent.shown_foldl_scanDevice_iff (h : w.Consistent config) (hshown : w.Shown listed)
    {devices : List Detected} (hnodup : (serials devices).Nodup)
    (hopens : ∀ dev ∈ streamDecks devices, dev.opens = true)
    (hlisted : ∀ serial ∈ serials devices, serial ∈ listed) :
    (devices.foldl UsbWatcher.scanDevice w).Shown listed ↔ w.Room (w.arriving devices) listed := by
  induction devices generalizing w with
  | nil =>
    have hroom : w.Room (w.arriving []) listed := .inl w.state.card_occupied_le
    exact iff_of_true hshown hroom
  | cons dev devices ih =>
    rw [List.foldl_cons]
    cases hvendor : isStreamdeckVendor dev.info.vendorId with
    | false =>
      rw [serials, streamDecks_cons_of_other hvendor] at hnodup hlisted
      rw [streamDecks_cons_of_other hvendor] at hopens
      rw [scanDevice_of_other hvendor, arriving, streamDecks_cons_of_other hvendor]
      exact ih h hshown hnodup hopens hlisted
    | true =>
      rw [serials_cons_of_vendor hvendor] at hnodup hlisted
      rw [streamDecks_cons_of_vendor hvendor] at hopens
      obtain ⟨hfresh, hnodup⟩ := List.nodup_cons.mp hnodup
      have hdev : (StreamDeckUsbHandle.openFromInfo dev.info).serialNumber ∈ listed :=
        hlisted _ List.mem_cons_self
      have ih {w : UsbWatcher} (h : w.Consistent config) (hshown : w.Shown listed) :=
        ih h hshown hnodup (fun other hother => hopens other (List.mem_cons_of_mem dev hother))
          fun serial hserial => hlisted serial (List.mem_cons_of_mem _ hserial)
      by_cases hbridge : dev.info.serial ∈ w.activeBridges
      · rw [scanDevice_of_bridge hbridge, arriving_cons_of_bridge hbridge]
        exact ih h hshown
      · rw [scanDevice_of_new hvendor (hopens dev List.mem_cons_self) hbridge,
          arriving_cons_of_new hvendor hbridge hfresh, ← h.room_attach hshown hbridge hdev]
        -- a serial that is lost here stays lost, whatever the other devices do
        by_cases hkept : (w.attach (.openFromInfo dev.info)).Shown listed
        · rw [ih (h.attach (AList.lookup_eq_none.mpr hbridge)) hkept]
          exact (and_iff_right hkept).symm
        · exact iff_of_false (fun hall => hkept (shown_of_foldl_scanDevice hall))
            fun hroom => hkept hroom.1

/-! ### Passes of the loop -/

theorem mem_dropBridge (w : UsbWatcher) (serial other : String) :
    other ∈ (w.dropBridge serial).activeBridges ↔
      other ∈ w.activeBridges ∧ other ≠ serial := by
  cases hbridge : w.activeBridges.lookup serial with
  | none =>
    rw [dropBridge_of_none hbridge, iff_self_and]
    rintro hother rfl
    exact AList.lookup_eq_none.mp hbridge hother
  | some bridge =>
    rw [dropBridge_of_bridge hbridge, AList.mem_erase, and_comm]

theorem Consistent.holds_dropBridge (h : w.Consistent config) (serial other : String) (i : Slot) :
    (w.dropBridge serial).Holds i other ↔ w.Holds i other ∧ other ≠ serial := by
  constructor
  · rintro ⟨entry, hentry, rfl⟩
    obtain ⟨hold, hne⟩ := (h.slots_dropBridge serial).mp hentry
    exact ⟨⟨entry, hold, rfl⟩, hne⟩
  · rintro ⟨⟨entry, hentry, rfl⟩, hne⟩
    exact ⟨entry, (h.slots_dropBridge serial).mpr ⟨hentry, hne⟩, rfl⟩

/-- Dropping bridges takes their serials out of the table and of the bridges, and
no others. -/
theorem Consistent.foldl_dropBridge (h : w.Consistent config) (removedSerials : List String) :
    (removedSerials.foldl UsbWatcher.dropBridge w).Consistent config ∧
      (∀ serial, serial ∈ (removedSerials.foldl UsbWatcher.dropBridge w).activeBridges ↔
        serial ∈ w.activeBridges ∧ serial ∉ removedSerials) ∧
      ∀ i serial, (removedSerials.foldl UsbWatcher.dropBridge w).Holds i serial ↔
        w.Holds i serial ∧ serial ∉ removedSerials := by
  induction removedSerials generalizing w with
  | nil => simp [h]
  | cons gone removedSerials ih =>
    obtain ⟨hconsistent, hmem, hholds⟩ := ih (h.dropBridge gone)
    refine ⟨hconsistent, ?_, ?_⟩
    · intro serial
      rw [List.foldl_cons, hmem, mem_dropBridge, List.mem_cons, not_or, and_assoc]
    · intro i serial
      rw [List.foldl_cons, hholds, h.holds_dropBridge, List.mem_cons, not_or, and_assoc]

/-- Every bridge has a slot. -/
structure Tidy (config : DockConfig) (w : UsbWatcher) : Prop where
  consistent : w.Consistent config
  shown : ∀ serial ∈ w.activeBridges, ∃ i, w.Holds i serial

theorem tidy_new (config : DockConfig) (overridePid : Option UInt16) :
    Tidy config (new (.new config) overridePid) where
  consistent := consistent_new config overridePid
  shown := nofun

/-- After a pass the bridges are those of the listing, and the slots hold what the
scan left in them of the listing. -/
theorem Consistent.tick (h : w.Consistent config) {w' : UsbWatcher} {t : Tick}
    (hopens : ∀ dev ∈ streamDecks t.devices, dev.opens = true) (ht : w.tick t = some w') :
    w'.Consistent config ∧ (∀ serial, serial ∈ w'.activeBridges ↔ serial ∈ serials t.devices) ∧
      ∀ i serial, w'.Holds i serial ↔
        (t.devices.foldl UsbWatcher.scanDevice w).Holds i serial ∧ serial ∈ serials t.devices := by
  obtain ⟨rfl, hremoved⟩ := tick_eq_some ht
  have hscan := h.foldl_scanDevice t.devices
  obtain ⟨hconsistent, hmem, hholds⟩ := hscan.foldl_dropBridge t.removedSerials
  refine ⟨hconsistent, ?_, ?_⟩
  · intro serial
    have hscanned := w.mem_foldl_scanDevice hopens serial
    rw [hmem, hremoved]
    tauto
  · intro i serial
    rw [hholds, hremoved]
    refine and_congr_right fun hold => ?_
    have hbridge := hscan.mem_of_holds hold
    tauto

/-- **A pass from an exact table is exact if and only if the listing fits.** -/
theorem Tidy.tick_exact (h : Tidy config w) {w' : UsbWatcher} {t : Tick}
    (hgood : GoodListing t.devices) (ht : w.tick t = some w') :
    (w'.Exact t.devices ↔ w.Fits t.devices) ∧ (w'.Exact t.devices → Tidy config w') := by
  obtain ⟨hconsistent, hmem, hholds⟩ := h.consistent.tick hgood.opens ht
  have hscanned := w.mem_foldl_scanDevice hgood.opens
  constructor
  · -- all listed serials have a bridge by then, so to be shown is to be in a slot
    rw [Fits, ← h.consistent.shown_foldl_scanDevice_iff (fun serial _ => h.shown serial)
      hgood.nodup hgood.opens fun _ hserial => hserial]
    constructor
    · intro hexact serial hserial _
      obtain ⟨i, hi, -⟩ := hexact.one serial hserial
      exact ⟨i, ((hholds i serial).mp hi).1⟩
    · intro hshown
      constructor
      · intro serial hserial
        obtain ⟨i, hi⟩ := hshown serial hserial ((hscanned serial).mpr (.inr hserial))
        have hi' : w'.Holds i serial := (hholds i serial).mpr ⟨hi, hserial⟩
        exact ⟨i, hi', fun j hj => hconsistent.holds_unique hi' hj⟩
      · intro i serial hi
        exact ((hholds i serial).mp hi).2
  · intro hexact
    refine ⟨hconsistent, ?_⟩
    intro serial hbridge
    exact (hexact.one serial ((hmem serial).mp hbridge)).exists

end UsbWatcher

/-- **The slot table and the bus**: while every listing is good, the table is
exact after every pass if and only if every listing fits into the table before
its pass. -/
theorem watcher_follows_bus (config : DockConfig) (overridePid : Option UInt16)
    (ticks : List Tick) (w : UsbWatcher) (hgood : ∀ t ∈ ticks, GoodListing t.devices)
    (hrun : run UsbWatcher.tick (.new (.new config) overridePid) ticks = some w) :
    (∀ pre t w', pre ++ [t] <+: ticks →
        run UsbWatcher.tick (.new (.new config) overridePid) (pre ++ [t]) = some w' →
        w'.Exact t.devices) ↔
      ∀ pre t w', pre ++ [t] <+: ticks →
        run UsbWatcher.tick (.new (.new config) overridePid) pre = some w' →
        w'.Fits t.devices := by
  have hlisting {pre : List Tick} {t : Tick} (hpre : pre ++ [t] <+: ticks) :
      GoodListing t.devices :=
    hgood t (hpre.subset (List.mem_append_right pre List.mem_cons_self))
  have hinit {pre : List Tick} {t : Tick} (hpre : pre ++ [t] <+: ticks) : pre <+: ticks :=
    (List.prefix_append pre [t]).trans hpre
  constructor
  · intro hexact pre t w' hpre hw'
    have htidy : UsbWatcher.Tidy config w' := by
      refine run_invariant_of_guard (I := UsbWatcher.Tidy config)
        (G := fun w t => GoodListing t.devices ∧ ∀ w', w.tick t = some w' → w'.Exact t.devices)
        ?_ (UsbWatcher.tidy_new config overridePid) ?_ (hinit hpre) hw'
      · rintro w t w' htidy ⟨hgood, hexact⟩ ht
        exact (htidy.tick_exact hgood ht).2 (hexact w' ht)
      · intro pre t mid hpre hmid
        refine ⟨hlisting hpre, ?_⟩
        intro w' ht
        apply hexact pre t w' hpre
        rw [run_concat, hmid]
        exact ht
    -- the run goes on, and the pass after `w'` is exact
    obtain ⟨next, hnext⟩ := exists_run_of_prefix hpre hrun
    obtain ⟨mid, hmid, ht⟩ := run_concat_eq_some hnext
    rw [hw', Option.some.injEq] at hmid
    subst hmid
    exact (htidy.tick_exact (hlisting hpre) ht).1.mp (hexact pre t next hpre hnext)
  · intro hfits pre t w' hpre hw'
    obtain ⟨mid, hmid, ht⟩ := run_concat_eq_some hw'
    have htidy : UsbWatcher.Tidy config mid := by
      refine run_invariant_of_guard (I := UsbWatcher.Tidy config)
        (G := fun w t => GoodListing t.devices ∧ w.Fits t.devices)
        ?_ (UsbWatcher.tidy_new config overridePid) ?_ (hinit hpre) hmid
      · rintro w t w' htidy ⟨hgood, hfits⟩ ht
        obtain ⟨hiff, hnext⟩ := htidy.tick_exact hgood ht
        exact hnext (hiff.mpr hfits)
      · intro pre t mid hpre hmid
        exact ⟨hlisting hpre, hfits pre t mid hpre hmid⟩
    exact (htidy.tick_exact (hlisting hpre) ht).1.mpr (hfits pre t mid hpre hmid)

/-- A Stream Deck with a serial number. -/
def Detected.deck (serial : String) : Detected :=
  ⟨⟨0, vendorIdElgato, 0x0080, some serial⟩, true⟩

/-- One deck is swapped for another. -/
theorem watcher_follows_bus_swap :
    ∃ w, run UsbWatcher.tick (.new (.new DockConfig.default) none)
        [⟨[.deck "A"], []⟩, ⟨[.deck "B"], ["A"]⟩] = some w ∧
      ((∀ pre t w', pre ++ [t] <+: [⟨[.deck "A"], []⟩, ⟨[.deck "B"], ["A"]⟩] →
          run UsbWatcher.tick (.new (.new DockConfig.default) none) (pre ++ [t]) = some w' →
          w'.Exact t.devices) ↔
        ∀ pre t w', pre ++ [t] <+: [⟨[.deck "A"], []⟩, ⟨[.deck "B"], ["A"]⟩] →
          run UsbWatcher.tick (.new (.new DockConfig.default) none) pre = some w' →
          w'.Fits t.devices) := by
  have hgood : ∀ t ∈ [Tick.mk [.deck "A"] [], ⟨[.deck "B"], ["A"]⟩], GoodListing t.devices := by
    intro t ht
    rcases List.mem_pair.mp ht with rfl | rfl
    · exact ⟨by decide, List.nodup_singleton "A", by decide⟩
    · exact ⟨by decide, List.nodup_singleton "B", by decide⟩
  have hcheck : (run UsbWatcher.tick (.new (.new DockConfig.default) none)
      [⟨[.deck "A"], []⟩, ⟨[.deck "B"], ["A"]⟩]).isSome = true := by
    decide +kernel
  obtain ⟨w, hrun⟩ := Option.isSome_iff_exists.mp hcheck
  exact ⟨w, hrun, watcher_follows_bus DockConfig.default none _ w hgood hrun⟩

/-- The table is full, and a deck that is not in slot 0 is swapped for another:
the new one takes slot 0, and the deck that was there has none. -/
theorem watcher_loses_deck :
    ¬ ∀ (config : DockConfig) (overridePid : Option UInt16) (ticks : List Tick),
      (∀ t ∈ ticks, GoodListing t.devices) →
      ∀ pre t w, pre ++ [t] <+: ticks →
        run UsbWatcher.tick (.new (.new config) overridePid) (pre ++ [t]) = some w →
        w.Exact t.devices := by
  intro h
  let before : Tick :=
    ⟨["A1", "A2", "A3", "A4", "A5", "A6", "A7", "A8"].map .deck, []⟩
  let after : Tick :=
    ⟨["A1", "A2", "A3", "A4", "A5", "A6", "A7", "B"].map .deck, ["A8"]⟩
  have hgood : ∀ t ∈ [before, after], GoodListing t.devices := by
    intro t ht
    rcases List.mem_pair.mp ht with rfl | rfl
    · exact ⟨by decide, by decide +kernel, by decide +kernel⟩
    · exact ⟨by decide, by decide +kernel, by decide +kernel⟩
  have hcheck : ((run UsbWatcher.tick (.new (.new DockConfig.default) none)
      [before, after]).map fun w =>
        decide (∀ i, (w.state.slots i).map (·.serial) ≠ some "A1")) = some true := by
    decide +kernel
  obtain ⟨w, hrun, habsent⟩ := Option.map_eq_some_iff.mp hcheck
  have hexact := h DockConfig.default none [before, after] hgood [before] after w
    (List.prefix_refl _) hrun
  obtain ⟨i, ⟨entry, hentry, hserial⟩, -⟩ := hexact.one "A1" (by decide +kernel)
  apply of_decide_eq_true habsent i
  rw [hentry, ← hserial]
  rfl

end OpenNetDeck
