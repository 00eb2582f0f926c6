import OpenNetDeck.Server.Usb.Ticks

/-!
# Slots of devices that are gone

The watcher knows a device by its serial number alone, and gives all devices
without one the same. A deck that is listed therefore keeps the slot of another
one of its serial, whether that one is still there or not.

## Main definitions

- `SlotEntry.Present` — the device of an entry is in a listing
- `UsbWatcher.Unmasked` — no device that is gone shares its serial with a listed one
- `UsbWatcher.event` — a signal, a failed scan or a pass over a listing

## Main results

- `UsbWatcher.Consistent.tick_present_iff` — after a pass all slots hold devices of
  the listing exactly if none was masked before
- `removed_decks_leave_iff` — so it is in every run
-/

namespace OpenNetDeck

open Transition

/-- The handle of the entry belongs to a device of the listing. -/
def SlotEntry.Present (devices : List Detected) (entry : SlotEntry) : Prop :=
  ∃ handle, entry.usbDevice = some handle ∧ ∃ dev ∈ devices, handle.id = dev.info.id

theorem SlotEntry.Present.cons {devices : List Detected} {entry : SlotEntry}
    (h : entry.Present devices) (dev : Detected) : entry.Present (dev :: devices) := by
  obtain ⟨handle, hhandle, other, hother, hid⟩ := h
  exact ⟨handle, hhandle, other, List.mem_cons_of_mem dev hother, hid⟩

namespace UsbWatcher

/-- Every slot that is occupied holds a device of the listing. -/
def AllPresent (w : UsbWatcher) (devices : List Detected) : Prop :=
  ∀ i entry, w.state.slots i = some entry → entry.Present devices

/-- The serials of a listing that have no bridge. -/
def newcomers (w : UsbWatcher) (devices : List Detected) : Finset String :=
  (serials devices).toFinset.filter (· ∉ w.activeBridges)

/-- No slot holds a device that is gone while a listed Stream Deck has its serial;
slot 0 may if it is overwritten for want of slots. -/
def Unmasked (w : UsbWatcher) (devices : List Detected) : Prop :=
  ∀ i entry, w.state.slots i = some entry → ¬ entry.Present devices →
    entry.serial ∈ serials devices →
    i = ⟨0, maxChildSlots_pos⟩ ∧
      maxChildSlots < w.state.occupied.card + (w.newcomers devices).card

variable {config : DockConfig} {w : UsbWatcher} {devices : List Detected}

/-! ### What a scan leaves in the slots -/

theorem slots_attach {claimedDev : StreamDeckUsbHandle} {j : Slot} {entry : SlotEntry}
    (h : (w.attach claimedDev).state.slots j = some entry) :
    (j = w.state.targetSlot claimedDev.serialNumber ∧ entry.usbDevice = some claimedDev ∧
        entry.serial = claimedDev.serialNumber) ∨
      (j ≠ w.state.targetSlot claimedDev.serialNumber ∧ w.state.slots j = some entry) := by
  obtain ⟨vid, pid, modelName, hstate, -⟩ := w.attach_eq claimedDev
  rw [hstate] at h
  obtain ⟨htarget, rfl⟩ | hold := DockState.slots_attach h
  · exact .inl ⟨htarget, rfl, rfl⟩
  · exact .inr hold

theorem slots_attach_of_ne {claimedDev : StreamDeckUsbHandle} {j : Slot}
    (h : j ≠ w.state.targetSlot claimedDev.serialNumber) :
    (w.attach claimedDev).state.slots j = w.state.slots j :=
  DockState.slots_attach_of_ne w.state claimedDev _ _ _ h

theorem mem_scanDevice {serial : String} (h : serial ∈ w.activeBridges) (dev : Detected) :
    serial ∈ (w.scanDevice dev).activeBridges := by
  obtain hsame | ⟨-, hattach⟩ := w.scanDevice_cases dev
  · rwa [hsame]
  · rw [hattach, mem_attach]
    exact .inr h

/-- After a scan a slot holds what it held, or a device of the listing whose serial
had no bridge. -/
theorem slots_foldl_scanDevice {i : Slot} {entry : SlotEntry}
    (h : (devices.foldl scanDevice w).state.slots i = some entry) :
    w.state.slots i = some entry ∨ entry.Present devices ∧ entry.serial ∉ w.activeBridges := by
  induction devices generalizing w with
  | nil => exact .inl h
  | cons dev devices ih =>
    obtain hold | ⟨hpresent, hnew⟩ := ih h
    · obtain hsame | ⟨hnone, hattach⟩ := w.scanDevice_cases dev
      · rw [hsame] at hold
        exact .inl hold
      · rw [hattach] at hold
        obtain ⟨-, hdevice, hserial⟩ | ⟨-, hold⟩ := slots_attach hold
        · refine .inr ⟨⟨_, hdevice, dev, List.mem_cons_self, rfl⟩, ?_⟩
          rw [hserial]
          exact AList.lookup_eq_none.mp hnone
        · exact .inl hold
    · exact .inr ⟨hpresent.cons dev, fun hbridge => hnew (mem_scanDevice hbridge dev)⟩

/-! ### When slot 0 is overwritten -/

theorem newcomers_cons_of_other {dev : Detected}
    (hvendor : isStreamdeckVendor dev.info.vendorId = false) :
    w.newcomers (dev :: devices) = w.newcomers devices := by
  rw [newcomers, newcomers, serials, serials, streamDecks_cons_of_other hvendor]

theorem newcomers_cons_of_bridge {dev : Detected} (h : dev.info.serial ∈ w.activeBridges) :
    w.newcomers (dev :: devices) = w.newcomers devices := by
  cases hvendor : isStreamdeckVendor dev.info.vendorId with
  | false => exact newcomers_cons_of_other hvendor
  | true =>
    rw [newcomers, serials_cons_of_vendor hvendor, List.toFinset_cons,
      Finset.filter_insert, if_neg (not_not.mpr h), newcomers]

/-- A device that gets a bridge is one newcomer less. -/
theorem newcomers_cons_of_new {dev : Detected}
    (hvendor : isStreamdeckVendor dev.info.vendorId = true)
    (h : dev.info.serial ∉ w.activeBridges) :
    (w.newcomers (dev :: devices)).card =
      ((w.attach (.openFromInfo dev.info)).newcomers devices).card + 1 := by
  have hsame : w.newcomers (dev :: devices) =
      insert dev.info.serial ((w.attach (.openFromInfo dev.info)).newcomers devices) := by
    ext serial
    simp only [newcomers, serials_cons_of_vendor hvendor, Finset.mem_insert, Finset.mem_filter,
      List.mem_toFinset, List.mem_cons, mem_attach, StreamDeckUsbHandle.openFromInfo]
    by_cases hserial : serial = dev.info.serial
    · simp [hserial, h]
    · simp [hserial]
  have hnew : dev.info.serial ∉ (w.attach (.openFromInfo dev.info)).newcomers devices := by
    rw [newcomers, Finset.mem_filter, mem_attach]
    exact fun hmem => hmem.2 (.inl rfl)
  rw [hsame, Finset.card_insert_of_notMem hnew]

/-- A scan leaves an entry alone unless it stands in slot 0 and there are not slots
enough for the newcomers. -/
theorem Consistent.slots_foldl_scanDevice_iff (h : w.Consistent config)
    (hopens : ∀ dev ∈ streamDecks devices, dev.opens = true) {i : Slot} {entry : SlotEntry}
    (hi : w.state.slots i = some entry) :
    (devices.foldl UsbWatcher.scanDevice w).state.slots i = some entry ↔
      ¬ (i = ⟨0, maxChildSlots_pos⟩ ∧
        maxChildSlots < w.state.occupied.card + (w.newcomers devices).card) := by
  induction devices generalizing w with
  | nil =>
    have hcard := w.state.card_occupied_le
    exact iff_of_true hi fun hover => absurd hover.2 (not_lt.mpr hcard)
  | cons dev devices ih =>
    rw [List.foldl_cons]
    cases hvendor : isStreamdeckVendor dev.info.vendorId with
    | false =>
      rw [streamDecks_cons_of_other hvendor] at hopens
      rw [scanDevice_of_other hvendor, newcomers_cons_of_other hvendor]
      exact ih h hopens hi
    | true =>
      rw [streamDecks_cons_of_vendor hvendor] at hopens
      have ih {w : UsbWatcher} (h : w.Consistent config) (hi : w.state.slots i = some entry) :=
        ih h (fun other hother => hopens other (List.mem_cons_of_mem dev hother)) hi
      by_cases hbridge : dev.info.serial ∈ w.activeBridges
      · rw [scanDevice_of_bridge hbridge, newcomers_cons_of_bridge hbridge]
        exact ih h hi
      · have hattach : (w.attach (.openFromInfo dev.info)).Consistent config :=
          h.attach (AList.lookup_eq_none.mpr hbridge)
        have hkept (hne : i ≠ w.state.targetSlot dev.info.serial) :
            (w.attach (.openFromInfo dev.info)).state.slots i = some entry :=
          (slots_attach_of_ne hne).trans hi
        rw [scanDevice_of_new hvendor (hopens dev List.mem_cons_self) hbridge,
          newcomers_cons_of_new hvendor hbridge]
        obtain hfree | ⟨hfull, hzero⟩ := w.state.targetSlot_spec dev.info.serial
        · have hne : i ≠ w.state.targetSlot dev.info.serial := by
            rintro rfl
            rw [hi] at hfree
            cases hfree
          have hcard : (w.attach (.openFromInfo dev.info)).state.occupied.card =
              w.state.occupied.card + 1 := card_occupied_attach_of_free hfree
          rw [ih hattach (hkept hne), hcard, add_right_comm, add_assoc]
        · by_cases hi0 : i = ⟨0, maxChildSlots_pos⟩
          · -- the serial in slot 0 has a bridge, so no later device brings it back
            have hmem : entry.serial ∈ w.activeBridges := h.mem_of_holds ⟨entry, hi, rfl⟩
            have hover : maxChildSlots < w.state.occupied.card +
                (((w.attach (.openFromInfo dev.info)).newcomers devices).card + 1) := by
              rw [DockState.card_occupied_of_full hfull]
              omega
            refine iff_of_false (fun hback => ?_) (not_not.mpr ⟨hi0, hover⟩)
            obtain hback | ⟨-, hnew⟩ := slots_foldl_scanDevice hback
            · obtain ⟨-, -, hserial⟩ | ⟨hne, -⟩ := slots_attach hback
              · rw [hserial] at hmem
                exact hbridge hmem
              · exact hne (hi0.trans hzero.symm)
            · exact hnew ((w.mem_attach _ _).mpr (.inr hmem))
          · rw [ih hattach (hkept fun heq => hi0 (heq.trans hzero))]
            exact iff_of_true (fun hover => hi0 hover.1) fun hover => hi0 hover.1

/-! ### Passes -/

theorem Consistent.slots_foldl_dropBridge (h : w.Consistent config) (removedSerials : List String)
    {i : Slot} {entry : SlotEntry} :
    (removedSerials.foldl UsbWatcher.dropBridge w).state.slots i = some entry ↔
      w.state.slots i = some entry ∧ entry.serial ∉ removedSerials := by
  induction removedSerials generalizing w with
  | nil => simp
  | cons gone removedSerials ih =>
    rw [List.foldl_cons, ih (h.dropBridge gone), h.slots_dropBridge, List.mem_cons, not_or,
      and_assoc]

/-- A pass leaves in the slots what the scan left in them of the listed serials. -/
theorem Consistent.slots_tick (h : w.Consistent config) {w' : UsbWatcher} {t : Tick}
    (ht : w.tick t = some w') {i : Slot} {entry : SlotEntry} :
    w'.state.slots i = some entry ↔
      (t.devices.foldl UsbWatcher.scanDevice w).state.slots i = some entry ∧
        entry.serial ∈ serials t.devices := by
  obtain ⟨rfl, hremoved⟩ := tick_eq_some ht
  have hscan := h.foldl_scanDevice t.devices
  rw [hscan.slots_foldl_dropBridge, hremoved]
  refine and_congr_right fun hold => ?_
  have hbridge := hscan.mem_of_holds ⟨entry, hold, rfl⟩
  tauto

/-- **A pass leaves devices of the listing only, if and only if none is masked.** -/
theorem Consistent.tick_present_iff (h : w.Consistent config) {w' : UsbWatcher} {t : Tick}
    (hopens : ∀ dev ∈ streamDecks t.devices, dev.opens = true) (ht : w.tick t = some w') :
    w'.AllPresent t.devices ↔ w.Unmasked t.devices := by
  constructor
  · intro hpresent i entry hi hgone hlisted
    by_contra hkept
    have hscanned := (h.slots_foldl_scanDevice_iff hopens hi).mpr hkept
    exact hgone (hpresent i entry ((h.slots_tick ht).mpr ⟨hscanned, hlisted⟩))
  · intro hunmasked i entry hi
    obtain ⟨hscanned, hlisted⟩ := (h.slots_tick ht).mp hi
    obtain hold | ⟨hpresent, -⟩ := slots_foldl_scanDevice hscanned
    · by_contra hgone
      exact (h.slots_foldl_scanDevice_iff hopens hold).mp hscanned
        (hunmasked i entry hold hgone hlisted)
    · exact hpresent

end UsbWatcher

/-! ### Runs -/

/-- What happens to the watcher from one pass of its loop to the next. -/
inductive Event where
  | signal (serial : String)
  | scanError
  | scan (t : Tick)

/-- The steps of the loop that an event takes. -/
def Event.actions : Event → List WatcherLoop.Action
  | .signal serial => [.signal serial]
  | .scanError => [.scanError]
  | .scan t => t.actions

/-- Every Stream Deck of the listing opens. -/
def Event.Opens : Event → Prop
  | .scan t => ∀ dev ∈ streamDecks t.devices, dev.opens = true
  | _ => True

namespace UsbWatcher

/-- The watcher after an event. -/
def event (w : UsbWatcher) (e : Event) : Option UsbWatcher :=
  (run WatcherLoop.step ⟨w, .draining⟩ e.actions).map (·.watcher)

variable {config : DockConfig} {w w' : UsbWatcher}

theorem Consistent.event (h : w.Consistent config) {e : Event} (hopens : e.Opens)
    (he : w.event e = some w') : w'.Consistent config := by
  cases e with
  | signal serial =>
    cases he
    exact h.dropBridge serial
  | scanError =>
    cases he
    exact h
  | scan t => exact (h.tick hopens he).1

end UsbWatcher

open UsbWatcher

/-- **Decks that are removed**: in every run of signals, failed scans and listings whose
devices open, every occupied slot holds a device of the listing after each pass, if
and only if before each pass no slot holds a device that is gone while a listed
Stream Deck has its serial. -/
theorem removed_decks_leave_iff (config : DockConfig) (overridePid : Option UInt16)
    (events : List Event) (w : UsbWatcher) (hopens : ∀ e ∈ events, e.Opens)
    (hrun : run event (.new (.new config) overridePid) events = some w) :
    (∀ pre t w', pre ++ [.scan t] <+: events →
        run event (.new (.new config) overridePid) (pre ++ [.scan t]) = some w' →
        w'.AllPresent t.devices) ↔
      ∀ pre t w', pre ++ [.scan t] <+: events →
        run event (.new (.new config) overridePid) pre = some w' →
        w'.Unmasked t.devices := by
  have hconsistent {pre : List Event} {t : Tick} {mid : UsbWatcher}
      (hpre : pre ++ [.scan t] <+: events)
      (hmid : run event (.new (.new config) overridePid) pre = some mid) :
      mid.Consistent config := by
    refine run_invariant_of_guard (I := UsbWatcher.Consistent config) (G := fun _ e => e.Opens)
      (fun _ _ _ h hopens he => h.event hopens he) (consistent_new config overridePid) ?_
      ((List.prefix_append pre [.scan t]).trans hpre) hmid
    intro pre e _ hpre _
    exact hopens e (hpre.subset (List.mem_append_right pre List.mem_cons_self))
  have hlisting {pre : List Event} {t : Tick} (hpre : pre ++ [.scan t] <+: events) :
      ∀ dev ∈ streamDecks t.devices, dev.opens = true :=
    hopens (.scan t) (hpre.subset (List.mem_append_right pre List.mem_cons_self))
  constructor
  · intro hpresent pre t mid hpre hmid
    obtain ⟨next, hnext⟩ := exists_run_of_prefix hpre hrun
    obtain ⟨mid', hmid', ht⟩ := run_concat_eq_some hnext
    cases hmid.symm.trans hmid'
    exact ((hconsistent hpre hmid).tick_present_iff (hlisting hpre) ht).mp
      (hpresent pre t next hpre hnext)
  · intro hunmasked pre t w' hpre hw'
    obtain ⟨mid, hmid, ht⟩ := run_concat_eq_some hw'
    exact ((hconsistent hpre hmid).tick_present_iff (hlisting hpre) ht).mpr
      (hunmasked pre t mid hpre hmid)

/-- A Stream Deck without a serial number. -/
def Detected.unnamed (id : ℕ) : Detected :=
  ⟨⟨id, vendorIdElgato, 0x0080, none⟩, true⟩

/-- A deck without a serial number comes and goes. -/
theorem removed_decks_leave_iff_one :
    ∃ w, run event (.new (.new DockConfig.default) none)
        [.scan ⟨[.unnamed 1], []⟩, .scan ⟨[], ["UNKNOWN_SERIAL"]⟩] = some w ∧
      ((∀ pre t w', pre ++ [.scan t] <+:
            [.scan ⟨[.unnamed 1], []⟩, .scan ⟨[], ["UNKNOWN_SERIAL"]⟩] →
          run event (.new (.new DockConfig.default) none) (pre ++ [.scan t]) = some w' →
          w'.AllPresent t.devices) ↔
        ∀ pre t w', pre ++ [.scan t] <+:
            [.scan ⟨[.unnamed 1], []⟩, .scan ⟨[], ["UNKNOWN_SERIAL"]⟩] →
          run event (.new (.new DockConfig.default) none) pre = some w' →
          w'.Unmasked t.devices) := by
  have hopens : ∀ e ∈ [Event.scan ⟨[.unnamed 1], []⟩, .scan ⟨[], ["UNKNOWN_SERIAL"]⟩],
      e.Opens := by
    intro e he
    rcases List.mem_pair.mp he with rfl | rfl
    · exact List.forall_mem_singleton.mpr rfl
    · exact List.forall_mem_nil _
  have hcheck : (run event (.new (.new DockConfig.default) none)
      [.scan ⟨[.unnamed 1], []⟩, .scan ⟨[], ["UNKNOWN_SERIAL"]⟩]).isSome = true := by
    decide +kernel
  obtain ⟨w, hrun⟩ := Option.isSome_iff_exists.mp hcheck
  exact ⟨w, hrun, removed_decks_leave_iff DockConfig.default none _ w hopens hrun⟩

/-- Of two decks without a serial number the first is unplugged, and keeps its slot. -/
theorem removed_deck_stays :
    ∃ w, run event (.new (.new DockConfig.default) none)
        [.scan ⟨[.unnamed 1, .unnamed 2], []⟩, .scan ⟨[.unnamed 2], []⟩] = some w ∧
      ¬ w.AllPresent [.unnamed 2] := by
  have hcheck : ((run event (.new (.new DockConfig.default) none)
      [.scan ⟨[.unnamed 1, .unnamed 2], []⟩, .scan ⟨[.unnamed 2], []⟩]).map fun w =>
        ((w.state.slots ⟨0, maxChildSlots_pos⟩).bind (·.usbDevice)).map (·.id)) =
          some (some 1) := by
    decide +kernel
  obtain ⟨w, hrun, hid⟩ := Option.map_eq_some_iff.mp hcheck
  obtain ⟨handle, hhandle, hid⟩ := Option.map_eq_some_iff.mp hid
  obtain ⟨entry, hentry, hdevice⟩ := Option.bind_eq_some_iff.mp hhandle
  refine ⟨w, hrun, fun hpresent => ?_⟩
  obtain ⟨handle', hhandle', dev, hdev, hsame⟩ := hpresent _ entry hentry
  cases hdevice.symm.trans hhandle'
  rw [hid, List.mem_singleton.mp hdev] at hsame
  cases hsame

end OpenNetDeck
