import OpenNetDeck.Protocol.Device2Info
import OpenNetDeck.Server.TwoPorts
import OpenNetDeck.Server.HotplugClient

/-!
# The decks that a client finds

A client of the primary port, whatever the mode, learns from 0x1c queries which decks there
are and on which ports their bridges listen, and from the hotplug pushes what changes. It
reads both with `ChildDeviceInfo::parse`.

## Main definitions

- `WatcherLoop.listed` — the devices that the bus listed in a run
- `WatcherLoop.Known` — every slot holds a device of the bus that was claimed

## Main results

- `client_finds_decks` — a child that a client finds is a deck that the bus listed and
  that was claimed, on the port of its bridge; a free slot is found free
- `pushes_change_slots` — a disconnect push empties a slot that is occupied, a connect
  push fills one that is free, or slot 0 of a full table
-/

namespace OpenNetDeck

open Transition Bytes

/-! ### Devices of the bus -/

namespace WatcherLoop

/-- The devices that the bus listed in a run. -/
def listed (actions : List Action) : List Detected :=
  actions.flatMap fun
    | .listing devices => devices
    | _ => []

/-- A deck of the bus that was claimed. -/
def Claimed (devices : List Detected) (dev : Detected) : Prop :=
  dev ∈ devices ∧ isStreamdeckVendor dev.info.vendorId = true ∧ dev.opens = true

/-- The entry of a slot was made for the device. -/
def EntryOf (config : DockConfig) (overridePid : Option UInt16) (i : Slot) (dev : Detected)
    (entry : SlotEntry) : Prop :=
  entry = DockState.newEntry config i (.openFromInfo dev.info) dev.info.vendorId
    (overridePid.getD dev.info.productId)
    (UsbWatcher.modelName overridePid (.openFromInfo dev.info))

/-- Every slot holds a device that was claimed, and the scan goes on with such as the bus
listed. -/
structure Known (config : DockConfig) (overridePid : Option UInt16) (devices : List Detected)
    (s : WatcherLoop) : Prop where
  attached : s.watcher.AllAttached config overridePid
  entries : ∀ i entry, s.watcher.state.slots i = some entry →
    ∃ dev, Claimed devices dev ∧ EntryOf config overridePid i dev entry
  scanning : ∀ rest seenSerials, s.phase = .scanning rest seenSerials → rest ⊆ devices

variable {config : DockConfig} {overridePid : Option UInt16} {devices : List Detected}
  {s s' : WatcherLoop}

/-- A scanned device gets a slot only if it is a deck that can be claimed. -/
theorem slots_scanDevice {w : UsbWatcher} (h : w.AllAttached config overridePid) {dev : Detected}
    {i : Slot} {entry : SlotEntry} (hentry : (w.scanDevice dev).state.slots i = some entry) :
    w.state.slots i = some entry ∨
      isStreamdeckVendor dev.info.vendorId = true ∧ dev.opens = true ∧
        EntryOf config overridePid i dev entry := by
  rw [UsbWatcher.scanDevice] at hentry
  split at hentry
  · next hvendor =>
    split at hentry
    · exact .inl hentry
    · split at hentry
      · next hopens =>
        obtain ⟨-, hnew⟩ | ⟨-, hold⟩ := DockState.slots_attach hentry
        · rw [h.config_eq, h.overridePid_eq] at hnew
          exact .inr ⟨hvendor, hopens, hnew⟩
        · exact .inl hold
      · exact .inl hentry
  · exact .inl hentry

theorem slots_dropBridge {w : UsbWatcher} {serial : String} {i : Slot} {entry : SlotEntry}
    (hentry : (w.dropBridge serial).state.slots i = some entry) :
    w.state.slots i = some entry := by
  rw [UsbWatcher.dropBridge] at hentry
  split at hentry
  · exact (DockState.slots_detach hentry).1
  · exact hentry

theorem Known.step (h : Known config overridePid devices s) {a : Action}
    (ha : ∀ listing, a = .listing listing → listing ⊆ devices) (hstep : step s a = some s') :
    Known config overridePid devices s' := by
  have hattached : s'.watcher.AllAttached config overridePid :=
    watcher_step (I := fun w => w.AllAttached config overridePid) (fun _ dev h => h.scanDevice dev)
      (fun _ serial h => h.dropBridge serial) h.attached hstep
  -- only the scan of a device adds an entry
  unfold WatcherLoop.step at hstep
  split at hstep
  · cases hstep
    exact ⟨hattached, fun i entry hentry => h.entries i entry (slots_dropBridge hentry), nofun⟩
  · cases hstep
    exact h
  · next listing =>
    cases hstep
    refine ⟨hattached, h.entries, ?_⟩
    rintro rest seenSerials ⟨⟩
    exact ha listing rfl
  · next dev rest seenSerials =>
    cases hstep
    have hrest := h.scanning _ _ rfl
    refine ⟨hattached, ?_, ?_⟩
    · intro i entry hentry
      obtain hold | ⟨hvendor, hopens, hnew⟩ := slots_scanDevice h.attached hentry
      · exact h.entries i entry hold
      · exact ⟨dev, ⟨hrest List.mem_cons_self, hvendor, hopens⟩, hnew⟩
    · rintro rest' seenSerials' ⟨⟩
      exact fun other hother => hrest (List.mem_cons_of_mem _ hother)
  · split at hstep
    · cases hstep
      exact ⟨hattached, h.entries, nofun⟩
    · cases hstep
  · cases hstep
    exact ⟨hattached, fun i entry hentry => h.entries i entry (slots_dropBridge hentry), nofun⟩
  · cases hstep
    exact ⟨hattached, h.entries, nofun⟩
  · cases hstep

theorem known_run {actions : List Action}
    (hrun : run step (start config overridePid) actions = some s) :
    Known config overridePid (listed actions) s := by
  refine run_invariant_of_guard (I := Known config overridePid (listed actions))
    (G := fun _ a => ∀ listing, a = .listing listing → listing ⊆ listed actions)
    (fun _ _ _ h ha hstep => h.step ha hstep)
    ⟨UsbWatcher.allAttached_new config overridePid, ?_, ?_⟩ ?_ (List.prefix_refl actions) hrun
  · intro i entry hentry
    cases hentry
  · intro rest seenSerials hphase
    cases hphase
  rintro pre _ _ hpre - listing rfl dev hdev
  exact List.mem_flatMap.mpr ⟨.listing listing, hpre.subset (by simp), hdev⟩

end WatcherLoop

/-- **The decks that a client finds**: at any moment of any run of the watcher, the answer
of the primary port to a 0x1c query parses, in either mode. For a slot that is free, and for
a number that is no slot, it is no child. For an occupied one it is a deck that the bus
listed and that was claimed, with the product id and the name that it is announced under,
its strings cut, and the port of its bridge. -/
theorem client_finds_decks (config : DockConfig) (overridePid : Option UInt16)
    (actions : List WatcherLoop.Action) (s : WatcherLoop)
    (hrun : run WatcherLoop.step (.start config overridePid) actions = some s)
    (localIp : IpAddr) (mode : ServerMode) (usbDevice : Option StreamDeckUsbHandle)
    (hasSentInitialHotplug : Bool) (usb : UsbInterface) (frame : CoraFrame) (slot : UInt8)
    (hquery : ChildQuery frame slot) :
    ∃ reply handler', FrameHandler.handleFrame
        ⟨s.watcher.state, localIp, mode, usbDevice, hasSentInitialHotplug⟩ usb frame =
          .ok ({ sent := [reply] }, handler') ∧
      ((∀ i : Slot, i.asU8 = slot → s.watcher.state.slots i = none) →
        ChildDeviceInfo.parse (reply.drop coraHeaderSize) = .ok none) ∧
      ∀ i entry, i.asU8 = slot → s.watcher.state.slots i = some entry →
        ∃ dev bridge, WatcherLoop.Claimed (WatcherLoop.listed actions) dev ∧
          s.watcher.activeBridges.lookup dev.info.serial = some bridge ∧
          ChildDeviceInfo.parse (reply.drop coraHeaderSize) =
            .ok (some (ChildDeviceInfo.connected slot dev.info.vendorId
              (overridePid.getD dev.info.productId)
              (UsbWatcher.modelName overridePid (.openFromInfo dev.info)) dev.info.serial
              bridge.port).received) := by
  obtain ⟨handler', hhandle⟩ := primary_answer
    ⟨s.watcher.state, localIp, mode, usbDevice, hasSentInitialHotplug⟩ usb hquery
  refine ⟨_, handler', hhandle, ?_, ?_⟩
  · intro hfree
    rw [CoraFrame.drop_toVec]
    -- a number that is no slot is answered as a free slot is
    have hchild : s.watcher.state.childDeviceAt slot = .disconnected slot := by
      rw [DockState.childDeviceAt_eq, DockState.table]
      split
      · next hlt =>
        rw [hfree ⟨slot.toNat, hlt⟩ (UInt8.toNat_inj.mp (Slot.toNat_asU8 _))]
        rfl
      · rfl
    show ChildDeviceInfo.parse ((s.watcher.state.childDeviceAt slot).buildPayload false slot).val =
      .ok none
    rw [hchild]
    exact ChildDeviceInfo.parse_of_disconnected rfl false slot
  · rintro i entry rfl hentry
    obtain ⟨dev, hclaimed, rfl⟩ := (WatcherLoop.known_run hrun).entries i entry hentry
    obtain ⟨bridge, hbridge, -, hport⟩ :=
      (WatcherLoop.run_consistent hrun).bridge i _ hentry
    refine ⟨dev, bridge, hclaimed, hbridge, ?_⟩
    rw [CoraFrame.drop_toVec, hport]
    show ChildDeviceInfo.parse
      ((s.watcher.state.childDeviceAt i.asU8).buildPayload false i.asU8).val = _
    rw [childDeviceAt_of_slot hentry]
    exact ChildDeviceInfo.parse_buildPayload rfl false i.asU8

/-- A client asks for slot 0, where the first deck is. -/
theorem client_finds_decks_one :
    ∃ s reply handler', run WatcherLoop.step (.start DockConfig.default none)
        [.listing [⟨⟨0, vendorIdElgato, 0x0080, some "A"⟩, true⟩], .device] = some s ∧
      FrameHandler.handleFrame ⟨s.watcher.state, .v4 (Block.zeroed 4), .dock, none, false⟩
          ⟨none, fun _ => .ok [], fun _ => .ok (), fun _ _ => .ok ()⟩
          ⟨CoraHeader.new CoraFlags.none .getReport 7 3, [0x03, 0x1c, 0x00]⟩ =
        .ok ({ sent := [reply] }, handler') ∧
      ∃ child, ChildDeviceInfo.parse (reply.drop coraHeaderSize) = .ok (some child) := by
  have hcheck : ((run WatcherLoop.step (.start DockConfig.default none)
      [.listing [⟨⟨0, vendorIdElgato, 0x0080, some "A"⟩, true⟩], .device]).map fun s =>
        (s.watcher.state.slots ⟨0, by decide⟩).isSome) = some true := by
    decide +kernel
  obtain ⟨s, hrun, hs⟩ := Option.map_eq_some_iff.mp hcheck
  obtain ⟨entry, hentry⟩ := Option.isSome_iff_exists.mp hs
  obtain ⟨reply, handler', hhandle, -, hfound⟩ := client_finds_decks DockConfig.default none _ s
    hrun (.v4 (Block.zeroed 4)) .dock none false ⟨none, fun _ => .ok [], fun _ => .ok (),
      fun _ _ => .ok ()⟩ ⟨CoraHeader.new CoraFlags.none .getReport 7 3, [0x03, 0x1c, 0x00]⟩ 0
    ⟨by decide, rfl, rfl⟩
  obtain ⟨dev, bridge, -, -, hparse⟩ := hfound ⟨0, by decide⟩ entry rfl hentry
  exact ⟨s, reply, handler', hrun, hhandle, _, hparse⟩

/-! ### Pushes -/

/-- What a client that follows the pushes knows of a slot decides whether a push of the
slot is due. -/
structure InTurn (pushed : List ChildDeviceInfo) (child : ChildDeviceInfo) : Prop where
  slot : child.slotIndex.toNat < maxChildSlots
  disconnect : child.isConnected = false →
    clientTable (pushed.map pushPayload) child.slotIndex ≠ none
  connect : child.isConnected = true →
    clientTable (pushed.map pushPayload) child.slotIndex = none ∨
      child.slotIndex = 0 ∧ ∀ i : Slot, clientTable (pushed.map pushPayload) i.asU8 ≠ none

/-- The client's table is empty where the dock's is. -/
theorem clientTable_eq_none {dock : DockState} (hdock : dock.Mirrors) (slot : UInt8) :
    clientTable (dock.hotplug.map pushPayload) slot = none ↔ dock.table slot = none := by
  rw [clientTable_eq, ← hdock, KeyedLog.replay_eq, KeyedLog.replay_eq]
  cases KeyedLog.last ChildDeviceInfo.slotIndex slot dock.hotplug with
  | none => exact iff_of_true rfl rfl
  | some child => exact Option.map_eq_none_iff

theorem clientTable_asU8 {dock : DockState} (hdock : dock.Mirrors) (i : Slot) :
    clientTable (dock.hotplug.map pushPayload) i.asU8 = none ↔ dock.slots i = none := by
  rw [clientTable_eq_none hdock, DockState.table_asU8, Option.map_eq_none_iff]

/-- An operation pushes what is due. -/
theorem DockState.Consistent.legal_apply {dock : DockState} (h : dock.Consistent)
    (hlegal : KeyedLog.Legal InTurn dock.hotplug) (op : DockOp) :
    KeyedLog.Legal InTurn (dock.apply op).hotplug := by
  cases op with
  | attach device vid pid modelName =>
    refine hlegal.concat ⟨Slot.asU8_lt _, nofun, fun _ => ?_⟩
    show clientTable _ (dock.targetSlot device.serialNumber).asU8 = none ∨
      (dock.targetSlot device.serialNumber).asU8 = 0 ∧ _
    -- a free slot, or slot 0 of a full table
    obtain hfree | ⟨hfull, hzero⟩ := dock.targetSlot_spec device.serialNumber
    · exact .inl ((clientTable_asU8 h.mirrors _).mpr hfree)
    · rw [hzero]
      exact .inr ⟨rfl, fun i hi => hfull i ((clientTable_asU8 h.mirrors i).mp hi)⟩
  | detach serial =>
    show KeyedLog.Legal InTurn (dock.detachDeviceBySerial serial).2.hotplug
    cases hfind : DockState.findSerial dock.slots serial with
    | none =>
      rw [DockState.detach_of_absent hfind]
      exact hlegal
    | some found =>
      obtain ⟨i, entry⟩ := found
      obtain ⟨hentry, -⟩ := DockState.findSerial_eq_some hfind
      have hslot := (h.placed i entry hentry).slotIndex
      rw [DockState.detach_of_found hfind, hslot]
      refine hlegal.concat ⟨i.asU8_lt, fun _ => ?_, nofun⟩
      intro hnone
      rw [(clientTable_asU8 h.mirrors i).mp hnone] at hentry
      cases hentry

/-- **Every push changes its slot**: in the log of any operations, a push names one of the
slots; a disconnect push names one that the client holds for occupied, and a connect push
one that it holds for free, or slot 0 when all the slots are occupied. -/
theorem pushes_change_slots (config : DockConfig) (ops : List DockOp)
    (pushed pushedAfter : List ChildDeviceInfo) (child : ChildDeviceInfo)
    (hlog : (DockState.run config ops).hotplug = pushed ++ child :: pushedAfter) :
    InTurn pushed child := by
  have hlegal : KeyedLog.Legal InTurn (DockState.run config ops).hotplug := by
    clear hlog
    induction ops using List.reverseRecOn with
    | nil => exact KeyedLog.legal_nil InTurn
    | append_singleton ops op ih =>
      rw [DockState.run_concat]
      exact (DockState.run_consistent config ops).legal_apply ih op
  exact hlegal pushed child pushedAfter hlog

/-- A deck comes and goes. -/
theorem pushes_change_slots_gone :
    clientTable ([ChildDeviceInfo.connected 0 vendorIdElgato 0x0080 "MK.2" "A" 5344].map
      pushPayload) 0 ≠ none := by
  have hlog : (DockState.run DockConfig.default
      [.attach ⟨0, vendorIdElgato, 0x0080, "A", none⟩ vendorIdElgato 0x0080 "MK.2",
        .detach "A"]).hotplug =
      [ChildDeviceInfo.connected 0 vendorIdElgato 0x0080 "MK.2" "A" 5344] ++
        .disconnected 0 :: [] := by
    decide +kernel
  exact (pushes_change_slots DockConfig.default _ _ _ _ hlog).disconnect rfl

end OpenNetDeck
