import Mathlib.Data.List.AList
import OpenNetDeck.Lib.Transition
import OpenNetDeck.Server.Dock

/-!
# The USB watcher

`UsbWatcher::run`: drain the disconnect signals, scan the bus and attach the
devices that have no bridge, then drop the bridges of the devices that are gone.
The loop takes one step for each signal, each listed device and each bridge it
drops, so every state between two of them is reachable.

## Main definitions

- `UsbWatcher` — the dock and `active_bridges`
- `UsbWatcher.scanDevice`, `UsbWatcher.dropBridge` — the bodies of the loops
- `WatcherLoop.step` — one step of `run`
- `Coherent` — what the slot table, the reservations and the bridges agree on

## Main results

- `watcher_coherent` — every entry of every reachable slot table is coherent
- `WatcherLoop.exists_run` — the watcher's dock is the dock after some operations
-/

namespace OpenNetDeck

open Checked

/-- A secondary bridge and the handle of its task. -/
structure ActiveBridge where
  slotIndex : UInt8
  port : UInt16
  taskHandle : ℕ
  deriving DecidableEq

/-- The watcher with the bridges of `run` and the number of tasks it spawned. -/
structure UsbWatcher where
  state : DockState
  overridePid : Option UInt16
  activeBridges : AList fun _ : String => ActiveBridge
  spawned : ℕ

/-- A device in a listing, and whether it can be claimed when it is its turn. -/
structure Detected where
  info : DeviceInfo
  opens : Bool
  deriving DecidableEq

namespace UsbWatcher

def new (state : DockState) (overridePid : Option UInt16) : UsbWatcher where
  state
  overridePid
  activeBridges := ∅
  spawned := 0

/-- Attach a claimed device and start its bridge. -/
def attach (self : UsbWatcher) (claimedDev : StreamDeckUsbHandle) : UsbWatcher :=
  let vid := claimedDev.vendorId
  let pid := self.overridePid.getD claimedDev.productId
  let modelName := (((matchStreamdeckModel vid pid).map (·.name)).or
    (claimedDev.model.map (·.name))).getD "Stream Deck"
  let attached := self.state.attachDevice claimedDev vid pid modelName
  let bridge : ActiveBridge :=
    { slotIndex := attached.1.1, port := attached.1.2, taskHandle := self.spawned }
  { self with
    state := attached.2
    activeBridges := self.activeBridges.insert claimedDev.serialNumber bridge
    spawned := self.spawned + 1 }

/-- The body of `for dev in devices`. -/
def scanDevice (self : UsbWatcher) (dev : Detected) : UsbWatcher :=
  if isStreamdeckVendor dev.info.vendorId then
    match self.activeBridges.lookup dev.info.serial with
    | some _ => self
    -- a vacant entry stays vacant when the device cannot be claimed
    | none => if dev.opens then self.attach (.openFromInfo dev.info) else self
  else self

/-- What is done for a disconnect signal and for a device that is gone: nothing
if the serial has no bridge. -/
def dropBridge (self : UsbWatcher) (serial : String) : UsbWatcher :=
  match self.activeBridges.lookup serial with
  | some _ =>
    { self with
      activeBridges := self.activeBridges.erase serial
      state := (self.state.detachDeviceBySerial serial).2 }
  | none => self

end UsbWatcher

/-- Where the loop of `run` stands. -/
inductive Phase where
  | draining
  | scanning (devices : List Detected) (seenSerials : List String)
  | removing (serials : List String)
  deriving DecidableEq

structure WatcherLoop where
  watcher : UsbWatcher
  phase : Phase

namespace WatcherLoop

def start (config : DockConfig) (overridePid : Option UInt16) : WatcherLoop where
  watcher := .new (.new config) overridePid
  phase := .draining

inductive Action where
  | signal (serial : String)
  | scanError
  | listing (devices : List Detected)
  | device
  | collect (removedSerials : List String)
  | remove
  | sleep

/-- The keys of `active_bridges` that were not seen. -/
def unseen (w : UsbWatcher) (seenSerials : List String) : List String :=
  w.activeBridges.keys.filter (· ∉ seenSerials)

/-- One step of the loop. A hash map lists its keys in any order. -/
def step : WatcherLoop → Action → Option WatcherLoop
  | ⟨w, .draining⟩, .signal serial => some ⟨w.dropBridge serial, .draining⟩
  | ⟨w, .draining⟩, .scanError => some ⟨w, .draining⟩
  | ⟨w, .draining⟩, .listing devices => some ⟨w, .scanning devices []⟩
  | ⟨w, .scanning (dev :: devices) seenSerials⟩, .device =>
    some ⟨w.scanDevice dev, .scanning devices
      (if isStreamdeckVendor dev.info.vendorId then dev.info.serial :: seenSerials
      else seenSerials)⟩
  | ⟨w, .scanning [] seenSerials⟩, .collect removedSerials =>
    if removedSerials.isPerm (unseen w seenSerials) then some ⟨w, .removing removedSerials⟩
    else none
  | ⟨w, .removing (serial :: serials)⟩, .remove => some ⟨w.dropBridge serial, .removing serials⟩
  | ⟨w, .removing []⟩, .sleep => some ⟨w, .draining⟩
  | _, _ => none

/-- Every step leaves the watcher alone, scans a device or drops a bridge. -/
theorem step_cases {s s' : WatcherLoop} {a : Action} (h : step s a = some s') :
    s'.watcher = s.watcher ∨ (∃ dev, s'.watcher = s.watcher.scanDevice dev) ∨
      ∃ serial, s'.watcher = s.watcher.dropBridge serial := by
  unfold step at h
  split at h
  · cases h
    exact .inr (.inr ⟨_, rfl⟩)
  · cases h
    exact .inl rfl
  · cases h
    exact .inl rfl
  · cases h
    exact .inr (.inl ⟨_, rfl⟩)
  · split at h
    · cases h
      exact .inl rfl
    · cases h
  · cases h
    exact .inr (.inr ⟨_, rfl⟩)
  · cases h
    exact .inl rfl
  · cases h

section

variable {I : UsbWatcher → Prop} {s s' : WatcherLoop}

/-- What a scan of a device and the end of a bridge keep, every step keeps. -/
theorem watcher_step (hscan : ∀ w dev, I w → I (w.scanDevice dev))
    (hdrop : ∀ w serial, I w → I (w.dropBridge serial)) {a : Action} (h : I s.watcher)
    (hstep : step s a = some s') : I s'.watcher := by
  obtain heq | ⟨dev, heq⟩ | ⟨serial, heq⟩ := step_cases hstep
  · rw [heq]
    exact h
  · rw [heq]
    exact hscan s.watcher dev h
  · rw [heq]
    exact hdrop s.watcher serial h

/-- The invariant rule for the watcher. -/
theorem watcher_run (hscan : ∀ w dev, I w → I (w.scanDevice dev))
    (hdrop : ∀ w serial, I w → I (w.dropBridge serial)) {actions : List Action}
    (h : I s.watcher) (hrun : Transition.run step s actions = some s') : I s'.watcher := by
  refine Transition.run_invariant (I := fun s => I s.watcher) ?_ h hrun
  intro s a s' h hstep
  exact watcher_step hscan hdrop h hstep

end

end WatcherLoop

/-! ### Coherence -/

/-- The entry of a slot bears the slot's number and port, its serial is reserved
for the slot and has a bridge on its port, and no other slot holds the serial. -/
structure Coherent (config : DockConfig) (w : UsbWatcher) (i : Slot) (entry : SlotEntry) :
    Prop where
  slotIndex : entry.slotIndex = i.asU8
  childSlot : entry.childInfo.slotIndex = i.asU8
  port : entry.port = saturatingAdd config.secondaryPort (UInt16.ofNat i.val)
  tcpPort : entry.childInfo.tcpPort = saturatingAdd config.secondaryPort (UInt16.ofNat i.val)
  sticky : w.state.stickyMap entry.serial = some i.asU8
  bridge : ∃ bridge, w.activeBridges.lookup entry.serial = some bridge ∧
    bridge.slotIndex = i.asU8 ∧ bridge.port = entry.port
  unique : ∀ j other, w.state.slots j = some other → other.serial = entry.serial → j = i

namespace UsbWatcher

/-- What every step keeps; the rest of coherence follows. -/
structure Consistent (config : DockConfig) (w : UsbWatcher) : Prop where
  config_eq : w.state.config = config
  placed : w.state.AllPlaced
  sticky : ∀ i entry, w.state.slots i = some entry →
    w.state.stickyMap entry.serial = some i.asU8
  bridge : ∀ i entry, w.state.slots i = some entry →
    ∃ bridge, w.activeBridges.lookup entry.serial = some bridge ∧
      bridge.slotIndex = i.asU8 ∧ bridge.port = entry.port

variable {config : DockConfig} {w : UsbWatcher}

/-- A serial has one bridge, and the bridge one slot. -/
theorem Consistent.unique (h : w.Consistent config) {i j : Slot} {entry other : SlotEntry}
    (hi : w.state.slots i = some entry) (hj : w.state.slots j = some other)
    (hserial : other.serial = entry.serial) : j = i := by
  obtain ⟨bridge, hbridge, hslot, -⟩ := h.bridge i entry hi
  obtain ⟨bridge', hbridge', hslot', -⟩ := h.bridge j other hj
  rw [hserial, hbridge, Option.some.injEq] at hbridge'
  subst hbridge'
  exact Slot.asU8_inj (hslot'.symm.trans hslot)

theorem Consistent.coherent (h : w.Consistent config) {i : Slot} {entry : SlotEntry}
    (hi : w.state.slots i = some entry) : Coherent config w i entry where
  slotIndex := (h.placed i entry hi).slotIndex
  childSlot := (h.placed i entry hi).childSlot
  port := by
    rw [← h.config_eq]
    exact (h.placed i entry hi).port
  tcpPort := by
    rw [(h.placed i entry hi).tcpPort, ← h.config_eq]
    exact (h.placed i entry hi).port
  sticky := h.sticky i entry hi
  bridge := h.bridge i entry hi
  unique := fun _ _ hj hserial => h.unique hi hj hserial

theorem consistent_new (config : DockConfig) (overridePid : Option UInt16) :
    (new (.new config) overridePid).Consistent config where
  config_eq := rfl
  placed := nofun
  sticky := nofun
  bridge := nofun

/-- A serial without a bridge is in no slot. -/
theorem Consistent.absent (h : w.Consistent config) {serial : String}
    (hnone : w.activeBridges.lookup serial = none) {i : Slot} {entry : SlotEntry}
    (hi : w.state.slots i = some entry) : entry.serial ≠ serial := by
  rintro rfl
  obtain ⟨bridge, hbridge, -⟩ := h.bridge i entry hi
  rw [hnone] at hbridge
  cases hbridge

theorem attach_eq (w : UsbWatcher) (claimedDev : StreamDeckUsbHandle) :
    ∃ vid pid modelName,
      (w.attach claimedDev).state = (w.state.attachDevice claimedDev vid pid modelName).2 ∧
      (w.attach claimedDev).activeBridges = w.activeBridges.insert claimedDev.serialNumber
        { slotIndex := (w.state.attachDevice claimedDev vid pid modelName).1.1
          port := (w.state.attachDevice claimedDev vid pid modelName).1.2
          taskHandle := w.spawned } :=
  ⟨_, _, _, rfl, rfl⟩

theorem Consistent.attach (h : w.Consistent config) {claimedDev : StreamDeckUsbHandle}
    (hnone : w.activeBridges.lookup claimedDev.serialNumber = none) :
    (w.attach claimedDev).Consistent config := by
  obtain ⟨vid, pid, modelName, hstate, hbridges⟩ := w.attach_eq claimedDev
  constructor
  · rw [hstate]
    exact h.config_eq
  · rw [hstate]
    exact DockState.allPlaced_attach h.placed claimedDev vid pid modelName
  · intro i entry hentry
    rw [hstate] at hentry ⊢
    show Function.update w.state.stickyMap claimedDev.serialNumber _ entry.serial = _
    obtain ⟨rfl, rfl⟩ | ⟨-, hold⟩ := DockState.slots_attach hentry
    · exact Function.update_self _ _ _
    · rw [Function.update_of_ne (h.absent hnone hold)]
      exact h.sticky i entry hold
  · intro i entry hentry
    rw [hstate] at hentry
    rw [hbridges]
    obtain ⟨rfl, rfl⟩ | ⟨-, hold⟩ := DockState.slots_attach hentry
    · exact ⟨_, AList.lookup_insert _, rfl, rfl⟩
    · rw [AList.lookup_insert_ne (h.absent hnone hold)]
      exact h.bridge i entry hold

theorem dropBridge_of_bridge {serial : String} {bridge : ActiveBridge}
    (h : w.activeBridges.lookup serial = some bridge) :
    w.dropBridge serial =
      { w with
        activeBridges := w.activeBridges.erase serial
        state := (w.state.detachDeviceBySerial serial).2 } := by
  rw [UsbWatcher.dropBridge, h]

theorem dropBridge_of_none {serial : String} (h : w.activeBridges.lookup serial = none) :
    w.dropBridge serial = w := by
  rw [UsbWatcher.dropBridge, h]

/-- Dropping a bridge clears every slot that holds the serial. -/
theorem Consistent.slots_dropBridge (h : w.Consistent config) (serial : String) {j : Slot}
    {entry : SlotEntry} :
    (w.dropBridge serial).state.slots j = some entry ↔
      w.state.slots j = some entry ∧ entry.serial ≠ serial := by
  cases hbridge : w.activeBridges.lookup serial with
  | none =>
    rw [dropBridge_of_none hbridge]
    exact ⟨fun hentry => ⟨hentry, h.absent hbridge hentry⟩, fun hentry => hentry.1⟩
  | some bridge =>
    rw [dropBridge_of_bridge hbridge]
    constructor
    · intro hentry
      obtain ⟨hold, hfirst⟩ := DockState.slots_detach hentry
      refine ⟨hold, ?_⟩
      intro hserial
      -- the search stops at the first slot with the serial, and there is no other
      cases hfind : DockState.findSerial w.state.slots serial with
      | none => exact DockState.findSerial_eq_none hfind j entry hold hserial
      | some found =>
        obtain ⟨hfound, hfoundSerial⟩ := DockState.findSerial_eq_some hfind
        exact hfirst _ _ hfind (h.unique hfound hold (hserial.trans hfoundSerial.symm))
    · intro hentry
      exact DockState.slots_detach_of_ne hentry.1 hentry.2

theorem Consistent.dropBridge (h : w.Consistent config) (serial : String) :
    (w.dropBridge serial).Consistent config := by
  cases hbridge : w.activeBridges.lookup serial with
  | none =>
    rw [dropBridge_of_none hbridge]
    exact h
  | some bridge =>
    have hslots : ∀ j entry, (w.dropBridge serial).state.slots j = some entry →
        w.state.slots j = some entry ∧ entry.serial ≠ serial :=
      fun _ _ => (h.slots_dropBridge serial).mp
    rw [dropBridge_of_bridge hbridge] at hslots ⊢
    obtain ⟨hsticky, hconfig⟩ := w.state.detach_frame serial
    constructor
    · exact hconfig.trans h.config_eq
    · exact DockState.allPlaced_detach h.placed serial
    · intro i entry hentry
      simp only [hsticky]
      exact h.sticky i entry (hslots i entry hentry).1
    · intro i entry hentry
      obtain ⟨hold, hne⟩ := hslots i entry hentry
      simp only [AList.lookup_erase_ne hne]
      exact h.bridge i entry hold

/-- Scanning a device attaches it if it has no bridge, and does nothing else. -/
theorem scanDevice_cases (w : UsbWatcher) (dev : Detected) :
    w.scanDevice dev = w ∨ w.activeBridges.lookup dev.info.serial = none ∧
      w.scanDevice dev = w.attach (.openFromInfo dev.info) := by
  rw [UsbWatcher.scanDevice]
  split
  · split
    · exact .inl rfl
    · next hnone =>
      split
      · exact .inr ⟨hnone, rfl⟩
      · exact .inl rfl
  · exact .inl rfl

theorem Consistent.scanDevice (h : w.Consistent config) (dev : Detected) :
    (w.scanDevice dev).Consistent config := by
  obtain hsame | ⟨hnone, hattach⟩ := w.scanDevice_cases dev
  · rwa [hsame]
  · rw [hattach]
    exact h.attach hnone

end UsbWatcher

/-- **Coherence of the slot table**: whatever the bus lists, the devices refuse and
the bridges signal, every entry of the slot table agrees with the reservations
and with the bridges, and its serial is in no other slot. -/
theorem watcher_coherent (config : DockConfig) (overridePid : Option UInt16)
    (actions : List WatcherLoop.Action) (s : WatcherLoop)
    (hrun : Transition.run WatcherLoop.step (.start config overridePid) actions = some s)
    (i : Slot) (entry : SlotEntry) (hentry : s.watcher.state.slots i = some entry) :
    Coherent config s.watcher i entry := by
  have hconsistent : s.watcher.Consistent config :=
    WatcherLoop.watcher_run (I := fun w => w.Consistent config)
      (fun _ dev h => h.scanDevice dev) (fun _ serial h => h.dropBridge serial)
      (UsbWatcher.consistent_new config overridePid) hrun
  exact hconsistent.coherent hentry

/-- One deck, right after its attach. -/
theorem watcher_coherent_one :
    ∃ s entry, Transition.run WatcherLoop.step (.start DockConfig.default none)
        [.listing [⟨⟨0, vendorIdElgato, 0x0080, some "A"⟩, true⟩], .device] = some s ∧
      s.watcher.state.slots ⟨0, by decide⟩ = some entry ∧
      Coherent DockConfig.default s.watcher ⟨0, by decide⟩ entry := by
  have hcheck : ((Transition.run WatcherLoop.step (.start DockConfig.default none)
      [.listing [⟨⟨0, vendorIdElgato, 0x0080, some "A"⟩, true⟩], .device]).map fun s =>
        (s.watcher.state.slots ⟨0, by decide⟩).isSome) = some true := by
    decide +kernel
  obtain ⟨s, hrun, hs⟩ := Option.map_eq_some_iff.mp hcheck
  obtain ⟨entry, hentry⟩ := Option.isSome_iff_exists.mp hs
  exact ⟨s, entry, hrun, hentry, watcher_coherent DockConfig.default none _ s hrun _ entry hentry⟩

namespace WatcherLoop

theorem run_consistent {config : DockConfig} {overridePid : Option UInt16}
    {actions : List Action} {s : WatcherLoop}
    (hrun : Transition.run step (.start config overridePid) actions = some s) :
    s.watcher.Consistent config :=
  watcher_run (I := fun w => w.Consistent config) (fun _ dev h => h.scanDevice dev)
    (fun _ serial h => h.dropBridge serial) (UsbWatcher.consistent_new config overridePid) hrun

/-- The watcher does nothing to the dock but attach and detach devices. -/
theorem exists_run {config : DockConfig} {overridePid : Option UInt16} {actions : List Action}
    {s : WatcherLoop} (hrun : Transition.run step (.start config overridePid) actions = some s) :
    ∃ ops, s.watcher.state = DockState.run config ops := by
  refine watcher_run (I := fun w => ∃ ops, w.state = DockState.run config ops) ?_ ?_ ⟨[], rfl⟩ hrun
  · rintro w dev ⟨ops, hops⟩
    obtain hsame | ⟨-, hattach⟩ := w.scanDevice_cases dev
    · exact ⟨ops, by rw [hsame, hops]⟩
    · obtain ⟨vid, pid, modelName, hstate, -⟩ := w.attach_eq (.openFromInfo dev.info)
      refine ⟨ops ++ [.attach (.openFromInfo dev.info) vid pid modelName], ?_⟩
      rw [hattach, hstate, DockState.run_concat, ← hops]
      rfl
  · rintro w serial ⟨ops, hops⟩
    rw [UsbWatcher.dropBridge]
    split
    · refine ⟨ops ++ [.detach serial], ?_⟩
      rw [DockState.run_concat, ← hops]
      rfl
    · exact ⟨ops, hops⟩

end WatcherLoop

end OpenNetDeck
