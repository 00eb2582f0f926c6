import OpenNetDeck.Server.FrameHandler
import OpenNetDeck.Server.SecondaryHandler
import OpenNetDeck.Server.Usb.Watcher

/-!
# One deck on two ports

A 0x1c query for the slot of a deck can be put to the primary port, which answers
from the entry made when the deck was attached, and to the deck's own secondary
bridge, which answers from the USB handle.

## Main definitions

- `ChildQuery` — a frame that both ports take for a 0x1c query
- `PortsAgree` — the two ports describe the same child

## Main results

- `UsbWatcher.attached_run` — where the entries of the slot table come from
- `two_ports_agree_iff` — the two ports agree about a deck exactly if its port is
  5344 and its product id is not overridden
-/

namespace OpenNetDeck

open Bytes Checked

/-! ### Where entries come from -/

namespace UsbWatcher

/-- The name under which the watcher announces a device. -/
def modelName (overridePid : Option UInt16) (device : StreamDeckUsbHandle) : String :=
  let pid := overridePid.getD device.productId
  (((matchStreamdeckModel device.vendorId pid).map (·.name)).or
    (device.model.map (·.name))).getD "Stream Deck"

/-- The entry that an attach makes for a device of the bus. -/
def Attached (config : DockConfig) (overridePid : Option UInt16) (i : Slot)
    (entry : SlotEntry) : Prop :=
  ∃ dev : DeviceInfo, entry =
    DockState.newEntry config i (.openFromInfo dev) dev.vendorId
      (overridePid.getD dev.productId) (modelName overridePid (.openFromInfo dev))

/-- Every entry was made by an attach. -/
structure AllAttached (config : DockConfig) (overridePid : Option UInt16) (w : UsbWatcher) :
    Prop where
  config_eq : w.state.config = config
  overridePid_eq : w.overridePid = overridePid
  entries : ∀ i entry, w.state.slots i = some entry → Attached config overridePid i entry

variable {config : DockConfig} {overridePid : Option UInt16} {w : UsbWatcher}

theorem allAttached_new (config : DockConfig) (overridePid : Option UInt16) :
    (new (.new config) overridePid).AllAttached config overridePid where
  config_eq := rfl
  overridePid_eq := rfl
  entries := nofun

theorem AllAttached.scanDevice (h : w.AllAttached config overridePid) (dev : Detected) :
    (w.scanDevice dev).AllAttached config overridePid := by
  obtain hsame | ⟨-, hattach⟩ := w.scanDevice_cases dev
  · rwa [hsame]
  · rw [hattach]
    refine ⟨h.config_eq, h.overridePid_eq, fun i entry hentry => ?_⟩
    obtain ⟨-, hnew⟩ | ⟨-, hold⟩ := DockState.slots_attach hentry
    · rw [hnew, h.config_eq, h.overridePid_eq]
      exact ⟨dev.info, rfl⟩
    · exact h.entries i entry hold

theorem AllAttached.dropBridge (h : w.AllAttached config overridePid) (serial : String) :
    (w.dropBridge serial).AllAttached config overridePid := by
  rw [UsbWatcher.dropBridge]
  split
  · refine ⟨(w.state.detach_frame serial).2.trans h.config_eq, h.overridePid_eq, ?_⟩
    exact fun i entry hentry => h.entries i entry (DockState.slots_detach hentry).1
  · exact h

theorem attached_run {actions : List WatcherLoop.Action} {s : WatcherLoop}
    (hrun : Transition.run WatcherLoop.step (.start config overridePid) actions = some s) :
    s.watcher.AllAttached config overridePid :=
  WatcherLoop.watcher_run (I := fun w => w.AllAttached config overridePid)
    (fun _ dev h => h.scanDevice dev) (fun _ serial h => h.dropBridge serial)
    (allAttached_new config overridePid) hrun

end UsbWatcher

/-! ### The two answers -/

/-- A feature query for the child in a slot. -/
structure ChildQuery (frame : CoraFrame) (slot : UInt8) : Prop where
  query : SecondaryConnection.IsFeatureQuery frame
  command : commandByte frame.payload = some 0x1c
  slot_eq : frame.payload.getD 2 0 = slot

namespace ChildQuery

variable {frame : CoraFrame} {slot : UInt8}

theorem payload_ne_nil (h : ChildQuery frame slot) : frame.payload ≠ [] := by
  intro hnil
  have hcommand := h.command
  rw [hnil] at hcommand
  cases hcommand

/-- It is no keepalive. -/
theorem not_keepalive (h : ChildQuery frame slot) : ¬ frame.IsProbe ∧ ¬ frame.IsAck := by
  have hcommand := h.command
  rw [CoraFrame.IsProbe, CoraFrame.IsAck]
  match hpayload : frame.payload with
  | [] => exact absurd hpayload h.payload_ne_nil
  | [b] => simp
  | b :: c :: rest =>
    rw [hpayload, commandByte, Option.some.injEq] at hcommand
    constructor
    · rintro ⟨-, hb, -⟩
      simp only [List.getD_cons_zero] at hb
      subst hb
      cases hcommand
    · rintro ⟨-, hb, hc⟩
      simp only [List.getD_cons_zero, List.getD_cons_succ] at hb hc
      subst hb hc
      cases hcommand

end ChildQuery

/-- What the primary port answers, whatever its mode: a query is not forwarded. -/
theorem primary_answer (handler : FrameHandler) (usb : UsbInterface) {frame : CoraFrame}
    {slot : UInt8} (h : ChildQuery frame slot) :
    ∃ handler', handler.handleFrame usb frame = .ok
      ({ sent := [(FrameHandler.responseFrame frame
        ((handler.state.childDeviceAt slot).buildPayload false slot).val).toVec] }, handler') := by
  have hcmd : parsePrimaryQuery frame.payload = .ok (some .getChildDeviceInfo) := by
    rw [parsePrimaryQuery_eq, h.command]
    rfl
  rw [← h.slot_eq]
  exact handler.handleFrame_of_child usb frame h.not_keepalive.1
    (handler.not_forwards_of_query frame h.query) hcmd

/-- What the secondary bridge of a device answers. -/
theorem secondary_answer (device : StreamDeckUsbHandle) (usb : UsbInterface) {frame : CoraFrame}
    {slot : UInt8} (h : ChildQuery frame slot) :
    ∃ n, SecondaryConnection.handleIncomingFrame device usb frame = .ok
      { sent := [(SecondaryConnection.replyFrame frame
        (((SecondaryConnection.ownChild device slot).buildPayload false slot).val ++
          List.replicate n 0)).toVec] } := by
  have hid := SecondaryConnection.reportId_of_command frame h.command
  rw [SecondaryConnection.handleIncomingFrame_of_not_keepalive device usb frame
    h.not_keepalive.1 h.not_keepalive.2, if_pos h.query, SecondaryConnection.answerQuery,
    if_neg (by simpa using h.payload_ne_nil), hid, ← h.slot_eq]
  exact ⟨_, SecondaryConnection.answerChild_eq device frame⟩

/-- Both ports reply, and the first 128 payload bytes of the bridge are the payload
of the primary port. -/
def PortsAgree (handler : FrameHandler) (device : StreamDeckUsbHandle)
    (primaryUsb deviceUsb : UsbInterface) (frame : CoraFrame) : Prop :=
  ∃ primary handler' secondary,
    handler.handleFrame primaryUsb frame = .ok ({ sent := [primary] }, handler') ∧
      SecondaryConnection.handleIncomingFrame device deviceUsb frame =
        .ok { sent := [secondary] } ∧
      (secondary.drop coraHeaderSize).take 128 = primary.drop coraHeaderSize

/-- The ports agree if the bridge's own child is the child in the slot, byte for
byte. -/
theorem portsAgree_iff (handler : FrameHandler) (device : StreamDeckUsbHandle)
    (primaryUsb deviceUsb : UsbInterface) {frame : CoraFrame} {slot : UInt8}
    (h : ChildQuery frame slot) :
    PortsAgree handler device primaryUsb deviceUsb frame ↔
      (SecondaryConnection.ownChild device slot).buildPayload false slot =
        (handler.state.childDeviceAt slot).buildPayload false slot := by
  obtain ⟨handler', hprimary⟩ := primary_answer handler primaryUsb h
  obtain ⟨n, hsecondary⟩ := secondary_answer device deviceUsb h
  have hlen := ((SecondaryConnection.ownChild device slot).buildPayload false slot).property
  rw [PortsAgree, hprimary, hsecondary, ← Subtype.val_inj]
  constructor
  · rintro ⟨primary, _, secondary, hp, hs, heq⟩
    cases hp
    cases hs
    rw [CoraFrame.drop_toVec, CoraFrame.drop_toVec] at heq
    exact (List.take_left' hlen).symm.trans heq
  · intro heq
    refine ⟨_, _, _, rfl, rfl, ?_⟩
    rw [CoraFrame.drop_toVec, CoraFrame.drop_toVec]
    exact (List.take_left' hlen).trans heq

/-- Two children with the same payload have the same product id and port. -/
theorem ids_of_buildPayload {child other : ChildDeviceInfo} {slot : UInt8}
    (hchild : child.isConnected = true) (hother : other.isConnected = true)
    (h : child.buildPayload false slot = other.buildPayload false slot) :
    child.productId = other.productId ∧ child.tcpPort = other.tcpPort := by
  obtain ⟨hpid, hport⟩ := ChildDeviceInfo.read_buildPayload hchild slot
  obtain ⟨hpid', hport'⟩ := ChildDeviceInfo.read_buildPayload hother slot
  rw [h] at hpid hport
  exact ⟨UInt16.toNat_inj.mp (leBytes_inj child.productId.toNat_lt other.productId.toNat_lt
      (hpid.symm.trans hpid')),
    UInt16.toNat_inj.mp (leBytes_inj child.tcpPort.toNat_lt other.tcpPort.toNat_lt
      (hport.symm.trans hport'))⟩

theorem childDeviceAt_of_slot {dock : DockState} {i : Slot} {entry : SlotEntry}
    (h : dock.slots i = some entry) : dock.childDeviceAt i.asU8 = entry.childInfo := by
  rw [DockState.childDeviceAt_eq, DockState.table_asU8, h]
  rfl

/-- What the bridge says of its device is what the entry says of it exactly if the
port is 5344 and the product id is the device's own. -/
theorem portsAgree_of_attached {config : DockConfig} {overridePid : Option UInt16} {i : Slot}
    {entry : SlotEntry} (hattached : UsbWatcher.Attached config overridePid i entry)
    {device : StreamDeckUsbHandle} (hdevice : entry.usbDevice = some device) :
    (SecondaryConnection.ownChild device i.asU8).buildPayload false i.asU8 =
        entry.childInfo.buildPayload false i.asU8 ↔
      entry.port = 5344 ∧ overridePid.getD device.productId = device.productId := by
  obtain ⟨dev, rfl⟩ := hattached
  cases hdevice
  constructor
  · intro h
    obtain ⟨hpid, hport⟩ := ids_of_buildPayload rfl rfl h
    exact ⟨hport.symm, hpid.symm⟩
  · rintro ⟨hport, hpid⟩
    have hpid' : overridePid.getD dev.productId = dev.productId := hpid
    have hname : UsbWatcher.modelName overridePid (.openFromInfo dev) =
        ((StreamDeckUsbHandle.openFromInfo dev).model.map (·.name)).getD "Stream Deck" := by
      rw [UsbWatcher.modelName, hpid]
      exact congrArg (Option.getD · "Stream Deck") Option.or_self
    have hchild : SecondaryConnection.ownChild (.openFromInfo dev) i.asU8 =
        ChildDeviceInfo.connected i.asU8 dev.vendorId (overridePid.getD dev.productId)
          (UsbWatcher.modelName overridePid (.openFromInfo dev)) dev.serial
          (DockState.newEntry config i (.openFromInfo dev) dev.vendorId
            (overridePid.getD dev.productId)
            (UsbWatcher.modelName overridePid (.openFromInfo dev))).port := by
      rw [hport, hpid', hname]
      rfl
    rw [hchild]
    rfl

/-- **Two ports, one deck**: for every run of the watcher, the 0x1c answers of the
primary port in Dock mode and of the deck's own bridge describe the same child
exactly if the port of the deck is 5344 and its product id is not overridden. -/
theorem two_ports_agree_iff (config : DockConfig) (overridePid : Option UInt16)
    (actions : List WatcherLoop.Action) (s : WatcherLoop)
    (hrun : Transition.run WatcherLoop.step (.start config overridePid) actions = some s)
    (i : Slot) (entry : SlotEntry) (hentry : s.watcher.state.slots i = some entry)
    (device : StreamDeckUsbHandle) (hdevice : entry.usbDevice = some device)
    (localIp : IpAddr) (usbDevice : Option StreamDeckUsbHandle) (hasSentInitialHotplug : Bool)
    (primaryUsb deviceUsb : UsbInterface) (frame : CoraFrame) (hquery : ChildQuery frame i.asU8) :
    PortsAgree ⟨s.watcher.state, localIp, .dock, usbDevice, hasSentInitialHotplug⟩ device
        primaryUsb deviceUsb frame ↔
      entry.port = 5344 ∧ overridePid.getD device.productId = device.productId := by
  have hattached := (UsbWatcher.attached_run hrun).entries i entry hentry
  rw [portsAgree_iff _ _ _ _ hquery, childDeviceAt_of_slot hentry]
  exact portsAgree_of_attached hattached hdevice

/-- One deck on default settings, asked for its own slot. -/
theorem two_ports_agree_iff_one :
    ∃ s entry device, Transition.run WatcherLoop.step (.start DockConfig.default none)
        [.listing [⟨⟨0, vendorIdElgato, 0x0080, some "A"⟩, true⟩], .device] = some s ∧
      s.watcher.state.slots ⟨0, by decide⟩ = some entry ∧ entry.usbDevice = some device ∧
      (PortsAgree ⟨s.watcher.state, .v4 (Block.zeroed 4), .dock, none, false⟩ device
          ⟨none, fun _ => .ok [], fun _ => .ok (), fun _ _ => .ok ()⟩
          ⟨none, fun _ => .ok [], fun _ => .ok (), fun _ _ => .ok ()⟩
          ⟨CoraHeader.new CoraFlags.none .getReport 7 3, [0x03, 0x1c, 0x00]⟩ ↔
        entry.port = 5344 ∧ (none : Option UInt16).getD device.productId = device.productId) := by
  have hcheck : ((Transition.run WatcherLoop.step (.start DockConfig.default none)
      [.listing [⟨⟨0, vendorIdElgato, 0x0080, some "A"⟩, true⟩], .device]).map fun s =>
        ((s.watcher.state.slots ⟨0, by decide⟩).bind (·.usbDevice)).isSome) = some true := by
    decide +kernel
  obtain ⟨s, hrun, hs⟩ := Option.map_eq_some_iff.mp hcheck
  obtain ⟨device, hdevice⟩ := Option.isSome_iff_exists.mp hs
  obtain ⟨entry, hentry, hdevice⟩ := Option.bind_eq_some_iff.mp hdevice
  exact ⟨s, entry, device, hrun, hentry, hdevice,
    two_ports_agree_iff DockConfig.default none _ s hrun _ entry hentry device hdevice _ _ _ _ _ _
      ⟨by decide, rfl, rfl⟩⟩

/-- Two decks on default settings: the second one, in slot 1 and on port 5345, is
announced with port 5344 by its own bridge. -/
theorem two_ports_disagree :
    ¬ ∀ (config : DockConfig) (overridePid : Option UInt16) (actions : List WatcherLoop.Action)
      (s : WatcherLoop) (i : Slot) (entry : SlotEntry) (device : StreamDeckUsbHandle)
      (localIp : IpAddr) (primaryUsb deviceUsb : UsbInterface) (frame : CoraFrame),
      Transition.run WatcherLoop.step (.start config overridePid) actions = some s →
      s.watcher.state.slots i = some entry → entry.usbDevice = some device →
      ChildQuery frame i.asU8 →
      PortsAgree ⟨s.watcher.state, localIp, .dock, none, false⟩ device primaryUsb deviceUsb
        frame := by
  intro hall
  have hcheck : ((Transition.run WatcherLoop.step (.start DockConfig.default none)
      [.listing [⟨⟨0, vendorIdElgato, 0x0080, some "A"⟩, true⟩,
        ⟨⟨1, vendorIdElgato, 0x0080, some "B"⟩, true⟩], .device, .device]).map fun s =>
      (s.watcher.state.slots ⟨1, by decide⟩).map fun entry =>
        decide (entry.usbDevice.isSome ∧ entry.port ≠ 5344)) = some (some true) := by
    decide +kernel
  obtain ⟨s, hrun, hs⟩ := Option.map_eq_some_iff.mp hcheck
  obtain ⟨entry, hentry, hport⟩ := Option.map_eq_some_iff.mp hs
  obtain ⟨hdevice, hport⟩ := of_decide_eq_true hport
  obtain ⟨device, hdevice⟩ := Option.isSome_iff_exists.mp hdevice
  have hquery : ChildQuery
      ⟨CoraHeader.new CoraFlags.none .getReport 7 3, [0x03, 0x1c, 0x01]⟩
      (Slot.asU8 ⟨1, by decide⟩) := ⟨by decide, rfl, rfl⟩
  have hagree := hall DockConfig.default none _ s _ entry device (.v4 (Block.zeroed 4))
    ⟨none, fun _ => .ok [], fun _ => .ok (), fun _ _ => .ok ()⟩
    ⟨none, fun _ => .ok [], fun _ => .ok (), fun _ _ => .ok ()⟩ _ hrun hentry hdevice hquery
  rw [portsAgree_iff _ _ _ _ hquery, childDeviceAt_of_slot hentry,
    portsAgree_of_attached ((UsbWatcher.attached_run hrun).entries _ _ hentry) hdevice] at hagree
  exact hport hagree.1

end OpenNetDeck
