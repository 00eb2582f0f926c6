import OpenNetDeck.Server.Allocation
import OpenNetDeck.Server.CommandLine
import OpenNetDeck.Server.Directory

/-!
# The deck of a Direct client

The primary port hands the first device of the slot table to every connection that it
accepts. The connection keeps the handle, whatever the watcher does to the table.

## Main definitions

- `DockState.firstUsbDevice` — the handle in the lowest slot
- `FrameHandler.accept` — the handler of a new connection

## Main results

- `direct_client_deck` — which deck a client of Direct mode is given, and that it is told
  the deck's own ids and serial number
-/

namespace OpenNetDeck

open Bytes Transition

/-- The first handle in the slot table. -/
def DockState.firstUsbDevice (self : DockState) : Option StreamDeckUsbHandle :=
  (List.finRange maxChildSlots).findSome? fun i => (self.slots i).bind (·.usbDevice)

/-- The handler of a connection that the primary port accepts. -/
def FrameHandler.accept (state : DockState) (localIp : IpAddr) : FrameHandler where
  state
  localIp
  mode := state.config.mode
  usbDevice := state.firstUsbDevice
  hasSentInitialHotplug := false

namespace DockState

variable {s : DockState}

theorem firstUsbDevice_eq_some {deck : StreamDeckUsbHandle} (h : s.firstUsbDevice = some deck) :
    ∃ i entry, s.slots i = some entry ∧ entry.usbDevice = some deck ∧
      ∀ j < i, ∀ entry, s.slots j = some entry → entry.usbDevice = none := by
  obtain ⟨before, i, after, hsplit, hi, hbefore⟩ := List.findSome?_eq_some_iff.mp h
  obtain ⟨entry, hentry, hdeck⟩ := Option.bind_eq_some_iff.mp hi
  refine ⟨i, entry, hentry, hdeck, fun j hj other hother => ?_⟩
  have hnone := hbefore j (mem_of_finRange_eq hsplit hj)
  rwa [hother] at hnone

theorem firstUsbDevice_eq_none :
    s.firstUsbDevice = none ↔ ∀ i entry, s.slots i = some entry → entry.usbDevice = none := by
  rw [firstUsbDevice, List.findSome?_eq_none_iff]
  constructor
  · intro h i entry hentry
    have hnone := h i (List.mem_finRange i)
    rwa [hentry] at hnone
  · intro h i _
    cases hentry : s.slots i with
    | none => rfl
    | some entry => exact h i entry hentry

end DockState

/-- **The deck of a Direct client**: a connection that is accepted at some moment of a run of
the watcher has no deck exactly if every slot is free, and otherwise the one in the lowest
occupied slot, a deck that the bus listed and that was claimed. Whatever becomes of the dock
from then on, the client is told the deck's own ids and serial number, without the product
id that overrides those of the children. -/
theorem direct_client_deck (config : DockConfig) (hmode : config.mode = .direct)
    (overridePid : Option UInt16) (actions : List WatcherLoop.Action) (s : WatcherLoop)
    (hrun : run WatcherLoop.step (.start config overridePid) actions = some s) (localIp : IpAddr)
    (state : DockState) (hasSentInitialHotplug : Bool) (usb : UsbInterface) (frame : CoraFrame)
    (cmd : PrimaryFeatureCommand) (hquery : IdentityQuery frame cmd) :
    ((FrameHandler.accept s.watcher.state localIp).usbDevice = none ↔
      ∀ i, s.watcher.state.slots i = none) ∧
    ∀ deck, (FrameHandler.accept s.watcher.state localIp).usbDevice = some deck →
      ∃ i dev reply handler',
        ((s.watcher.state.slots i).bind (·.usbDevice) = some deck ∧
          ∀ j < i, s.watcher.state.slots j = none) ∧
        WatcherLoop.Claimed (WatcherLoop.listed actions) dev ∧ deck = .openFromInfo dev.info ∧
        FrameHandler.handleFrame { FrameHandler.accept s.watcher.state localIp with
            state, hasSentInitialHotplug } usb frame =
          .ok ({ sent := [reply] }, handler') ∧
        (cmd = .getDeviceInfo →
          deviceInfoReport dev.info.vendorId dev.info.productId <+: reply.drop coraHeaderSize) ∧
        (cmd = .getSerialNumber →
          serialNumberReport dev.info.serial <+: reply.drop coraHeaderSize) := by
  have hknown := WatcherLoop.known_run hrun
  -- every entry that the watcher makes holds a handle
  have hhandle : ∀ i entry, s.watcher.state.slots i = some entry → entry.usbDevice ≠ none := by
    intro i entry hentry
    obtain ⟨dev, -, rfl⟩ := hknown.entries i entry hentry
    simp [DockState.newEntry]
  constructor
  · refine DockState.firstUsbDevice_eq_none.trans ⟨fun h i => ?_, fun h i entry hentry => ?_⟩
    · cases hentry : s.watcher.state.slots i with
      | none => rfl
      | some entry => exact absurd (h i entry hentry) (hhandle i entry hentry)
    · rw [h i] at hentry
      cases hentry
  · intro deck hdeck
    obtain ⟨i, entry, hentry, hfirst, hlower⟩ := DockState.firstUsbDevice_eq_some hdeck
    obtain ⟨dev, hclaimed, hnew⟩ := hknown.entries i entry hentry
    have hdev : deck = .openFromInfo dev.info := by
      rw [hnew] at hfirst
      exact (Option.some.inj hfirst).symm
    set handler : FrameHandler := { FrameHandler.accept s.watcher.state localIp with
      state, hasSentInitialHotplug }
    have hdevice : handler.directDevice = some deck := by
      -- the handler keeps the mode and the handle that it was given
      have hdirect : handler.mode = .direct := by
        show s.watcher.state.config.mode = .direct
        rw [hknown.attached.config_eq, hmode]
      rw [FrameHandler.directDevice, if_pos hdirect]
      exact hdeck
    obtain ⟨reply, handler', hreply, hreport⟩ := handler.handleFrame_identity usb frame
      hquery.not_isProbe (hquery.not_forwards handler) hquery.identity hquery.parsePrimaryQuery_eq
    refine ⟨i, dev, reply, handler', ⟨by rw [hentry]; exact hfirst, fun j hj => ?_⟩, hclaimed, hdev,
      hreply, ?_, ?_⟩
    · cases hother : s.watcher.state.slots j with
      | none => rfl
      | some other => exact absurd (hlower j hj other hother) (hhandle j other hother)
    · rintro rfl
      rwa [FrameHandler.identityReport, FrameHandler.ids, hdevice, hdev] at hreport
    · rintro rfl
      rwa [FrameHandler.identityReport, FrameHandler.serial, hdevice, hdev] at hreport

/-- A deck whose product id is overridden for the clients of the dock. -/
theorem direct_client_deck_override :
    ∃ s deck, run WatcherLoop.step
        (.start { DockConfig.default with mode := .direct } (some 0x006c))
        [.listing [⟨⟨0, vendorIdElgato, 0x0080, some "A"⟩, true⟩], .device] = some s ∧
      (FrameHandler.accept s.watcher.state (.v4 (Block.zeroed 4))).usbDevice = some deck ∧
      ∃ dev reply handler', FrameHandler.handleFrame
          { FrameHandler.accept s.watcher.state (.v4 (Block.zeroed 4)) with
            state := .new .default, hasSentInitialHotplug := false }
          ⟨none, fun _ => .ok [], fun _ => .ok (), fun _ _ => .ok ()⟩
          ⟨CoraHeader.new CoraFlags.none .getReport 7 2, [0x03, 0x80]⟩ =
            .ok ({ sent := [reply] }, handler') ∧
        deck = .openFromInfo dev ∧
        deviceInfoReport dev.vendorId dev.productId <+: reply.drop coraHeaderSize := by
  have hcheck : ((run WatcherLoop.step
      (.start { DockConfig.default with mode := .direct } (some 0x006c))
      [.listing [⟨⟨0, vendorIdElgato, 0x0080, some "A"⟩, true⟩], .device]).map fun s =>
        (FrameHandler.accept s.watcher.state (.v4 (Block.zeroed 4))).usbDevice.isSome) =
      some true := by
    decide +kernel
  obtain ⟨s, hrun, hs⟩ := Option.map_eq_some_iff.mp hcheck
  obtain ⟨deck, hdeck⟩ := Option.isSome_iff_exists.mp hs
  obtain ⟨-, hgiven⟩ := direct_client_deck _ rfl _ _ s hrun (.v4 (Block.zeroed 4))
    (.new .default) false ⟨none, fun _ => .ok [], fun _ => .ok (), fun _ _ => .ok ()⟩
    ⟨CoraHeader.new CoraFlags.none .getReport 7 2, [0x03, 0x80]⟩ .getDeviceInfo
    ⟨.inl rfl, rfl, .inl rfl⟩
  obtain ⟨-, dev, reply, handler', -, -, hdev, hreply, hids, -⟩ := hgiven deck hdeck
  exact ⟨s, deck, hrun, hdeck, dev.info, reply, handler', hreply, hdev, hids rfl⟩

end OpenNetDeck
