import OpenNetDeck.Lib.Radix
import OpenNetDeck.Server.FrameHandler
import OpenNetDeck.Server.SecondaryHandler
import OpenNetDeck.Server.Usb.Watcher

/-!
# The command line

`main.rs`: the arguments that say who the dock is, read from their texts, and what the
clients are told of them.

## Main definitions

- `parseMac`, `parsePid` — the arguments that are read from a text
- `Args.config`, `Args.overridePid` — what the server is started with
- `MacText` — the texts of a MAC address

## Main results

- `parse_mac_exact` — the texts that are read as a MAC address
- `parse_pid_exact` — the texts that are read as a product id
- `identity_reaches_client` — a client is told what the command line says, at any
  moment of any run
-/

namespace OpenNetDeck

open Bytes Checked Radix

/-- A byte of a MAC address. -/
def parseMacByte (part : List Char) : Option UInt8 := (fromStrRadix 16 256 part).map UInt8.ofNat

/-- Six bytes, with colons between them. -/
def parseMac (macStr : String) : Option (Block 6) :=
  let parts := macStr.toList.splitOn ':'
  if parts.length ≠ 6 then none
  else (parts.mapM parseMacByte).map (Block.ofList 6)

/-- A product id, in hexadecimal behind `0x`. -/
def parsePid (pidStr : String) : Option UInt16 :=
  match pidStr.toList with
  | '0' :: 'x' :: stripped => (fromStrRadix 16 65536 stripped).map UInt16.ofNat
  | digits => (fromStrRadix 10 65536 digits).map UInt16.ofNat

/-- The arguments that the dock and its watcher are made of. -/
structure Args where
  port : UInt16 := 5343
  secondaryPort : UInt16 := 5344
  mode : ServerMode := .dock
  childPid : Option String := none
  serial : String := "DL01A1A00001"
  firmware : String := "1.0.0.0"
  mac : String := "00:1a:7d:da:71:01"

namespace Args

def macAddress (args : Args) : Block 6 :=
  (parseMac args.mac).getD (.ofList 6 [0x00, 0x1a, 0x7d, 0xda, 0x71, 0x01])

def overridePid (args : Args) : Option UInt16 := args.childPid.bind parsePid

def config (args : Args) : DockConfig where
  serialNumber := args.serial
  firmwareVersion := args.firmware
  macAddress := args.macAddress
  primaryPort := args.port
  secondaryPort := args.secondaryPort
  mode := args.mode

/-- The loop of the watcher, as `main` starts it. -/
def watcher (args : Args) : WatcherLoop := .start args.config args.overridePid

end Args

/-! ### The texts of a MAC address -/

/-- Six numerals with colons between them, each below 256. -/
def MacText (macStr : String) (mac : Block 6) : Prop :=
  ∃ parts, macStr.toList = List.intercalate [':'] parts ∧
    List.Forall₂ (fun part b => Numeral 16 part b.toNat) parts mac.val

theorem parseMacByte_eq_some {part : List Char} {b : UInt8} :
    parseMacByte part = some b ↔ Numeral 16 part b.toNat := by
  rw [parseMacByte, Option.map_eq_some_iff]
  constructor
  · rintro ⟨n, hn, rfl⟩
    obtain ⟨hnumeral, hlt⟩ := (fromStrRadix_eq_some (by decide) (by decide)).mp hn
    rwa [UInt8.toNat_ofNat_of_lt' hlt]
  · intro h
    exact ⟨b.toNat, (fromStrRadix_eq_some (by decide) (by decide)).mpr ⟨h, b.toNat_lt⟩,
      UInt8.ofNat_toNat⟩

theorem mapM_parseMacByte {parts : List (List Char)} {bytes : List UInt8} :
    parts.mapM parseMacByte = some bytes ↔
      List.Forall₂ (fun part b => Numeral 16 part b.toNat) parts bytes := by
  induction parts generalizing bytes with
  | nil => simp [eq_comm]
  | cons part parts ih =>
    rw [List.mapM_cons, Option.bind_eq_bind, Option.bind_eq_some_iff,
      List.forall₂_cons_left_iff]
    simp only [Option.bind_eq_bind, Option.bind_eq_some_iff, Option.pure_def, Option.some.injEq,
      parseMacByte_eq_some, ih]
    constructor
    · rintro ⟨b, hb, bytes, hbytes, rfl⟩
      exact ⟨b, bytes, hb, hbytes, rfl⟩
    · rintro ⟨b, bytes, hb, hbytes, rfl⟩
      exact ⟨b, hb, bytes, hbytes, rfl⟩

/-- There is no colon in a numeral. -/
theorem colon_not_mem_parts {parts : List (List Char)} {bytes : List UInt8}
    (h : List.Forall₂ (fun part b => Numeral 16 part b.toNat) parts bytes) :
    ∀ part ∈ parts, ':' ∉ part := by
  induction h with
  | nil => exact List.forall_mem_nil _
  | cons hb _ ih => exact List.forall_mem_cons.mpr ⟨fun hmem => hb.isDigit hmem (by decide) rfl, ih⟩

theorem parseMac_eq_some {macStr : String} {mac : Block 6} :
    parseMac macStr = some mac ↔ MacText macStr mac := by
  constructor
  · intro h
    rw [parseMac, Option.ite_none_left_eq_some, Option.map_eq_some_iff] at h
    obtain ⟨hlen, bytes, hbytes, rfl⟩ := h
    have hparts := mapM_parseMacByte.mp hbytes
    have hsix : bytes.length = 6 := hparts.length_eq.symm.trans (not_not.mp hlen)
    refine ⟨_, (List.intercalate_splitOn ':').symm, ?_⟩
    rwa [Block.val_ofList hsix.le, hsix, Nat.sub_self, List.replicate_zero, List.append_nil]
  · rintro ⟨parts, htext, hparts⟩
    have hsix : parts.length = 6 := hparts.length_eq.trans mac.property
    -- there is no colon in a numeral, so the text is cut where it was joined
    have hsplit : macStr.toList.splitOn ':' = parts := by
      rw [htext]
      refine List.splitOn_intercalate ':' (colon_not_mem_parts hparts) ?_
      rintro rfl
      cases hsix
    rw [parseMac, hsplit, if_neg (not_not.mpr hsix), mapM_parseMacByte.mpr hparts, Option.map_some,
      Option.some.injEq]
    refine Subtype.ext ?_
    rw [Block.val_ofList mac.property.le, mac.property, Nat.sub_self, List.replicate_zero,
      List.append_nil]

/-- A MAC address, written with two digits a byte. -/
def macString (mac : Block 6) : String :=
  String.ofList (List.intercalate [':'] (mac.val.map fun b => hexByte b.toNat))

theorem macText_macString (mac : Block 6) : MacText (macString mac) mac := by
  refine ⟨_, String.toList_ofList, List.forall₂_map_left_iff.mpr (List.forall₂_same.mpr ?_)⟩
  intro b hb
  exact ⟨_, .inl rfl, denotes_hexByte b.toNat_lt⟩

/-- **What is read as a MAC address**: exactly six hexadecimal numerals below 256 with
colons between them, each with or without a plus and leading zeros. An address written
with two digits a byte is read back. -/
theorem parse_mac_exact (macStr : String) (mac : Block 6) :
    (parseMac macStr = some mac ↔ MacText macStr mac) ∧
      parseMac (macString mac) = some mac :=
  ⟨parseMac_eq_some, parseMac_eq_some.mpr (macText_macString mac)⟩

/-! ### The texts of a product id -/

theorem map_fromStrRadix_eq_some {radix : ℕ} (hradix : 0 < radix) {digits : List Char}
    {pid : UInt16} :
    (fromStrRadix radix 65536 digits).map UInt16.ofNat = some pid ↔
      Numeral radix digits pid.toNat := by
  rw [Option.map_eq_some_iff]
  constructor
  · rintro ⟨n, hn, rfl⟩
    obtain ⟨hnumeral, hlt⟩ := (fromStrRadix_eq_some hradix (by decide)).mp hn
    rwa [UInt16.toNat_ofNat_of_lt' hlt]
  · intro h
    exact ⟨pid.toNat, (fromStrRadix_eq_some hradix (by decide)).mpr ⟨h, pid.toNat_lt⟩,
      UInt16.ofNat_toNat⟩

/-- **What is read as a product id**: a hexadecimal numeral behind `0x`, or a decimal one. -/
theorem parse_pid_exact (pidStr : String) (pid : UInt16) :
    parsePid pidStr = some pid ↔
      (∃ stripped, pidStr.toList = '0' :: 'x' :: stripped ∧ Numeral 16 stripped pid.toNat) ∨
        Numeral 10 pidStr.toList pid.toNat := by
  rw [parsePid]
  split
  · next stripped hhead =>
    -- an `x` is no decimal digit
    have hx : ¬ Numeral 10 pidStr.toList pid.toNat := by
      intro h
      rw [hhead] at h
      exact h.isDigit (List.mem_cons_of_mem _ List.mem_cons_self) (by decide) rfl
    rw [map_fromStrRadix_eq_some (by decide), or_iff_left hx]
    constructor
    · intro h
      exact ⟨stripped, hhead, h⟩
    · rintro ⟨stripped', hhead', h⟩
      rw [hhead] at hhead'
      cases hhead'
      exact h
  · next digits hhead =>
    rw [map_fromStrRadix_eq_some (by decide), or_iff_right]
    rintro ⟨stripped, htext, -⟩
    exact hhead stripped htext

/-! ### Who the dock is -/

/-- The serial number that a handler answers with. -/
def FrameHandler.serial (self : FrameHandler) : String :=
  (self.directDevice.map StreamDeckUsbHandle.serialNumber).getD self.state.config.serialNumber

namespace FrameHandler

/-- The vendor and product id that a handler answers with. -/
def ids (self : FrameHandler) : UInt16 × UInt16 :=
  (self.directDevice.map fun dev => (dev.vendorId, dev.productId)).getD
    (vendorIdElgato, productIdNetworkDock)

/-- The report that a query for the identity gets. -/
def identityReport (self : FrameHandler) : PrimaryFeatureCommand → List UInt8
  | .getDeviceInfo => deviceInfoReport self.ids.1 self.ids.2
  | .getFirmwareVersion => firmwareVersionReport self.state.config.firmwareVersion
  | .getSerialNumber => serialNumberReport self.serial
  | .getMacAddress => macAddressReport self.state.config.macAddress
  | _ => []

/-- Those that ask for a part of it. -/
def asksIdentity (cmd : PrimaryFeatureCommand) : Prop :=
  cmd = .getDeviceInfo ∨ cmd = .getFirmwareVersion ∨ cmd = .getSerialNumber ∨
    cmd = .getMacAddress

variable (self : FrameHandler) (usb : UsbInterface) (frame : CoraFrame)

theorem identityReport_length_le (cmd : PrimaryFeatureCommand) :
    (self.identityReport cmd).length ≤ 128 := by
  cases cmd with
  | getFirmwareVersion => exact (firmwareVersionReport_length _).le.trans (by decide)
  | getSerialNumber => exact (serialNumberReport_length_le _).trans (by decide)
  | getMacAddress => exact (macAddressReport_length _).le.trans (by decide)
  | getDeviceInfo => exact (show 16 ≤ 128 by decide)
  | getChildDeviceInfo => exact Nat.zero_le _
  | other opcode => exact Nat.zero_le _

theorem answerCommand_identity {cmd : PrimaryFeatureCommand} (hcmd : asksIdentity cmd)
    {out : List UInt8} (hout : out.length = 1024) :
    self.answerCommand usb frame cmd out =
      .ok { respPayload := self.identityReport cmd ++ out.drop (self.identityReport cmd).length
            hasSentInitialHotplug := self.hasSentInitialHotplug } := by
  rw [answerCommand.eq_def]
  obtain rfl | rfl | rfl | rfl := hcmd
  · dsimp only [identityReport, ids]
    cases self.directDevice with
    | none =>
      dsimp only
      rw [buildDeviceInfoPayload_eq _ _ (by omega)]
      rfl
    | some dev =>
      dsimp only
      rw [buildDeviceInfoPayload_eq _ _ (by omega)]
      rfl
  · dsimp only [identityReport]
    rw [buildFirmwareVersionPayload_eq _ (by omega), firmwareVersionReport_length]
    rfl
  · dsimp only [identityReport, serial]
    cases self.directDevice with
    | none =>
      dsimp only
      rw [buildSerialNumberPayload_eq _ (by omega)]
      rfl
    | some dev =>
      dsimp only
      rw [buildSerialNumberPayload_eq _ (by omega)]
      rfl
  · dsimp only [identityReport]
    rw [buildMacAddressPayload_eq _ (by omega), macAddressReport_length]
    rfl

/-- The reply carries the report. -/
theorem handleFrame_identity (hprobe : ¬ frame.IsProbe) (hforwards : ¬ self.Forwards frame)
    {cmd : PrimaryFeatureCommand} (hcmd : asksIdentity cmd)
    (hquery : parsePrimaryQuery frame.payload = .ok (some cmd)) :
    ∃ reply handler', self.handleFrame usb frame = .ok ({ sent := [reply] }, handler') ∧
      self.identityReport cmd <+: reply.drop coraHeaderSize := by
  obtain ⟨a, ha, -, -, -, hreply⟩ := self.handleQuery_ok usb frame hquery
  have hout : (0x03 :: cmd.asU8 :: List.replicate 1022 0).length = 1024 := by
    rw [List.length_cons, List.length_cons, List.length_replicate]
  rw [answer_eq, self.answerCommand_identity usb frame hcmd hout] at ha
  cases ha
  refine ⟨_, _, (self.handleFrame_of_query usb frame hprobe hforwards).trans hreply, ?_⟩
  have hle : (self.identityReport cmd).length ≤ respLen frame cmd := by
    have hlength := self.identityReport_length_le cmd
    rw [respLen]
    split <;> omega
  rw [CoraFrame.drop_toVec]
  show self.identityReport cmd <+: (self.identityReport cmd ++ _).take (respLen frame cmd)
  rw [List.take_append, List.take_of_length_le hle]
  exact List.prefix_append _ _

end FrameHandler

/-- A feature query for what the command line says. -/
structure IdentityQuery (frame : CoraFrame) (cmd : PrimaryFeatureCommand) : Prop where
  query : SecondaryConnection.IsFeatureQuery frame
  command : commandByte frame.payload = some cmd.asU8
  identity : FrameHandler.asksIdentity cmd

namespace IdentityQuery

variable {frame : CoraFrame} {cmd : PrimaryFeatureCommand}

theorem parsePrimaryQuery_eq (h : IdentityQuery frame cmd) :
    parsePrimaryQuery frame.payload = .ok (some cmd) := by
  rw [OpenNetDeck.parsePrimaryQuery_eq, h.command]
  obtain rfl | rfl | rfl | rfl := h.identity <;> rfl

theorem not_isProbe (h : IdentityQuery frame cmd) : ¬ frame.IsProbe := by
  rintro ⟨hlen, hfirst, -⟩
  have hcommand := h.command
  rw [commandByte_of_two_le (by omega), hfirst, if_neg (by decide), Option.some.injEq] at hcommand
  obtain rfl | rfl | rfl | rfl := h.identity <;> cases hcommand

theorem not_forwards (h : IdentityQuery frame cmd) (handler : FrameHandler) :
    ¬ handler.Forwards frame :=
  handler.not_forwards_of_query frame h.query

end IdentityQuery

/-- The MAC address is the one that the argument is the text of, or the default. -/
theorem Args.macAddress_eq (args : Args) :
    MacText args.mac args.macAddress ∨ (∀ mac, ¬ MacText args.mac mac) ∧
      args.macAddress.val = [0x00, 0x1a, 0x7d, 0xda, 0x71, 0x01] := by
  rw [Args.macAddress]
  cases hparse : parseMac args.mac with
  | some mac => exact .inl (parseMac_eq_some.mp hparse)
  | none =>
    refine .inr ⟨fun mac hmac => ?_, rfl⟩
    rw [parseMac_eq_some.mpr hmac] at hparse
    cases hparse

/-- **Who the dock says it is**: at any moment of any run of the watcher, a client that asks
for the ids, the firmware version, the serial number or the MAC address is told those of a
dock and what the command line says, the strings cut. A device that the handler has in
Direct mode comes first for the ids and the serial number. The MAC address is the one that
its argument is the text of, or the default if it is the text of none. -/
theorem identity_reaches_client (args : Args) (actions : List WatcherLoop.Action)
    (s : WatcherLoop) (hrun : Transition.run WatcherLoop.step args.watcher actions = some s)
    (handler : FrameHandler) (hstate : handler.state = s.watcher.state) (usb : UsbInterface)
    (frame : CoraFrame) (cmd : PrimaryFeatureCommand) (hquery : IdentityQuery frame cmd) :
    ∃ reply handler', handler.handleFrame usb frame = .ok ({ sent := [reply] }, handler') ∧
      (cmd = .getDeviceInfo →
        deviceInfoReport handler.ids.1 handler.ids.2 <+: reply.drop coraHeaderSize) ∧
      (cmd = .getFirmwareVersion →
        firmwareVersionReport args.firmware <+: reply.drop coraHeaderSize) ∧
      (cmd = .getSerialNumber →
        serialNumberReport ((handler.directDevice.map StreamDeckUsbHandle.serialNumber).getD
          args.serial) <+: reply.drop coraHeaderSize) ∧
      (cmd = .getMacAddress → ∃ mac, macAddressReport mac <+: reply.drop coraHeaderSize ∧
        (MacText args.mac mac ∨ (∀ mac, ¬ MacText args.mac mac) ∧
          mac.val = [0x00, 0x1a, 0x7d, 0xda, 0x71, 0x01])) := by
  -- the watcher only attaches and detaches: the configuration stays as it is
  obtain ⟨ops, hops⟩ := WatcherLoop.exists_run hrun
  have hconfig : handler.state.config = args.config := by
    rw [hstate, hops, DockState.config_run]
  obtain ⟨reply, handler', hhandle, hreport⟩ := handler.handleFrame_identity usb frame
    hquery.not_isProbe (hquery.not_forwards handler) hquery.identity hquery.parsePrimaryQuery_eq
  refine ⟨reply, handler', hhandle, ?_, ?_, ?_, ?_⟩
  · rintro rfl
    exact hreport
  · rintro rfl
    rwa [FrameHandler.identityReport, hconfig] at hreport
  · rintro rfl
    rwa [FrameHandler.identityReport, FrameHandler.serial, hconfig] at hreport
  · rintro rfl
    rw [FrameHandler.identityReport, hconfig] at hreport
    exact ⟨args.macAddress, hreport, args.macAddress_eq⟩

/-- A MAC address of five bytes is the text of none. -/
theorem identity_reaches_client_default :
    ∃ s reply handler', Transition.run WatcherLoop.step
        { mac := "00:1a:7d:da:71" : Args }.watcher [.scanError] = some s ∧
      FrameHandler.handleFrame ⟨s.watcher.state, .v4 (Block.zeroed 4), .dock, none, false⟩
          ⟨none, fun _ => .ok [], fun _ => .ok (), fun _ _ => .ok ()⟩
          ⟨CoraHeader.new CoraFlags.none .getReport 7 2, [0x03, 0x85]⟩ =
        .ok ({ sent := [reply] }, handler') ∧
      ∃ mac, macAddressReport mac <+: reply.drop coraHeaderSize := by
  obtain ⟨reply, handler', hhandle, -, -, -, hmac⟩ := identity_reaches_client
    { mac := "00:1a:7d:da:71" } [.scanError] _ rfl
    ⟨_, .v4 (Block.zeroed 4), .dock, none, false⟩ rfl
    ⟨none, fun _ => .ok [], fun _ => .ok (), fun _ _ => .ok ()⟩
    ⟨CoraHeader.new CoraFlags.none .getReport 7 2, [0x03, 0x85]⟩ .getMacAddress
    ⟨.inl rfl, rfl, .inr (.inr (.inr rfl))⟩
  obtain ⟨mac, hreport, -⟩ := hmac rfl
  exact ⟨_, reply, handler', rfl, hhandle, mac, hreport⟩

end OpenNetDeck
