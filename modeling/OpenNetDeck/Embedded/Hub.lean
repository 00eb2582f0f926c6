import OpenNetDeck.Server.FrameHandler

/-!
# The embedded hub

`EmbeddedDockHub::handle_frame`, written for a fixed buffer and a list of
children, against `FrameHandler::handle_frame` in Dock mode, written for a slot
table. A hub that is given the children of a dock answers as the dock does.

## Main definitions

- `EmbeddedDockHub.handleFrame` — the handler of the hub
- `SameReply` — no reply from either side, or one from both that carry the same

## Main results

- `DockState.find_allActiveChildren` — searching the children for a slot is
  looking the slot up
- `hub_answers_as_dock` — the two handlers agree
-/

namespace OpenNetDeck

open Bytes Checked

/-- The dock engine for fixed memory. -/
structure EmbeddedDockHub where
  serial : String
  firmware : String
  macAddress : Block 6
  ipAddress : Block 4
  primaryPort : UInt16

namespace EmbeddedDockHub

/-- The network configuration (0x87). -/
def networkReport (self : EmbeddedDockHub) (respPayload : List UInt8) :
    Except Panic (List UInt8) := do
  let respPayload ← store respPayload 2 [0x01]
  let respPayload ← store respPayload 3 [0x01]
  let respPayload ← store respPayload 4 self.ipAddress.val
  let respPayload ← store respPayload 8 [255, 255, 255, 0]
  let respPayload ← store respPayload 12 self.ipAddress.val
  store respPayload 16 (leBytes 2 self.primaryPort.toNat)

/-- The commands without a name of their own. -/
def answerOther (self : EmbeddedDockHub) (opcode : UInt8) (respPayload : List UInt8) :
    Except Panic (List UInt8) :=
  if opcode = 0x87 then self.networkReport respPayload
  else if opcode = 0x8f then do
    let respPayload ← store respPayload 0 [0x03]
    store respPayload 1 [0x8f]
  else if opcode = 0x1a then do
    let respPayload ← store respPayload 0 [0x03]
    store respPayload 1 [0x1a]
  else do
    let respPayload ← store respPayload 0 [0x03]
    store respPayload 1 [opcode]

/-- The branches of the `match` on the command: `resp_payload` and `resp_len`. -/
def answerCommand (self : EmbeddedDockHub) (frame : CoraFrame)
    (activeChildren : List ChildDeviceInfo) (cmd : PrimaryFeatureCommand)
    (respPayload : List UInt8) : Except Panic (List UInt8 × ℕ) :=
  match cmd with
  | .getDeviceInfo => do
    let (_, respPayload) ←
      buildDeviceInfoPayload vendorIdElgato productIdNetworkDock respPayload
    return (respPayload, 1024)
  | .getFirmwareVersion => do
    let (_, respPayload) ← buildFirmwareVersionPayload self.firmware respPayload
    return (respPayload, 1024)
  | .getSerialNumber => do
    let (_, respPayload) ← buildSerialNumberPayload self.serial respPayload
    return (respPayload, 1024)
  | .getMacAddress => do
    let (_, respPayload) ← buildMacAddressPayload self.macAddress respPayload
    return (respPayload, 1024)
  | .getChildDeviceInfo => do
    let requestedSlot ← requestedSlot frame
    let p := match activeChildren.find? (·.slotIndex = requestedSlot) with
      | some child => child.buildPayload false requestedSlot
      | none => (ChildDeviceInfo.disconnected requestedSlot).buildPayload false requestedSlot
    let respPayload ← store respPayload 0 p.val
    return (respPayload, 128)
  | .other opcode => do return (← self.answerOther opcode respPayload, 1024)

def answer (self : EmbeddedDockHub) (frame : CoraFrame) (activeChildren : List ChildDeviceInfo)
    (cmd : PrimaryFeatureCommand) : Except Panic (List UInt8 × ℕ) := do
  let respPayload := List.replicate 1024 0
  let respPayload ← store respPayload 0 [0x03]
  let respPayload ← store respPayload 1 [cmd.asU8]
  self.answerCommand frame activeChildren cmd respPayload

/-- The handler of a frame: what is written to the stream, and `tx_buf` after. -/
def handleFrame (self : EmbeddedDockHub) (frame : CoraFrame)
    (activeChildren : List ChildDeviceInfo) (txBuf : List UInt8) :
    Except Panic (List (List UInt8) × List UInt8) := do
  match ← isKeepaliveProbe frame with
  | some connId =>
    let ackBuf := List.replicate 48 0
    let sent ← sendBuilt (buildKeepaliveAckFrame connId frame.header.messageId ackBuf)
    return (sent, txBuf)
  | none =>
    match ← parsePrimaryQuery frame.payload with
    | some cmd =>
      let (respPayload, respLen) ← self.answer frame activeChildren cmd
      let resp ← slice respPayload 0 respLen
      let built := buildCoraResponseFrame frame.header.messageId resp txBuf
      return (← sendBuilt built, built.2)
    | none => return ([], txBuf)

end EmbeddedDockHub

/-! ### Looking up a slot -/

namespace DockState

theorem slotIndex_of_table {s : DockState} (h : s.AllPlaced) {k : UInt8} {child : ChildDeviceInfo}
    (htable : s.table k = some child) : child.slotIndex = k := by
  rw [table] at htable
  split at htable
  · next hk =>
    obtain ⟨entry, hentry, rfl⟩ := Option.map_eq_some_iff.mp htable
    rw [(h _ entry hentry).childSlot]
    exact UInt8.toNat_inj.mp (Slot.toNat_asU8 ⟨k.toNat, hk⟩)
  · cases htable

/-- The first child with a slot number is the child in the slot. -/
theorem find_allActiveChildren {s : DockState} (h : s.AllPlaced) (k : UInt8) :
    s.allActiveChildren.find? (·.slotIndex = k) = s.table k := by
  cases hfind : s.allActiveChildren.find? (·.slotIndex = k) with
  | some child =>
    have hslot : child.slotIndex = k := by simpa using List.find?_some hfind
    have hmem := (mem_allActiveChildren h).mp (List.mem_of_find?_eq_some hfind)
    rw [← hslot, hmem]
  | none =>
    cases htable : s.table k with
    | none => rfl
    | some child =>
      have hslot := slotIndex_of_table h htable
      have hmem : child ∈ s.allActiveChildren := by
        rw [mem_allActiveChildren h, hslot, htable]
      have hnot := List.find?_eq_none.mp hfind child hmem
      simp [hslot] at hnot

end DockState

/-! ### The two handlers -/

/-- The hub with the configuration of a dock. -/
def EmbeddedDockHub.ofConfig (config : DockConfig) (ipAddress : Block 4) : EmbeddedDockHub where
  serial := config.serialNumber
  firmware := config.firmwareVersion
  macAddress := config.macAddress
  ipAddress
  primaryPort := config.primaryPort

/-- A response of the dock, in the terms of the hub. -/
def Answer.asHub (a : Answer) : List UInt8 × ℕ := (a.respPayload, a.customRespLen.getD 1024)

/-- A response whose bytes from 128 on are zeros. -/
def Padded (out : List UInt8) : Prop := out.drop 128 = List.replicate 896 0

/-- Behind a report the response stays. -/
theorem padded_report {report out : List UInt8} {n : ℕ} (hout : Padded out)
    (hn : report.length = n) (hle : n ≤ 128) : Padded (report ++ out.drop n) := by
  obtain ⟨k, hk⟩ := Nat.exists_eq_add_of_le hle
  rw [Padded, hk, ← List.drop_drop, ← hn, List.drop_left, List.drop_drop, hn, ← hk]
  exact hout

namespace FrameHandler

variable {self : FrameHandler} {ip : Block 4}

theorem networkReport_eq_hub (hip : self.localIp = .v4 ip) (out : List UInt8) :
    self.networkReport out =
      (EmbeddedDockHub.ofConfig self.state.config ip).networkReport out := by
  rw [networkReport, EmbeddedDockHub.networkReport, hip]
  simp only [addressReport, bind_assoc]
  rfl

theorem directDevice_of_dock (hmode : self.mode = .dock) : self.directDevice = none := by
  rw [directDevice, hmode, if_neg (by decide)]

theorem answerOther_eq_hub (hmode : self.mode = .dock) (hip : self.localIp = .v4 ip)
    (usb : UsbInterface) (opcode : UInt8) (out : List UInt8) :
    (self.answerOther usb opcode out).map Answer.asHub =
      (EmbeddedDockHub.ofConfig self.state.config ip).answerOther opcode out >>=
        fun respPayload => .ok (respPayload, 1024) := by
  rw [answerOther, EmbeddedDockHub.answerOther, networkReport_eq_hub hip,
    directDevice_of_dock hmode]
  by_cases hnetwork : opcode = 0x87
  · rw [if_pos hnetwork, if_pos hnetwork]
    exact map_bind_congr fun _ => rfl
  rw [if_neg hnetwork, if_neg hnetwork]
  by_cases hhardware : opcode = 0x8f
  · rw [if_pos hhardware, if_pos hhardware, bind_assoc]
    exact map_bind_congr fun _ => map_bind_congr fun _ => rfl
  rw [if_neg hhardware, if_neg hhardware]
  by_cases hpoll : opcode = 0x1a
  · rw [if_pos hpoll, if_pos hpoll, bind_assoc]
    refine map_bind_congr fun _ => map_bind_congr fun _ => ?_
    split <;> rfl
  · rw [if_neg hpoll, if_neg hpoll, bind_assoc]
    exact map_bind_congr fun _ => map_bind_congr fun _ => rfl

/-- In Dock mode the handler makes of a response what the hub makes of it. -/
theorem answerCommand_eq_hub (hmode : self.mode = .dock) (hip : self.localIp = .v4 ip)
    (hplaced : self.state.AllPlaced) (usb : UsbInterface) (frame : CoraFrame)
    (cmd : PrimaryFeatureCommand) (out : List UInt8) :
    (self.answerCommand usb frame cmd out).map Answer.asHub =
      (EmbeddedDockHub.ofConfig self.state.config ip).answerCommand frame
        self.state.allActiveChildren cmd out := by
  cases cmd with
  | getDeviceInfo =>
    rw [answerCommand, directDevice_of_dock hmode]
    exact map_bind_congr fun _ => rfl
  | getFirmwareVersion => exact map_bind_congr fun _ => rfl
  | getSerialNumber =>
    rw [answerCommand, directDevice_of_dock hmode]
    exact map_bind_congr fun _ => rfl
  | getMacAddress => exact map_bind_congr fun _ => rfl
  | getChildDeviceInfo =>
    refine map_bind_congr fun slot => ?_
    rw [DockState.find_allActiveChildren hplaced, DockState.childDeviceAt_eq]
    cases self.state.table slot with
    | none => exact map_bind_congr fun _ => rfl
    | some child => exact map_bind_congr fun _ => rfl
  | other opcode => exact answerOther_eq_hub hmode hip usb opcode out

theorem answer_eq_hub (hmode : self.mode = .dock) (hip : self.localIp = .v4 ip)
    (hplaced : self.state.AllPlaced) (usb : UsbInterface) (frame : CoraFrame)
    (cmd : PrimaryFeatureCommand) :
    (self.answer usb frame cmd).map Answer.asHub =
      (EmbeddedDockHub.ofConfig self.state.config ip).answer frame
        self.state.allActiveChildren cmd :=
  map_bind_congr fun _ => map_bind_congr fun out =>
    answerCommand_eq_hub hmode hip hplaced usb frame cmd out

theorem answerOther_padded (hmode : self.mode = .dock) (usb : UsbInterface) {opcode : UInt8}
    {rest : List UInt8} (hrest : rest.length = 1022)
    (hpadded : Padded (0x03 :: opcode :: rest)) {a : Answer}
    (h : self.answerOther usb opcode (0x03 :: opcode :: rest) = .ok a) : Padded a.respPayload := by
  rw [answerOther, store_cons_zero, directDevice_of_dock hmode] at h
  simp only [bind, Except.bind, store_cons_one] at h
  split at h
  · have hlen : (0x03 :: opcode :: rest).length = 1024 := by simp [hrest]
    obtain ⟨out, hout, -, -, hdrop⟩ := self.networkReport_writes hlen
    rw [hout] at h
    cases h
    show out.drop (18 + 110) = _
    rw [← List.drop_drop, hdrop, List.drop_drop]
    exact hpadded
  -- the other commands leave the head of the response as it was
  · split at h
    · cases h
      exact hpadded
    · split at h
      · split at h <;> cases h <;> exact hpadded
      · cases h
        exact hpadded

theorem answerCommand_padded (hmode : self.mode = .dock) {usb : UsbInterface} {frame : CoraFrame}
    {cmd : PrimaryFeatureCommand} {rest : List UInt8} (hrest : rest.length = 1022)
    (hpadded : Padded (0x03 :: cmd.asU8 :: rest)) {a : Answer}
    (h : self.answerCommand usb frame cmd (0x03 :: cmd.asU8 :: rest) = .ok a) :
    Padded a.respPayload := by
  have hsize : 36 ≤ (0x03 :: cmd.asU8 :: rest).length := by simp [hrest]
  cases cmd with
  | getDeviceInfo =>
    rw [answerCommand, directDevice_of_dock hmode] at h
    dsimp only at h
    rw [buildDeviceInfoPayload_eq _ _ (by omega)] at h
    cases h
    exact padded_report hpadded rfl (by decide)
  | getFirmwareVersion =>
    rw [answerCommand] at h
    dsimp only at h
    rw [buildFirmwareVersionPayload_eq _ (by omega)] at h
    cases h
    exact padded_report hpadded (firmwareVersionReport_length _) (by decide)
  | getSerialNumber =>
    rw [answerCommand, directDevice_of_dock hmode] at h
    dsimp only at h
    rw [buildSerialNumberPayload_eq _ hsize] at h
    cases h
    exact padded_report hpadded rfl ((serialNumberReport_length_le _).trans (by decide))
  | getMacAddress =>
    rw [answerCommand] at h
    dsimp only at h
    rw [buildMacAddressPayload_eq _ (by omega)] at h
    cases h
    exact padded_report hpadded (macAddressReport_length _) (by decide)
  | getChildDeviceInfo =>
    have hp := ((self.state.childDeviceAt (frame.payload.getD 2 0)).buildPayload false
      (frame.payload.getD 2 0)).property
    rw [PrimaryFeatureCommand.asU8, answerCommand_child _ _ _ hrest] at h
    cases h
    exact padded_report hpadded hp le_rfl
  | other opcode => exact answerOther_padded hmode usb hrest hpadded h

theorem answer_padded (hmode : self.mode = .dock) {usb : UsbInterface} {frame : CoraFrame}
    {cmd : PrimaryFeatureCommand} {a : Answer} (h : self.answer usb frame cmd = .ok a) :
    Padded a.respPayload := by
  rw [answer_eq] at h
  refine answerCommand_padded hmode List.length_replicate ?_ h
  show (List.replicate 1022 (0 : UInt8)).drop 126 = _
  rw [List.drop_replicate]

end FrameHandler

namespace EmbeddedDockHub

variable (self : EmbeddedDockHub) (frame : CoraFrame) (activeChildren : List ChildDeviceInfo)
  (txBuf : List UInt8)

theorem handleFrame_of_probe (h : frame.IsProbe) :
    self.handleFrame frame activeChildren txBuf = .ok
      ([(keepaliveAck (frame.payload.getD 5 0) frame.header.messageId).toVec], txBuf) := by
  rw [handleFrame, isKeepaliveProbe_eq, if_pos h]
  simp only [bind, Except.bind, sendBuilt_keepaliveAck List.length_replicate.ge]
  rfl

theorem handleFrame_of_empty (h : ¬ frame.IsProbe) (hempty : frame.payload = []) :
    self.handleFrame frame activeChildren txBuf = .ok ([], txBuf) := by
  rw [handleFrame, isKeepaliveProbe_eq, if_neg h, hempty]
  rfl

/-- The frame that answers a query with a payload. -/
def responseFrame (payload : List UInt8) : CoraFrame :=
  CoraFrame.new
    (CoraHeader.new CoraFlags.result .getReport frame.header.messageId payload.length) payload

theorem handleFrame_of_query (h : ¬ frame.IsProbe) {cmd : PrimaryFeatureCommand}
    (hcmd : parsePrimaryQuery frame.payload = .ok (some cmd)) {out : List UInt8} {n : ℕ}
    (hanswer : self.answer frame activeChildren cmd = .ok (out, n)) (hn : n ≤ out.length)
    (htx : 16 + n ≤ txBuf.length) :
    ∃ txBuf', self.handleFrame frame activeChildren txBuf =
      .ok ([(responseFrame frame (out.take n)).toVec], txBuf') := by
  have hlen : (out.take n).length = n := List.length_take_of_le hn
  have hsent : sendBuilt (buildCoraResponseFrame frame.header.messageId (out.take n) txBuf) =
      .ok [(responseFrame frame (out.take n)).toVec] :=
    sendBuilt_encode (f := responseFrame frame (out.take n))
      (show coraHeaderSize + (out.take n).length ≤ txBuf.length by rw [hlen]; exact htx)
  rw [handleFrame, isKeepaliveProbe_eq, if_neg h]
  simp only [bind, Except.bind, hcmd, hanswer, slice_zero hn, hsent]
  exact ⟨_, rfl⟩

theorem networkReport_writes {out : List UInt8} (h : out.length = 1024) :
    Writes 2 18 out (self.networkReport out) := by
  have hip : self.ipAddress.val.length = 4 := self.ipAddress.property
  rw [networkReport]
  refine .bind (.store le_rfl (by simp) (by simp; omega)) fun out₁ hout₁ => ?_
  refine .bind (.store (by simp) (by simp) (by simp; omega)) fun out₂ hout₂ => ?_
  refine .bind (.store (by simp) (by omega) (by omega)) fun out₃ hout₃ => ?_
  refine .bind (.store (by simp) (by simp) (by simp; omega)) fun out₄ hout₄ => ?_
  refine .bind (.store (by simp) (by omega) (by omega)) fun out₅ hout₅ => ?_
  exact .store (by simp) (by simp) (by simp; omega)

end EmbeddedDockHub

/-! ### Agreement -/

/-- The shorter payload, with zeros behind it, is the longer one. -/
def SamePadded (p q : List UInt8) : Prop :=
  ∃ n, p ++ List.replicate n 0 = q ∨ p = q ++ List.replicate n 0

/-- No reply from either side, or one from both that carry the same. -/
def SameReply (server hub : List (List UInt8)) : Prop :=
  server = [] ∧ hub = [] ∨
    ∃ f g : CoraFrame, server = [f.toVec] ∧ hub = [g.toVec] ∧ f.header.flags = g.header.flags ∧
      f.header.messageId = g.header.messageId ∧ SamePadded f.payload g.payload

theorem samePadded_take {out : List UInt8} (hpadded : Padded out) (hlen : out.length = 1024)
    {n : ℕ} (hn : n = 128 ∨ n = 1024) : SamePadded (out.take n) out := by
  obtain rfl | rfl := hn
  · refine ⟨896, .inl ?_⟩
    rw [← hpadded, List.take_append_drop]
  · exact ⟨0, .inl (by rw [List.replicate_zero, List.append_nil, ← hlen, List.take_length])⟩

/-- **The hub answers as the dock does**: with the configuration, the address and
the children of a dock, the handler of the hub and the handler of the dock reply
to the same frames, with the same flags, message id and padded payload. -/
theorem hub_answers_as_dock (config : DockConfig) (ops : List DockOp) (ipAddress : Block 4)
    (usbDevice : Option StreamDeckUsbHandle) (hasSentInitialHotplug : Bool) (usb : UsbInterface)
    (frame : CoraFrame) (txBuf : Block 2048) :
    ∃ effects handler' sent txBuf',
      FrameHandler.handleFrame ⟨DockState.run config ops, .v4 ipAddress, .dock, usbDevice,
        hasSentInitialHotplug⟩ usb frame = .ok (effects, handler') ∧
      (EmbeddedDockHub.ofConfig config ipAddress).handleFrame frame
        (DockState.run config ops).allActiveChildren txBuf.val = .ok (sent, txBuf') ∧
      SameReply effects.sent sent := by
  set handler : FrameHandler := ⟨DockState.run config ops, .v4 ipAddress, .dock, usbDevice,
    hasSentInitialHotplug⟩
  have hplaced := (DockState.run_consistent config ops).placed
  have hforwards : ¬ handler.Forwards frame := FrameHandler.not_forwards_of_dock frame rfl
  have hhub : EmbeddedDockHub.ofConfig handler.state.config ipAddress =
      EmbeddedDockHub.ofConfig config ipAddress := by rw [DockState.config_run]
  by_cases hprobe : frame.IsProbe
  · exact ⟨_, _, _, _, handler.handleFrame_of_probe usb frame hprobe,
      EmbeddedDockHub.handleFrame_of_probe _ _ _ _ hprobe,
      .inr ⟨_, _, rfl, rfl, rfl, rfl, 0, .inl (List.append_nil _)⟩⟩
  rw [handler.handleFrame_of_query usb frame hprobe hforwards]
  by_cases hempty : frame.payload = []
  · exact ⟨_, _, _, _, handler.handleQuery_empty usb frame hempty,
      EmbeddedDockHub.handleFrame_of_empty _ _ _ _ hprobe hempty, .inl ⟨rfl, rfl⟩⟩
  obtain ⟨cmd, hcmd⟩ := FrameHandler.exists_command frame hempty
  obtain ⟨a, ha, hanswers, hcustom, -, hquery⟩ := handler.handleQuery_ok usb frame hcmd
  have hanswer := handler.answer_eq_hub rfl rfl hplaced usb frame cmd
  rw [ha, hhub] at hanswer
  have hlen : a.customRespLen.getD 1024 ≤ a.respPayload.length := by
    rw [hcustom, hanswers.length]
    split <;> decide
  have htx : 16 + a.customRespLen.getD 1024 ≤ txBuf.val.length := by
    rw [txBuf.property]
    rw [hanswers.length] at hlen
    omega
  obtain ⟨txBuf', hreply⟩ := EmbeddedDockHub.handleFrame_of_query _ frame _ _ hprobe hcmd
    hanswer.symm hlen htx
  refine ⟨_, _, _, txBuf', hquery, hreply, .inr ⟨_, _, rfl, rfl, rfl, rfl, ?_⟩⟩
  show SamePadded (a.respPayload.take (FrameHandler.respLen frame cmd))
    (a.respPayload.take (a.customRespLen.getD 1024))
  by_cases hchild : cmd = .getChildDeviceInfo
  · rw [hcustom, if_pos hchild, FrameHandler.respLen, if_neg (fun h => h.1 hchild)]
    exact ⟨0, .inl (List.append_nil _)⟩
  · rw [hcustom, if_neg hchild, Option.getD_none, ← hanswers.length, List.take_length]
    refine samePadded_take (handler.answer_padded rfl ha) hanswers.length ?_
    rw [FrameHandler.respLen]
    split
    · exact .inr rfl
    · exact .inl rfl

end OpenNetDeck
