import OpenNetDeck.Protocol.Queries
import OpenNetDeck.Server.Dock
import OpenNetDeck.Server.Replies

/-!
# Frames on the primary port

`FrameHandler::handle_frame`: the answer to a keepalive probe, the frames that
Direct mode forwards to the device, and the feature queries.

## Main definitions

- `FrameHandler.forwardDirect` — what Direct mode forwards
- `FrameHandler.answer` — the 1024 bytes from which a query is answered
- `FrameHandler.handleFrame` — the whole handler
- `FrameHandler.Replies` — what a frame may get

## Main results

- `primary_reply_discipline_iff` — what is sent for every frame but those that make
  the device's handle panic, and that no index is out of range
-/

namespace OpenNetDeck

open Bytes Checked

inductive IpAddr where
  | v4 (octets : Block 4)
  | v6 (octets : Block 16)
  deriving DecidableEq

/-- The handler of a primary connection; `localIp` is the IP of `local_addr`. -/
structure FrameHandler where
  state : DockState
  localIp : IpAddr
  mode : ServerMode
  usbDevice : Option StreamDeckUsbHandle
  hasSentInitialHotplug : Bool

/-- Direct mode without a device. -/
def directHandler : FrameHandler where
  state := .new { DockConfig.default with mode := .direct }
  localIp := .v4 (Block.zeroed 4)
  mode := .direct
  usbDevice := none
  hasSentInitialHotplug := false

/-- What is known of the response when the `match` on the command is done. -/
structure Answer where
  respPayload : List UInt8
  customRespLen : Option ℕ := none
  usb : List UsbCall := []
  spawned : List ChildDeviceInfo := []
  hasSentInitialHotplug : Bool

/-- A write whose first byte says that it is for the device. -/
def isImageWrite (frame : CoraFrame) : Except Panic Bool :=
  if frame.header.hidOp = .write ∧ !frame.payload.isEmpty then do
    let first ← index frame.payload 0
    return first ≠ 0x03 ∧ first ≠ 0x01
  else return false

/-- `data` starts with 0x03 and the opcode. -/
def isWholeReport (data : List UInt8) (opcode : UInt8) : Except Panic Bool :=
  if data.length ≥ 2 then do
    if (← index data 0) = 0x03 then return (← index data 1) = opcode
    else return false
  else return false

/-- `data` starts with the opcode. -/
def isHeadedReport (data : List UInt8) (opcode : UInt8) : Except Panic Bool :=
  if !data.isEmpty then do return (← index data 0) = opcode else return false

/-- Copy a report of the device into a response, where its first bytes belong. -/
def copyReport (respPayload data : List UInt8) (opcode : UInt8) : Except Panic (List UInt8) := do
  if ← isWholeReport data opcode then
    store respPayload 0 (← slice data 0 (min data.length 1024))
  else if ← isHeadedReport data opcode then
    store respPayload 1 (← slice data 0 (min data.length 1023))
  else if !data.isEmpty then
    store respPayload 2 (← slice data 0 (min data.length 1022))
  else return respPayload

namespace FrameHandler

/-- Call a method of the device, if there is one; what it returns is ignored. -/
def forward (self : FrameHandler) (call : UsbCall)
    (outcome : Except Panic (Except UsbDeviceError Unit)) : Except Panic (List UsbCall) :=
  match self.usbDevice with
  | some _ => do
    let _ ← outcome
    return [call]
  | none => return []

/-- Forward image writes and set reports to the device: what was done, if the
frame was one of them. -/
def forwardDirect (self : FrameHandler) (usb : UsbInterface) (frame : CoraFrame) :
    Except Panic (Option Effects) :=
  if self.mode = .direct then do
    if ← isImageWrite frame then
      let calls ← self.forward (.writeOut frame.payload) (usb.writeOut frame.payload)
      return some { sent := ← sendAck frame 0x02, usb := calls }
    else if frame.header.hidOp = .sendReport then
      let calls ← self.forward (.setFeatureReport frame.payload)
        (usb.setFeatureReport frame.payload)
      return some { sent := ← sendAck frame 0x03, usb := calls }
    else return none
  else return none

/-- The device that answers for its ids and serial number, in Direct mode. -/
def directDevice (self : FrameHandler) : Option StreamDeckUsbHandle :=
  if self.mode = .direct then self.usbDevice else none

/-- The address, the network mask and the gateway, if the address is an IPv4 one. -/
def addressReport (localIp : IpAddr) (respPayload : List UInt8) : Except Panic (List UInt8) :=
  match localIp with
  | .v4 ipv4 => do
    let respPayload ← store respPayload 4 ipv4.val
    let respPayload ← store respPayload 8 [255, 255, 255, 0]
    store respPayload 12 ipv4.val
  | .v6 _ => .ok respPayload

/-- The network configuration (0x87). -/
def networkReport (self : FrameHandler) (respPayload : List UInt8) :
    Except Panic (List UInt8) := do
  let respPayload ← store respPayload 2 [0x01]
  let respPayload ← store respPayload 3 [0x01]
  let respPayload ← addressReport self.localIp respPayload
  store respPayload 16 (leBytes 2 self.state.config.primaryPort.toNat)

/-- The commands without a name of their own. -/
def answerOther (self : FrameHandler) (usb : UsbInterface) (opcode : UInt8)
    (respPayload : List UInt8) : Except Panic Answer :=
  let hasSentInitialHotplug := self.hasSentInitialHotplug
  if opcode = 0x87 then do
    return { respPayload := ← self.networkReport respPayload, hasSentInitialHotplug }
  else if opcode = 0x8f then do
    let respPayload ← store respPayload 0 [0x03]
    let respPayload ← store respPayload 1 [0x8f]
    return { respPayload, hasSentInitialHotplug }
  else if opcode = 0x1a then do
    let respPayload ← store respPayload 0 [0x03]
    let respPayload ← store respPayload 1 [0x1a]
    -- the flag is swapped in Dock mode only
    if self.mode = .dock ∧ !hasSentInitialHotplug then
      let spawned := self.state.allActiveChildren
      return { respPayload, spawned, hasSentInitialHotplug := true }
    else return { respPayload, hasSentInitialHotplug }
  else do
    let respPayload ← store respPayload 0 [0x03]
    let respPayload ← store respPayload 1 [opcode]
    match self.directDevice with
    | some _ =>
      let calls := [UsbCall.getFeatureReport opcode 1024]
      match usb.getFeatureReport opcode 1024 with
      | .ok data =>
        let respPayload ← copyReport respPayload data opcode
        return { respPayload, usb := calls, hasSentInitialHotplug }
      | .error _ => return { respPayload, usb := calls, hasSentInitialHotplug }
    | none => return { respPayload, hasSentInitialHotplug }

/-- The branches of the `match` on the command. -/
def answerCommand (self : FrameHandler) (usb : UsbInterface) (frame : CoraFrame)
    (cmd : PrimaryFeatureCommand) (respPayload : List UInt8) : Except Panic Answer :=
  let hasSentInitialHotplug := self.hasSentInitialHotplug
  match cmd with
  | .getDeviceInfo => do
    let (_, respPayload) ← match self.directDevice with
      | some dev => buildDeviceInfoPayload dev.vendorId dev.productId respPayload
      | none => buildDeviceInfoPayload vendorIdElgato productIdNetworkDock respPayload
    return { respPayload, hasSentInitialHotplug }
  | .getFirmwareVersion => do
    let (_, respPayload) ←
      buildFirmwareVersionPayload self.state.config.firmwareVersion respPayload
    return { respPayload, hasSentInitialHotplug }
  | .getSerialNumber => do
    let (_, respPayload) ← match self.directDevice with
      | some dev => buildSerialNumberPayload dev.serialNumber respPayload
      | none => buildSerialNumberPayload self.state.config.serialNumber respPayload
    return { respPayload, hasSentInitialHotplug }
  | .getMacAddress => do
    let (_, respPayload) ← buildMacAddressPayload self.state.config.macAddress respPayload
    return { respPayload, hasSentInitialHotplug }
  | .getChildDeviceInfo => do
    let requestedSlot ← requestedSlot frame
    let child := self.state.childDeviceAt requestedSlot
    let p := child.buildPayload false requestedSlot
    let respPayload ← store respPayload 0 p.val
    return { respPayload, customRespLen := some 128, hasSentInitialHotplug }
  | .other opcode => self.answerOther usb opcode respPayload

/-- The response to a command. -/
def answer (self : FrameHandler) (usb : UsbInterface) (frame : CoraFrame)
    (cmd : PrimaryFeatureCommand) : Except Panic Answer := do
  let respPayload := List.replicate 1024 0
  let respPayload ← store respPayload 0 [0x03]
  let respPayload ← store respPayload 1 [cmd.asU8]
  self.answerCommand usb frame cmd respPayload

/-- Send the first bytes of a response. -/
def sendResponse (frame : CoraFrame) (answer : Answer) : Except Panic (List (List UInt8)) := do
  let respLen := answer.customRespLen.getD (if frame.payload.length ≥ 1024 then 1024 else 128)
  let outFrame := List.replicate (16 + respLen) 0
  let header := CoraHeader.new CoraFlags.result frame.header.hidOp frame.header.messageId respLen
  let resp ← slice answer.respPayload 0 respLen
  sendBuilt ((CoraFrame.new header resp).encode outFrame)

/-- The answer to a feature query. -/
def handleQuery (self : FrameHandler) (usb : UsbInterface) (frame : CoraFrame) :
    Except Panic (Effects × FrameHandler) := do
  match ← parsePrimaryQuery frame.payload with
  | some cmd =>
    let answer ← self.answer usb frame cmd
    let sent ← sendResponse frame answer
    return ({ sent, usb := answer.usb, spawned := answer.spawned },
      { self with hasSentInitialHotplug := answer.hasSentInitialHotplug })
  | none => return ({}, self)

/-- The handler of a frame: what it does, and the handler after it. `usb` is the
interface of the device, if there is one. -/
def handleFrame (self : FrameHandler) (usb : UsbInterface) (frame : CoraFrame) :
    Except Panic (Effects × FrameHandler) := do
  match ← isKeepaliveProbe frame with
  | some connId => return (← replyProbe connId frame, self)
  | none =>
    match ← self.forwardDirect usb frame with
    | some effects => return (effects, self)
    | none => self.handleQuery usb frame

end FrameHandler

/-! ### What is forwarded -/

/-- A write that Direct mode forwards: its first byte exists and names no report. -/
def CoraFrame.IsImageWrite (frame : CoraFrame) : Prop :=
  frame.header.hidOp = .write ∧ ∃ first ∈ frame.payload.head?, first ≠ 0x03 ∧ first ≠ 0x01

theorem isImageWrite_eq (frame : CoraFrame) :
    ∃ b, isImageWrite frame = .ok b ∧ (b = true ↔ frame.IsImageWrite) := by
  rw [isImageWrite, CoraFrame.IsImageWrite]
  cases hpayload : frame.payload with
  | nil => exact ⟨false, by simp [pure, Except.pure], by simp⟩
  | cons first rest =>
    by_cases hop : frame.header.hidOp = .write
    · refine ⟨decide (first ≠ 0x03 ∧ first ≠ 0x01), ?_, by simp [hop]⟩
      rw [if_pos ⟨hop, rfl⟩]
      rfl
    · exact ⟨false, by simp [hop, pure, Except.pure], by simp [hop]⟩

namespace FrameHandler

variable (self : FrameHandler) (usb : UsbInterface) (frame : CoraFrame)

/-- The frames that Direct mode forwards. -/
def Forwards : Prop :=
  self.mode = .direct ∧ (frame.header.hidOp = .sendReport ∨ frame.IsImageWrite)

theorem forwardDirect_of_report (hmode : self.mode = .direct)
    (hop : frame.header.hidOp = .sendReport) :
    self.forwardDirect usb frame =
      (self.forward (forwardCall frame) (usb.setFeatureReport frame.payload)).bind fun calls =>
        .ok (some
          { sent := if wantsAck frame then [(ackFrame frame 0x03).toVec] else []
            usb := calls }) := by
  obtain ⟨b, hb, hiff⟩ := isImageWrite_eq frame
  have hnot : b = false := by
    refine Bool.eq_false_iff.mpr fun hb => ?_
    have hwrite := (hiff.mp hb).1
    rw [hop] at hwrite
    cases hwrite
  rw [forwardDirect, if_pos hmode, hb, hnot, forwardCall_of_report hop]
  show (if frame.header.hidOp = .sendReport then _ else _) = _
  rw [if_pos hop, sendAck_eq]
  rfl

theorem forwardDirect_of_image (hmode : self.mode = .direct) (h : frame.IsImageWrite) :
    self.forwardDirect usb frame =
      (self.forward (forwardCall frame) (usb.writeOut frame.payload)).bind fun calls =>
        .ok (some
          { sent := if wantsAck frame then [(ackFrame frame 0x03).toVec] else []
            usb := calls }) := by
  obtain ⟨b, hb, hiff⟩ := isImageWrite_eq frame
  -- the payload has a first byte, which is the acknowledgement whatever the default
  have hack : ackFrame frame 0x02 = ackFrame frame 0x03 := by
    obtain ⟨-, first, hfirst, -⟩ := h
    rw [ackFrame, ackFrame, List.headD_eq_head?_getD, List.headD_eq_head?_getD, hfirst]
    rfl
  rw [forwardDirect, if_pos hmode, hb, hiff.mpr h, forwardCall_of_write h.1, sendAck_eq, hack]
  rfl

theorem forward_ok {call : UsbCall} {outcome : Except Panic (Except UsbDeviceError Unit)}
    (h : self.usbDevice.isSome → ∃ result, outcome = .ok result) :
    self.forward call outcome = .ok (self.usbDevice.map fun _ => call).toList := by
  rw [forward]
  cases hdevice : self.usbDevice with
  | none => rfl
  | some device =>
    obtain ⟨result, rfl⟩ := h (by rw [hdevice]; rfl)
    rfl

theorem forward_panic (call : UsbCall) {outcome : Except Panic (Except UsbDeviceError Unit)}
    {e : Panic} (hdevice : self.usbDevice.isSome) (h : outcome = .error e) :
    self.forward call outcome = .error e := by
  obtain ⟨device, hdevice⟩ := Option.isSome_iff_exists.mp hdevice
  rw [forward, hdevice, h]
  rfl

/-- The device gets a frame that is forwarded, and what it says of it is ignored. -/
theorem forwardDirect_of_forwards (h : self.Forwards frame)
    (hfits : self.usbDevice.isSome → ¬ (forwardCall frame).Overlong usb.epOutAddr) :
    self.forwardDirect usb frame = .ok (some
      { sent := if wantsAck frame then [(ackFrame frame 0x03).toVec] else []
        usb := (self.usbDevice.map fun _ => forwardCall frame).toList }) := by
  obtain ⟨hmode, hop | hwrite⟩ := h
  · have hcall := forwardCall_of_report hop
    rw [self.forwardDirect_of_report usb frame hmode hop, self.forward_ok fun hdevice =>
      usb.setFeatureReport_ok frame.payload (hcall ▸ hfits hdevice)]
    rfl
  · have hcall := forwardCall_of_write hwrite.1
    rw [self.forwardDirect_of_image usb frame hmode hwrite, self.forward_ok fun hdevice =>
      usb.writeOut_ok frame.payload (hcall ▸ hfits hdevice)]
    rfl

theorem forwardDirect_of_overlong (h : self.Forwards frame) (hdevice : self.usbDevice.isSome)
    (hlong : (forwardCall frame).Overlong usb.epOutAddr) :
    self.forwardDirect usb frame = .error .lengthOverflow := by
  obtain ⟨hmode, hop | hwrite⟩ := h
  · have hcall := forwardCall_of_report hop
    rw [self.forwardDirect_of_report usb frame hmode hop, self.forward_panic _ hdevice
      (usb.setFeatureReport_overlong frame.payload (hcall ▸ hlong))]
    rfl
  · have hcall := forwardCall_of_write hwrite.1
    rw [self.forwardDirect_of_image usb frame hmode hwrite, self.forward_panic _ hdevice
      (usb.writeOut_overlong frame.payload (hcall ▸ hlong))]
    rfl

theorem forwardDirect_of_not_forwards (h : ¬ self.Forwards frame) :
    self.forwardDirect usb frame = .ok none := by
  rw [forwardDirect]
  by_cases hmode : self.mode = .direct
  · obtain ⟨b, hb, hiff⟩ := isImageWrite_eq frame
    have hnot : ¬ frame.IsImageWrite := fun hwrite => h ⟨hmode, .inr hwrite⟩
    have hop : frame.header.hidOp ≠ .sendReport := fun hop => h ⟨hmode, .inl hop⟩
    rw [if_pos hmode, hb, Bool.eq_false_iff.mpr fun hb => hnot (hiff.mp hb)]
    show (if frame.header.hidOp = .sendReport then _ else _) = _
    rw [if_neg hop]
    rfl
  · rw [if_neg hmode]
    rfl

/-! ### The response to a query -/

theorem isWholeReport_eq (data : List UInt8) (opcode : UInt8) :
    isWholeReport data opcode = .ok (decide (data.take 2 = [0x03, opcode])) := by
  match data with
  | [] => rfl
  | [d] =>
    show (.ok false : Except Panic Bool) = _
    simp
  | d :: e :: rest =>
    show (if d = 0x03 then (.ok (decide (e = opcode)) : Except Panic Bool) else .ok false) = _
    by_cases hd : d = 0x03 <;> simp [hd]

theorem isHeadedReport_eq (data : List UInt8) (opcode : UInt8) :
    isHeadedReport data opcode = .ok (decide (data.take 1 = [opcode])) := by
  cases data with
  | nil => rfl
  | cons d rest =>
    show (.ok (decide (d = opcode)) : Except Panic Bool) = _
    simp

/-- Wherever a report goes, the response starts as it did. -/
theorem copyReport_ok {rest : List UInt8} (hrest : rest.length = 1022) (data : List UInt8)
    (opcode : UInt8) :
    ∃ out, copyReport (0x03 :: opcode :: rest) data opcode = .ok out ∧ out.length = 1024 ∧
      out.take 2 = [0x03, opcode] := by
  have hslice : ∀ n, slice data 0 (min data.length n) = .ok (data.take n) := by
    intro n
    rw [slice_zero (Nat.min_le_left _ _), Nat.min_comm, ← List.take_eq_take_min]
  have hlen : ∀ n, (data.take n).length ≤ n := fun n => List.length_take_le n data
  have hsize : (0x03 :: opcode :: rest).length = 1024 := by simp [hrest]
  rw [copyReport, isWholeReport_eq, isHeadedReport_eq]
  by_cases hwhole : data.take 2 = [0x03, opcode]
  · have hfits : 0 + (data.take 1024).length ≤ (0x03 :: opcode :: rest).length := by
      have := hlen 1024
      omega
    have hfront : (data.take 1024).take 2 = [0x03, opcode] := by
      rw [List.take_take]
      exact hwhole
    have htwo : 2 ≤ (data.take 1024).length := le_length_of_take hfront rfl
    rw [decide_eq_true hwhole]
    show ∃ out, ((slice data 0 (min data.length 1024)).bind fun src =>
      store (0x03 :: opcode :: rest) 0 src) = .ok out ∧ _
    rw [hslice]
    exact ⟨_, store_of_le hfits, by rw [splice_length hfits, hsize],
      by rw [take_splice_zero htwo, hfront]⟩
  rw [decide_eq_false hwhole]
  by_cases hheaded : data.take 1 = [opcode]
  · have hfits : 0 + (data.take 1023).length ≤ (opcode :: rest).length := by
      have := hlen 1023
      rw [List.length_cons, hrest]
      omega
    have hfront : (data.take 1023).take 1 = [opcode] := by
      rw [List.take_take]
      exact hheaded
    have hone : 1 ≤ (data.take 1023).length := le_length_of_take hfront rfl
    rw [decide_eq_true hheaded]
    show ∃ out, ((slice data 0 (min data.length 1023)).bind fun src =>
      store (0x03 :: opcode :: rest) 1 src) = .ok out ∧ _
    rw [hslice]
    refine ⟨_, store_cons_succ hfits, ?_, ?_⟩
    · rw [List.length_cons, splice_length hfits, List.length_cons, hrest]
    · rw [List.take_succ_cons, take_splice_zero hone, hfront]
  · rw [decide_eq_false hheaded]
    cases data with
    | nil => exact ⟨_, rfl, hsize, rfl⟩
    | cons d tail =>
      have hbound := hlen 1022
      have hwrites : Writes 2 1024 (0x03 :: opcode :: rest)
          (store (0x03 :: opcode :: rest) 2 ((d :: tail).take 1022)) :=
        Writes.store le_rfl (by omega) (by omega)
      obtain ⟨out, hout, hlength, htake, -⟩ := hwrites
      show ∃ out, ((slice (d :: tail) 0 (min (d :: tail).length 1022)).bind fun src =>
        store (0x03 :: opcode :: rest) 2 src) = .ok out ∧ _
      rw [hslice]
      exact ⟨out, hout, hlength.trans hsize, htake⟩

theorem addressReport_writes (localIp : IpAddr) {out : List UInt8} (h : out.length = 1024) :
    Writes 2 18 out (addressReport localIp out) := by
  cases localIp with
  | v4 ipv4 =>
    have hlen : ipv4.val.length = 4 := ipv4.property
    refine .bind (.store (by simp) (by omega) (by omega)) fun out hout => ?_
    refine .bind (.store (by simp) (by simp) (by simp; omega)) fun out hout => ?_
    exact .store (by simp) (by omega) (by omega)
  | v6 _ => exact .done 2 18 out

/-- The network configuration stands in bytes 2..18. -/
theorem networkReport_writes {out : List UInt8} (h : out.length = 1024) :
    Writes 2 18 out (self.networkReport out) := by
  rw [networkReport]
  refine .bind (.store le_rfl (by simp) (by simp; omega)) fun out hout => ?_
  refine .bind (.store (by simp) (by simp) (by simp; omega)) fun out hout => ?_
  refine .bind (addressReport_writes _ (by omega)) fun out hout => ?_
  exact .store (by simp) (by simp) (by simp; omega)

/-- A response of 1024 bytes that starts with 0x03 and the command. -/
structure Answers (opcode : UInt8) (respPayload : List UInt8) : Prop where
  length : respPayload.length = 1024
  front : respPayload.take 2 = [0x03, opcode]

theorem answers_report {opcode : UInt8} {report rest : List UInt8} {n : ℕ}
    (hfront : report.take 2 = [0x03, opcode]) (hn : report.length = n) (hle : n ≤ 1024)
    (hrest : rest.length = 1024) : Answers opcode (report ++ rest.drop n) where
  length := by
    rw [List.length_append, List.length_drop, hrest]
    omega
  front := by
    rw [List.take_append_of_le_length (le_length_of_take hfront rfl), hfront]

theorem answerOther_ok {opcode : UInt8} {rest : List UInt8} (hrest : rest.length = 1022) :
    ∃ a, self.answerOther usb opcode (0x03 :: opcode :: rest) = .ok a ∧
      Answers opcode a.respPayload ∧ a.customRespLen = none ∧
      (self.mode = .direct → a.spawned = []) := by
  have hstart : Answers opcode (0x03 :: opcode :: rest) := ⟨by simp [hrest], rfl⟩
  rw [answerOther, store_cons_zero]
  by_cases hnetwork : opcode = 0x87
  · obtain ⟨out, hout, hlength, htake, -⟩ := self.networkReport_writes hstart.length
    rw [if_pos hnetwork, hout]
    exact ⟨_, rfl, ⟨hlength.trans hstart.length, htake.trans hstart.front⟩, rfl, fun _ => rfl⟩
  rw [if_neg hnetwork]
  by_cases hhardware : opcode = 0x8f
  · rw [if_pos hhardware]
    subst hhardware
    show ∃ a, ((store (0x03 :: 0x8f :: rest) 1 [0x8f]).bind _) = .ok a ∧ _
    rw [store_cons_one]
    exact ⟨_, rfl, hstart, rfl, fun _ => rfl⟩
  rw [if_neg hhardware]
  by_cases hpoll : opcode = 0x1a
  · rw [if_pos hpoll]
    subst hpoll
    show ∃ a, ((store (0x03 :: 0x1a :: rest) 1 [0x1a]).bind _) = .ok a ∧ _
    rw [store_cons_one]
    show ∃ a, (if self.mode = .dock ∧ !self.hasSentInitialHotplug then _ else _) = _ ∧ _
    split
    · next hdock =>
      refine ⟨_, rfl, hstart, rfl, fun hdirect => ?_⟩
      rw [hdirect] at hdock
      cases hdock.1
    · exact ⟨_, rfl, hstart, rfl, fun _ => rfl⟩
  rw [if_neg hpoll]
  show ∃ a, ((store (0x03 :: opcode :: rest) 1 [opcode]).bind _) = .ok a ∧ _
  rw [store_cons_one]
  cases hdevice : self.directDevice with
  | none => exact ⟨_, rfl, hstart, rfl, fun _ => rfl⟩
  | some dev =>
    cases hread : usb.getFeatureReport opcode 1024 with
    | error e => exact ⟨_, rfl, hstart, rfl, fun _ => rfl⟩
    | ok data =>
      obtain ⟨out, hout, hlength, htake⟩ := copyReport_ok hrest data opcode
      show ∃ a, ((copyReport (0x03 :: opcode :: rest) data opcode).bind _) = .ok a ∧ _
      rw [hout]
      exact ⟨_, rfl, ⟨hlength, htake⟩, rfl, fun _ => rfl⟩

/-- The answer to 0x1c: the child in the slot. -/
theorem answerCommand_child {rest : List UInt8} (hrest : rest.length = 1022) :
    self.answerCommand usb frame .getChildDeviceInfo (0x03 :: 0x1c :: rest) =
      .ok
        { respPayload := ((self.state.childDeviceAt (frame.payload.getD 2 0)).buildPayload false
            (frame.payload.getD 2 0)).val ++ (0x03 :: 0x1c :: rest).drop 128
          customRespLen := some 128
          hasSentInitialHotplug := self.hasSentInitialHotplug } := by
  have hp := ((self.state.childDeviceAt (frame.payload.getD 2 0)).buildPayload false
    (frame.payload.getD 2 0)).property
  rw [answerCommand]
  dsimp only
  rw [requestedSlot_eq]
  show ((store (0x03 :: 0x1c :: rest) 0 _).bind _) = _
  rw [store_zero (by rw [hp]; simp [hrest]), hp]
  rfl

theorem answerCommand_ok (cmd : PrimaryFeatureCommand) {rest : List UInt8}
    (hrest : rest.length = 1022) :
    ∃ a, self.answerCommand usb frame cmd (0x03 :: cmd.asU8 :: rest) = .ok a ∧
      Answers cmd.asU8 a.respPayload ∧
      a.customRespLen = (if cmd = .getChildDeviceInfo then some 128 else none) ∧
      (self.mode = .direct → a.spawned = []) := by
  have hsize : (0x03 :: cmd.asU8 :: rest).length = 1024 := by simp [hrest]
  cases cmd with
  | getDeviceInfo =>
    have hids : ∀ vendorId productId,
        Answers 0x80 (deviceInfoReport vendorId productId ++ (0x03 :: 0x80 :: rest).drop 16) :=
      fun _ _ => answers_report rfl rfl (by decide) hsize
    rw [answerCommand]
    cases self.directDevice with
    | none =>
      dsimp only
      rw [buildDeviceInfoPayload_eq _ _ (by omega)]
      exact ⟨_, rfl, hids _ _, rfl, fun _ => rfl⟩
    | some dev =>
      dsimp only
      rw [buildDeviceInfoPayload_eq _ _ (by omega)]
      exact ⟨_, rfl, hids _ _, rfl, fun _ => rfl⟩
  | getFirmwareVersion =>
    rw [answerCommand]
    dsimp only
    rw [buildFirmwareVersionPayload_eq _ (by omega)]
    exact ⟨_, rfl, answers_report rfl (firmwareVersionReport_length _) (by decide) hsize, rfl,
      fun _ => rfl⟩
  | getSerialNumber =>
    have hserial : ∀ serial, Answers 0x84 (serialNumberReport serial ++
        (0x03 :: 0x84 :: rest).drop (serialNumberReport serial).length) := fun serial =>
      answers_report rfl rfl ((serialNumberReport_length_le serial).trans (by decide)) hsize
    rw [answerCommand]
    cases self.directDevice with
    | none =>
      dsimp only
      rw [buildSerialNumberPayload_eq _ (by omega)]
      exact ⟨_, rfl, hserial _, rfl, fun _ => rfl⟩
    | some dev =>
      dsimp only
      rw [buildSerialNumberPayload_eq _ (by omega)]
      exact ⟨_, rfl, hserial _, rfl, fun _ => rfl⟩
  | getMacAddress =>
    rw [answerCommand]
    dsimp only
    rw [buildMacAddressPayload_eq _ (by omega)]
    exact ⟨_, rfl, answers_report rfl (macAddressReport_length _) (by decide) hsize, rfl,
      fun _ => rfl⟩
  | getChildDeviceInfo =>
    have hp := ((self.state.childDeviceAt (frame.payload.getD 2 0)).buildPayload false
      (frame.payload.getD 2 0)).property
    exact ⟨_, self.answerCommand_child usb frame hrest,
      answers_report (ChildDeviceInfo.take_buildPayload _ _) hp (by decide) hsize, rfl,
      fun _ => rfl⟩
  | other opcode =>
    exact self.answerOther_ok usb hrest

/-- The head of a response buffer. -/
theorem store_head {β : Type*} (n : ℕ) (opcode : UInt8) (f : List UInt8 → Except Panic β) :
    ((store (List.replicate (n + 2) 0) 0 [0x03]).bind fun out =>
      (store out 1 [opcode]).bind f) = f (0x03 :: opcode :: List.replicate n 0) := by
  rw [List.replicate_succ, List.replicate_succ, store_cons_zero]
  show (store (0x03 :: 0 :: List.replicate n 0) 1 [opcode]).bind f = _
  rw [store_cons_one]
  rfl

theorem answer_eq (cmd : PrimaryFeatureCommand) :
    self.answer usb frame cmd =
      self.answerCommand usb frame cmd (0x03 :: cmd.asU8 :: List.replicate 1022 0) :=
  store_head 1022 cmd.asU8 fun out => self.answerCommand usb frame cmd out

/-- The length of the response to a command. -/
def respLen (cmd : PrimaryFeatureCommand) : ℕ :=
  if cmd ≠ .getChildDeviceInfo ∧ 1024 ≤ frame.payload.length then 1024 else 128

/-- The frame that answers a query with a payload. -/
def responseFrame (payload : List UInt8) : CoraFrame :=
  CoraFrame.new
    (CoraHeader.new CoraFlags.result frame.header.hidOp frame.header.messageId payload.length)
    payload

theorem sendResponse_eq {a : Answer} {n : ℕ}
    (hn : a.customRespLen.getD (if frame.payload.length ≥ 1024 then 1024 else 128) = n)
    (hle : n ≤ a.respPayload.length) :
    sendResponse frame a = .ok [(responseFrame frame (a.respPayload.take n)).toVec] := by
  have hlen : (a.respPayload.take n).length = n := List.length_take_of_le hle
  have hout : (List.replicate (16 + n) (0 : UInt8)).length =
      coraHeaderSize + (responseFrame frame (a.respPayload.take n)).payload.length := by
    rw [List.length_replicate, responseFrame, CoraFrame.new, hlen]
    rfl
  rw [sendResponse, hn, slice_zero hle]
  show sendBuilt ((CoraFrame.new (CoraHeader.new CoraFlags.result frame.header.hidOp
    frame.header.messageId n) (a.respPayload.take n)).encode (List.replicate (16 + n) 0)) = _
  rw [← sendBuilt_encode hout.ge, responseFrame, hlen]

theorem handleQuery_ok {cmd : PrimaryFeatureCommand}
    (hcmd : parsePrimaryQuery frame.payload = .ok (some cmd)) :
    ∃ a, self.answer usb frame cmd = .ok a ∧ Answers cmd.asU8 a.respPayload ∧
      a.customRespLen = (if cmd = .getChildDeviceInfo then some 128 else none) ∧
      (self.mode = .direct → a.spawned = []) ∧
      self.handleQuery usb frame = .ok
        ({ sent := [(responseFrame frame (a.respPayload.take (respLen frame cmd))).toVec]
           usb := a.usb
           spawned := a.spawned },
          { self with hasSentInitialHotplug := a.hasSentInitialHotplug }) := by
  obtain ⟨a, ha, hanswers, hcustom, hdirect⟩ :=
    self.answerCommand_ok usb frame cmd (List.length_replicate (a := 0) (n := 1022))
  rw [← answer_eq] at ha
  refine ⟨a, ha, hanswers, hcustom, hdirect, ?_⟩
  have hlen : a.customRespLen.getD (if frame.payload.length ≥ 1024 then 1024 else 128) =
      respLen frame cmd := by
    rw [hcustom, respLen]
    by_cases hchild : cmd = .getChildDeviceInfo <;> simp [hchild]
  have hle : respLen frame cmd ≤ a.respPayload.length := by
    rw [hanswers.length, respLen]
    split <;> decide
  rw [handleQuery, hcmd]
  simp only [bind, Except.bind, ha, sendResponse_eq frame hlen hle]
  rfl

theorem handleQuery_empty (h : frame.payload = []) :
    self.handleQuery usb frame = .ok ({}, self) := by
  rw [handleQuery, h]
  rfl

/-- A payload that is not empty names a command. -/
theorem exists_command (h : frame.payload ≠ []) :
    ∃ cmd, parsePrimaryQuery frame.payload = .ok (some cmd) := by
  obtain ⟨b, hb⟩ := exists_commandByte h
  exact ⟨.fromU8 b, by rw [parsePrimaryQuery_eq, hb, Option.map_some]⟩

/-! ### The handler -/

theorem handleFrame_of_probe (h : frame.IsProbe) :
    self.handleFrame usb frame = .ok
      ({ sent := [(keepaliveAck (frame.payload.getD 5 0) frame.header.messageId).toVec] },
        self) := by
  rw [handleFrame, isKeepaliveProbe_eq, if_pos h]
  simp only [bind, Except.bind, replyProbe_eq]
  rfl

/-- A frame for which the device is told more than fits in a transfer. -/
def Overlong : Prop :=
  ¬ frame.IsProbe ∧ self.Forwards frame ∧ self.usbDevice.isSome ∧
    (forwardCall frame).Overlong usb.epOutAddr

theorem handleFrame_of_forwards (h : ¬ frame.IsProbe) (hforwards : self.Forwards frame)
    (hfits : ¬ self.Overlong usb frame) :
    self.handleFrame usb frame = .ok
      ({ sent := if wantsAck frame then [(ackFrame frame 0x03).toVec] else []
         usb := (self.usbDevice.map fun _ => forwardCall frame).toList }, self) := by
  have hcall : self.usbDevice.isSome → ¬ (forwardCall frame).Overlong usb.epOutAddr :=
    fun hdevice hlong => hfits ⟨h, hforwards, hdevice, hlong⟩
  rw [handleFrame, isKeepaliveProbe_eq, if_neg h]
  simp only [bind, Except.bind, self.forwardDirect_of_forwards usb frame hforwards hcall]
  rfl

theorem handleFrame_of_overlong (h : self.Overlong usb frame) :
    self.handleFrame usb frame = .error .lengthOverflow := by
  obtain ⟨hprobe, hforwards, hdevice, hlong⟩ := h
  rw [handleFrame, isKeepaliveProbe_eq, if_neg hprobe]
  simp only [bind, Except.bind, self.forwardDirect_of_overlong usb frame hforwards hdevice hlong]

theorem not_overlong_of_ok {result : Effects × FrameHandler}
    (h : self.handleFrame usb frame = .ok result) : ¬ self.Overlong usb frame := by
  intro hlong
  rw [self.handleFrame_of_overlong usb frame hlong] at h
  cases h

theorem handleFrame_of_query (h : ¬ frame.IsProbe) (hforwards : ¬ self.Forwards frame) :
    self.handleFrame usb frame = self.handleQuery usb frame := by
  rw [handleFrame, isKeepaliveProbe_eq, if_neg h]
  simp only [bind, Except.bind, self.forwardDirect_of_not_forwards usb frame hforwards]

theorem not_forwards_of_dock {self : FrameHandler} (hmode : self.mode = .dock) :
    ¬ self.Forwards frame := by
  intro h
  have hdirect := h.1
  rw [hmode] at hdirect
  cases hdirect

/-- Direct mode forwards no `GetReport` and no write of report 0x03. -/
theorem not_forwards_of_query (h : frame.header.hidOp = .getReport ∨
    frame.header.hidOp = .write ∧ frame.payload.head? = some 0x03) : ¬ self.Forwards frame := by
  rintro ⟨-, hop | ⟨hop, first, hfirst, hne, -⟩⟩
  · obtain hget | ⟨hwrite, -⟩ := h
    · exact absurd (hget.symm.trans hop) (by decide)
    · exact absurd (hwrite.symm.trans hop) (by decide)
  · obtain hget | ⟨-, hhead⟩ := h
    · exact absurd (hget.symm.trans hop) (by decide)
    · rw [Option.mem_def, hhead, Option.some.injEq] at hfirst
      exact hne hfirst.symm

/-- The reply to a 0x1c query is the child in the slot. -/
theorem handleFrame_of_child (h : ¬ frame.IsProbe) (hforwards : ¬ self.Forwards frame)
    (hcmd : parsePrimaryQuery frame.payload = .ok (some .getChildDeviceInfo)) :
    ∃ self', self.handleFrame usb frame = .ok
      ({ sent := [(responseFrame frame
        ((self.state.childDeviceAt (frame.payload.getD 2 0)).buildPayload false
          (frame.payload.getD 2 0)).val).toVec] }, self') := by
  have hp := ((self.state.childDeviceAt (frame.payload.getD 2 0)).buildPayload false
    (frame.payload.getD 2 0)).property
  have hlen : respLen frame .getChildDeviceInfo = 128 := if_neg fun h => h.1 rfl
  obtain ⟨a, ha, -, -, -, hquery⟩ := self.handleQuery_ok usb frame hcmd
  rw [answer_eq] at ha
  have hchild := self.answerCommand_child usb frame (List.length_replicate (a := 0) (n := 1022))
  rw [PrimaryFeatureCommand.asU8, hchild, Except.ok.injEq] at ha
  subst ha
  rw [self.handleFrame_of_query usb frame h hforwards, hquery, hlen]
  dsimp only
  rw [List.take_left' hp]
  exact ⟨_, rfl⟩

/-- In Direct mode no task is spawned, and it stays Direct mode. -/
theorem handleFrame_of_direct (hmode : self.mode = .direct) {effects : Effects}
    {self' : FrameHandler} (h : self.handleFrame usb frame = .ok (effects, self')) :
    effects.spawned = [] ∧ self'.mode = .direct := by
  by_cases hprobe : frame.IsProbe
  · rw [self.handleFrame_of_probe usb frame hprobe] at h
    cases h
    exact ⟨rfl, hmode⟩
  by_cases hforwards : self.Forwards frame
  · have hfits := self.not_overlong_of_ok usb frame h
    rw [self.handleFrame_of_forwards usb frame hprobe hforwards hfits] at h
    cases h
    exact ⟨rfl, hmode⟩
  rw [self.handleFrame_of_query usb frame hprobe hforwards] at h
  by_cases hempty : frame.payload = []
  · rw [self.handleQuery_empty usb frame hempty] at h
    cases h
    exact ⟨rfl, hmode⟩
  · obtain ⟨cmd, hcmd⟩ := exists_command frame hempty
    obtain ⟨a, -, -, -, hdirect, hquery⟩ := self.handleQuery_ok usb frame hcmd
    rw [hquery] at h
    cases h
    exact ⟨hdirect hmode, hmode⟩

/-- What is sent for a frame, and what the device is told of it. -/
structure Replies (effects : Effects) : Prop where
  probe : frame.IsProbe →
    effects.sent = [(keepaliveAck (frame.payload.getD 5 0) frame.header.messageId).toVec] ∧
      effects.usb = []
  forwarded : ¬ frame.IsProbe → self.Forwards frame →
    effects.sent = (if wantsAck frame then [(ackFrame frame 0x03).toVec] else []) ∧
      effects.usb = (self.usbDevice.map fun _ => forwardCall frame).toList
  empty : ¬ frame.IsProbe → ¬ self.Forwards frame → frame.payload = [] →
    effects.sent = [] ∧ effects.usb = []
  query : ¬ frame.IsProbe → ¬ self.Forwards frame → frame.payload ≠ [] →
    ∃ cmd payload, parsePrimaryQuery frame.payload = .ok (some cmd) ∧
      effects.sent = [(responseFrame frame payload).toVec] ∧
      payload.take 2 = [0x03, cmd.asU8] ∧ payload.length = respLen frame cmd

theorem handleFrame_ok (hfits : ¬ self.Overlong usb frame) :
    ∃ effects self', self.handleFrame usb frame = .ok (effects, self') ∧
      self.Replies frame effects := by
  by_cases hprobe : frame.IsProbe
  · exact ⟨_, _, self.handleFrame_of_probe usb frame hprobe, fun _ => ⟨rfl, rfl⟩,
      fun h => absurd hprobe h, fun h => absurd hprobe h, fun h => absurd hprobe h⟩
  by_cases hforwards : self.Forwards frame
  · exact ⟨_, _, self.handleFrame_of_forwards usb frame hprobe hforwards hfits,
      fun h => absurd h hprobe, fun _ _ => ⟨rfl, rfl⟩, fun _ h => absurd hforwards h,
      fun _ h => absurd hforwards h⟩
  rw [self.handleFrame_of_query usb frame hprobe hforwards]
  by_cases hempty : frame.payload = []
  · exact ⟨_, _, self.handleQuery_empty usb frame hempty, fun h => absurd h hprobe,
      fun _ h => absurd h hforwards, fun _ _ _ => ⟨rfl, rfl⟩, fun _ _ h => absurd hempty h⟩
  · obtain ⟨cmd, hcmd⟩ := exists_command frame hempty
    obtain ⟨a, -, hanswers, -, -, hquery⟩ := self.handleQuery_ok usb frame hcmd
    refine ⟨_, _, hquery, fun h => absurd h hprobe, fun _ h => absurd h hforwards,
      fun _ _ h => absurd h hempty, fun _ _ _ => ⟨cmd, _, hcmd, rfl, ?_, ?_⟩⟩
    · rw [List.take_take, respLen]
      split <;> exact hanswers.front
    · rw [List.length_take, hanswers.length, respLen]
      split <;> rfl

theorem replies_of_ok {effects : Effects} {self' : FrameHandler}
    (h : self.handleFrame usb frame = .ok (effects, self')) : self.Replies frame effects := by
  obtain ⟨effects', handler', hhandle, hreplies⟩ :=
    self.handleFrame_ok usb frame (self.not_overlong_of_ok usb frame h)
  rw [h] at hhandle
  cases hhandle
  exact hreplies

end FrameHandler

/-- **Reply discipline of the primary port**: whatever the mode, the dock and the
device, no frame is handled with an index out of range, and each gets the
acknowledgement of a probe, that of a forwarded frame, nothing, or the one answer to
the command it names — unless it is forwarded to a device by a control transfer that
is too long for one. -/
theorem primary_reply_discipline_iff (handler : FrameHandler) (usb : UsbInterface)
    (frame : CoraFrame) :
    (∃ effects handler', handler.handleFrame usb frame = .ok (effects, handler') ∧
      handler.Replies frame effects) ↔ ¬ handler.Overlong usb frame := by
  refine ⟨?_, handler.handleFrame_ok usb frame⟩
  rintro ⟨effects, handler', hhandle, -⟩
  exact handler.not_overlong_of_ok usb frame hhandle

/-- A device that takes everything gets a report of 65536 bytes. -/
theorem long_report_unanswered :
    ¬ ∃ effects handler',
      { directHandler with usbDevice := some ⟨0, vendorIdElgato, 0x0080, "A", none⟩ }.handleFrame
        ⟨some 0x02, fun _ => .ok [], fun _ => .ok (), fun _ _ => .ok ()⟩ longReport =
          .ok (effects, handler') ∧
      FrameHandler.Replies
        { directHandler with usbDevice := some ⟨0, vendorIdElgato, 0x0080, "A", none⟩ }
        longReport effects := by
  rintro ⟨effects, handler', hhandle, -⟩
  exact FrameHandler.not_overlong_of_ok _ _ _ hhandle
    ⟨longReport_not_probe, ⟨rfl, .inl rfl⟩, rfl, length_longReport.ge⟩

end OpenNetDeck
