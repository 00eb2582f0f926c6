import OpenNetDeck.Protocol.Queries
import OpenNetDeck.Server.Replies

/-!
# Frames on a secondary port

`SecondaryConnection::handle_incoming_frame`: keepalives, the feature queries
that are answered for the device or forwarded to it, and the reports and writes
that are passed on.

## Main definitions

- `SecondaryConnection.answerQuery` — the answer to a feature query
- `SecondaryConnection.handleIncomingFrame` — the whole handler
- `SecondaryConnection.Replies` — what a frame may get

## Main results

- `secondary_reply_discipline_iff` — what is sent for every frame but those that make
  the device's handle panic, whatever the device does, and that no index is out of range
-/

namespace OpenNetDeck

open Bytes Checked

namespace SecondaryConnection

/-- The frame that answers another one. -/
def replyFrame (frame : CoraFrame) (p : List UInt8) : CoraFrame :=
  CoraFrame.new
    (CoraHeader.new (respFlags frame) frame.header.hidOp frame.header.messageId p.length) p

/-- A `GetReport`, or a `Write` that starts with 0x03. -/
def isFeatureQuery (frame : CoraFrame) : Except Panic Bool :=
  if frame.header.hidOp = .getReport then return true
  else if frame.header.hidOp = .write ∧ !frame.payload.isEmpty then do
    return (← index frame.payload 0) = 0x03
  else return false

/-- The report that a query asks for. -/
def reportId (frame : CoraFrame) : Except Panic UInt8 := do
  let first ← index frame.payload 0
  if first = 0x03 ∧ frame.payload.length ≥ 2 then index frame.payload 1
  else return first

/-- The child that the bridge announces for its device. -/
def ownChild (device : StreamDeckUsbHandle) (requestedSlot : UInt8) : ChildDeviceInfo :=
  let modelName := (device.model.map (·.name)).getD "Stream Deck"
  ChildDeviceInfo.connected requestedSlot device.vendorId device.productId modelName
    device.serialNumber 5344

/-- 1024 for a long request, else a length of the answer's own. -/
def paddedLen (frame : CoraFrame) (n : ℕ) : ℕ :=
  if frame.payload.length ≥ 1024 then 1024 else n

/-- The answer to 0x1c. -/
def answerChild (device : StreamDeckUsbHandle) (frame : CoraFrame) : Except Panic Effects := do
  let requestedSlot ← requestedSlot frame
  let child := ownChild device requestedSlot
  let respLen := paddedLen frame 128
  let p ← store (List.replicate respLen 0) 0 (child.buildPayload false requestedSlot).val
  return { sent := [(replyFrame frame p).toVec] }

/-- The answer to 0x80. -/
def answerDeviceInfo (device : StreamDeckUsbHandle) (frame : CoraFrame) :
    Except Panic Effects := do
  let respLen := paddedLen frame 16
  let (_, p) ← buildDeviceInfoPayload device.vendorId device.productId (List.replicate respLen 0)
  return { sent := [(replyFrame frame p).toVec] }

/-- The answer to the queries that the device gets, or a dummy if it fails. -/
def answerReport (usb : UsbInterface) (frame : CoraFrame) (reportId : UInt8) :
    Except Panic Effects := do
  let reqLen := paddedLen frame 32
  let calls := [UsbCall.getFeatureReport reportId reqLen]
  match usb.getFeatureReport reportId reqLen with
  | .ok reportData =>
    let reportData := if frame.payload.length ≥ 1024 ∧ reportData.length < 1024 then
      reportData ++ List.replicate (1024 - reportData.length) 0 else reportData
    return { sent := [(replyFrame frame reportData).toVec], usb := calls }
  | .error _ =>
    let fallback ← store (List.replicate reqLen 0) 0 [0x03]
    let fallback ← store fallback 1 [reportId]
    return { sent := [(replyFrame frame fallback).toVec], usb := calls }

/-- The answer to a feature query. -/
def answerQuery (device : StreamDeckUsbHandle) (usb : UsbInterface) (frame : CoraFrame) :
    Except Panic Effects :=
  if frame.payload.isEmpty then return {}
  else do
    let reportId ← reportId frame
    if reportId = 0x1c then answerChild device frame
    else if reportId = 0x80 then answerDeviceInfo device frame
    else answerReport usb frame reportId

/-- The handler of a frame; `usb` is the interface of the device. -/
def handleIncomingFrame (device : StreamDeckUsbHandle) (usb : UsbInterface) (frame : CoraFrame) :
    Except Panic Effects := do
  match ← isKeepaliveProbe frame with
  | some connId => replyProbe connId frame
  | none =>
    match ← isKeepaliveAck frame with
    | some _ => return {}
    | none =>
      if ← isFeatureQuery frame then answerQuery device usb frame
      -- a failed transfer is logged and acknowledged like any other
      else if frame.header.hidOp = .sendReport then
        let _ ← usb.setFeatureReport frame.payload
        return { sent := ← sendAck frame 0x03, usb := [.setFeatureReport frame.payload] }
      else if frame.header.hidOp = .write then
        let _ ← usb.writeOut frame.payload
        return { sent := ← sendAck frame 0x02, usb := [.writeOut frame.payload] }
      else return {}

/-- A frame that is handled as a feature query. -/
def IsFeatureQuery (frame : CoraFrame) : Prop :=
  frame.header.hidOp = .getReport ∨
    frame.header.hidOp = .write ∧ frame.payload.head? = some 0x03

instance : DecidablePred IsFeatureQuery := fun _ => inferInstanceAs (Decidable (_ ∨ _ ∧ _))

variable (device : StreamDeckUsbHandle) (usb : UsbInterface) (frame : CoraFrame)

theorem isFeatureQuery_eq :
    ∃ b, isFeatureQuery frame = .ok b ∧ (b = true ↔ IsFeatureQuery frame) := by
  rw [isFeatureQuery, IsFeatureQuery]
  cases hop : frame.header.hidOp with
  | getReport => exact ⟨true, rfl, by simp⟩
  | sendReport => exact ⟨false, rfl, by simp⟩
  | write =>
    cases hpayload : frame.payload with
    | nil => exact ⟨false, rfl, by simp⟩
    | cons first rest => exact ⟨decide (first = 0x03), rfl, by simp⟩

theorem reportId_of_command {id : UInt8} (h : commandByte frame.payload = some id) :
    reportId frame = .ok id := by
  rw [reportId]
  match hpayload : frame.payload with
  | [] =>
    rw [hpayload] at h
    cases h
  | [b] =>
    rw [hpayload] at h
    cases h
    simp [bind, Except.bind, pure, Except.pure]
  | b :: c :: rest =>
    rw [hpayload, commandByte, Option.some.injEq] at h
    subst h
    by_cases hb : b = 0x03 <;> simp [hb, bind, Except.bind, pure, Except.pure]

theorem le_paddedLen {n : ℕ} (hn : n ≤ 1024) : n ≤ paddedLen frame n := by
  rw [paddedLen]
  split <;> omega

theorem paddedLen_le {n : ℕ} (hn : n ≤ 1024) : paddedLen frame n ≤ 1024 := by
  rw [paddedLen]
  split <;> omega

/-- A 0x1c query is answered with the device's own child, padded with zeros. -/
theorem answerChild_eq :
    answerChild device frame = .ok { sent := [(replyFrame frame
      (((ownChild device (frame.payload.getD 2 0)).buildPayload false
        (frame.payload.getD 2 0)).val ++
          List.replicate (paddedLen frame 128 - 128) 0)).toVec] } := by
  have hp := ((ownChild device (frame.payload.getD 2 0)).buildPayload false
    (frame.payload.getD 2 0)).property
  have hstore : store (List.replicate (paddedLen frame 128) 0) 0
      ((ownChild device (frame.payload.getD 2 0)).buildPayload false
        (frame.payload.getD 2 0)).val =
      .ok (((ownChild device (frame.payload.getD 2 0)).buildPayload false
        (frame.payload.getD 2 0)).val ++ List.replicate (paddedLen frame 128 - 128) 0) := by
    rw [store_zero, hp, List.drop_replicate]
    rw [hp, List.length_replicate]
    exact le_paddedLen frame (by decide)
  rw [answerChild, requestedSlot_eq]
  simp only [bind, Except.bind, hstore]
  rfl

theorem answerDeviceInfo_eq :
    answerDeviceInfo device frame = .ok { sent := [(replyFrame frame
      (deviceInfoReport device.vendorId device.productId ++
        List.replicate (paddedLen frame 16 - 16) 0)).toVec] } := by
  have hlen : 16 ≤ (List.replicate (paddedLen frame 16) (0 : UInt8)).length := by
    rw [List.length_replicate]
    exact le_paddedLen frame (by decide)
  have hbuild := buildDeviceInfoPayload_eq device.vendorId device.productId hlen
  rw [List.drop_replicate] at hbuild
  rw [answerDeviceInfo]
  simp only [bind, Except.bind, hbuild]
  rfl

/-- A query for the device is answered, whether the transfer succeeds or not. -/
theorem answerReport_ok (id : UInt8) :
    ∃ p, answerReport usb frame id = .ok
        { sent := [(replyFrame frame p).toVec]
          usb := [.getFeatureReport id (paddedLen frame 32)] } ∧
      (usb.Bounded → p.length ≤ 1024 ∧ (1024 ≤ frame.payload.length → p.length = 1024)) := by
  rw [answerReport]
  have hle : 32 ≤ paddedLen frame 32 := le_paddedLen frame (by decide)
  have hge : paddedLen frame 32 ≤ 1024 := paddedLen_le frame (by decide)
  cases hread : usb.getFeatureReport id (paddedLen frame 32) with
  | ok reportData =>
    refine ⟨_, rfl, fun husb => ?_⟩
    have hlen := UsbInterface.getFeatureReport_length husb (hge.trans_lt (by decide)) hread
    rw [Nat.max_eq_left hle] at hlen
    refine ⟨?_, fun hlong => ?_⟩
    · split
      · rw [List.length_append, List.length_replicate]
        omega
      · omega
    · split
      · rw [List.length_append, List.length_replicate]
        omega
      · omega
  | error e =>
    obtain ⟨first, hfirst, hfirstLen⟩ : ∃ out, store (List.replicate (paddedLen frame 32) 0) 0
        [0x03] = .ok out ∧ out.length = (List.replicate (paddedLen frame 32) (0 : UInt8)).length :=
      store_ok (by rw [List.length_replicate]; simp; omega)
    rw [List.length_replicate] at hfirstLen
    obtain ⟨second, hsecond, hsecondLen⟩ : ∃ out, store first 1 [id] = .ok out ∧
        out.length = first.length :=
      store_ok (by simp; omega)
    simp only [bind, Except.bind, hfirst, hsecond]
    refine ⟨second, rfl, fun _ => ⟨by omega, fun hlong => ?_⟩⟩
    rw [hsecondLen, hfirstLen, paddedLen, if_pos hlong]

/-- A feature query gets one answer, and a long one of 1024 bytes unless the device
returns more than it is asked for. -/
theorem answerQuery_ok (h : frame.payload ≠ []) :
    ∃ p calls, answerQuery device usb frame = .ok
        { sent := [(replyFrame frame p).toVec], usb := calls } ∧ calls.length ≤ 1 ∧
      (usb.Bounded → p.length ≤ 1024 ∧ (1024 ≤ frame.payload.length → p.length = 1024)) := by
  have hpadded : ∀ {n : ℕ} {front : List UInt8}, front.length = n → n ≤ 1024 →
      (front ++ List.replicate (paddedLen frame n - n) 0).length ≤ 1024 ∧
        (1024 ≤ frame.payload.length →
          (front ++ List.replicate (paddedLen frame n - n) 0).length = 1024) := by
    intro n front hfront hn
    rw [List.length_append, List.length_replicate, hfront, paddedLen]
    split <;> omega
  obtain ⟨id, hcommand⟩ := exists_commandByte h
  have hid := reportId_of_command frame hcommand
  rw [answerQuery, if_neg (by simpa using h), hid]
  show ∃ p calls, (if id = 0x1c then _ else _) = _ ∧ _
  by_cases hchild : id = 0x1c
  · rw [if_pos hchild, answerChild_eq]
    have hp := ((ownChild device (frame.payload.getD 2 0)).buildPayload false
      (frame.payload.getD 2 0)).property
    exact ⟨_, [], rfl, Nat.zero_le 1, fun _ => hpadded hp (by decide)⟩
  rw [if_neg hchild]
  by_cases hinfo : id = 0x80
  · rw [if_pos hinfo, answerDeviceInfo_eq]
    exact ⟨_, [], rfl, Nat.zero_le 1, fun _ => hpadded rfl (by decide)⟩
  · rw [if_neg hinfo]
    obtain ⟨p, hanswer, hlen⟩ := answerReport_ok usb frame id
    exact ⟨p, _, hanswer, le_rfl, hlen⟩

/-- What is sent for a frame, and what the device is told of it. -/
structure Replies (effects : Effects) : Prop where
  sent_le : effects.sent.length ≤ 1
  usb_le : effects.usb.length ≤ 1
  probe : frame.IsProbe →
    effects.sent = [(keepaliveAck (frame.payload.getD 5 0) frame.header.messageId).toVec]
  ack : ¬ frame.IsProbe → frame.IsAck → effects.sent = []
  reply : ¬ frame.IsProbe → ∀ msg ∈ effects.sent, ∃ p, msg = (replyFrame frame p).toVec ∧
    p.length ≤ 1024
  query : ¬ frame.IsProbe → ¬ frame.IsAck → IsFeatureQuery frame → frame.payload ≠ [] →
    ∃ p, effects.sent = [(replyFrame frame p).toVec] ∧
      (1024 ≤ frame.payload.length → p.length = 1024)
  sendReport : ¬ frame.IsProbe → ¬ frame.IsAck → frame.header.hidOp = .sendReport →
    effects.usb = [.setFeatureReport frame.payload] ∧
      effects.sent = if wantsAck frame then [(ackFrame frame 0x03).toVec] else []
  write : ¬ frame.IsProbe → ¬ frame.IsAck → frame.header.hidOp = .write →
    ¬ IsFeatureQuery frame → effects.usb = [.writeOut frame.payload] ∧
      effects.sent = if wantsAck frame then [(ackFrame frame 0x02).toVec] else []

theorem handleIncomingFrame_of_probe (h : frame.IsProbe) :
    handleIncomingFrame device usb frame = .ok
      { sent := [(keepaliveAck (frame.payload.getD 5 0) frame.header.messageId).toVec] } := by
  rw [handleIncomingFrame, isKeepaliveProbe_eq, if_pos h]
  simp only [bind, Except.bind, replyProbe_eq]

theorem handleIncomingFrame_of_ack (h : ¬ frame.IsProbe) (hack : frame.IsAck) :
    handleIncomingFrame device usb frame = .ok {} := by
  rw [handleIncomingFrame, isKeepaliveProbe_eq, if_neg h, isKeepaliveAck_eq, if_pos hack]
  rfl

/-- The rest of the handler, for a frame that is no keepalive. -/
theorem handleIncomingFrame_of_not_keepalive (h : ¬ frame.IsProbe) (hack : ¬ frame.IsAck) :
    handleIncomingFrame device usb frame =
      if IsFeatureQuery frame then answerQuery device usb frame
      else if frame.header.hidOp = .sendReport then
        (usb.setFeatureReport frame.payload).bind fun _ =>
          .ok { sent := if wantsAck frame then [(ackFrame frame 0x03).toVec] else []
                usb := [.setFeatureReport frame.payload] }
      else if frame.header.hidOp = .write then
        (usb.writeOut frame.payload).bind fun _ =>
          .ok { sent := if wantsAck frame then [(ackFrame frame 0x02).toVec] else []
                usb := [.writeOut frame.payload] }
      else .ok {} := by
  obtain ⟨b, hb, hiff⟩ := isFeatureQuery_eq frame
  rw [handleIncomingFrame, isKeepaliveProbe_eq, if_neg h, isKeepaliveAck_eq, if_neg hack]
  simp only [bind, Except.bind, hb, sendAck_eq, ← hiff]
  rfl

/-- A query is no report. -/
theorem IsFeatureQuery.hidOp_ne {frame : CoraFrame} (h : IsFeatureQuery frame) :
    frame.header.hidOp ≠ .sendReport := by
  intro hop
  obtain hget | ⟨hwrite, -⟩ := h
  · rw [hget] at hop
    cases hop
  · rw [hwrite] at hop
    cases hop

/-- A frame by which the device is told more than fits in a transfer. -/
def Overlong : Prop :=
  ¬ frame.IsProbe ∧ ¬ frame.IsAck ∧ ¬ IsFeatureQuery frame ∧
    (forwardCall frame).Overlong usb.epOutAddr

theorem handleIncomingFrame_of_report (h : ¬ frame.IsProbe) (hack : ¬ frame.IsAck)
    (hop : frame.header.hidOp = .sendReport) (hfits : ¬ Overlong usb frame) :
    handleIncomingFrame device usb frame = .ok
      { sent := if wantsAck frame then [(ackFrame frame 0x03).toVec] else []
        usb := [.setFeatureReport frame.payload] } := by
  have hquery : ¬ IsFeatureQuery frame := fun h => h.hidOp_ne hop
  have hcall := forwardCall_of_report hop
  obtain ⟨outcome, houtcome⟩ := usb.setFeatureReport_ok frame.payload fun hlong =>
    hfits ⟨h, hack, hquery, hcall ▸ hlong⟩
  rw [handleIncomingFrame_of_not_keepalive device usb frame h hack, if_neg hquery, if_pos hop,
    houtcome]
  rfl

theorem handleIncomingFrame_of_write (h : ¬ frame.IsProbe) (hack : ¬ frame.IsAck)
    (hop : frame.header.hidOp = .write) (hquery : ¬ IsFeatureQuery frame)
    (hfits : ¬ Overlong usb frame) :
    handleIncomingFrame device usb frame = .ok
      { sent := if wantsAck frame then [(ackFrame frame 0x02).toVec] else []
        usb := [.writeOut frame.payload] } := by
  have hreport : frame.header.hidOp ≠ .sendReport := by simp [hop]
  have hcall := forwardCall_of_write hop
  obtain ⟨outcome, houtcome⟩ := usb.writeOut_ok frame.payload fun hlong =>
    hfits ⟨h, hack, hquery, hcall ▸ hlong⟩
  rw [handleIncomingFrame_of_not_keepalive device usb frame h hack, if_neg hquery,
    if_neg hreport, if_pos hop, houtcome]
  rfl

theorem handleIncomingFrame_of_overlong (h : Overlong usb frame) :
    handleIncomingFrame device usb frame = .error .lengthOverflow := by
  obtain ⟨hprobe, hack, hquery, hlong⟩ := h
  rw [handleIncomingFrame_of_not_keepalive device usb frame hprobe hack, if_neg hquery]
  cases hop : frame.header.hidOp with
  | getReport => exact absurd (.inl hop) hquery
  | sendReport =>
    rw [forwardCall_of_report hop] at hlong
    rw [if_pos rfl, usb.setFeatureReport_overlong frame.payload hlong]
    rfl
  | write =>
    rw [forwardCall_of_write hop] at hlong
    rw [if_neg (by simp), if_pos rfl, usb.writeOut_overlong frame.payload hlong]
    rfl

theorem not_overlong_of_ok {effects : Effects}
    (h : handleIncomingFrame device usb frame = .ok effects) : ¬ Overlong usb frame := by
  intro hlong
  rw [handleIncomingFrame_of_overlong device usb frame hlong] at h
  cases h

theorem replies_of_ack {default : UInt8} {call : UsbCall}
    (h : ¬ frame.IsProbe) (hack : ¬ frame.IsAck) (hquery : ¬ IsFeatureQuery frame)
    (hreport : frame.header.hidOp = .sendReport →
      default = 0x03 ∧ call = .setFeatureReport frame.payload)
    (hwrite : frame.header.hidOp = .write → default = 0x02 ∧ call = .writeOut frame.payload) :
    Replies frame
      { sent := if wantsAck frame then [(ackFrame frame default).toVec] else []
        usb := [call] } where
  sent_le := by
    show (if wantsAck frame then _ else _ : List (List UInt8)).length ≤ 1
    split <;> simp
  usb_le := le_rfl
  probe := fun hprobe => absurd hprobe h
  ack := fun _ h => absurd h hack
  reply := by
    intro _ msg hmsg
    simp only at hmsg
    split at hmsg
    · rw [List.mem_singleton] at hmsg
      exact ⟨[frame.payload.headD default], hmsg, Nat.succ_le_succ (Nat.zero_le _)⟩
    · cases hmsg
  query := fun _ _ h => absurd h hquery
  sendReport := by
    intro _ _ hop
    obtain ⟨rfl, rfl⟩ := hreport hop
    exact ⟨rfl, rfl⟩
  write := by
    intro _ _ hop _
    obtain ⟨rfl, rfl⟩ := hwrite hop
    exact ⟨rfl, rfl⟩

theorem handleIncomingFrame_ok (husb : usb.Bounded) (hfits : ¬ Overlong usb frame) :
    ∃ effects, handleIncomingFrame device usb frame = .ok effects ∧ Replies frame effects := by
  by_cases hprobe : frame.IsProbe
  · exact ⟨_, handleIncomingFrame_of_probe device usb frame hprobe, le_rfl, Nat.zero_le 1,
      fun _ => rfl, fun h => absurd hprobe h, fun h => absurd hprobe h,
      fun h => absurd hprobe h, fun h => absurd hprobe h, fun h => absurd hprobe h⟩
  by_cases hack : frame.IsAck
  · exact ⟨_, handleIncomingFrame_of_ack device usb frame hprobe hack, Nat.zero_le 1,
      Nat.zero_le 1, fun h => absurd h hprobe, fun _ _ => rfl, fun _ _ => nofun,
      fun _ h => absurd hack h, fun _ h => absurd hack h, fun _ h => absurd hack h⟩
  by_cases hquery : IsFeatureQuery frame
  · rw [handleIncomingFrame_of_not_keepalive device usb frame hprobe hack, if_pos hquery]
    have hreport : frame.header.hidOp ≠ .sendReport := hquery.hidOp_ne
    by_cases hempty : frame.payload = []
    · rw [answerQuery, if_pos (by simpa using hempty)]
      exact ⟨_, rfl, Nat.zero_le 1, Nat.zero_le 1, fun h => absurd h hprobe, fun _ _ => rfl,
        fun _ _ => nofun, fun _ _ _ h => absurd hempty h, fun _ _ h => absurd h hreport,
        fun _ _ _ h => absurd hquery h⟩
    · obtain ⟨p, calls, hanswer, hcalls, hbounds⟩ := answerQuery_ok device usb frame hempty
      obtain ⟨hlen, hlong⟩ := hbounds husb
      refine ⟨_, hanswer, le_rfl, hcalls, fun h => absurd h hprobe, fun _ h => absurd h hack, ?_,
        fun _ _ _ _ => ⟨p, rfl, hlong⟩, fun _ _ h => absurd h hreport,
        fun _ _ _ h => absurd hquery h⟩
      intro _ msg hmsg
      exact ⟨p, List.mem_singleton.mp hmsg, hlen⟩
  cases hop : frame.header.hidOp with
  | getReport => exact absurd (.inl hop) hquery
  | sendReport =>
    exact ⟨_, handleIncomingFrame_of_report device usb frame hprobe hack hop hfits,
      replies_of_ack frame hprobe hack hquery (fun _ => ⟨rfl, rfl⟩) (by simp [hop])⟩
  | write =>
    exact ⟨_, handleIncomingFrame_of_write device usb frame hprobe hack hop hquery hfits,
      replies_of_ack frame hprobe hack hquery (by simp [hop]) (fun _ => ⟨rfl, rfl⟩)⟩

theorem replies_of_ok (husb : usb.Bounded) {effects : Effects}
    (h : handleIncomingFrame device usb frame = .ok effects) : Replies frame effects := by
  obtain ⟨effects', hhandle, hreplies⟩ :=
    handleIncomingFrame_ok device usb frame husb (not_overlong_of_ok device usb frame h)
  rw [h] at hhandle
  cases hhandle
  exact hreplies

end SecondaryConnection

/-- **Reply discipline of the secondary bridge**: for a device that returns no more
than it is asked for, or fails, no frame is handled with an index out of range, and
each gets at most one call of the device, at most one reply, and the reply that its kind
is due — unless it is passed on by a control transfer that is too long for one. -/
theorem secondary_reply_discipline_iff (device : StreamDeckUsbHandle) (usb : UsbInterface)
    (husb : usb.Bounded) (frame : CoraFrame) :
    (∃ effects, SecondaryConnection.handleIncomingFrame device usb frame = .ok effects ∧
      SecondaryConnection.Replies frame effects) ↔ ¬ SecondaryConnection.Overlong usb frame := by
  refine ⟨?_, SecondaryConnection.handleIncomingFrame_ok device usb frame husb⟩
  rintro ⟨effects, hhandle, -⟩
  exact SecondaryConnection.not_overlong_of_ok device usb frame hhandle

/-- A deck that has nothing to say and refuses every transfer to it. -/
theorem secondary_reply_discipline_failing :
    ∃ effects, SecondaryConnection.handleIncomingFrame ⟨0, vendorIdElgato, 0x0080, "A", none⟩
        ⟨some 0x02, fun _ => .ok [], fun _ => .error .disconnected,
          fun _ _ => .error .notConnected⟩
        ⟨CoraHeader.new CoraFlags.none .getReport 7 2, [0x03, 0x05]⟩ = .ok effects ∧
      SecondaryConnection.Replies
        ⟨CoraHeader.new CoraFlags.none .getReport 7 2, [0x03, 0x05]⟩ effects :=
  (secondary_reply_discipline_iff _ _
    (by
      intro control bytes h
      cases h
      exact Nat.zero_le _) _).mpr fun h => h.2.2.1 (.inl rfl)

/-- A deck that takes everything gets a report of 65536 bytes. -/
theorem long_report_unacknowledged :
    ¬ ∃ effects, SecondaryConnection.handleIncomingFrame
        ⟨0, vendorIdElgato, 0x0080, "A", none⟩
        ⟨some 0x02, fun _ => .ok [], fun _ => .ok (), fun _ _ => .ok ()⟩ longReport = .ok effects ∧
      SecondaryConnection.Replies longReport effects := by
  rintro ⟨effects, hhandle, -⟩
  refine SecondaryConnection.not_overlong_of_ok _ _ _ hhandle
    ⟨longReport_not_probe, longReport_not_ack, fun h => h.hidOp_ne rfl, length_longReport.ge⟩

end OpenNetDeck
