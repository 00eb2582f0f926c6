import OpenNetDeck.Embedded.Bridge
import OpenNetDeck.Embedded.Hub

/-!
# Replies of the embedded handlers

The replies of `EmbeddedDockHub` and `EmbeddedDeckBridge` against those of the
server: which message id, operation and flags they bear, which queries are answered
at all, and which of the output paths acknowledge what.

## Main definitions

- `IsResultOf`, `Correlated` — a message whose receiver can tell the request
- `acknowledgement` — what a report or a write is acknowledged with

## Main results

- `embedded_replies_correlated_iff` — the hub answers with the operation of a
  `GetReport`, whatever it was asked with
- `queries_answered_iff` — the queries that are taken for acknowledgements of a
  probe are dropped
- `acks_alike_iff` — Direct mode acknowledges neither empty writes nor those that
  start with 0x01, and the server no report that is too long for its device
-/

namespace OpenNetDeck

open Bytes Checked CoraFrame

/-- A `RESULT` with the message id of the request. -/
def IsResultOf (frame : CoraFrame) (msg : List UInt8) : Prop :=
  ∃ header, CoraHeader.parse (msg.take coraHeaderSize) = .ok header ∧
    header.flags.contains CoraFlags.result = true ∧
    header.messageId = frame.header.messageId

/-- A `RESULT` with the message id and the operation of the request. -/
def Correlated (frame : CoraFrame) (msg : List UInt8) : Prop :=
  ∃ header, CoraHeader.parse (msg.take coraHeaderSize) = .ok header ∧
    header.flags.contains CoraFlags.result = true ∧
    header.messageId = frame.header.messageId ∧ header.hidOp = frame.header.hidOp

theorem Correlated.isResultOf {frame : CoraFrame} {msg : List UInt8} (h : Correlated frame msg) :
    IsResultOf frame msg := by
  obtain ⟨header, hparse, hflags, hid, -⟩ := h
  exact ⟨header, hparse, hflags, hid⟩

theorem correlated_toVec_iff {frame f : CoraFrame} :
    Correlated frame f.toVec ↔ f.header.flags.contains CoraFlags.result = true ∧
      f.header.messageId = frame.header.messageId ∧ f.header.hidOp = frame.header.hidOp := by
  rw [Correlated, parse_toVec]
  constructor
  · rintro ⟨header, hheader, hrest⟩
    cases hheader
    exact hrest
  · intro hrest
    exact ⟨_, rfl, hrest⟩

theorem respFlags_result (frame : CoraFrame) :
    (respFlags frame).contains CoraFlags.result = true := by
  rw [respFlags]
  split <;> decide

/-! ### Correlation -/

theorem correlated_replyFrame (frame : CoraFrame) (p : List UInt8) :
    Correlated frame (SecondaryConnection.replyFrame frame p).toVec :=
  correlated_toVec_iff.mpr ⟨respFlags_result frame, rfl, rfl⟩

variable {D : Type} [StreamDeckSurface D]

/-- A device whose reports are empty. -/
def silentInterface : UsbInterface where
  epOutAddr := none
  controlIn := fun _ => .ok []
  setupOut := fun _ => .ok ()
  writeEndpoint := fun _ _ => .ok ()

/-- A request without flags. -/
def request (hidOp : CoraHidOp) (messageId : UInt32) (payload : List UInt8) : CoraFrame :=
  CoraFrame.new (CoraHeader.new CoraFlags.none hidOp messageId payload.length) payload

/-- **Every query but one is answered**: the bridge of the server and that of the
microcontroller answer a `GetReport` that is no probe with one `RESULT` exactly if it
does not look like the acknowledgement of a probe. -/
theorem queries_answered_iff (device : StreamDeckUsbHandle) (usb : UsbInterface)
    (bridge : EmbeddedDeckBridge D) (frame : CoraFrame) (hop : frame.header.hidOp = .getReport)
    (hne : frame.payload ≠ []) (hprobe : ¬ frame.IsProbe) :
    ((∃ effects msg, SecondaryConnection.handleIncomingFrame device usb frame = .ok effects ∧
          effects.sent = [msg] ∧ IsResultOf frame msg) ∧
        ∃ msg bridge', bridge.handleIncomingFrame frame = .ok ([msg], bridge') ∧
          IsResultOf frame msg) ↔
      ¬ frame.IsAck := by
  constructor
  · rintro ⟨-, msg, bridge', hmsg, -⟩ hack
    rw [bridge.handleIncomingFrame_of_ack frame hprobe hack] at hmsg
    cases hmsg
  · intro hack
    have hquery : SecondaryConnection.IsFeatureQuery frame := .inl hop
    obtain ⟨p, calls, hanswer, -⟩ := SecondaryConnection.answerQuery_ok device usb frame hne
    obtain ⟨id, hid⟩ := exists_commandByte hne
    obtain ⟨q, hq⟩ := bridge.answerQuery_ok frame hid
    refine ⟨⟨{ sent := [(SecondaryConnection.replyFrame frame p).toVec], usb := calls },
      _, ?_, rfl, (correlated_replyFrame frame p).isResultOf⟩,
      _, bridge, ?_, (correlated_replyFrame frame q).isResultOf⟩
    · rw [SecondaryConnection.handleIncomingFrame_of_not_keepalive device usb frame hprobe hack,
        if_pos hquery, hanswer]
    · rw [bridge.handleIncomingFrame_of_query frame hprobe hack hquery, hq]
      rfl

/-- A deck that returns an empty report is asked for its serial number. -/
theorem queries_answered_iff_serial :
    ((∃ effects msg, SecondaryConnection.handleIncomingFrame
            ⟨0, vendorIdElgato, 0x0080, "A", none⟩ silentInterface
            (request .getReport 7 [0x03, 0x06]) = .ok effects ∧
          effects.sent = [msg] ∧ IsResultOf (request .getReport 7 [0x03, 0x06]) msg) ∧
        ∃ msg bridge', EmbeddedDeckBridge.handleIncomingFrame
            ⟨VirtualStreamDeckPlus.new "A", 0, 5344⟩ (request .getReport 7 [0x03, 0x06]) =
              .ok ([msg], bridge') ∧
          IsResultOf (request .getReport 7 [0x03, 0x06]) msg) ↔
      ¬ (request .getReport 7 [0x03, 0x06]).IsAck :=
  queries_answered_iff _ _ _ (request .getReport 7 [0x03, 0x06]) rfl (by decide) (by decide)

/-- A query for report 0x1a with a byte of padding gets no reply from either. -/
theorem query_dropped :
    (request .getReport 7 [0x03, 0x1a, 0x00]).header.flags.contains CoraFlags.ackNak = false ∧
      ¬ (request .getReport 7 [0x03, 0x1a, 0x00]).IsProbe ∧
      SecondaryConnection.handleIncomingFrame ⟨0, vendorIdElgato, 0x0080, "A", none⟩
        silentInterface (request .getReport 7 [0x03, 0x1a, 0x00]) = .ok {} ∧
      EmbeddedDeckBridge.handleIncomingFrame ⟨VirtualStreamDeckPlus.new "A", 0, 5344⟩
        (request .getReport 7 [0x03, 0x1a, 0x00]) =
          .ok ([], ⟨VirtualStreamDeckPlus.new "A", 0, 5344⟩) :=
  ⟨by decide, by decide,
    SecondaryConnection.handleIncomingFrame_of_ack _ _ _ (by decide) (by decide),
    EmbeddedDeckBridge.handleIncomingFrame_of_ack _ _ (by decide) (by decide)⟩

/-! ### Acknowledgements -/

/-- What a report or a write that is no query gets: its first byte, if it asks for it. -/
def acknowledgement (frame : CoraFrame) : List (List UInt8) :=
  if wantsAck frame then
    [(ackFrame frame (if frame.header.hidOp = .write then 0x02 else 0x03)).toVec]
  else []

/-- The default of an acknowledgement does not matter where there is a payload. -/
theorem ackFrame_of_ne_nil {frame : CoraFrame} (h : frame.payload ≠ []) (a b : UInt8) :
    ackFrame frame a = ackFrame frame b := by
  cases hpayload : frame.payload with
  | nil => exact absurd hpayload h
  | cons first rest =>
    rw [ackFrame, ackFrame, hpayload]
    rfl

/-- A reply to a query is longer than an acknowledgement. -/
theorem acknowledgement_ne_response (frame : CoraFrame) {payload : List UInt8}
    (h : 1 < payload.length) :
    [(FrameHandler.responseFrame frame payload).toVec] ≠ acknowledgement frame := by
  rw [acknowledgement]
  split
  · intro heq
    have hlen := congrArg List.length (List.head_eq_of_cons_eq heq)
    rw [toVec_length, toVec_length] at hlen
    have hack : payload.length = 1 := Nat.add_left_cancel hlen
    omega
  · exact nofun

/-- Direct mode acknowledges what it forwards without a panic, and no write that it does
not forward. -/
theorem FrameHandler.acknowledges_iff (handler : FrameHandler) (hmode : handler.mode = .direct)
    (usb : UsbInterface) {frame : CoraFrame} (hop : frame.header.hidOp ≠ .getReport)
    (hprobe : ¬ frame.IsProbe)
    (hwrite : frame.header.hidOp = .write → frame.payload.head? ≠ some 0x03) :
    (∃ effects handler', handler.handleFrame usb frame = .ok (effects, handler') ∧
        effects.sent = acknowledgement frame) ↔
      ¬ handler.Overlong usb frame ∧ ¬ (frame.header.hidOp = .write ∧
        (frame.payload = [] ∧ wantsAck frame = true ∨ frame.payload.head? = some 0x01)) := by
  by_cases hfits : handler.Overlong usb frame
  · rw [handler.handleFrame_of_overlong usb frame hfits]
    exact iff_of_false (by rintro ⟨_, _, h, -⟩; cases h) fun h => h.1 hfits
  rw [and_iff_right hfits]
  obtain ⟨effects, handler', hhandle, -, hforwarded, hempty, hquery⟩ :=
    handler.handleFrame_ok usb frame hfits
  have hsent : (∃ effects handler', handler.handleFrame usb frame = .ok (effects, handler') ∧
      effects.sent = acknowledgement frame) ↔ effects.sent = acknowledgement frame := by
    rw [hhandle]
    constructor
    · rintro ⟨_, _, heq, hsent⟩
      cases heq
      exact hsent
    · intro hsent
      exact ⟨effects, handler', rfl, hsent⟩
  rw [hsent]
  by_cases hforwards : handler.Forwards frame
  · rw [(hforwarded hprobe hforwards).1, acknowledgement]
    obtain ⟨-, hreport | ⟨hop', first, hfirst, hne3, hne1⟩⟩ := hforwards
    · rw [hreport]
      simp
    · have hne : frame.payload ≠ [] := by
        intro hnil
        rw [hnil] at hfirst
        cases hfirst
      rw [ackFrame_of_ne_nil hne 0x03 (if frame.header.hidOp = .write then 0x02 else 0x03)]
      refine iff_of_true rfl ?_
      rintro ⟨-, ⟨hnil, -⟩ | hone⟩
      · exact hne hnil
      · rw [Option.mem_def.mp hfirst] at hone
        exact hne1 (Option.some.inj hone)
  · -- the op is `Write`: a report would be forwarded
    have hop' : frame.header.hidOp = .write := by
      cases hkind : frame.header.hidOp with
      | getReport => exact absurd hkind hop
      | sendReport => exact absurd ⟨hmode, .inl hkind⟩ hforwards
      | write => rfl
    cases hpayload : frame.payload with
    | nil =>
      rw [(hempty hprobe hforwards hpayload).1, acknowledgement]
      by_cases hack : wantsAck frame = true
      · simp [hop', hack]
      · simp [hack]
    | cons first rest =>
      have hhead : frame.payload.head? = some first := by rw [hpayload, List.head?_cons]
      have hfirst : first = 0x01 := by
        by_contra hne
        refine hforwards ⟨hmode, .inr ⟨hop', first, hhead, ?_, hne⟩⟩
        rintro rfl
        exact hwrite hop' hhead
      have hne : frame.payload ≠ [] := hpayload ▸ List.cons_ne_nil _ _
      obtain ⟨cmd, p, -, hresponse, -, hlen⟩ := hquery hprobe hforwards hne
      have hlong : 1 < p.length := by
        rw [hlen, FrameHandler.respLen]
        split <;> decide
      rw [hresponse]
      refine iff_of_false (acknowledgement_ne_response frame hlong) fun h => ?_
      exact h ⟨hop', .inr (by rw [List.head?_cons, hfirst])⟩

/-- So does the bridge of the server, for every report and every write that is no query. -/
theorem SecondaryConnection.acknowledges_iff (device : StreamDeckUsbHandle) (usb : UsbInterface)
    {frame : CoraFrame} (hop : frame.header.hidOp ≠ .getReport) (hprobe : ¬ frame.IsProbe)
    (hack : ¬ frame.IsAck) (hquery : ¬ IsFeatureQuery frame) :
    (∃ effects, handleIncomingFrame device usb frame = .ok effects ∧
        effects.sent = acknowledgement frame) ↔ ¬ Overlong usb frame := by
  constructor
  · rintro ⟨effects, hhandle, -⟩
    exact not_overlong_of_ok device usb frame hhandle
  · intro hfits
    cases hkind : frame.header.hidOp with
    | getReport => exact absurd hkind hop
    | sendReport =>
      exact ⟨_, handleIncomingFrame_of_report device usb frame hprobe hack hkind hfits,
        by rw [acknowledgement, hkind]; rfl⟩
    | write =>
      exact ⟨_, handleIncomingFrame_of_write device usb frame hprobe hack hkind hquery hfits,
        by rw [acknowledgement, hkind]; rfl⟩

/-- **The output paths acknowledge alike but for three kinds of frames**: for a report or a
write that is neither a keepalive nor a query, Direct mode, the bridge of the server and
that of the microcontroller send the same acknowledgement exactly if the frame is not
a write that is empty and asks for one, nor one that starts with 0x01, and neither device
gets it by a control transfer that is too long for one. -/
theorem acks_alike_iff (handler : FrameHandler) (hmode : handler.mode = .direct)
    (usb : UsbInterface) (device : StreamDeckUsbHandle) (deviceUsb : UsbInterface)
    (bridge : EmbeddedDeckBridge D) (frame : CoraFrame)
    (hop : frame.header.hidOp ≠ .getReport) (hprobe : ¬ frame.IsProbe) (hack : ¬ frame.IsAck)
    (hwrite : frame.header.hidOp = .write → frame.payload.head? ≠ some 0x03) :
    ((∃ effects handler', handler.handleFrame usb frame = .ok (effects, handler') ∧
          effects.sent = acknowledgement frame) ∧
        (∃ effects, SecondaryConnection.handleIncomingFrame device deviceUsb frame = .ok effects ∧
          effects.sent = acknowledgement frame) ∧
        ∃ bridge', bridge.handleIncomingFrame frame = .ok (acknowledgement frame, bridge')) ↔
      ¬ handler.Overlong usb frame ∧ ¬ SecondaryConnection.Overlong deviceUsb frame ∧
        ¬ (frame.header.hidOp = .write ∧
          (frame.payload = [] ∧ wantsAck frame = true ∨ frame.payload.head? = some 0x01)) := by
  have hquery : ¬ SecondaryConnection.IsFeatureQuery frame := by
    rintro (hget | ⟨hop', hhead⟩)
    · exact hop hget
    · exact hwrite hop' hhead
  have hbridge : ∃ bridge',
      bridge.handleIncomingFrame frame = .ok (acknowledgement frame, bridge') :=
    bridge.handleIncomingFrame_of_output frame hprobe hack hquery
  rw [and_iff_left hbridge, handler.acknowledges_iff hmode usb hop hprobe hwrite,
    SecondaryConnection.acknowledges_iff device deviceUsb hop hprobe hack hquery]
  exact and_right_comm.trans and_assoc

/-- A Direct-mode server, a bridge and an embedded bridge get an image chunk. -/
theorem acks_alike_iff_chunk :
    ((∃ effects handler', FrameHandler.handleFrame directHandler silentInterface
            (request .write 7 [0x02, 0x07]) = .ok (effects, handler') ∧
          effects.sent = acknowledgement (request .write 7 [0x02, 0x07])) ∧
        (∃ effects, SecondaryConnection.handleIncomingFrame
            ⟨0, vendorIdElgato, 0x0080, "A", none⟩ silentInterface
            (request .write 7 [0x02, 0x07]) = .ok effects ∧
          effects.sent = acknowledgement (request .write 7 [0x02, 0x07])) ∧
        ∃ bridge', EmbeddedDeckBridge.handleIncomingFrame
            ⟨VirtualStreamDeckPlus.new "A", 0, 5344⟩ (request .write 7 [0x02, 0x07]) =
              .ok (acknowledgement (request .write 7 [0x02, 0x07]), bridge')) ↔
      ¬ FrameHandler.Overlong directHandler silentInterface (request .write 7 [0x02, 0x07]) ∧
        ¬ SecondaryConnection.Overlong silentInterface (request .write 7 [0x02, 0x07]) ∧
        ¬ (CoraHidOp.write = .write ∧
          (([0x02, 0x07] : List UInt8) = [] ∧ wantsAck (request .write 7 [0x02, 0x07]) = true ∨
            ([0x02, 0x07] : List UInt8).head? = some 0x01)) :=
  acks_alike_iff _ rfl _ _ _ _ (request .write 7 [0x02, 0x07]) (by decide) (by decide) (by decide)
    (by decide)

/-- An empty write with a message id: Direct mode is silent, and the bridge answers. -/
theorem empty_write_unacknowledged :
    directHandler.handleFrame silentInterface (request .write 7 []) = .ok ({}, directHandler) ∧
    ∃ bridge', EmbeddedDeckBridge.handleIncomingFrame ⟨VirtualStreamDeckPlus.new "A", 0, 5344⟩
        (request .write 7 []) =
      .ok ([(CoraFrame.new (CoraHeader.new CoraFlags.result .write 7 1) [0x02]).toVec],
        bridge') := by
  constructor
  · rfl
  · exact EmbeddedDeckBridge.handleIncomingFrame_of_output _ (request .write 7 []) (by decide)
      (by decide) (by decide)

end OpenNetDeck
