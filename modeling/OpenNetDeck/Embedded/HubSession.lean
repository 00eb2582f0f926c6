import OpenNetDeck.Embedded.Hub
import OpenNetDeck.Embedded.BridgeSession

/-!
# A session of the embedded hub

`EmbeddedDockHub::handle_connection` with its handler: the probe and the pushes before the
loop, and the replies to the frames of the client. The client follows the pushes with a
table of its own, which is then as good as asking the hub.

## Main definitions

- `EmbeddedDockHub.greet` — what is written before the loop
- `EmbeddedDockHub.ReplyTo` — the reply to a frame

## Main results

- `hub_session` — the client decodes a probe, a push for each child, and the replies to
  its frames in their order; where no two children share a slot, the table that it makes
  of the pushes answers as the hub does
-/

namespace OpenNetDeck

open Bytes Checked

namespace EmbeddedDockHub

/-- The probe, and a push for each child. -/
def greet (activeChildren : List ChildDeviceInfo) : Except Panic (Writing (List UInt8)) := do
  let probe ← sendBuilt (buildKeepaliveProbeFrame 1 1 (List.replicate 48 0))
  return {
    engine := List.replicate 2048 0
    written := probe ++ activeChildren.flatMap fun child => (hotplugFrame child).toList }

/-- The handler, writing to the stream; the engine is `tx_buffer`. -/
def handleWriting (self : EmbeddedDockHub) (activeChildren : List ChildDeviceInfo)
    (s : Writing (List UInt8)) (frame : CoraFrame) : Except Panic (Writing (List UInt8)) := do
  let (sent, txBuf) ← self.handleFrame frame activeChildren s.engine
  return { engine := txBuf, written := s.written ++ sent }

/-- The payload that answers a 0x1c query for a slot. -/
def childPayload (activeChildren : List ChildDeviceInfo) (slot : UInt8) : Block 128 :=
  match activeChildren.find? (·.slotIndex = slot) with
  | some child => child.buildPayload false slot
  | none => (ChildDeviceInfo.disconnected slot).buildPayload false slot

theorem childPayload_eq (activeChildren : List ChildDeviceInfo) (slot : UInt8) :
    childPayload activeChildren slot =
      ((activeChildren.find? (·.slotIndex = slot)).getD (.disconnected slot)).buildPayload false
        slot := by
  rw [childPayload]
  cases activeChildren.find? (·.slotIndex = slot) <;> rfl

/-- The frames that get a reply. -/
def Answers (frame : CoraFrame) : Prop := frame.IsProbe ∨ frame.payload ≠ []

instance : DecidablePred Answers := fun _ => inferInstanceAs (Decidable (_ ∨ _))

/-- The reply to a frame, but for the strings and the addresses of the hub. -/
def ReplyTo (activeChildren : List ChildDeviceInfo) (frame reply : CoraFrame) : Prop :=
  if frame.IsProbe then
    reply = keepaliveAck (frame.payload.getD 5 0) frame.header.messageId
  else ∃ cmd payload, parsePrimaryQuery frame.payload = .ok (some cmd) ∧
    reply = responseFrame frame payload ∧ payload.take 2 = [0x03, cmd.asU8] ∧
    if cmd = .getChildDeviceInfo then
      payload = (childPayload activeChildren (frame.payload.getD 2 0)).val
    else payload.length = 1024

variable (self : EmbeddedDockHub) (frame : CoraFrame) (activeChildren : List ChildDeviceInfo)

/-! ### One frame -/

/-- The commands without a name of their own leave the head of the response. -/
theorem answerOther_front {opcode : UInt8} {rest : List UInt8} (hrest : rest.length = 1022) :
    ∃ out, self.answerOther opcode (0x03 :: opcode :: rest) = .ok out ∧ out.length = 1024 ∧
      out.take 2 = [0x03, opcode] := by
  have hsize : (0x03 :: opcode :: rest).length = 1024 := by simp [hrest]
  rw [answerOther]
  by_cases hnetwork : opcode = 0x87
  · obtain ⟨out, hout, hlen, htake, -⟩ := self.networkReport_writes hsize
    rw [if_pos hnetwork]
    exact ⟨out, hout, hlen.trans hsize, htake⟩
  rw [if_neg hnetwork]
  by_cases hhardware : opcode = 0x8f
  · subst hhardware
    rw [if_pos rfl]
    simp only [bind, Except.bind, store_cons_zero, store_cons_one]
    exact ⟨_, rfl, hsize, rfl⟩
  rw [if_neg hhardware]
  by_cases hpoll : opcode = 0x1a
  · subst hpoll
    rw [if_pos rfl]
    simp only [bind, Except.bind, store_cons_zero, store_cons_one]
    exact ⟨_, rfl, hsize, rfl⟩
  rw [if_neg hpoll]
  simp only [bind, Except.bind, store_cons_zero, store_cons_one]
  exact ⟨_, rfl, hsize, rfl⟩

/-- The response to a command: how many bytes of it are sent, and what they start with. -/
def Responds (cmd : PrimaryFeatureCommand) (response : Except Panic (List UInt8 × ℕ)) : Prop :=
  ∃ out n, response = .ok (out, n) ∧ n ≤ out.length ∧ n ≤ 1024 ∧
    (out.take n).take 2 = [0x03, cmd.asU8] ∧
    if cmd = .getChildDeviceInfo then
      out.take n = (childPayload activeChildren (frame.payload.getD 2 0)).val
    else (out.take n).length = 1024

theorem responds_of_answers (cmd : PrimaryFeatureCommand) (hcmd : cmd ≠ .getChildDeviceInfo)
    {out : List UInt8} (h : FrameHandler.Answers cmd.asU8 out) :
    Responds frame activeChildren cmd (.ok (out, 1024)) := by
  have htake : out.take 1024 = out := List.take_of_length_le h.length.le
  refine ⟨out, 1024, rfl, h.length.ge, le_rfl, ?_, ?_⟩
  · rw [htake, h.front]
  · rw [if_neg hcmd, htake, h.length]

theorem answerCommand_responds (cmd : PrimaryFeatureCommand) {rest : List UInt8}
    (hrest : rest.length = 1022) :
    Responds frame activeChildren cmd
      (self.answerCommand frame activeChildren cmd (0x03 :: cmd.asU8 :: rest)) := by
  have hsize : (0x03 :: cmd.asU8 :: rest).length = 1024 := by simp [hrest]
  cases cmd with
  | getDeviceInfo =>
    rw [answerCommand, buildDeviceInfoPayload_eq _ _ (by omega)]
    exact responds_of_answers frame activeChildren .getDeviceInfo (by simp)
      (FrameHandler.answers_report rfl rfl (by decide) hsize)
  | getFirmwareVersion =>
    rw [answerCommand, buildFirmwareVersionPayload_eq _ (by omega)]
    exact responds_of_answers frame activeChildren .getFirmwareVersion (by simp)
      (FrameHandler.answers_report rfl (firmwareVersionReport_length _) (by decide) hsize)
  | getSerialNumber =>
    rw [answerCommand, buildSerialNumberPayload_eq _ (by omega)]
    exact responds_of_answers frame activeChildren .getSerialNumber (by simp)
      (FrameHandler.answers_report rfl rfl
        ((serialNumberReport_length_le _).trans (by decide)) hsize)
  | getMacAddress =>
    rw [answerCommand, buildMacAddressPayload_eq _ (by omega)]
    exact responds_of_answers frame activeChildren .getMacAddress (by simp)
      (FrameHandler.answers_report rfl (macAddressReport_length _) (by decide) hsize)
  | getChildDeviceInfo =>
    -- the one answer that is shorter than the buffer
    have hlen := (childPayload activeChildren (frame.payload.getD 2 0)).property
    have hstore : store (0x03 :: 0x1c :: rest) 0
        (childPayload activeChildren (frame.payload.getD 2 0)).val =
        .ok ((childPayload activeChildren (frame.payload.getD 2 0)).val ++
          (0x03 :: 0x1c :: rest).drop 128) := by
      rw [store_zero (by rw [hlen]; simp [hrest]), hlen]
    have hanswer : self.answerCommand frame activeChildren .getChildDeviceInfo
        (0x03 :: 0x1c :: rest) =
        .ok ((childPayload activeChildren (frame.payload.getD 2 0)).val ++
          (0x03 :: 0x1c :: rest).drop 128, 128) := by
      rw [answerCommand, requestedSlot_eq]
      show ((store (0x03 :: 0x1c :: rest) 0
        (childPayload activeChildren (frame.payload.getD 2 0)).val).bind _) = _
      rw [hstore]
      rfl
    refine ⟨_, 128, hanswer, ?_, by decide, ?_, ?_⟩
    · rw [List.length_append, hlen]
      exact Nat.le_add_right _ _
    · rw [List.take_left' hlen]
      rw [childPayload_eq]
      exact ChildDeviceInfo.take_buildPayload _ _
    · rw [if_pos rfl, List.take_left' hlen]
  | other opcode =>
    obtain ⟨out, hout, hlen, hfront⟩ := self.answerOther_front hrest
    rw [answerCommand, PrimaryFeatureCommand.asU8, hout]
    exact responds_of_answers frame activeChildren (.other opcode) (by simp) ⟨hlen, hfront⟩

/-- Every reply is a whole frame that is marked as a reply. -/
theorem ReplyTo.exists_sentFrame {activeChildren : List ChildDeviceInfo}
    {frame reply : CoraFrame} (h : ReplyTo activeChildren frame reply) :
    ∃ f : SentFrame, f.val = reply ∧ reply.isReply = true := by
  unfold ReplyTo at h
  split at h
  · subst h
    exact SentFrame.exists_keepaliveAck _ _
  · obtain ⟨cmd, payload, -, rfl, -, hpayload⟩ := h
    have hlen : payload.length < 2 ^ 32 := by
      split at hpayload
      · rw [hpayload, (childPayload activeChildren _).property]
        decide
      · rw [hpayload]
        decide
    exact SentFrame.exists_result (by decide) hlen

/-- An output buffer keeps its length. -/
theorem length_encode (f : CoraFrame) (out : List UInt8) :
    (f.encode out).2.length = out.length := by
  by_cases hfits : coraHeaderSize + f.payload.length ≤ out.length
  · rw [CoraFrame.encode_of_fits hfits, List.length_append, CoraFrame.toVec_length,
      List.length_drop]
    omega
  · rw [CoraFrame.encode_of_small (by omega)]

/-- The answer to a query keeps the length of the buffer that it is built in. -/
theorem handleFrame_of_response {txBuf : List UInt8} (hprobe : ¬ frame.IsProbe)
    {cmd : PrimaryFeatureCommand} (hcmd : parsePrimaryQuery frame.payload = .ok (some cmd))
    {out : List UInt8} {n : ℕ} (hanswer : self.answer frame activeChildren cmd = .ok (out, n))
    (hn : n ≤ out.length) (htx : 16 + n ≤ txBuf.length) :
    ∃ txBuf', txBuf'.length = txBuf.length ∧ self.handleFrame frame activeChildren txBuf =
      .ok ([(responseFrame frame (out.take n)).toVec], txBuf') := by
  obtain ⟨txBuf', hhandle⟩ :=
    self.handleFrame_of_query frame activeChildren txBuf hprobe hcmd hanswer hn htx
  refine ⟨txBuf', ?_, hhandle⟩
  rw [handleFrame, isKeepaliveProbe_eq, if_neg hprobe] at hhandle
  simp only [bind, Except.bind, hcmd, hanswer, slice_zero hn] at hhandle
  split at hhandle
  · cases hhandle
  · cases hhandle
    exact length_encode _ _

/-- A frame is handled, in a buffer of its size. -/
theorem handleWriting_replies {txBuf : List UInt8} (htx : txBuf.length = 2048)
    (written : List (List UInt8)) :
    ∃ (replies : List SentFrame) (txBuf' : List UInt8), txBuf'.length = 2048 ∧
      self.handleWriting activeChildren ⟨txBuf, written⟩ frame =
        .ok ⟨txBuf', written ++ replies.map SentFrame.toVec⟩ ∧
      List.Forall₂ (ReplyTo activeChildren) ([frame].filter Answers) (replies.map (·.val)) ∧
      ∀ f ∈ replies, f.val.isReply = true := by
  obtain ⟨sent, txBuf', htx', hhandle, hsent, hnone⟩ : ∃ sent txBuf', txBuf'.length = 2048 ∧
      self.handleFrame frame activeChildren txBuf = .ok (sent, txBuf') ∧
      (Answers frame → ∃ reply, ReplyTo activeChildren frame reply ∧ sent = [reply.toVec]) ∧
      (¬ Answers frame → sent = []) := by
    by_cases hprobe : frame.IsProbe
    · refine ⟨_, txBuf, htx, self.handleFrame_of_probe frame activeChildren txBuf hprobe,
        fun _ => ⟨_, ?_, rfl⟩, fun hnot => absurd (.inl hprobe) hnot⟩
      rw [ReplyTo, if_pos hprobe]
    by_cases hempty : frame.payload = []
    · exact ⟨_, txBuf, htx, self.handleFrame_of_empty frame activeChildren txBuf hprobe hempty,
        fun hgets => absurd hempty (hgets.resolve_left hprobe), fun _ => rfl⟩
    · obtain ⟨cmd, hcmd⟩ := FrameHandler.exists_command frame hempty
      have hstart : self.answer frame activeChildren cmd = self.answerCommand frame
          activeChildren cmd (0x03 :: cmd.asU8 :: List.replicate 1022 0) :=
        FrameHandler.store_head 1022 cmd.asU8 fun out =>
          self.answerCommand frame activeChildren cmd out
      obtain ⟨out, n, hanswer, hn, hle, hfront, hpayload⟩ :=
        self.answerCommand_responds frame activeChildren cmd
          (List.length_replicate (a := 0) (n := 1022))
      rw [← hstart] at hanswer
      obtain ⟨txBuf', htx', hhandle⟩ := self.handleFrame_of_response frame activeChildren hprobe
        hcmd hanswer hn (show 16 + n ≤ txBuf.length by omega)
      refine ⟨_, txBuf', htx'.trans htx, hhandle, fun _ => ⟨_, ?_, rfl⟩,
        fun hnot => absurd (.inr hempty) hnot⟩
      rw [ReplyTo, if_neg hprobe]
      exact ⟨cmd, out.take n, hcmd, rfl, hfront, hpayload⟩
  obtain ⟨replies, rfl, hall, hisReply⟩ :=
    SentFrame.exists_replies (fun _ => ReplyTo.exists_sentFrame) hsent hnone
  refine ⟨replies, txBuf', htx', ?_, hall, hisReply⟩
  simp only [handleWriting, hhandle, bind, Except.bind, pure, Except.pure]

/-! ### Sessions -/

/-- What a hub has written after some frames: the probe, the pushes, and the replies. -/
def InSession (s : Writing (List UInt8)) (delivered : List CoraFrame) : Prop :=
  s.engine.length = 2048 ∧ ∃ replies : List SentFrame,
    s.written =
      (SentFrame.probe 1 1 :: activeChildren.map SentFrame.push ++ replies).map SentFrame.toVec ∧
    List.Forall₂ (ReplyTo activeChildren) (delivered.filter Answers) (replies.map (·.val))

/-- What is written before the loop. -/
theorem greet_eq :
    greet activeChildren = .ok ⟨List.replicate 2048 0,
      (SentFrame.probe 1 1 :: activeChildren.map SentFrame.push).map SentFrame.toVec⟩ := by
  have hpushes : (activeChildren.flatMap fun child => (hotplugFrame child).toList) =
      (activeChildren.map SentFrame.push).map SentFrame.toVec := by
    rw [List.map_map, List.map_eq_flatMap]
    exact List.flatMap_congr fun child _ => toList_hotplugFrame child
  have hprobe : sendBuilt (buildKeepaliveProbeFrame 1 1 (List.replicate 48 0)) =
      .ok [(keepaliveProbe 1 1).toVec] :=
    sendBuilt_keepaliveProbe (by simp)
  rw [greet, hprobe, hpushes]
  rfl

theorem inSession_greet :
    ∃ s, greet activeChildren = .ok s ∧ InSession activeChildren s [] := by
  refine ⟨_, greet_eq activeChildren, List.length_replicate, [], ?_, .nil⟩
  rw [List.append_nil]

theorem sessionRule :
    SessionRule (self.handleWriting activeChildren) .ok (fun _ => True)
      fun s delivered _ => InSession activeChildren s delivered where
  frame s delivered _ frame _ h := by
    obtain ⟨txBuf, written⟩ := s
    obtain ⟨htx, replies, rfl, hreplies⟩ := h
    obtain ⟨new, txBuf', htx', hhandle, hall, -⟩ :=
      self.handleWriting_replies frame activeChildren htx
        ((SentFrame.probe 1 1 :: activeChildren.map SentFrame.push ++ replies).map
          SentFrame.toVec)
    refine ⟨_, hhandle, htx', replies ++ new, ?_, ?_⟩
    · rw [← List.append_assoc, ← List.map_append]
    · rw [List.filter_append, List.map_append]
      exact List.rel_append hreplies hall
  read s _ _ h := ⟨s, rfl, h⟩

/-- The table that the client makes of the pushes answers as the children do. -/
theorem answer_pushes (hslots : (activeChildren.map (·.slotIndex)).Nodup) (slot : UInt8) :
    OpenNetDeck.answer (clientTable ((activeChildren.map SentFrame.push).map (·.val.payload)))
        slot = (childPayload activeChildren slot).val.drop 4 := by
  have hlast := KeyedLog.last_eq_find hslots slot
  rw [childPayload_eq, ChildDeviceInfo.drop_buildPayload, List.map_map]
  show OpenNetDeck.answer (clientTable (activeChildren.map pushPayload)) slot = _
  cases hfind : activeChildren.find? (·.slotIndex = slot) with
  | none => rw [answer_of_none (hlast.trans hfind), Option.getD_none]
  | some child => rw [answer_of_last (hlast.trans hfind), Option.getD_some]

end EmbeddedDockHub

open EmbeddedDockHub

/-- **A session of the hub**: whatever the children and however the client's bytes arrive,
if each read brings some, no more than there is room for and no declared length that
overflows, and if the stream takes what is written, the session hands over the frames that
the server would, and the client decodes a probe, a push for each child, and then the
replies to its frames, one for each that gets one and in their order. Where no two children
share a slot, the table that the client makes of the pushes answers for every slot as the
hub answers a 0x1c query. -/
theorem hub_session (t : Target) (hub : EmbeddedDockHub) (activeChildren : List ChildDeviceInfo)
    (reads : List (List UInt8)) (hreads : Admissible t reads) :
    ∃ s, ∃ replies : List SentFrame,
      EmbeddedDockHub.handleConnection t (greet activeChildren)
        (hub.handleWriting activeChildren) reads = .ok s ∧
      s.delivered = (SecondaryConnection.receive reads).1 ∧
      List.Forall₂ (EmbeddedDockHub.ReplyTo activeChildren)
        (s.delivered.filter EmbeddedDockHub.Answers) (replies.map (·.val)) ∧
      (∀ clientReads : List (List UInt8), (∀ r ∈ clientReads, r ≠ []) →
        clientReads.flatten = s.state.written.flatten → receiver.run [] clientReads =
          ((SentFrame.probe 1 1 :: activeChildren.map SentFrame.push ++ replies).map (·.val), [])) ∧
      ((activeChildren.map (·.slotIndex)).Nodup → ∀ slot,
        answer (clientTable ((activeChildren.map SentFrame.push).map (·.val.payload))) slot =
          (childPayload activeChildren slot).val.drop 4) := by
  obtain ⟨start, hgreet, hstart⟩ := inSession_greet activeChildren
  obtain ⟨s, hs, ⟨hdelivered, -⟩, -, replies, hwritten, hreplies⟩ :=
    (hub.sessionRule activeChildren).serve hstart hreads fun _ _ => trivial
  refine ⟨s, replies, ?_, hdelivered, hreplies, fun clientReads hne hcut => ?_,
    fun hslots slot => ?_⟩
  · rw [EmbeddedDockHub.handleConnection, hgreet]
    exact hs
  · rw [hwritten] at hcut
    exact SentFrame.receiver_run hne hcut
  · exact answer_pushes activeChildren hslots slot

/-- A client asks a hub with one child for its firmware version. -/
theorem hub_session_firmware :
    ∃ s, ∃ replies : List SentFrame,
      EmbeddedDockHub.handleConnection ⟨.w64, true⟩ (greet [.disconnected 3])
        ((EmbeddedDockHub.ofConfig .default (Block.zeroed 4)).handleWriting [.disconnected 3])
        [(CoraFrame.new (CoraHeader.new CoraFlags.none .getReport 9 2) [0x03, 0x83]).toVec] =
        .ok s ∧
      List.Forall₂ (EmbeddedDockHub.ReplyTo [.disconnected 3])
        [CoraFrame.new (CoraHeader.new CoraFlags.none .getReport 9 2) [0x03, 0x83]]
        (replies.map (·.val)) := by
  let query : WireFrame :=
    ⟨CoraFrame.new (CoraHeader.new CoraFlags.none .getReport 9 2) [0x03, 0x83], by decide⟩
  have hreceive : SecondaryConnection.receive [query.toVec] = ([query.val], []) :=
    receiver_run_frames [query] _ (by decide) (by decide)
  have hreads : Admissible ⟨.w64, true⟩ ([] ++ [query.toVec]) := by
    refine .concat .nil (by decide) (by decide) ?_
    rintro b - ⟨hword, -⟩
    cases hword
  obtain ⟨s, replies, hs, hdelivered, hreplies, -⟩ := hub_session ⟨.w64, true⟩
    (EmbeddedDockHub.ofConfig .default (Block.zeroed 4)) [.disconnected 3] _ hreads
  rw [List.nil_append, hreceive] at hdelivered
  rw [hdelivered] at hreplies
  exact ⟨s, replies, hs, hreplies⟩

end OpenNetDeck
