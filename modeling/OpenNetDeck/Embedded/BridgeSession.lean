import OpenNetDeck.Embedded.Bridge
import OpenNetDeck.Embedded.SessionRule
import OpenNetDeck.Server.RequestReply

/-!
# A session of the embedded bridge

`EmbeddedDeckBridge::handle_connection` with its handler and its surface: what the client
reads, and what the surface is told. The frames of the client and the events of the
surface meet in one loop, an event being polled after each read.

## Main definitions

- `SurfaceCall` — a call of a method of the surface
- `EmbeddedDeckBridge.surfaceCalls` — the calls for a frame
- `EmbeddedDeckBridge.polled` — the events that a list of calls gets from a surface
- `EmbeddedDeckBridge.InSession` — the writes, the calls and the events so far

## Main results

- `bridge_session` — replies and surface calls follow the frames, events the polls, and
  the client decodes all that is written
-/

namespace OpenNetDeck

open Bytes Checked StreamDeckSurface
open SecondaryConnection (IsFeatureQuery isFeatureQuery_eq replyFrame paddedLen paddedLen_le)

/-- A call of a method that changes the surface. -/
inductive SurfaceCall where
  | setBrightness (percentage : UInt8)
  | writeImageChunk (keyIndex : UInt8) (isLast : Bool) (chunkIndex : UInt16) (data : List UInt8)
  | pollEvent
  deriving DecidableEq

/-- The surface after a call. -/
def SurfaceCall.apply {D : Type} [StreamDeckSurface D] (surface : D) : SurfaceCall → D
  | .setBrightness percentage => StreamDeckSurface.setBrightness surface percentage
  | .writeImageChunk keyIndex isLast chunkIndex data =>
    StreamDeckSurface.writeImageChunk surface keyIndex isLast chunkIndex data
  | .pollEvent => (StreamDeckSurface.pollEvent surface).2

/-- An engine with what it has written to the stream. -/
structure Writing (α : Type) where
  engine : α
  written : List (List UInt8)

namespace EmbeddedDeckBridge

variable {D : Type} [StreamDeckSurface D]

/-- The handler, writing to the stream. -/
def handleWriting (self : Writing (EmbeddedDeckBridge D)) (frame : CoraFrame) :
    Except Panic (Writing (EmbeddedDeckBridge D)) := do
  let (sent, engine) ← self.engine.handleIncomingFrame frame
  return { engine, written := self.written ++ sent }

/-- `if let Some(event) = self.surface.poll_event()` -/
def pollWriting (self : Writing (EmbeddedDeckBridge D)) :
    Except Panic (Writing (EmbeddedDeckBridge D)) := do
  let (event, surface) := pollEvent self.engine.surface
  let sent ← pushEvent event
  return { engine := { self.engine with surface }, written := self.written ++ sent }

/-- The brightness that a report sets. -/
def brightnessCalls (payload : List UInt8) : List SurfaceCall :=
  if 3 ≤ payload.length ∧ payload.getD 0 0 = 0x03 ∧ payload.getD 1 0 = 0x08 then
    [.setBrightness (payload.getD 2 0)]
  else []

/-- The image chunk that a write brings. -/
def chunkCalls (payload : List UInt8) : List SurfaceCall :=
  if 8 ≤ payload.length ∧ payload.getD 0 0 = 0x02 ∧
      (payload.getD 1 0 = 0x07 ∨ payload.getD 1 0 = 0x0c) then
    [.writeImageChunk (payload.getD 2 0) (decide (payload.getD 3 0 ≠ 0))
      (UInt16.ofNat (leNat [payload.getD 6 0, payload.getD 7 0])) (payload.drop 8)]
  else []

/-- The calls for a frame. -/
def surfaceCalls (frame : CoraFrame) : List SurfaceCall :=
  if frame.IsProbe ∨ frame.IsAck ∨ IsFeatureQuery frame then []
  else match frame.header.hidOp with
  | .sendReport => brightnessCalls frame.payload
  | .write => chunkCalls frame.payload
  | .getReport => []

/-- The events that calls of a surface get from it. -/
def polled : D → List SurfaceCall → List SurfaceEvent
  | _, [] => []
  | surface, call :: calls =>
    (if call = .pollEvent then (pollEvent surface).1.toList else []) ++
      polled (call.apply surface) calls

theorem polled_append (surface : D) (calls calls' : List SurfaceCall) :
    polled surface (calls ++ calls') =
      polled surface calls ++ polled (calls.foldl SurfaceCall.apply surface) calls' := by
  induction calls generalizing surface with
  | nil => rfl
  | cons call calls ih =>
    rw [List.cons_append, polled, polled, ih, List.append_assoc]
    rfl

/-- Only polls get events. -/
theorem polled_eq_nil {surface : D} {calls : List SurfaceCall} (h : .pollEvent ∉ calls) :
    polled surface calls = [] := by
  induction calls generalizing surface with
  | nil => rfl
  | cons call calls ih =>
    obtain ⟨hne, hrest⟩ := List.ne_and_not_mem_of_not_mem_cons h
    rw [polled, if_neg (Ne.symm hne), List.nil_append, ih hrest]

theorem pollEvent_notMem_surfaceCalls (frame : CoraFrame) :
    .pollEvent ∉ surfaceCalls frame := by
  rw [surfaceCalls]
  split
  · exact List.not_mem_nil
  · cases frame.header.hidOp with
    | write =>
      show SurfaceCall.pollEvent ∉ chunkCalls frame.payload
      rw [chunkCalls]
      split <;> simp
    | sendReport =>
      show SurfaceCall.pollEvent ∉ brightnessCalls frame.payload
      rw [brightnessCalls]
      split <;> simp
    | getReport => exact List.not_mem_nil

/-! ### One frame -/

theorem adjustBrightness_eq (surface : D) (payload : List UInt8) :
    adjustBrightness surface payload =
      .ok ((brightnessCalls payload).foldl SurfaceCall.apply surface) := by
  rw [adjustBrightness, prefixedByte_eq (by decide) (by decide), brightnessCalls]
  split_ifs <;> rfl

theorem drawChunk_eq (surface : D) (payload : List UInt8) :
    drawChunk surface payload = .ok ((chunkCalls payload).foldl SurfaceCall.apply surface) := by
  rw [drawChunk, chunkCalls]
  by_cases hlen : payload.length ≥ 8
  · have hindex : ∀ i < 8, index payload i = .ok (payload.getD i 0) :=
      fun i hi => index_eq_getD 0 (hi.trans_le hlen)
    have hdata : slice payload 8 payload.length = .ok (payload.drop 8) := by
      rw [slice_of_le hlen le_rfl, List.take_length]
    rw [if_pos hlen]
    simp (disch := decide) only [bind, Except.bind, hindex, hdata]
    by_cases hfirst : payload.getD 0 0 = 0x02
    · by_cases hcommand : payload.getD 1 0 = 0x07 ∨ payload.getD 1 0 = 0x0c
      · rw [if_pos hfirst, if_pos hcommand, if_pos ⟨hlen, hfirst, hcommand⟩]
        rfl
      · rw [if_pos hfirst, if_neg hcommand, if_neg fun h => hcommand h.2.2]
        rfl
    · rw [if_neg hfirst, if_neg fun h => hfirst h.2.1]
      rfl
  · rw [if_neg hlen, if_neg fun h => hlen h.1]
    rfl

variable (self : EmbeddedDeckBridge D) (frame : CoraFrame)

/-- The server's port for a device with the ids and the serial number of the surface. -/
def asEndpoint : Endpoint :=
  .secondary ⟨0, vendorId self.surface, productId self.surface, serialNumber self.surface, none⟩

theorem answerReport_len {reportId : UInt8} {out out' : List UInt8} {respLen n : ℕ}
    (h : self.answerReport reportId out respLen = .ok (out', n)) :
    n = respLen ∨ n = 16 ∨ n = 128 := by
  have hkeep : ∀ {m : Except Panic (List UInt8)} {k : ℕ},
      (do return (← m, k) : Except Panic (List UInt8 × ℕ)) = .ok (out', n) → n = k := by
    intro m k hm
    cases m with
    | error e => cases hm
    | ok b =>
      cases hm
      rfl
  rw [answerReport] at h
  split_ifs at h
  · exact .inl (hkeep h)
  · exact .inl (hkeep h)
  · exact .inl (hkeep h)
  · cases hbuild : buildDeviceInfoPayload (vendorId self.surface) (productId self.surface) out with
    | error e =>
      rw [hbuild] at h
      cases h
    | ok built =>
      rw [hbuild] at h
      cases h
      exact .inr (.inl rfl)
  · exact .inr (.inr (hkeep h))
  · exact .inl (hkeep h)

/-- A query that names a report gets one answer of at most 1024 bytes. -/
theorem answerQuery_reply (h : frame.payload ≠ []) :
    ∃ p, self.answerQuery frame = .ok [(replyFrame frame p).toVec] ∧ p.length ≤ 1024 := by
  obtain ⟨id, hid⟩ := exists_commandByte h
  have hpadded : paddedLen frame 32 ≤ 1024 := paddedLen_le frame (by decide)
  have hlen : (id :: List.replicate 1023 0).length = 1024 := by
    rw [List.length_cons, List.length_replicate]
  obtain ⟨out, n, hreport, hn⟩ := self.answerReport_ok id hlen hpadded
  have hle : n ≤ 1024 := by
    obtain rfl | rfl | rfl := self.answerReport_len hreport
    · exact hpadded
    · decide
    · decide
  have htake : (out.take n).length = n := List.length_take_of_le hn
  refine ⟨out.take n, ?_, htake.trans_le hle⟩
  rw [answerQuery, SecondaryConnection.reportId_of_command frame hid]
  simp only [bind, Except.bind, store_reportId, hreport, slice_zero hn]
  rw [replyFrame, htake]
  rfl

/-- The bridge after the calls for a frame. -/
def afterCalls (calls : List SurfaceCall) : EmbeddedDeckBridge D :=
  { self with surface := calls.foldl SurfaceCall.apply self.surface }

theorem afterCalls_afterCalls (calls calls' : List SurfaceCall) :
    (self.afterCalls calls).afterCalls calls' = self.afterCalls (calls ++ calls') := by
  rw [afterCalls, afterCalls, afterCalls, List.foldl_append]

/-- The bridge replies as the server's port does, and passes on what a frame brings. -/
theorem handleIncomingFrame_answers (h : ¬ (frame.header.hidOp = .getReport ∧ frame.payload = [])) :
    (self.asEndpoint.Answers frame → ∃ reply, self.asEndpoint.ReplyTo frame reply ∧
      self.handleIncomingFrame frame = .ok ([reply.toVec], self.afterCalls (surfaceCalls frame))) ∧
    (¬ self.asEndpoint.Answers frame →
      self.handleIncomingFrame frame = .ok ([], self.afterCalls (surfaceCalls frame))) := by
  simp only [asEndpoint, Endpoint.Answers, Endpoint.ReplyTo, surfaceCalls]
  by_cases hprobe : frame.IsProbe
  · rw [self.handleIncomingFrame_of_probe frame hprobe]
    simp only [if_pos hprobe, if_pos (Or.inl hprobe), not_true_eq_false, false_implies, and_true,
      true_implies]
    exact ⟨_, rfl, rfl⟩
  by_cases hack : frame.IsAck
  · rw [self.handleIncomingFrame_of_ack frame hprobe hack]
    simp only [if_neg hprobe, hack, true_or, or_true, if_true, false_implies, true_and,
      not_false_eq_true, true_implies]
    rfl
  by_cases hquery : IsFeatureQuery frame
  · rw [self.handleIncomingFrame_of_query frame hprobe hack hquery]
    simp only [if_neg hprobe, if_neg hack, hquery, or_true, if_true]
    -- a query without a payload is the one that stops the bridge, or no query
    have hne : frame.payload ≠ [] := by
      intro hempty
      obtain hget | ⟨-, hhead⟩ := hquery
      · exact h ⟨hget, hempty⟩
      · rw [hempty] at hhead
        cases hhead
    obtain ⟨p, hanswer, hlen⟩ := self.answerQuery_reply frame hne
    rw [hanswer]
    exact ⟨fun _ => ⟨_, ⟨p, rfl, hlen⟩, rfl⟩, fun hempty => absurd hne hempty⟩
  · simp only [hprobe, hack, hquery, or_self, if_false]
    obtain ⟨b, hb, hiff⟩ := isFeatureQuery_eq frame
    have hno : b = false := Bool.eq_false_iff.mpr fun hb => hquery (hiff.mp hb)
    rw [handleIncomingFrame, isKeepaliveProbe_eq, if_neg hprobe, isKeepaliveAck_eq, if_neg hack]
    simp only [bind, Except.bind, hb, hno, adjustBrightness_eq, drawChunk_eq, sendAck_eq]
    cases hop : frame.header.hidOp with
    | getReport => exact absurd (.inl hop) hquery
    | sendReport =>
      refine ⟨fun hwants => ⟨_, rfl, ?_⟩, fun hwants => ?_⟩
      · simp only [if_pos hwants]
        rfl
      · simp only [if_neg hwants]
        rfl
    | write =>
      refine ⟨fun hwants => ⟨_, rfl, ?_⟩, fun hwants => ?_⟩
      · simp only [if_pos hwants]
        rfl
      · simp only [if_neg hwants]
        rfl

/-! ### Sessions -/

/-- The frame that pushes an event. -/
def eventFrame (event : SurfaceEvent) : SentFrame :=
  .new CoraFlags.none .write 0 (encodeSurfaceEvent event).1.val
    (by rw [(encodeSurfaceEvent event).1.property]; decide)

theorem pushEvent_eq (event : Option SurfaceEvent) :
    pushEvent event = .ok ((event.toList.map eventFrame).map SentFrame.toVec) := by
  cases event with
  | none => rfl
  | some event =>
    rw [pushEvent_some]
    show _ = Except.ok [(CoraFrame.new (CoraHeader.new CoraFlags.none .write 0
      (encodeSurfaceEvent event).1.val.length) (encodeSurfaceEvent event).1.val).toVec]
    rw [(encodeSurfaceEvent event).1.property]

theorem isReply_eventFrame (event : SurfaceEvent) : (eventFrame event).val.isReply = false :=
  SentFrame.isReply_new

/-- What a bridge has written and told its surface, after some frames and some reads: the
replies to the frames and the calls for them, an event for each poll that got one, and a
poll for each read. -/
structure InSession (bridge : EmbeddedDeckBridge D) (s : Writing (EmbeddedDeckBridge D))
    (delivered : List CoraFrame) (reads : ℕ) (calls : List SurfaceCall)
    (frames : List SentFrame) : Prop where
  written : s.written = frames.map SentFrame.toVec
  engine : s.engine = bridge.afterCalls calls
  told : calls.filter (· ≠ .pollEvent) = delivered.flatMap surfaceCalls
  polls : calls.count .pollEvent = reads
  replies : List.Forall₂ bridge.asEndpoint.ReplyTo (delivered.filter bridge.asEndpoint.Answers)
    ((frames.map (·.val)).filter CoraFrame.isReply)
  events : frames.filter (¬ ·.val.isReply) = (polled bridge.surface calls).map eventFrame

variable {bridge : EmbeddedDeckBridge D} {s : Writing (EmbeddedDeckBridge D)}
  {delivered : List CoraFrame} {reads : ℕ} {calls : List SurfaceCall} {frames : List SentFrame}

/-- Calls of the surface do not change which frames get which reply. -/
theorem asEndpoint_afterCalls (self : EmbeddedDeckBridge D) (calls : List SurfaceCall)
    (frame : CoraFrame) :
    ((self.afterCalls calls).asEndpoint.Answers frame ↔ self.asEndpoint.Answers frame) ∧
      (self.afterCalls calls).asEndpoint.ReplyTo frame = self.asEndpoint.ReplyTo frame :=
  ⟨Iff.rfl, rfl⟩

/-- A frame is handled, unless it is the one that stops the handler. -/
theorem handleWriting_replies (self : EmbeddedDeckBridge D) (calls : List SurfaceCall)
    (written : List (List UInt8)) {frame : CoraFrame}
    (hsafe : ¬ (frame.header.hidOp = .getReport ∧ frame.payload = [])) :
    ∃ replies : List SentFrame,
      handleWriting ⟨self.afterCalls calls, written⟩ frame = .ok
        ⟨self.afterCalls (calls ++ surfaceCalls frame),
          written ++ replies.map SentFrame.toVec⟩ ∧
      List.Forall₂ self.asEndpoint.ReplyTo ([frame].filter self.asEndpoint.Answers)
        (replies.map (·.val)) ∧ ∀ f ∈ replies, f.val.isReply = true := by
  obtain ⟨hreply, hnone⟩ := (self.afterCalls calls).handleIncomingFrame_answers frame hsafe
  obtain ⟨hanswers, hreplyTo⟩ := self.asEndpoint_afterCalls calls frame
  rw [hanswers, hreplyTo, afterCalls_afterCalls] at hreply
  rw [hanswers, afterCalls_afterCalls] at hnone
  obtain ⟨sent, hhandle, hsent, hnothing⟩ : ∃ sent,
      (self.afterCalls calls).handleIncomingFrame frame =
        .ok (sent, self.afterCalls (calls ++ surfaceCalls frame)) ∧
      (self.asEndpoint.Answers frame →
        ∃ reply, self.asEndpoint.ReplyTo frame reply ∧ sent = [reply.toVec]) ∧
      (¬ self.asEndpoint.Answers frame → sent = []) := by
    by_cases hgets : self.asEndpoint.Answers frame
    · obtain ⟨reply, hreplyTo, hhandle⟩ := hreply hgets
      exact ⟨_, hhandle, fun _ => ⟨reply, hreplyTo, rfl⟩, fun hnot => absurd hgets hnot⟩
    · exact ⟨_, hnone hgets, fun hgets' => absurd hgets' hgets, fun _ => rfl⟩
  obtain ⟨replies, rfl, hall, hisReply⟩ := SentFrame.exists_replies
    (fun _ => Endpoint.ReplyTo.exists_sentFrame) hsent hnothing
  refine ⟨replies, ?_, hall, hisReply⟩
  simp only [handleWriting, hhandle, bind, Except.bind, pure, Except.pure]

theorem InSession.handle (h : InSession bridge s delivered reads calls frames)
    {frame : CoraFrame} (hsafe : ¬ (frame.header.hidOp = .getReport ∧ frame.payload = [])) :
    ∃ s', handleWriting s frame = .ok s' ∧ ∃ calls' frames',
      InSession bridge s' (delivered ++ [frame]) reads calls' frames' := by
  obtain ⟨engine, written⟩ := s
  obtain ⟨rfl, rfl, htold, hpolls, hreplies, hevents⟩ := h
  obtain ⟨replies, hhandle, hall, hisReply⟩ :=
    bridge.handleWriting_replies calls (frames.map SentFrame.toVec) hsafe
  -- no frame makes the bridge poll
  have hno := pollEvent_notMem_surfaceCalls frame
  refine ⟨_, hhandle, _, frames ++ replies, (List.map_append).symm, rfl, ?_, ?_, ?_, ?_⟩
  · rw [List.filter_append, htold, List.flatMap_append, List.flatMap_singleton]
    congr 1
    rw [List.filter_eq_self]
    intro call hcall
    simpa using fun heq : call = .pollEvent => hno (heq ▸ hcall)
  · rw [List.count_append, hpolls, List.count_eq_zero.mpr hno, Nat.add_zero]
  · rw [List.filter_append, List.map_append, List.filter_append,
      SentFrame.filter_isReply hisReply]
    exact List.rel_append hreplies hall
  · have hnone : replies.filter (¬ ·.val.isReply) = [] := by
      rw [List.filter_eq_nil_iff]
      intro f hf
      simp [hisReply f hf]
    rw [List.filter_append, hnone, List.append_nil, hevents, polled_append, polled_eq_nil hno,
      List.append_nil]

theorem InSession.poll (h : InSession bridge s delivered reads calls frames) :
    ∃ s', pollWriting s = .ok s' ∧ ∃ calls' frames',
      InSession bridge s' delivered (reads + 1) calls' frames' := by
  obtain ⟨engine, written⟩ := s
  obtain ⟨rfl, rfl, htold, hpolls, hreplies, hevents⟩ := h
  set event := (pollEvent (bridge.afterCalls calls).surface).1 with hevent
  -- an event is no reply, and a poll writes nothing else
  have hframes : ∀ f ∈ event.toList.map eventFrame, f.val.isReply = false := by
    intro f hf
    obtain ⟨e, -, rfl⟩ := List.mem_map.mp hf
    exact isReply_eventFrame e
  refine ⟨⟨bridge.afterCalls (calls ++ [.pollEvent]),
    (frames ++ event.toList.map eventFrame).map SentFrame.toVec⟩, ?_, calls ++ [.pollEvent],
    frames ++ event.toList.map eventFrame, rfl, rfl, ?_, ?_, ?_, ?_⟩
  · have hsent := pushEvent_eq event
    rw [pollWriting]
    simp only [← hevent, hsent, bind, Except.bind, pure, Except.pure]
    rw [← afterCalls_afterCalls, List.map_append]
    rfl
  · rw [List.filter_append, htold]
    exact List.append_nil _
  · rw [List.count_append, hpolls]
    rfl
  · have hnone : ((event.toList.map eventFrame).map (·.val)).filter CoraFrame.isReply = [] := by
      rw [List.filter_eq_nil_iff]
      intro f hf
      obtain ⟨g, hg, rfl⟩ := List.mem_map.mp hf
      simp [hframes g hg]
    rw [List.map_append, List.filter_append, hnone, List.append_nil]
    exact hreplies
  · have hall : (event.toList.map eventFrame).filter (¬ ·.val.isReply) =
        event.toList.map eventFrame := by
      rw [List.filter_eq_self]
      intro f hf
      simp [hframes f hf]
    rw [List.filter_append, hevents, hall, polled_append, List.map_append]
    congr 1
    show _ = ((pollEvent (calls.foldl SurfaceCall.apply bridge.surface)).1.toList ++ []).map _
    rw [List.append_nil]
    rfl

theorem inSession_start (bridge : EmbeddedDeckBridge D) :
    InSession bridge ⟨bridge, []⟩ [] 0 [] [] where
  written := rfl
  engine := rfl
  told := rfl
  polls := rfl
  replies := .nil
  events := rfl

/-- The handler and the poll keep what a bridge has written and told its surface. -/
theorem sessionRule (bridge : EmbeddedDeckBridge D) :
    SessionRule handleWriting pollWriting
      (fun frame => ¬ (frame.header.hidOp = .getReport ∧ frame.payload = []))
      fun s delivered reads => ∃ calls frames, InSession bridge s delivered reads calls frames where
  frame _ _ _ _ hsafe h := by
    obtain ⟨calls, frames, h⟩ := h
    exact h.handle hsafe
  read _ _ _ h := by
    obtain ⟨calls, frames, h⟩ := h
    exact h.poll

end EmbeddedDeckBridge

open EmbeddedDeckBridge

/-- **A session of the bridge**: whatever the surface and however the client's bytes
arrive, if each read brings some, no more than there is room for and no declared length
that overflows, if no `GetReport` comes without a payload and if the stream takes what is
written, the session hands over the frames that the server would; the surface is told of
them in their order and is polled once for each read; and what is written are whole frames,
the replies to the frames in their order and an event for each poll that got one, in
theirs, all of which the client decodes. -/
theorem bridge_session {D : Type} [StreamDeckSurface D] (t : Target)
    (bridge : EmbeddedDeckBridge D) (reads : List (List UInt8)) (hreads : Admissible t reads)
    (hsafe : ∀ f ∈ (SecondaryConnection.receive reads).1,
      ¬ (f.header.hidOp = .getReport ∧ f.payload = [])) :
    ∃ s calls frames,
      EmbeddedDeckBridge.handleConnection t ⟨bridge, []⟩ handleWriting pollWriting reads =
        .ok s ∧
      s.delivered = (SecondaryConnection.receive reads).1 ∧
      InSession bridge s.state s.delivered reads.length calls frames ∧
      ∀ clientReads : List (List UInt8), (∀ r ∈ clientReads, r ≠ []) →
        clientReads.flatten = s.state.written.flatten →
        receiver.run [] clientReads = (frames.map (·.val), []) := by
  obtain ⟨s, hs, ⟨hdelivered, -⟩, calls, frames, hsession⟩ :=
    bridge.sessionRule.serve ⟨[], [], inSession_start bridge⟩ hreads hsafe
  refine ⟨s, calls, frames, hs, hdelivered, hsession, fun clientReads hne hcut => ?_⟩
  rw [hsession.written] at hcut
  exact SentFrame.receiver_run hne hcut

/-- A client dims a virtual deck. -/
theorem bridge_session_dims :
    ∃ s calls frames,
      EmbeddedDeckBridge.handleConnection ⟨.w64, true⟩
          ⟨⟨VirtualStreamDeckPlus.new "A", 0, 5344⟩, []⟩ handleWriting pollWriting
          [(CoraFrame.new (CoraHeader.new CoraFlags.none .sendReport 1 3) [0x03, 0x08, 50]).toVec] =
        .ok s ∧
      s.delivered = [CoraFrame.new (CoraHeader.new CoraFlags.none .sendReport 1 3)
        [0x03, 0x08, 50]] ∧
      InSession ⟨VirtualStreamDeckPlus.new "A", 0, 5344⟩ s.state s.delivered 1 calls frames := by
  let dim : WireFrame := ⟨CoraFrame.new (CoraHeader.new CoraFlags.none .sendReport 1 3)
    [0x03, 0x08, 50], by decide⟩
  have hreceive : SecondaryConnection.receive [dim.toVec] = ([dim.val], []) :=
    receiver_run_frames [dim] _ (by decide) (by decide)
  have hreads : Admissible ⟨.w64, true⟩ ([] ++ [dim.toVec]) := by
    refine .concat .nil (by decide) (by decide) ?_
    rintro b - ⟨hword, -⟩
    cases hword
  obtain ⟨s, calls, frames, hs, hdelivered, hsession, -⟩ := bridge_session ⟨.w64, true⟩
    ⟨VirtualStreamDeckPlus.new "A", 0, 5344⟩ _ hreads (by
      rw [List.nil_append, hreceive]
      decide)
  rw [List.nil_append, hreceive] at hdelivered
  exact ⟨s, calls, frames, hs, hdelivered, hsession⟩

end OpenNetDeck
