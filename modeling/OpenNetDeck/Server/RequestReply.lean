import OpenNetDeck.Server.Outgoing

/-!
# Requests and replies

Which frames of a client get a reply, which reply each of them gets, and in which
order the client finds the replies on the wire, between the probes, the input
reports and the hotplug pushes that other tasks put there.

## Main definitions

- `Endpoint.Answers` — the frames that get a reply
- `Endpoint.ReplyTo` — the reply to a frame
- `Outgoing.handled` — the frames that a run hands to the handler

## Main results

- `requests_answered_in_order` — the replies that a client decodes are those to its
  requests, one for each, in the order of the requests
-/

namespace OpenNetDeck

open Bytes Checked Transition

/-- A frame that is sent in reply to another one. -/
def CoraFrame.isReply (frame : CoraFrame) : Bool :=
  frame.header.flags.contains CoraFlags.result || frame.header.flags.contains CoraFlags.ackNak

instance (frame : CoraFrame) : Decidable frame.IsImageWrite :=
  inferInstanceAs (Decidable (_ ∧ _))

instance (handler : FrameHandler) : DecidablePred handler.Forwards := fun _ =>
  inferInstanceAs (Decidable (_ ∧ (_ ∨ _)))

namespace Endpoint

/-- The frames that get a reply. -/
def Answers (self : Endpoint) (frame : CoraFrame) : Prop :=
  if frame.IsProbe then True
  else match self with
  | .primary _ handler =>
    if handler.Forwards frame then wantsAck frame = true else frame.payload ≠ []
  | .secondary _ =>
    if frame.IsAck then False
    else if SecondaryConnection.IsFeatureQuery frame then frame.payload ≠ []
    else wantsAck frame = true

instance (self : Endpoint) : DecidablePred self.Answers := fun frame =>
  match self with
  | .primary _ handler => inferInstanceAs (Decidable
      (if frame.IsProbe then True
      else if handler.Forwards frame then wantsAck frame = true else frame.payload ≠ []))
  | .secondary _ => inferInstanceAs (Decidable
      (if frame.IsProbe then True
      else if frame.IsAck then False
      else if SecondaryConnection.IsFeatureQuery frame then frame.payload ≠ []
      else wantsAck frame = true))

/-- The reply to a frame, but for the data of the dock and of the device. -/
def ReplyTo (self : Endpoint) (frame reply : CoraFrame) : Prop :=
  if frame.IsProbe then
    reply = keepaliveAck (frame.payload.getD 5 0) frame.header.messageId
  else match self with
  | .primary _ handler =>
    if handler.Forwards frame then reply = ackFrame frame 0x03
    else ∃ cmd payload, parsePrimaryQuery frame.payload = .ok (some cmd) ∧
      reply = FrameHandler.responseFrame frame payload ∧
      payload.take 2 = [0x03, cmd.asU8] ∧ payload.length = FrameHandler.respLen frame cmd
  | .secondary _ =>
    if SecondaryConnection.IsFeatureQuery frame then
      ∃ payload, reply = SecondaryConnection.replyFrame frame payload ∧ payload.length ≤ 1024
    else reply = ackFrame frame (if frame.header.hidOp = .sendReport then 0x03 else 0x02)

/-- What handling a frame leaves as it is. -/
def Continues : Endpoint → Endpoint → Prop
  | .primary connectionId handler, .primary connectionId' handler' =>
    connectionId' = connectionId ∧ handler'.mode = handler.mode ∧
      handler'.usbDevice = handler.usbDevice
  | .secondary device, .secondary device' => device' = device
  | _, _ => False

theorem Continues.refl (self : Endpoint) : self.Continues self := by
  cases self with
  | primary connectionId handler => exact ⟨rfl, rfl, rfl⟩
  | secondary device => rfl

theorem Continues.trans {a b c : Endpoint} (hab : a.Continues b) (hbc : b.Continues c) :
    a.Continues c := by
  cases a <;> cases b <;> cases c <;> simp_all [Continues]

theorem Continues.forwards_iff {connectionId connectionId' : UInt8}
    {handler handler' : FrameHandler}
    (h : (primary connectionId handler).Continues (.primary connectionId' handler'))
    (frame : CoraFrame) : handler'.Forwards frame ↔ handler.Forwards frame := by
  rw [FrameHandler.Forwards, FrameHandler.Forwards, h.2.1]

theorem Continues.answers_iff {self next : Endpoint} (h : self.Continues next)
    (frame : CoraFrame) : next.Answers frame ↔ self.Answers frame := by
  cases self with
  | primary connectionId handler =>
    cases next with
    | primary connectionId' handler' => simp only [Answers, h.forwards_iff frame]
    | secondary device => exact h.elim
  | secondary device =>
    cases next with
    | primary connectionId handler => exact h.elim
    | secondary device' => rfl

theorem Continues.replyTo_iff {self next : Endpoint} (h : self.Continues next)
    (frame reply : CoraFrame) : next.ReplyTo frame reply ↔ self.ReplyTo frame reply := by
  cases self with
  | primary connectionId handler =>
    cases next with
    | primary connectionId' handler' => simp only [ReplyTo, h.forwards_iff frame]
    | secondary device => exact h.elim
  | secondary device =>
    cases next with
    | primary connectionId handler => exact h.elim
    | secondary device' => rfl

end Endpoint

/-! ### One frame -/

theorem CoraFlags.contains_result_respFlags (frame : CoraFrame) :
    (respFlags frame).contains CoraFlags.result = true := by
  rw [respFlags]
  split <;> decide

/-- The frame of a header that is made for its payload. -/
def SentFrame.new (flags : CoraFlags) (hidOp : CoraHidOp) (messageId : UInt32)
    (payload : List UInt8) (h : payload.length < 2 ^ 32) : SentFrame :=
  ⟨CoraFrame.new (CoraHeader.new flags hidOp messageId payload.length) payload, h, rfl⟩

/-- A result is a whole frame that is marked as a reply. -/
theorem SentFrame.exists_result {flags : CoraFlags} {hidOp : CoraHidOp} {messageId : UInt32}
    {payload : List UInt8} (hflags : flags.contains CoraFlags.result = true)
    (hlen : payload.length < 2 ^ 32) :
    ∃ f : SentFrame,
      f.val = CoraFrame.new (CoraHeader.new flags hidOp messageId payload.length) payload ∧
      (CoraFrame.new (CoraHeader.new flags hidOp messageId payload.length) payload).isReply =
        true := by
  refine ⟨SentFrame.new flags hidOp messageId payload hlen, rfl, ?_⟩
  show (flags.contains CoraFlags.result || _) = true
  rw [hflags, Bool.true_or]

/-- So is the acknowledgement of a probe. -/
theorem SentFrame.exists_keepaliveAck (connectionId : UInt8) (messageId : UInt32) :
    ∃ f : SentFrame, f.val = keepaliveAck connectionId messageId ∧
      (keepaliveAck connectionId messageId).isReply = true := by
  refine ⟨SentFrame.new CoraFlags.ackNak .write messageId
    ([0x03, 0x1a, connectionId] ++ List.replicate 29 0) (by simp), rfl, ?_⟩
  show (CoraFlags.ackNak.contains CoraFlags.result ||
    CoraFlags.ackNak.contains CoraFlags.ackNak) = true
  decide

/-- Every reply is a whole frame that is marked as a reply. -/
theorem Endpoint.ReplyTo.exists_sentFrame {self : Endpoint} {frame reply : CoraFrame}
    (h : self.ReplyTo frame reply) : ∃ f : SentFrame, f.val = reply ∧ reply.isReply = true := by
  have hack : ∀ default, reply = ackFrame frame default →
      ∃ f : SentFrame, f.val = reply ∧ reply.isReply = true := by
    rintro default rfl
    have hlen : [frame.payload.headD default].length < 2 ^ 32 := by simp
    exact SentFrame.exists_result (CoraFlags.contains_result_respFlags frame) hlen
  unfold ReplyTo at h
  split at h
  · subst h
    exact SentFrame.exists_keepaliveAck _ _
  cases self with
  | primary connectionId handler =>
    dsimp only at h
    split at h
    · exact hack _ h
    · obtain ⟨cmd, payload, -, rfl, -, hlen⟩ := h
      refine SentFrame.exists_result (by decide) ?_
      rw [hlen, FrameHandler.respLen]
      split <;> decide
  | secondary device =>
    dsimp only at h
    split at h
    · obtain ⟨payload, rfl, hlen⟩ := h
      exact SentFrame.exists_result (CoraFlags.contains_result_respFlags frame)
        (hlen.trans_lt (by decide))
    · exact hack _ h

/-- A handler neither changes its mode nor its device. -/
theorem FrameHandler.handleFrame_keeps (self : FrameHandler) (usb : UsbInterface)
    (frame : CoraFrame) {effects : Effects} {self' : FrameHandler}
    (h : self.handleFrame usb frame = .ok (effects, self')) :
    self'.mode = self.mode ∧ self'.usbDevice = self.usbDevice := by
  by_cases hprobe : frame.IsProbe
  · rw [self.handleFrame_of_probe usb frame hprobe] at h
    cases h
    exact ⟨rfl, rfl⟩
  by_cases hforwards : self.Forwards frame
  · have hfits := self.not_overlong_of_ok usb frame h
    rw [self.handleFrame_of_forwards usb frame hprobe hforwards hfits] at h
    cases h
    exact ⟨rfl, rfl⟩
  rw [self.handleFrame_of_query usb frame hprobe hforwards] at h
  by_cases hempty : frame.payload = []
  · rw [self.handleQuery_empty usb frame hempty] at h
    cases h
    exact ⟨rfl, rfl⟩
  · obtain ⟨cmd, hcmd⟩ := exists_command frame hempty
    obtain ⟨a, -, -, -, -, hquery⟩ := self.handleQuery_ok usb frame hcmd
    rw [hquery] at h
    cases h
    exact ⟨rfl, rfl⟩

namespace Endpoint

variable {self next : Endpoint} {dock : DockState} {usb : UsbInterface} {frame : CoraFrame}
  {effects : Effects}

theorem handle_continues (h : self.handle dock usb frame = .ok (effects, next)) :
    self.Continues next := by
  cases self with
  | primary connectionId handler =>
    obtain ⟨handler', hhandle, rfl⟩ := handle_primary h
    have hkeeps := FrameHandler.handleFrame_keeps _ usb frame hhandle
    exact ⟨rfl, hkeeps⟩
  | secondary device =>
    obtain ⟨-, rfl⟩ := handle_secondary h
    rfl

/-- A primary connection sends the reply that a frame is due, and nothing else. -/
theorem handle_primary_sent {connectionId : UInt8} {handler : FrameHandler}
    (h : (primary connectionId handler).handle dock usb frame = .ok (effects, next)) :
    ((primary connectionId handler).Answers frame → ∃ reply,
      (primary connectionId handler).ReplyTo frame reply ∧ effects.sent = [reply.toVec]) ∧
    (¬ (primary connectionId handler).Answers frame → effects.sent = []) := by
  obtain ⟨handler', hhandle, -⟩ := handle_primary h
  obtain ⟨hprobe, hforwarded, hempty, hquery⟩ := FrameHandler.replies_of_ok _ usb frame hhandle
  simp only [Answers, ReplyTo]
  by_cases hisProbe : frame.IsProbe
  · simp only [if_pos hisProbe, not_true_eq_false, false_implies, and_true, true_implies]
    exact ⟨_, rfl, (hprobe hisProbe).1⟩
  by_cases hforwards : handler.Forwards frame
  · simp only [if_neg hisProbe, if_pos hforwards]
    rw [(hforwarded hisProbe hforwards).1]
    exact ⟨fun hack => ⟨_, rfl, if_pos hack⟩, fun hack => if_neg hack⟩
  · simp only [if_neg hisProbe, if_neg hforwards]
    refine ⟨fun hpayload => ?_, fun hpayload => ?_⟩
    · obtain ⟨cmd, payload, hcmd, hsent, hfront, hlen⟩ := hquery hisProbe hforwards hpayload
      exact ⟨_, ⟨cmd, payload, hcmd, rfl, hfront, hlen⟩, hsent⟩
    · exact (hempty hisProbe hforwards (not_not.mp hpayload)).1

/-- So does a secondary one. -/
theorem handle_secondary_sent {device : StreamDeckUsbHandle} (husb : usb.Bounded)
    (h : (secondary device).handle dock usb frame = .ok (effects, next)) :
    ((secondary device).Answers frame → ∃ reply,
      (secondary device).ReplyTo frame reply ∧ effects.sent = [reply.toVec]) ∧
    (¬ (secondary device).Answers frame → effects.sent = []) := by
  obtain ⟨hhandle, -⟩ := handle_secondary h
  have hreplies := SecondaryConnection.replies_of_ok device usb frame husb hhandle
  simp only [Answers, ReplyTo]
  -- the cases are the tests of `handle_incoming_frame`, in their order
  by_cases hprobe : frame.IsProbe
  · simp only [if_pos hprobe, not_true_eq_false, false_implies, and_true, true_implies]
    exact ⟨_, rfl, hreplies.probe hprobe⟩
  by_cases hack : frame.IsAck
  · simp only [if_neg hprobe, if_pos hack, false_implies, true_and, not_false_eq_true,
      true_implies]
    exact hreplies.ack hprobe hack
  by_cases hquery : SecondaryConnection.IsFeatureQuery frame
  · simp only [if_neg hprobe, if_neg hack, if_pos hquery]
    refine ⟨fun hpayload => ?_, fun hpayload => ?_⟩
    · obtain ⟨p, hsent, -⟩ := hreplies.query hprobe hack hquery hpayload
      obtain ⟨q, hmsg, hlen⟩ := hreplies.reply hprobe _ (hsent ▸ List.mem_singleton_self _)
      exact ⟨_, ⟨q, rfl, hlen⟩, hmsg ▸ hsent⟩
    · rw [SecondaryConnection.handleIncomingFrame_of_not_keepalive device usb frame hprobe hack,
        if_pos hquery, SecondaryConnection.answerQuery,
        if_pos (by simpa using not_not.mp hpayload)] at hhandle
      cases hhandle
      rfl
  · simp only [if_neg hprobe, if_neg hack, if_neg hquery]
    have hsent : effects.sent = if wantsAck frame then
        [(ackFrame frame (if frame.header.hidOp = .sendReport then 0x03 else 0x02)).toVec]
        else [] := by
      cases hop : frame.header.hidOp with
      | getReport => exact absurd (.inl hop) hquery
      | sendReport => exact (hreplies.sendReport hprobe hack hop).2
      | write => exact (hreplies.write hprobe hack hop hquery).2
    rw [hsent]
    exact ⟨fun h => ⟨_, rfl, if_pos h⟩, fun h => if_neg h⟩

end Endpoint

/-- What is sent to a frame is its reply, if it gets one. -/
theorem SentFrame.exists_replies {A : CoraFrame → Prop} [DecidablePred A]
    {R : CoraFrame → CoraFrame → Prop} {frame : CoraFrame} {sent : List (List UInt8)}
    (hR : ∀ reply, R frame reply → ∃ f : SentFrame, f.val = reply ∧ reply.isReply = true)
    (hsent : A frame → ∃ reply, R frame reply ∧ sent = [reply.toVec])
    (hnone : ¬ A frame → sent = []) :
    ∃ replies : List SentFrame, sent = replies.map toVec ∧
      List.Forall₂ R ([frame].filter A) (replies.map (·.val)) ∧
      ∀ f ∈ replies, f.val.isReply = true := by
  by_cases hanswers : A frame
  · obtain ⟨reply, hreply, hone⟩ := hsent hanswers
    obtain ⟨f, rfl, hisReply⟩ := hR reply hreply
    have hframe : [frame].filter A = [frame] := List.filter_cons_of_pos (decide_eq_true hanswers)
    refine ⟨[f], hone, ?_, List.forall_mem_singleton.mpr hisReply⟩
    rw [hframe]
    exact .cons hreply .nil
  · have hframe : [frame].filter A = [] := List.filter_cons_of_neg (by simpa using hanswers)
    refine ⟨[], hnone hanswers, ?_, fun f hf => absurd hf List.not_mem_nil⟩
    rw [hframe]
    exact .nil

/-- Replies are what is left when the other frames are left out. -/
theorem SentFrame.filter_isReply {replies : List SentFrame}
    (h : ∀ f ∈ replies, f.val.isReply = true) :
    (replies.map (·.val)).filter CoraFrame.isReply = replies.map (·.val) := by
  rw [List.filter_eq_self]
  intro frame hframe
  obtain ⟨f, hf, rfl⟩ := List.mem_map.mp hframe
  exact h f hf

/-- What the handler sends for a frame: its reply, if it gets one. -/
theorem Endpoint.handle_replies {self next : Endpoint} {dock : DockState} {usb : UsbInterface}
    {frame : CoraFrame} {effects : Effects} (husb : usb.Bounded)
    (h : self.handle dock usb frame = .ok (effects, next)) :
    ∃ replies : List SentFrame, effects.sent = replies.map SentFrame.toVec ∧
      List.Forall₂ self.ReplyTo ([frame].filter self.Answers)
        ((replies.map (·.val)).filter CoraFrame.isReply) := by
  have hsent : (self.Answers frame → ∃ reply, self.ReplyTo frame reply ∧
      effects.sent = [reply.toVec]) ∧ (¬ self.Answers frame → effects.sent = []) := by
    cases self with
    | primary connectionId handler => exact handle_primary_sent h
    | secondary device => exact handle_secondary_sent husb h
  obtain ⟨replies, hreplies, hall, hisReply⟩ :=
    SentFrame.exists_replies (fun _ => ReplyTo.exists_sentFrame) hsent.1 hsent.2
  exact ⟨replies, hreplies, by rwa [SentFrame.filter_isReply hisReply]⟩

/-! ### Runs -/

/-- The frame of an input report. -/
def SentFrame.input (rawReport : { raw : List UInt8 // raw.length < 2 ^ 32 }) : SentFrame :=
  .new CoraFlags.none .write 0 rawReport rawReport.property

/-- The frame that announces a child. -/
def SentFrame.push (child : ChildDeviceInfo) : SentFrame :=
  .new CoraFlags.none .write 0 (pushPayload child)
    (by rw [Connection.pushPayload_length]; decide)

/-- The probe of a connection. -/
def SentFrame.probe (connectionId : UInt8) (messageId : UInt32) : SentFrame :=
  ⟨keepaliveProbe connectionId messageId, by simp [keepaliveProbe, CoraFrame.new], rfl⟩

theorem SentFrame.isReply_new {hidOp : CoraHidOp} {messageId : UInt32} {payload : List UInt8}
    {h : payload.length < 2 ^ 32} :
    (SentFrame.new CoraFlags.none hidOp messageId payload h).val.isReply = false := by
  show (CoraFlags.none.contains CoraFlags.result ||
    CoraFlags.none.contains CoraFlags.ackNak) = false
  decide

theorem SentFrame.isReply_probe {connectionId : UInt8} {messageId : UInt32} :
    (SentFrame.probe connectionId messageId).val.isReply = false := by
  show (CoraFlags.none.contains CoraFlags.result ||
    CoraFlags.none.contains CoraFlags.ackNak) = false
  decide

theorem toList_hotplugFrame (child : ChildDeviceInfo) :
    (hotplugFrame child).toList = [SentFrame.push child].map SentFrame.toVec := by
  rw [Connection.hotplugFrame_toVec child]
  rfl

namespace Outgoing

/-- The frame that an action hands to the handler. -/
def Action.handled : Action → List CoraFrame
  | .frame _ _ f => [f]
  | _ => []

/-- The report that an action forwards. -/
def Action.forwarded : Action → List { raw : List UInt8 // raw.length < 2 ^ 32 }
  | .input rawReport => [rawReport]
  | _ => []

/-- The event that an action pushes. -/
def Action.pushed : Action → List ChildDeviceInfo
  | .hotplug child => [child]
  | _ => []

/-- The frames that a run hands to the handler. -/
def handled (actions : List Action) : List CoraFrame := actions.flatMap Action.handled

/-- What the tasks of a connection have said: the loop its probes and the replies to
the frames, the forwarder the reports, and the other tasks the events. -/
structure Spoken (endpoint : Endpoint) (actions : List Action) (s : Outgoing)
    (said : Producer → List SentFrame) : Prop where
  built : s.pipe.Says SentFrame.toVec said
  main : List.Forall₂ endpoint.ReplyTo ((handled actions).filter endpoint.Answers)
    (((said .main).map (·.val)).filter CoraFrame.isReply)
  input : said .input = (actions.flatMap Action.forwarded).map SentFrame.input
  hotplug : said .hotplug = (actions.flatMap Action.pushed).map SentFrame.push
  snapshot : ∀ n, ∀ f ∈ said (.snapshot n), ∃ child, f = SentFrame.push child

variable {endpoint : Endpoint} {actions : List Action} {s s' : Outgoing}
  {said : Producer → List SentFrame}

/-- Only the loop says what can be taken for a reply. -/
theorem Spoken.isReply_eq_false (h : Spoken endpoint actions s said) {p : Producer}
    (hp : p ≠ .main) : ∀ f ∈ said p, f.val.isReply = false := by
  intro f hf
  cases p with
  | main => exact absurd rfl hp
  | input =>
    rw [h.input] at hf
    obtain ⟨rawReport, -, rfl⟩ := List.mem_map.mp hf
    exact SentFrame.isReply_new
  | hotplug =>
    rw [h.hotplug] at hf
    obtain ⟨child, -, rfl⟩ := List.mem_map.mp hf
    exact SentFrame.isReply_new
  | snapshot n =>
    obtain ⟨child, rfl⟩ := h.snapshot n f hf
    exact SentFrame.isReply_new

/-- The loop says something, the replies to new frames among it. -/
theorem Spoken.main_says (h : Spoken endpoint actions s said) {actions' : List Action}
    {new : List CoraFrame} {fs : List SentFrame}
    (hpipe : s'.pipe = s.pipe.build .main (fs.map SentFrame.toVec))
    (hreplies : List.Forall₂ endpoint.ReplyTo (new.filter endpoint.Answers)
      ((fs.map (·.val)).filter CoraFrame.isReply))
    (hhandled : handled actions' = handled actions ++ new)
    (hinput : actions'.flatMap Action.forwarded = actions.flatMap Action.forwarded)
    (hhotplug : actions'.flatMap Action.pushed = actions.flatMap Action.pushed) :
    Spoken endpoint actions' s' (Function.update said .main (said .main ++ fs)) where
  built := by
    rw [hpipe]
    exact h.built.build .main fs
  main := by
    rw [Function.update_self, List.map_append, List.filter_append, hhandled, List.filter_append]
    exact List.rel_append h.main hreplies
  input := by
    rw [Function.update_of_ne (by decide), h.input, hinput]
  hotplug := by
    rw [Function.update_of_ne (by decide), h.hotplug, hhotplug]
  snapshot := by
    intro n
    rw [Function.update_of_ne (by simp)]
    exact h.snapshot n

/-- The loop says a probe. -/
theorem Spoken.main_probes (h : Spoken endpoint actions s said) {actions' : List Action}
    {connectionId : UInt8} {messageId : UInt32}
    (hpipe : s'.pipe = s.pipe.build .main [(keepaliveProbe connectionId messageId).toVec])
    (hhandled : handled actions' = handled actions)
    (hinput : actions'.flatMap Action.forwarded = actions.flatMap Action.forwarded)
    (hhotplug : actions'.flatMap Action.pushed = actions.flatMap Action.pushed) :
    ∃ said', Spoken endpoint actions' s' said' := by
  have hreplies : List.Forall₂ endpoint.ReplyTo (([] : List CoraFrame).filter endpoint.Answers)
      (([SentFrame.probe connectionId messageId].map (·.val)).filter CoraFrame.isReply) := by
    have hnot : ([SentFrame.probe connectionId messageId].map (·.val)).filter
        CoraFrame.isReply = [] :=
      List.filter_cons_of_neg (by rw [SentFrame.isReply_probe]; exact Bool.false_ne_true)
    rw [hnot]
    exact .nil
  have hprobe : s'.pipe = s.pipe.build .main
      ([SentFrame.probe connectionId messageId].map SentFrame.toVec) := hpipe
  exact ⟨_, h.main_says hprobe hreplies (hhandled.trans (List.append_nil _).symm) hinput hhotplug⟩

/-- A spawned task says the child. -/
theorem Spoken.spawn (h : Spoken endpoint actions s said) (children : List ChildDeviceInfo) :
    ∃ said', Spoken endpoint actions (children.foldl Outgoing.spawn s) said' := by
  induction children generalizing s said with
  | nil => exact ⟨said, h⟩
  | cons child children ih =>
    have hbuilt := h.built.build (.snapshot s.spawned) [SentFrame.push child]
    rw [← toList_hotplugFrame] at hbuilt
    -- every task that is spawned is a producer of its own
    refine ih (s := s.spawn child) ⟨hbuilt, ?_, ?_, ?_, fun n f hf => ?_⟩
    · rw [Function.update_of_ne (by simp)]
      exact h.main
    · rw [Function.update_of_ne (by simp)]
      exact h.input
    · rw [Function.update_of_ne (by simp)]
      exact h.hotplug
    · by_cases hn : Producer.snapshot n = .snapshot s.spawned
      · rw [hn, Function.update_self, List.mem_append, List.mem_singleton] at hf
        obtain hold | rfl := hf
        · exact h.snapshot _ f hold
        · exact ⟨child, rfl⟩
      · rw [Function.update_of_ne hn] at hf
        exact h.snapshot n f hf

theorem spoken_start (h : start endpoint = .ok s) :
    s.endpoint = endpoint ∧ ∃ said, Spoken endpoint [] s said := by
  have hempty : Spoken endpoint [] ⟨endpoint, 1, 0, .empty⟩ fun _ => [] :=
    ⟨Pipe.says_empty _, .nil, rfl, rfl, fun _ _ hf => absurd hf List.not_mem_nil⟩
  cases endpoint with
  | primary connectionId handler =>
    rw [start_primary] at h
    cases h
    exact ⟨rfl, hempty.main_probes rfl rfl rfl rfl⟩
  | secondary device =>
    cases h
    have hnone : ((Pipe.empty : Pipe Producer UInt8).build .main []) =
        Pipe.empty.build .main (([] : List SentFrame).map SentFrame.toVec) := rfl
    exact ⟨rfl, _, hempty.main_says hnone .nil rfl rfl rfl⟩

theorem flatMap_concat {β : Type} (f : Action → List β) (actions : List Action) (a : Action) :
    (actions ++ [a]).flatMap f = actions.flatMap f ++ f a := by
  rw [List.flatMap_append, List.flatMap_singleton]

theorem flatMap_concat_nil {β : Type} {f : Action → List β} {actions : List Action} {a : Action}
    (h : f a = []) : (actions ++ [a]).flatMap f = actions.flatMap f := by
  rw [flatMap_concat, h, List.append_nil]

/-- What one step can do: a task builds its messages when it has none left, or the pipe moves. -/
theorem step_cases {a : Action} (h : s.step a = some s') :
    (a = .tick ∧ s.pipe.pending .main = [] ∧ s' = { s with
      messageSeq := s.messageSeq + 1
      pipe := s.pipe.build .main
        [(keepaliveProbe s.endpoint.connId (s.messageSeq + 1)).toVec] }) ∨
    (∃ dock usb frame effects endpoint, a = .frame dock usb frame ∧ s.pipe.pending .main = [] ∧
      s.endpoint.handle dock usb frame = .ok (effects, endpoint) ∧
      s' = { effects.spawned.foldl spawn s with
        endpoint
        pipe := (effects.spawned.foldl spawn s).pipe.build .main effects.sent }) ∨
    (∃ rawReport, a = .input rawReport ∧ s.pipe.pending .input = [] ∧ s' = { s with
      pipe := s.pipe.build .input [(inputFrame rawReport).toVec] }) ∨
    (∃ child, a = .hotplug child ∧ s.pipe.pending .hotplug = [] ∧ s' = { s with
      pipe := s.pipe.build .hotplug (hotplugFrame child).toList }) ∨
    ∃ b pipe, a = .pipe b ∧ s.pipe.step outgoingCapacity b = some pipe ∧ s' = { s with pipe } := by
  cases a with
  | tick =>
    obtain ⟨hnone, h⟩ := Option.ite_none_right_eq_some.mp h
    simp only [Endpoint.sendProbe_eq] at h
    cases h
    exact .inl ⟨rfl, hnone, rfl⟩
  | frame dock usb frame =>
    obtain ⟨hnone, h⟩ := Option.ite_none_right_eq_some.mp h
    split at h
    · next effects endpoint hhandle =>
      cases h
      exact .inr (.inl ⟨dock, usb, frame, effects, endpoint, rfl, hnone, hhandle, rfl⟩)
    · cases h
  | input rawReport =>
    obtain ⟨⟨-, hnone⟩, h⟩ := Option.ite_none_right_eq_some.mp h
    cases h
    exact .inr (.inr (.inl ⟨rawReport, rfl, hnone, rfl⟩))
  | hotplug child =>
    obtain ⟨⟨-, hnone⟩, h⟩ := Option.ite_none_right_eq_some.mp h
    cases h
    exact .inr (.inr (.inr (.inl ⟨child, rfl, hnone, rfl⟩)))
  | pipe b =>
    obtain ⟨pipe, hpipe, h⟩ := Option.bind_eq_some_iff.mp h
    cases h
    exact .inr (.inr (.inr (.inr ⟨b, pipe, rfl, hpipe, rfl⟩)))

/-- What a connection keeps while its tasks talk. -/
structure Talks (endpoint : Endpoint) (actions : List Action) (s : Outgoing) : Prop where
  continues : endpoint.Continues s.endpoint
  said : ∃ said, Spoken endpoint actions s said

theorem Talks.step (h : Talks endpoint actions s) {a : Action} (hstep : s.step a = some s') :
    Talks endpoint (actions ++ [a]) s' := by
  obtain ⟨hcontinues, said, hspoken⟩ := h
  obtain ⟨rfl, -, rfl⟩ | ⟨dock, usb, f, effects, next, rfl, -, hhandle, rfl⟩ |
    ⟨rawReport, rfl, -, rfl⟩ | ⟨child, rfl, -, rfl⟩ | ⟨b, pipe, rfl, hpipe, rfl⟩ :=
    step_cases hstep
  -- a tick
  · exact ⟨hcontinues, hspoken.main_probes rfl (flatMap_concat_nil rfl) (flatMap_concat_nil rfl)
      (flatMap_concat_nil rfl)⟩
  -- a frame: the loop says its reply, and the tasks that it spawns the children
  · have hnext := Endpoint.handle_continues hhandle
    obtain ⟨replies, hsent, hreplies⟩ := Endpoint.handle_replies usb.property hhandle
    have hanswers : [f].filter s.endpoint.Answers = [f].filter endpoint.Answers := by
      simp only [hcontinues.answers_iff]
    have hreplyTo : s.endpoint.ReplyTo = endpoint.ReplyTo := by
      funext frame reply
      exact propext (hcontinues.replyTo_iff frame reply)
    rw [hanswers, hreplyTo] at hreplies
    obtain ⟨said', hsaid'⟩ := hspoken.spawn effects.spawned
    refine ⟨hcontinues.trans hnext, _, hsaid'.main_says ?_ hreplies (flatMap_concat _ _ _)
      (flatMap_concat_nil rfl) (flatMap_concat_nil rfl)⟩
    rw [← hsent]
  -- an input report
  · refine ⟨hcontinues, _, hspoken.built.build .input [SentFrame.input rawReport], ?_, ?_, ?_, ?_⟩
    · rw [Function.update_of_ne (by decide), handled, flatMap_concat_nil rfl]
      exact hspoken.main
    · rw [Function.update_self, hspoken.input, flatMap_concat, List.map_append]
      rfl
    · rw [Function.update_of_ne (by decide), flatMap_concat_nil rfl]
      exact hspoken.hotplug
    · intro n
      rw [Function.update_of_ne (by simp)]
      exact hspoken.snapshot n
  -- a hotplug event
  · have hbuilt := hspoken.built.build .hotplug [SentFrame.push child]
    rw [← toList_hotplugFrame] at hbuilt
    refine ⟨hcontinues, _, hbuilt, ?_, ?_, ?_, ?_⟩
    · rw [Function.update_of_ne (by decide), handled, flatMap_concat_nil rfl]
      exact hspoken.main
    · rw [Function.update_of_ne (by decide), flatMap_concat_nil rfl]
      exact hspoken.input
    · rw [Function.update_self, hspoken.hotplug, flatMap_concat, List.map_append]
      rfl
    · intro n
      rw [Function.update_of_ne (by simp)]
      exact hspoken.snapshot n
  -- what moves in the pipe has been said before
  · refine ⟨hcontinues, said, hspoken.built.step hpipe, ?_, ?_, ?_, hspoken.snapshot⟩
    · rw [handled, flatMap_concat_nil rfl]
      exact hspoken.main
    · rw [flatMap_concat_nil rfl]
      exact hspoken.input
    · rw [flatMap_concat_nil rfl]
      exact hspoken.hotplug

/-- In every run the tasks say what they are given to say. -/
theorem talks_run {s₀ : Outgoing} (hstart : start endpoint = .ok s₀)
    (hrun : run Outgoing.step s₀ actions = some s) : Talks endpoint actions s := by
  induction actions using List.reverseRecOn generalizing s with
  | nil =>
    cases hrun
    obtain ⟨hendpoint, hsaid⟩ := spoken_start hstart
    exact ⟨hendpoint ▸ .refl _, hsaid⟩
  | append_singleton actions a ih =>
    obtain ⟨mid, hmid, hlast⟩ := run_concat_eq_some hrun
    exact (ih hmid).step hlast

end Outgoing

/-! ### Both ends -/

/-- What has arrived of a list of frames is handed to the handler as its first frames. -/
theorem receiver_run_isPrefix {frames : List WireFrame} {arrivals : List (List UInt8)}
    (harrivals : ∀ r ∈ arrivals, r ≠ [])
    (harrived : arrivals.flatten <+: frames.flatMap WireFrame.toVec) :
    (receiver.run [] arrivals).1 <+: frames.map WireFrame.received := by
  obtain ⟨rest, hrest⟩ := harrived
  obtain ⟨done, left, rfl, hout, -, -⟩ :=
    receiver_frames.run_flatMap harrivals frames [] rest (.inl rfl) hrest
  rw [hout, List.map_append]
  exact List.prefix_append _ _

/-- A peer that reads all of a list of frames, in any pieces, decodes them. -/
theorem SentFrame.receiver_run {frames : List SentFrame} {reads : List (List UInt8)}
    (hreads : ∀ r ∈ reads, r ≠ []) (hcut : reads.flatten = (frames.map toVec).flatten) :
    receiver.run [] reads = (frames.map (·.val), []) := by
  have hstream : reads.flatten = (frames.map wire).flatMap WireFrame.toVec := by
    rw [hcut, List.flatMap_map]
    exact (List.flatMap_def).symm
  rw [receiver_run_frames _ reads hreads hstream, List.map_map]
  exact congrArg (·, []) (List.map_congr_left fun f _ => f.received_wire)

/-- Of what was sent, only the loop's frames can be taken for replies. -/
theorem filter_isReply_sent {sent : List (Producer × SentFrame)}
    (h : ∀ entry ∈ sent, entry.1 ≠ .main → entry.2.val.isReply = false) :
    (sent.map (·.2.val)).filter CoraFrame.isReply =
      (((sent.filter (·.1 = .main)).map (·.2)).map (·.val)).filter CoraFrame.isReply := by
  induction sent with
  | nil => rfl
  | cons entry sent ih =>
    have hrest := ih fun e he => h e (List.mem_cons_of_mem _ he)
    by_cases hmain : entry.1 = .main
    · rw [List.map_cons, List.filter_cons, hrest, List.filter_cons_of_pos (by simpa using hmain),
        List.map_cons, List.map_cons, List.filter_cons]
    · have hnot := h entry List.mem_cons_self hmain
      rw [List.map_cons, List.filter_cons_of_neg (by simp [hnot]), hrest,
        List.filter_cons_of_neg (by simpa using hmain)]

/-- What corresponds to the front of a list is the front of what corresponds to it. -/
theorem forall₂_take_of_prefix {α β : Type*} {R : α → β → Prop} {as as' : List α}
    {bs bs' : List β} (h : List.Forall₂ R as bs) (hbs : bs' <+: bs) (has : as <+: as') :
    ∃ n, List.Forall₂ R (as'.take n) bs' := by
  obtain ⟨cs, rfl⟩ := hbs
  obtain ⟨ds, rfl⟩ := has
  have hlen : bs'.length ≤ as.length := by
    rw [h.length_eq, List.length_append]
    exact Nat.le_add_right _ _
  refine ⟨bs'.length, ?_⟩
  rw [List.take_append_of_le_length hlen]
  exact List.forall₂_take_append as bs' cs h

/-- **Requests are answered in order**: whatever the tasks of a connection do, however
the requests of a client are cut on their way and in whatever pieces the client reads,
the replies among the frames that it decodes are those to the first of the requests
that get a reply, one for each and in their order; and when everything has arrived, is
handled and written, they are those to all of them. -/
theorem requests_answered_in_order (endpoint : Endpoint) (s₀ s : Outgoing)
    (actions : List Outgoing.Action) (hstart : Outgoing.start endpoint = .ok s₀)
    (hrun : run Outgoing.step s₀ actions = some s) (requests : List WireFrame)
    (arrivals : List (List UInt8)) (harrivals : ∀ r ∈ arrivals, r ≠ [])
    (harrived : arrivals.flatten <+: requests.flatMap WireFrame.toVec)
    (hhandled : Outgoing.handled actions <+: (receiver.run [] arrivals).1)
    (reads : List (List UInt8)) (hreads : ∀ r ∈ reads, r ≠ [])
    (hread : reads.flatten <+: s.pipe.written) :
    (∃ n, List.Forall₂ endpoint.ReplyTo
      (((requests.map WireFrame.received).filter endpoint.Answers).take n)
      ((receiver.run [] reads).1.filter CoraFrame.isReply)) ∧
    (arrivals.flatten = requests.flatMap WireFrame.toVec →
      Outgoing.handled actions = (receiver.run [] arrivals).1 → s.Flushed →
      reads.flatten = s.pipe.written →
      List.Forall₂ endpoint.ReplyTo ((requests.map WireFrame.received).filter endpoint.Answers)
        ((receiver.run [] reads).1.filter CoraFrame.isReply)) := by
  obtain ⟨-, said, hspoken⟩ := Outgoing.talks_run hstart hrun
  have hframed : s.Framed :=
    run_invariant (fun _ _ _ h hstep => h.step hstep) (Outgoing.framed_start hstart) hrun
  obtain ⟨sent, hdecoded, horder, hall⟩ := hframed.exists_decoded hspoken.built hreads hread
  -- the other tasks say nothing that a client can take for a reply
  have hothers : ∀ entry ∈ sent, entry.1 ≠ .main → entry.2.val.isReply = false := by
    intro entry hentry hne
    have hmem : entry.2 ∈ (sent.filter (·.1 = entry.1)).map (·.2) :=
      List.mem_map_of_mem (List.mem_filter.mpr ⟨hentry, decide_eq_true rfl⟩)
    exact hspoken.isReply_eq_false hne entry.2 ((horder entry.1).subset hmem)
  rw [hdecoded, filter_isReply_sent hothers]
  constructor
  · have hanswered := (hhandled.trans (receiver_run_isPrefix harrivals harrived)).filter
      fun frame => decide (endpoint.Answers frame)
    exact forall₂_take_of_prefix hspoken.main
      (((horder .main).map (·.val)).filter CoraFrame.isReply) hanswered
  · intro hstream hdone hflushed hwritten
    have hmain := hspoken.main
    rw [hdone, receiver_run_frames requests arrivals harrivals hstream] at hmain
    rw [(hall hflushed hwritten).2 .main]
    exact hmain

/-- A client asks for the firmware version in two pieces, and reads a probe and the
answer. -/
theorem requests_answered_in_order_firmware :
    ∃ s₀ s, Outgoing.start (.primary 7 directHandler) = .ok s₀ ∧
      run Outgoing.step s₀ [.pipe (.send .main),
        .frame (.new .default)
          ⟨⟨none, fun _ => .ok [], fun _ => .ok (), fun _ _ => .ok ()⟩,
            fun _ _ h => by cases h; exact Nat.zero_le _⟩
          ⟨CoraHeader.new CoraFlags.none .getReport 9 2, [0x03, 0x83]⟩,
        .pipe .recv, .pipe (.write 48), .pipe (.send .main), .pipe .recv,
        .pipe (.write 144)] = some s ∧ s.pipe.written.length = 192 ∧
      ∃ n, List.Forall₂ (Endpoint.primary 7 directHandler).ReplyTo
        ([⟨CoraHeader.new CoraFlags.none .getReport 9 2, [0x03, 0x83]⟩].take n)
        ((receiver.run [] [s.pipe.written.take 50, s.pipe.written.drop 50]).1.filter
          CoraFrame.isReply) := by
  let query : WireFrame :=
    ⟨⟨CoraHeader.new CoraFlags.none .getReport 9 2, [0x03, 0x83]⟩, by decide⟩
  let actions : List Outgoing.Action := [.pipe (.send .main),
    .frame (.new .default)
      ⟨⟨none, fun _ => .ok [], fun _ => .ok (), fun _ _ => .ok ()⟩,
        fun _ _ h => by cases h; exact Nat.zero_le _⟩ query.val,
    .pipe .recv, .pipe (.write 48), .pipe (.send .main), .pipe .recv, .pipe (.write 144)]
  have hstart := Outgoing.start_primary 7 directHandler
  have hcheck : ((run Outgoing.step ⟨.primary 7 directHandler, 1, 0,
      Pipe.empty.build .main [(keepaliveProbe 7 1).toVec]⟩ actions).map
        (·.pipe.written.length)) = some 192 := by
    decide +kernel
  obtain ⟨s, hrun, hwritten⟩ := Option.map_eq_some_iff.mp hcheck
  have hpieces : ∀ r ∈ [s.pipe.written.take 50, s.pipe.written.drop 50], r ≠ [] := by
    intro r hr
    apply List.ne_nil_of_length_pos
    simp only [List.mem_cons, List.not_mem_nil, or_false] at hr
    obtain rfl | rfl := hr
    · rw [List.length_take, hwritten]
      decide
    · rw [List.length_drop, hwritten]
      decide
  have harrived : [query.toVec.take 5, query.toVec.drop 5].flatten <+:
      [query].flatMap WireFrame.toVec := by
    decide
  have hhandled : Outgoing.handled actions <+:
      (receiver.run [] [query.toVec.take 5, query.toVec.drop 5]).1 := by
    rw [receiver_run_frames [query] _ (by decide) (by decide)]
    exact List.prefix_rfl
  have hread : [s.pipe.written.take 50, s.pipe.written.drop 50].flatten <+: s.pipe.written := by
    simp
  exact ⟨_, s, hstart, hrun, hwritten, (requests_answered_in_order _ _ s actions hstart hrun
    [query] _ (by decide) harrived hhandled _ hpieces hread).1⟩

end OpenNetDeck
