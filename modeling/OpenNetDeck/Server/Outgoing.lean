import OpenNetDeck.Lib.Pipe
import OpenNetDeck.Server.FrameHandler
import OpenNetDeck.Server.Hotplug
import OpenNetDeck.Server.ReceiveLoop
import OpenNetDeck.Server.SecondaryHandler

/-!
# Outgoing frames

The tasks of a connection that put messages into its outgoing queue, and the task
that writes them to the socket: `run` with its keepalive probes and the replies of
its handler, the forwarder of the device's input reports, `hotplug_task`, and the
tasks that the handler spawns, one for each child.

## Main definitions

- `Endpoint` — a primary or a secondary connection
- `Outgoing.step` — a task builds a message, or a message is on its way
- `Outgoing.Whole` — the queue and the wire hold whole frames, in their order

## Main results

- `wire_holds_whole_frames` — in every run the wire holds whole frames
-/

namespace OpenNetDeck

open Bytes Checked Transition

/-- The server's end of a connection. -/
inductive Endpoint where
  | primary (connectionId : UInt8) (handler : FrameHandler)
  | secondary (device : StreamDeckUsbHandle)

namespace Endpoint

def connId : Endpoint → UInt8
  | .primary connectionId _ => connectionId
  | .secondary _ => 1

/-- Build a probe in a buffer for it. -/
def sendProbe (self : Endpoint) (messageSeq : UInt32) : Except Panic (List (List UInt8)) :=
  sendBuilt (buildKeepaliveProbeFrame self.connId messageSeq (List.replicate (16 + 32) 0))

/-- What is sent before the loop. -/
def greeting (self : Endpoint) : Except Panic (List (List UInt8)) :=
  match self with
  | .primary _ _ => self.sendProbe 1
  | .secondary _ => .ok []

/-- Handle a frame, the dock being in some state. -/
def handle (self : Endpoint) (dock : DockState) (usb : UsbInterface) (frame : CoraFrame) :
    Except Panic (Effects × Endpoint) :=
  match self with
  | .primary connectionId handler => do
    let (effects, handler) ← { handler with state := dock }.handleFrame usb frame
    return (effects, .primary connectionId handler)
  | .secondary device => do
    let effects ← SecondaryConnection.handleIncomingFrame device usb frame
    return (effects, .secondary device)

/-- The input reports of the device are read. -/
def readsInput : Endpoint → Bool
  | .primary _ handler => handler.mode = .direct && handler.usbDevice.isSome
  | .secondary _ => true

/-- Hotplug events are pushed. -/
def pushesHotplug : Endpoint → Bool
  | .primary _ _ => true
  | .secondary _ => false

end Endpoint

/-- The tasks that send to the queue. -/
inductive Producer where
  | main
  | input
  | hotplug
  | snapshot (n : ℕ)
  deriving DecidableEq

/-- Capacity of the outgoing queue. -/
def outgoingCapacity : ℕ := 128

/-- A connection's outgoing side; `spawned` counts the tasks of the handler. -/
structure Outgoing where
  endpoint : Endpoint
  messageSeq : UInt32
  spawned : ℕ
  pipe : Pipe Producer UInt8

/-- The frame of an input report. -/
def inputFrame (rawReport : List UInt8) : CoraFrame :=
  CoraFrame.new (CoraHeader.new CoraFlags.none .write 0 rawReport.length) rawReport

namespace Outgoing

def start (endpoint : Endpoint) : Except Panic Outgoing := do
  let sent ← endpoint.greeting
  return { endpoint, messageSeq := 1, spawned := 0, pipe := Pipe.empty.build .main sent }

/-- A device returns at most what it is asked for, and a report has a length that
the length field can hold. -/
inductive Action where
  | tick
  | frame (dock : DockState) (usb : { usb : UsbInterface // usb.Bounded }) (frame : CoraFrame)
  | input (rawReport : { raw : List UInt8 // raw.length < 2 ^ 32 })
  | hotplug (child : ChildDeviceInfo)
  | pipe (a : Pipe.Action Producer)

/-- Spawn the task that pushes a child. -/
def spawn (self : Outgoing) (child : ChildDeviceInfo) : Outgoing :=
  { self with
    spawned := self.spawned + 1
    pipe := self.pipe.build (.snapshot self.spawned) (hotplugFrame child).toList }

/-- A task builds its next messages when the last ones are in the queue. -/
def step (self : Outgoing) : Action → Option Outgoing
  | .tick =>
    if self.pipe.pending .main = [] then
      let messageSeq := self.messageSeq + 1
      match self.endpoint.sendProbe messageSeq with
      | .ok sent => some { self with messageSeq, pipe := self.pipe.build .main sent }
      | .error _ => none
    else none
  | .frame dock usb frame =>
    if self.pipe.pending .main = [] then
      match self.endpoint.handle dock usb frame with
      | .ok (effects, endpoint) =>
        let self := effects.spawned.foldl spawn self
        some { self with endpoint, pipe := self.pipe.build .main effects.sent }
      | .error _ => none
    else none
  | .input rawReport =>
    if self.endpoint.readsInput ∧ self.pipe.pending .input = [] then
      some { self with pipe := self.pipe.build .input [(inputFrame rawReport).toVec] }
    else none
  | .hotplug child =>
    if self.endpoint.pushesHotplug ∧ self.pipe.pending .hotplug = [] then
      some { self with pipe := self.pipe.build .hotplug (hotplugFrame child).toList }
    else none
  | .pipe a => do return { self with pipe := ← self.pipe.step outgoingCapacity a }

end Outgoing

/-! ### Whole frames -/

/-- A frame whose length field is the length of its payload. -/
abbrev SentFrame :=
  { f : CoraFrame //
    f.payload.length < 2 ^ 32 ∧ f.header.payloadLen = UInt32.ofNat f.payload.length }

namespace SentFrame

def toVec (f : SentFrame) : List UInt8 := f.val.toVec

def wire (f : SentFrame) : WireFrame := ⟨f.val, f.property.1⟩

/-- The receiver sees the frame as it is. -/
theorem received_wire (f : SentFrame) : f.wire.received = f.val := by
  rw [WireFrame.received, wire, ← f.property.2]

theorem toVec_injective : Function.Injective toVec := by
  intro f g h
  have hdecode : ∀ f : SentFrame, CoraFrame.decode f.toVec =
      .ok (some (f.val, coraHeaderSize + f.val.payload.length)) := by
    intro f
    have hframe := CoraFrame.decode_toVec_append f.property.1 []
    rw [List.append_nil, CoraFrame.wireHeader, ← f.property.2] at hframe
    exact hframe
  have hf := hdecode f
  rw [h, hdecode g] at hf
  simp only [Except.ok.injEq, Option.some.injEq, Prod.mk.injEq] at hf
  exact Subtype.ext hf.1.symm

end SentFrame

/-- The bytes are one complete frame. -/
def IsFrame (msg : List UInt8) : Prop := ∃ f : SentFrame, f.toVec = msg

theorem isFrame_new {flags : CoraFlags} {hidOp : CoraHidOp} {messageId : UInt32}
    {payload : List UInt8} {n : ℕ} (hn : payload.length = n) (hlt : n < 2 ^ 32) :
    IsFrame (CoraFrame.new (CoraHeader.new flags hidOp messageId n) payload).toVec := by
  subst hn
  exact ⟨⟨CoraFrame.new (CoraHeader.new flags hidOp messageId payload.length) payload, hlt, rfl⟩,
    rfl⟩

theorem isFrame_keepaliveProbe (connectionId : UInt8) (messageId : UInt32) :
    IsFrame (keepaliveProbe connectionId messageId).toVec :=
  isFrame_new (by simp) (by decide)

theorem isFrame_keepaliveAck (connectionId : UInt8) (messageId : UInt32) :
    IsFrame (keepaliveAck connectionId messageId).toVec :=
  isFrame_new (by simp) (by decide)

theorem isFrame_ackFrame (frame : CoraFrame) (default : UInt8) :
    IsFrame (ackFrame frame default).toVec :=
  isFrame_new rfl (by decide)

theorem isFrame_hotplugFrame {child : ChildDeviceInfo} {msg : List UInt8}
    (h : hotplugFrame child = some msg) : IsFrame msg := by
  have hmsg := (Connection.hotplugFrame_toVec child).symm.trans h
  rw [← Option.some.inj hmsg]
  refine isFrame_new rfl ?_
  rw [Connection.pushPayload_length]
  decide

theorem FrameHandler.isFrame_of_replies {handler : FrameHandler} {frame : CoraFrame}
    {effects : Effects} (h : handler.Replies frame effects) :
    ∀ msg ∈ effects.sent, IsFrame msg := by
  obtain ⟨hack, hforward, hnone, hquery⟩ := h
  by_cases hprobe : frame.IsProbe
  · rw [(hack hprobe).1]
    exact List.forall_mem_singleton.mpr (isFrame_keepaliveAck _ _)
  by_cases hforwards : handler.Forwards frame
  · rw [(hforward hprobe hforwards).1]
    split
    · exact List.forall_mem_singleton.mpr (isFrame_ackFrame _ _)
    · exact nofun
  by_cases hempty : frame.payload = []
  · rw [(hnone hprobe hforwards hempty).1]
    exact nofun
  · obtain ⟨cmd, payload, -, hsent, -, hlen⟩ := hquery hprobe hforwards hempty
    have hlt : payload.length < 2 ^ 32 := by
      rw [hlen, respLen]
      split <;> decide
    rw [hsent]
    exact List.forall_mem_singleton.mpr (isFrame_new rfl hlt)

theorem SecondaryConnection.isFrame_of_replies {frame : CoraFrame} {effects : Effects}
    (h : Replies frame effects) : ∀ msg ∈ effects.sent, IsFrame msg := by
  by_cases hprobe : frame.IsProbe
  · rw [h.probe hprobe]
    exact List.forall_mem_singleton.mpr (isFrame_keepaliveAck _ _)
  · intro msg hmsg
    obtain ⟨payload, rfl, hle⟩ := h.reply hprobe msg hmsg
    exact isFrame_new rfl (hle.trans_lt (by decide))

namespace Endpoint

variable {dock : DockState} {usb : UsbInterface} {frame : CoraFrame} {effects : Effects}
  {next : Endpoint}

/-- A primary connection runs its handler over the dock as it is. -/
theorem handle_primary {connectionId : UInt8} {handler : FrameHandler}
    (h : (primary connectionId handler).handle dock usb frame = .ok (effects, next)) :
    ∃ handler', { handler with state := dock }.handleFrame usb frame = .ok (effects, handler') ∧
      next = .primary connectionId handler' := by
  simp only [handle, bind, Except.bind, pure, Except.pure] at h
  split at h
  · cases h
  · next result hhandle =>
    cases h
    exact ⟨_, hhandle, rfl⟩

theorem handle_secondary {device : StreamDeckUsbHandle}
    (h : (secondary device).handle dock usb frame = .ok (effects, next)) :
    SecondaryConnection.handleIncomingFrame device usb frame = .ok effects ∧
      next = .secondary device := by
  simp only [handle, bind, Except.bind, pure, Except.pure] at h
  split at h
  · cases h
  · next result hhandle =>
    cases h
    exact ⟨hhandle, rfl⟩

/-- All that a frame handler sends are whole frames. -/
theorem isFrame_of_handle {endpoint : Endpoint} (husb : usb.Bounded)
    (h : endpoint.handle dock usb frame = .ok (effects, next)) :
    ∀ msg ∈ effects.sent, IsFrame msg := by
  cases endpoint with
  | primary connectionId handler =>
    obtain ⟨handler', hhandle, -⟩ := handle_primary h
    exact FrameHandler.isFrame_of_replies (FrameHandler.replies_of_ok _ usb frame hhandle)
  | secondary device =>
    obtain ⟨hhandle, -⟩ := handle_secondary h
    exact SecondaryConnection.isFrame_of_replies
      (SecondaryConnection.replies_of_ok device usb frame husb hhandle)

end Endpoint

theorem Endpoint.sendProbe_eq (endpoint : Endpoint) (messageSeq : UInt32) :
    endpoint.sendProbe messageSeq = .ok [(keepaliveProbe endpoint.connId messageSeq).toVec] := by
  rw [sendProbe, sendBuilt_keepaliveProbe List.length_replicate.ge]

namespace Outgoing

/-- What every step keeps. -/
structure Framed (s : Outgoing) : Prop where
  ordered : s.pipe.Ordered
  built : ∀ p, ∀ msg ∈ s.pipe.built p, IsFrame msg

/-- So it does to build whole frames. -/
theorem Framed.build {s s' : Outgoing} (h : s.Framed) {p : Producer} {msgs : List (List UInt8)}
    (hmsgs : ∀ msg ∈ msgs, IsFrame msg) (hpipe : s'.pipe = s.pipe.build p msgs) : s'.Framed where
  ordered := by
    rw [hpipe]
    exact h.ordered.build p msgs
  built := by
    intro q msg hmsg
    rw [hpipe] at hmsg
    obtain hold | ⟨-, hnew⟩ := Pipe.mem_built_build.mp hmsg
    · exact h.built q msg hold
    · exact hmsgs msg hnew

theorem isFrame_of_mem_hotplugFrame {child : ChildDeviceInfo} :
    ∀ msg ∈ (hotplugFrame child).toList, IsFrame msg :=
  fun _ hmsg => isFrame_hotplugFrame (Option.mem_toList.mp hmsg)

theorem Framed.spawn {s : Outgoing} (h : s.Framed) (children : List ChildDeviceInfo) :
    (children.foldl Outgoing.spawn s).Framed := by
  induction children generalizing s with
  | nil => exact h
  | cons child children ih => exact ih (h.build isFrame_of_mem_hotplugFrame rfl)

/-- A primary connection starts with a probe. -/
theorem start_primary (connectionId : UInt8) (handler : FrameHandler) :
    start (.primary connectionId handler) = .ok ⟨.primary connectionId handler, 1, 0,
      Pipe.empty.build .main [(keepaliveProbe connectionId 1).toVec]⟩ := by
  simp only [start, Endpoint.greeting, Endpoint.sendProbe_eq]
  rfl

theorem framed_start {endpoint : Endpoint} {s : Outgoing} (h : start endpoint = .ok s) :
    s.Framed := by
  have hempty : Framed ⟨endpoint, 1, 0, .empty⟩ := ⟨Pipe.ordered_empty, fun _ => nofun⟩
  cases endpoint with
  | primary connectionId handler =>
    rw [start_primary] at h
    cases h
    exact hempty.build (List.forall_mem_singleton.mpr (isFrame_keepaliveProbe _ _)) rfl
  | secondary device =>
    cases h
    have hnone : ∀ msg ∈ ([] : List (List UInt8)), IsFrame msg := nofun
    exact hempty.build hnone rfl

theorem Framed.step {s s' : Outgoing} {a : Action} (h : s.Framed) (hstep : s.step a = some s') :
    s'.Framed := by
  cases a with
  | tick =>
    obtain ⟨-, hstep⟩ := Option.ite_none_right_eq_some.mp hstep
    simp only [Endpoint.sendProbe_eq] at hstep
    cases hstep
    exact h.build (List.forall_mem_singleton.mpr (isFrame_keepaliveProbe _ _)) rfl
  | frame dock usb frame =>
    obtain ⟨-, hstep⟩ := Option.ite_none_right_eq_some.mp hstep
    split at hstep
    · next effects endpoint hhandle =>
      cases hstep
      exact (h.spawn effects.spawned).build (Endpoint.isFrame_of_handle usb.property hhandle) rfl
    · cases hstep
  | input rawReport =>
    obtain ⟨-, hstep⟩ := Option.ite_none_right_eq_some.mp hstep
    cases hstep
    have hframe : IsFrame (inputFrame rawReport).toVec := isFrame_new rfl rawReport.property
    exact h.build (List.forall_mem_singleton.mpr hframe) rfl
  | hotplug child =>
    obtain ⟨-, hstep⟩ := Option.ite_none_right_eq_some.mp hstep
    cases hstep
    exact h.build isFrame_of_mem_hotplugFrame rfl
  | pipe a =>
    obtain ⟨pipe, hpipe, hs'⟩ := Option.bind_eq_some_iff.mp hstep
    cases hs'
    refine ⟨h.ordered.step hpipe, ?_⟩
    rw [Pipe.built_step hpipe]
    exact h.built

/-- What a peer has decoded of the wire: the first frames, in the order of the queue. -/
structure Decodes (s : Outgoing) (frames : List SentFrame) (reads : List (List UInt8)) : Prop where
  some : ∃ n ≤ frames.length, (receiver.run [] reads).1 = (frames.take n).map (·.val)
  all : reads.flatten = s.pipe.written → s.pipe.writing = [] →
    receiver.run [] reads = (frames.map (·.val), [])

/-- The frames are those that entered the queue; the first ones left it, and the wire
holds them, but for the rest of the last one. -/
structure Whole (s : Outgoing) (sent : List (Producer × SentFrame)) : Prop where
  enqueued : s.pipe.enqueued = sent.map (Prod.map id SentFrame.toVec)
  queue : s.pipe.queue = (sent.drop s.pipe.dequeued.length).map (·.2.toVec)
  wire : s.pipe.written ++ s.pipe.writing =
    (sent.take s.pipe.dequeued.length).flatMap (·.2.toVec)
  order : ∀ p, (sent.filter (·.1 = p)).map (·.2.toVec) <+: s.pipe.built p
  kept : s.pipe.isOpen = true → ∀ p,
    (sent.filter (·.1 = p)).map (·.2.toVec) ++ s.pipe.pending p = s.pipe.built p
  decodes : ∀ reads, (∀ r ∈ reads, r ≠ []) → reads.flatten <+: s.pipe.written →
    s.Decodes ((sent.take s.pipe.dequeued.length).map (·.2)) reads

/-- A peer that reads the wire in any pieces decodes the frames on it. -/
theorem decodes_of_wire {s : Outgoing} {frames : List SentFrame}
    (hwire : s.pipe.written ++ s.pipe.writing = frames.flatMap SentFrame.toVec)
    {reads : List (List UInt8)} (hreads : ∀ r ∈ reads, r ≠ [])
    (hpre : reads.flatten <+: s.pipe.written) : s.Decodes frames reads := by
  obtain ⟨unread, hunread⟩ := hpre
  have hstream : [] ++ reads.flatten ++ (unread ++ s.pipe.writing) =
      (frames.map SentFrame.wire).flatMap WireFrame.toVec := by
    rw [List.nil_append, ← List.append_assoc, hunread, hwire, List.flatMap_map]
    rfl
  obtain ⟨done, rest, hsplit, hout, hleft, hpartial⟩ :=
    receiver_frames.run_flatMap hreads _ [] _ (.inl rfl) hstream
  have hreceived : ∀ n, ((frames.map SentFrame.wire).take n).map WireFrame.received =
      (frames.take n).map (·.val) := by
    intro n
    rw [← List.map_take, List.map_map]
    exact List.map_congr_left fun f _ => f.received_wire
  constructor
  · refine ⟨done.length, ?_, ?_⟩
    · have hlen := congrArg List.length hsplit
      rw [List.length_map, List.length_append] at hlen
      omega
    · rw [hout, ← hreceived, hsplit, List.take_left]
  · intro hall hidle
    have hnone : unread = [] := by
      rw [hall] at hunread
      exact List.append_right_eq_self.mp hunread
    rw [hnone, hidle, List.append_nil, List.append_nil] at hleft
    have hrest := hpartial.eq_nil WireFrame.toVec_ne_nil hleft
    rw [hrest] at hleft hsplit
    rw [List.append_nil] at hsplit
    apply Prod.ext
    · have hframes := hreceived frames.length
      rw [List.take_of_length_le (List.length_map _).le, List.take_length] at hframes
      rw [hout, ← hsplit, hframes]
    · exact hleft

/-- Everything that was built is on the wire. -/
structure Flushed (s : Outgoing) : Prop where
  isOpen : s.pipe.isOpen = true
  pending : ∀ p, s.pipe.pending p = []
  queue : s.pipe.queue = []
  writing : s.pipe.writing = []

/-- A peer decodes the first of the frames that the tasks said, each task's in its
order, and all of them when everything is on the wire and read. -/
theorem Framed.exists_decoded {s : Outgoing} (h : s.Framed) {said : Producer → List SentFrame}
    (hsaid : s.pipe.Says SentFrame.toVec said) {reads : List (List UInt8)}
    (hreads : ∀ r ∈ reads, r ≠ []) (hpre : reads.flatten <+: s.pipe.written) :
    ∃ sent : List (Producer × SentFrame),
      (receiver.run [] reads).1 = sent.map (·.2.val) ∧
      (∀ p, (sent.filter (·.1 = p)).map (·.2) <+: said p) ∧
      (s.Flushed → reads.flatten = s.pipe.written → (receiver.run [] reads).2 = [] ∧
        ∀ p, (sent.filter (·.1 = p)).map (·.2) = said p) := by
  obtain ⟨sent, hsent, horder, hkept⟩ := h.ordered.exists_sent SentFrame.toVec_injective hsaid
  have hdequeued : s.pipe.dequeued = (sent.take s.pipe.dequeued.length).map (·.2.toVec) := by
    have heq := h.ordered.dequeued_eq
    rw [hsent, ← List.map_take, List.map_map] at heq
    exact heq
  have hwire : s.pipe.written ++ s.pipe.writing =
      ((sent.take s.pipe.dequeued.length).map (·.2)).flatMap SentFrame.toVec := by
    rw [List.flatMap_map, List.flatMap_def, ← hdequeued]
    exact h.ordered.whole
  obtain ⟨⟨n, -, hout⟩, hall⟩ := decodes_of_wire hwire hreads hpre
  by_cases hdone : s.Flushed ∧ reads.flatten = s.pipe.written
  · obtain ⟨hflushed, hread⟩ := hdone
    have hrun := hall hread hflushed.writing
    have htake : sent.take s.pipe.dequeued.length = sent := by
      have hfifo := congrArg List.length h.ordered.fifo
      rw [hflushed.queue, List.append_nil, hsent, List.length_map, List.length_map] at hfifo
      exact List.take_of_length_le hfifo.ge
    rw [htake] at hrun
    refine ⟨sent, ?_, horder, fun _ _ => ⟨?_, ?_⟩⟩
    · rw [hrun, List.map_map]
      rfl
    · rw [hrun]
    · exact fun p => hkept hflushed.isOpen p (hflushed.pending p)
  · refine ⟨(sent.take s.pipe.dequeued.length).take n, ?_, fun p => ?_, ?_⟩
    · rw [hout, ← List.map_take, List.map_map]
      rfl
    · refine List.IsPrefix.trans ?_ (horder p)
      rw [List.take_take]
      exact ((List.take_prefix _ _).filter _).map _
    · exact fun hflushed hread => absurd ⟨hflushed, hread⟩ hdone

end Outgoing

open Outgoing

/-- **Whole frames on the wire**: however the tasks of a connection interleave,
whatever they send and wherever a write fails, what entered the queue is a list of
complete frames, each task's in its own order; the wire holds the first of them, and
a peer decodes these, in whatever pieces it reads them. -/
theorem wire_holds_whole_frames (endpoint : Endpoint) (s₀ s : Outgoing)
    (actions : List Outgoing.Action) (hstart : Outgoing.start endpoint = .ok s₀)
    (hrun : run Outgoing.step s₀ actions = some s) : ∃ sent, s.Whole sent := by
  have hframed : s.Framed :=
    run_invariant (fun _ _ _ h hstep => h.step hstep) (framed_start hstart) hrun
  obtain ⟨sent, hsent⟩ := hframed.ordered.exists_encoded hframed.built
  have hmap : ∀ l : List (Producer × SentFrame),
      (l.map (Prod.map id SentFrame.toVec)).map (·.2) = l.map (·.2.toVec) := by
    intro l
    rw [List.map_map]
    rfl
  have hsentBy : ∀ p, s.pipe.sentBy p = (sent.filter (·.1 = p)).map (·.2.toVec) := by
    intro p
    rw [Pipe.sentBy, hsent, List.filter_map, hmap]
    rfl
  have hdequeued : s.pipe.dequeued = (sent.take s.pipe.dequeued.length).map (·.2.toVec) := by
    have h := hframed.ordered.dequeued_eq
    rwa [hsent, ← List.map_take, hmap] at h
  have hwire : s.pipe.written ++ s.pipe.writing =
      (sent.take s.pipe.dequeued.length).flatMap (·.2.toVec) := by
    calc s.pipe.written ++ s.pipe.writing = s.pipe.dequeued.flatten := hframed.ordered.whole
      _ = ((sent.take s.pipe.dequeued.length).map (·.2.toVec)).flatten :=
          congrArg List.flatten hdequeued
      _ = (sent.take s.pipe.dequeued.length).flatMap (·.2.toVec) := List.flatMap_def.symm
  refine ⟨sent, hsent, ?_, hwire, ?_, ?_, ?_⟩
  · have h := hframed.ordered.fifo
    rw [hsent, hmap] at h
    have hdrop := congrArg (List.drop s.pipe.dequeued.length) h
    rwa [List.drop_left, ← List.map_drop] at hdrop
  · intro p
    rw [← hsentBy]
    exact hframed.ordered.order p
  · intro hopen p
    rw [← hsentBy]
    exact hframed.ordered.kept hopen p
  · intro reads hreads hpre
    refine decodes_of_wire ?_ hreads hpre
    rw [hwire, List.flatMap_map]

/-- A button is pressed in direct mode before the first probe is sent, and the write
of the probe fails. -/
theorem wire_holds_whole_frames_failing :
    ∃ s₀ s, Outgoing.start (.primary 7 ⟨.new .default, .v4 (Block.zeroed 4), .direct,
        some ⟨0, vendorIdElgato, 0x0080, "A", none⟩, false⟩) = .ok s₀ ∧
      run Outgoing.step s₀ [.input ⟨[0x01, 0x00, 0x0f, 0x00, 0x01], by decide⟩,
        .pipe (.send .input), .pipe (.send .main), .tick, .pipe .recv, .pipe (.write 21),
        .pipe .recv, .pipe (.write 9), .pipe .fail] = some s ∧ ∃ sent, s.Whole sent := by
  have hstart := Outgoing.start_primary 7 ⟨.new .default, .v4 (Block.zeroed 4), .direct,
    some ⟨0, vendorIdElgato, 0x0080, "A", none⟩, false⟩
  have hcheck : (run Outgoing.step ⟨.primary 7 ⟨.new .default, .v4 (Block.zeroed 4), .direct,
      some ⟨0, vendorIdElgato, 0x0080, "A", none⟩, false⟩, 1, 0,
      Pipe.empty.build .main [(keepaliveProbe 7 1).toVec]⟩
    [.input ⟨[0x01, 0x00, 0x0f, 0x00, 0x01], by decide⟩,
      .pipe (.send .input), .pipe (.send .main), .tick, .pipe .recv, .pipe (.write 21),
      .pipe .recv, .pipe (.write 9), .pipe .fail]).isSome := by
    decide +kernel
  obtain ⟨s, hrun⟩ := Option.isSome_iff_exists.mp hcheck
  exact ⟨_, s, hstart, hrun, wire_holds_whole_frames _ _ s _ hstart hrun⟩

end OpenNetDeck
