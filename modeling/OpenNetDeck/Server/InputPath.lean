import OpenNetDeck.Server.RequestReply

/-!
# Input reports

The way of an input report from the device to the client: `spawn_input_reader` polls the
endpoint and puts what it reads into a channel, the forwarder of the connection takes it
from there and makes a frame of it, and the writer task puts the frame on the wire.

## Main definitions

- `InputPath.step` — a transfer completes, or one of the tasks goes on
- `InputPath.reports` — the reports that the device has delivered
- `InputPath.Carries` — where the reports are that are not forwarded yet

## Main results

- `input_reports_in_order` — the client gets the reports of the device, in their order
  and with a bounded backlog, and the reader signals at most once that the device is gone
-/

namespace OpenNetDeck

open Transition

/-- What a transfer from the device brings. -/
abbrev InputReport := { raw : List UInt8 // raw.length < 2 ^ 32 }

/-- Capacity of the channel from the reader to the forwarder. -/
def inputCapacity : ℕ := 128

/-- Where the loop of the reader stands. -/
inductive InputReader where
  | polling
  | sending (data : InputReport)
  | signalling
  | sleeping
  | stopped

/-- The report that is read but not yet in the channel. -/
def InputReader.inHand : InputReader → List InputReport
  | .sending data => [data]
  | _ => []

/-- The reader, its channel, and the connection that it reads for; `signals` counts what
was sent to `disconnect_tx`. -/
structure InputPath where
  reader : InputReader
  channel : List InputReport
  forwarding : Bool
  signals : ℕ
  outgoing : Outgoing

namespace InputPath

/-- The reader does not start when the endpoint cannot be opened. -/
def start (endpoint : Endpoint) (opens : Bool) : Except Checked.Panic InputPath := do
  let outgoing ← Outgoing.start endpoint
  return {
    reader := if endpoint.readsInput ∧ opens then .polling else .stopped
    channel := []
    forwarding := true
    signals := 0
    outgoing }

inductive Action where
  | complete (status : Except TransferError InputReport)
  | wake
  | send
  | signal
  | forward
  | outgoing (a : Outgoing.Action)

/-- A transfer is completed. -/
def onComplete (self : InputPath) (status : Except TransferError InputReport) : InputPath :=
  match status with
  | .ok data => if data.val.length > 0 then { self with reader := .sending data } else self
  | .error .disconnected => { self with reader := .signalling }
  | .error (.other _) => { self with reader := .sleeping }

/-- The channel is closed when the forwarder is gone. -/
def onSend (self : InputPath) (data : InputReport) : Option InputPath :=
  if self.forwarding then
    if self.channel.length < inputCapacity then
      some { self with reader := .polling, channel := self.channel ++ [data] }
    else none
  else some { self with reader := .stopped }

/-- A step of another task of the connection, or of the writer. -/
def onOutgoing (self : InputPath) : Outgoing.Action → Option InputPath
  | .input _ => none
  | .pipe (.send .input) => do
    let outgoing ← self.outgoing.step (.pipe (.send .input))
    -- the forwarder ends when its message cannot be sent
    if self.outgoing.pipe.isOpen then return { self with outgoing }
    else return { self with outgoing, forwarding := false, channel := [] }
  | a => do return { self with outgoing := ← self.outgoing.step a }

def step (self : InputPath) : Action → Option InputPath
  | .complete status =>
    match self.reader with
    | .polling => some (self.onComplete status)
    | _ => none
  | .wake =>
    match self.reader with
    | .sleeping => some { self with reader := .polling }
    | _ => none
  | .send =>
    match self.reader with
    | .sending data => self.onSend data
    | _ => none
  | .signal =>
    match self.reader with
    | .signalling => some { self with reader := .stopped, signals := self.signals + 1 }
    | _ => none
  | .forward =>
    match self.channel with
    | data :: channel => do
      let outgoing ← self.outgoing.step (.input data)
      return { self with channel, outgoing }
    | [] => none
  | .outgoing a => self.onOutgoing a

/-- The transfers that were completed in a run. -/
def completions (actions : List Action) : List (Except TransferError InputReport) :=
  actions.filterMap fun
    | .complete status => some status
    | _ => none

/-- The reports that the device has delivered: an empty transfer is none. -/
def reports (actions : List Action) : List InputReport :=
  (completions actions).filterMap fun
    | .ok data => if data.val.length > 0 then some data else none
    | .error _ => none

end InputPath

/-! ### The connection -/

namespace Outgoing

variable {s s' : Outgoing}

theorem pipe_spawn (s : Outgoing) (children : List ChildDeviceInfo) :
    (children.foldl spawn s).pipe.isOpen = s.pipe.isOpen ∧
      (children.foldl spawn s).pipe.pending .input = s.pipe.pending .input := by
  induction children generalizing s with
  | nil => exact ⟨rfl, rfl⟩
  | cons child children ih =>
    obtain ⟨hopen, hpending⟩ := ih (s.spawn child)
    exact ⟨hopen, hpending.trans (Pipe.pending_build_of_ne _ (by simp) _)⟩

/-- The queue stays closed, and the forwarder has at most one message to send. -/
structure Forwards (s s' : Outgoing) : Prop where
  closed : s.pipe.isOpen = false → s'.pipe.isOpen = false
  pending : (s.pipe.pending .input).length ≤ 1 → (s'.pipe.pending .input).length ≤ 1

/-- What is built by another task changes neither. -/
theorem Forwards.build {p : Producer} (hp : p ≠ .input) {msgs : List (List UInt8)}
    (hopen : s'.pipe.isOpen = s.pipe.isOpen)
    (hpending : s'.pipe.pending .input = (s.pipe.build p msgs).pending .input) :
    Forwards s s' where
  closed := by
    rw [hopen]
    exact fun h => h
  pending := by
    rw [hpending, Pipe.pending_build_of_ne _ (Ne.symm hp)]
    exact fun h => h

theorem forwards_pipe {pipe : Pipe Producer UInt8} {a : Pipe.Action Producer}
    (h : s.pipe.step outgoingCapacity a = some pipe) : Forwards s { s with pipe } where
  closed := by
    intro hclosed
    obtain ⟨-, -, -, -, hopen, -⟩ | ⟨-, -, -, rfl⟩ | ⟨-, -, -, -, rfl⟩ | ⟨-, rfl⟩ | rfl :=
      Pipe.step_cases h
    · cases hclosed.symm.trans hopen
    · exact hclosed
    · exact hclosed
    · exact hclosed
    · rfl
  pending := fun hle => (Pipe.pending_step h .input).length_le.trans hle

/-- The message of the forwarder is sent before it takes the next report. -/
theorem forwards_step {a : Action} (hstep : s.step a = some s') : Forwards s s' := by
  obtain ⟨-, -, rfl⟩ | ⟨dock, usb, f, effects, next, -, -, -, rfl⟩ |
    ⟨rawReport, -, hnone, rfl⟩ | ⟨child, -, -, rfl⟩ | ⟨b, pipe, -, hpipe, rfl⟩ :=
    step_cases hstep
  · exact .build (p := .main) (by decide) rfl rfl
  · obtain ⟨hopen, hpending⟩ := s.pipe_spawn effects.spawned
    have hbuild : ((effects.spawned.foldl spawn s).pipe.build .main effects.sent).pending .input =
        (s.pipe.build .main effects.sent).pending .input := by
      rw [Pipe.pending_build_of_ne _ (by decide), hpending,
        Pipe.pending_build_of_ne _ (by decide)]
    exact .build (p := .main) (by decide) hopen hbuild
  · refine ⟨fun h => h, fun _ => ?_⟩
    show ((s.pipe.build .input _).pending .input).length ≤ 1
    rw [Pipe.pending_build_self, hnone]
    exact le_rfl
  · exact .build (p := .hotplug) (by decide) rfl rfl
  · exact forwards_pipe hpipe

end Outgoing

/-! ### Where the reports are -/

namespace InputPath

/-- What one step can do. -/
theorem step_cases {s s' : InputPath} {a : Action} (h : s.step a = some s') :
    (∃ status, a = .complete status ∧ s.reader = .polling ∧ s' = s.onComplete status) ∨
    (a = .wake ∧ s.reader = .sleeping ∧ s' = { s with reader := .polling }) ∨
    (∃ data, a = .send ∧ s.reader = .sending data ∧ s.channel.length < inputCapacity ∧
      s.forwarding = true ∧ s' = { s with reader := .polling, channel := s.channel ++ [data] }) ∨
    (∃ data, a = .send ∧ s.reader = .sending data ∧ s.forwarding = false ∧
      s' = { s with reader := .stopped }) ∨
    (a = .signal ∧ s.reader = .signalling ∧
      s' = { s with reader := .stopped, signals := s.signals + 1 }) ∨
    (∃ data channel outgoing, a = .forward ∧ s.channel = data :: channel ∧
      s.outgoing.step (.input data) = some outgoing ∧ s' = { s with channel, outgoing }) ∨
    (∃ b outgoing, a = .outgoing b ∧ b.forwarded = [] ∧ s.outgoing.step b = some outgoing ∧
      (s' = { s with outgoing } ∨
        s.outgoing.pipe.isOpen = false ∧
          s' = { s with outgoing, forwarding := false, channel := [] })) := by
  cases a with
  | complete status =>
    simp only [step] at h
    split at h
    · next hreader =>
      cases h
      exact .inl ⟨status, rfl, hreader, rfl⟩
    · cases h
  | wake =>
    simp only [step] at h
    split at h
    · next hreader =>
      cases h
      exact .inr (.inl ⟨rfl, hreader, rfl⟩)
    · cases h
  | send =>
    simp only [step] at h
    split at h
    · next data hreader =>
      rw [onSend] at h
      split at h
      · next hforwarding =>
        obtain ⟨hlt, h⟩ := Option.ite_none_right_eq_some.mp h
        cases h
        exact .inr (.inr (.inl ⟨data, rfl, hreader, hlt, hforwarding, rfl⟩))
      · next hforwarding =>
        cases h
        exact .inr (.inr (.inr (.inl ⟨data, rfl, hreader, Bool.eq_false_iff.mpr hforwarding,
          rfl⟩)))
    · cases h
  | signal =>
    simp only [step] at h
    split at h
    · next hreader =>
      cases h
      exact .inr (.inr (.inr (.inr (.inl ⟨rfl, hreader, rfl⟩))))
    · cases h
  | forward =>
    simp only [step] at h
    split at h
    · next data channel hchannel =>
      obtain ⟨outgoing, houtgoing, h⟩ := Option.bind_eq_some_iff.mp h
      cases h
      exact .inr (.inr (.inr (.inr (.inr (.inl ⟨data, channel, outgoing, rfl, hchannel,
        houtgoing, rfl⟩)))))
    · cases h
  | outgoing b =>
    refine .inr (.inr (.inr (.inr (.inr (.inr ?_)))))
    simp only [step, onOutgoing] at h
    split at h
    · cases h
    · obtain ⟨outgoing, houtgoing, h⟩ := Option.bind_eq_some_iff.mp h
      refine ⟨_, outgoing, rfl, rfl, houtgoing, ?_⟩
      split at h
      · cases h
        exact .inl rfl
      · next hopen =>
        cases h
        exact .inr ⟨Bool.eq_false_iff.mpr hopen, rfl⟩
    · next hinput _ =>
      obtain ⟨outgoing, houtgoing, h⟩ := Option.bind_eq_some_iff.mp h
      cases h
      refine ⟨b, outgoing, rfl, ?_, houtgoing, .inl rfl⟩
      cases b with
      | input rawReport => exact absurd rfl (hinput rawReport)
      | _ => rfl

/-- The forwarder has built the frames of the first reports; while it is there, the
others are in the channel or with the reader. -/
structure Carries (s₀ : Outgoing) (actions : List Action) (s : InputPath) : Prop where
  passed : ∃ passed : List Outgoing.Action, run Outgoing.step s₀ passed = some s.outgoing ∧
    passed.flatMap Outgoing.Action.forwarded <+: reports actions ∧
    (s.forwarding = true → passed.flatMap Outgoing.Action.forwarded ++ s.channel ++
      s.reader.inHand = reports actions)
  channel_le : s.channel.length ≤ inputCapacity
  closed : s.forwarding = false → s.outgoing.pipe.isOpen = false ∧ s.channel = []
  pending_le : (s.outgoing.pipe.pending .input).length ≤ 1

theorem completions_concat (actions : List Action) (a : Action) :
    completions (actions ++ [a]) = completions actions ++ completions [a] :=
  List.filterMap_append

theorem reports_concat (actions : List Action) (a : Action) :
    reports (actions ++ [a]) = reports actions ++ reports [a] := by
  rw [reports, completions_concat, List.filterMap_append]
  rfl

variable {s₀ : Outgoing} {actions : List Action} {s s' : InputPath}

/-- The reader goes on, with what a transfer has brought in its hand. -/
theorem Carries.read (h : Carries s₀ actions s) {a : Action} (hchannel : s'.channel = s.channel)
    (hforwarding : s'.forwarding = s.forwarding) (houtgoing : s'.outgoing = s.outgoing)
    (hreader : s.forwarding = true → s'.reader.inHand = s.reader.inHand ++ reports [a]) :
    Carries s₀ (actions ++ [a]) s' := by
  obtain ⟨⟨passed, hrun, hpassed, hall⟩, hle, hclosed, hpending⟩ := h
  rw [← hchannel] at hle
  rw [← hforwarding, ← houtgoing, ← hchannel] at hclosed
  rw [← houtgoing] at hrun hpending
  refine ⟨⟨passed, hrun, ?_, ?_⟩, hle, hclosed, hpending⟩
  · rw [reports_concat]
    exact hpassed.trans (List.prefix_append _ _)
  · intro hthere
    rw [hforwarding] at hthere
    rw [hchannel, hreader hthere, ← List.append_assoc, hall hthere, reports_concat]

theorem inHand_onComplete {status : Except TransferError InputReport}
    (hreader : s.reader = .polling) :
    (s.onComplete status).reader.inHand = s.reader.inHand ++ reports [.complete status] := by
  rw [hreader]
  match status with
  | .ok data =>
    by_cases hdata : data.val.length > 0
    · simp [onComplete, hdata, reports, completions, InputReader.inHand]
    · simp [onComplete, hdata, reports, completions, InputReader.inHand, hreader]
  | .error .disconnected => rfl
  | .error (.other _) => rfl

/-- The reader is the only one that a completed transfer changes. -/
theorem onComplete_same (s : InputPath) (status : Except TransferError InputReport) :
    (s.onComplete status).channel = s.channel ∧
      (s.onComplete status).forwarding = s.forwarding ∧
      (s.onComplete status).outgoing = s.outgoing ∧
      (s.onComplete status).signals = s.signals := by
  match status with
  | .ok data =>
    rw [onComplete]
    split <;> exact ⟨rfl, rfl, rfl, rfl⟩
  | .error .disconnected => exact ⟨rfl, rfl, rfl, rfl⟩
  | .error (.other _) => exact ⟨rfl, rfl, rfl, rfl⟩

theorem Carries.step (h : Carries s₀ actions s) {a : Action} (hstep : s.step a = some s') :
    Carries s₀ (actions ++ [a]) s' := by
  obtain ⟨status, rfl, hreader, rfl⟩ | ⟨rfl, hreader, rfl⟩ |
    ⟨data, rfl, hreader, hlt, hforwarding, rfl⟩ | ⟨data, rfl, hreader, hforwarding, rfl⟩ |
    ⟨rfl, hreader, rfl⟩ | ⟨data, channel, outgoing, rfl, hqueue, houtgoing, rfl⟩ |
    ⟨b, outgoing, rfl, hb, houtgoing, hcases⟩ := step_cases hstep
  -- a transfer is completed
  · obtain ⟨hchannel, hforwarding, houtgoing, -⟩ := s.onComplete_same status
    exact h.read hchannel hforwarding houtgoing fun _ => inHand_onComplete hreader
  -- the reader wakes up
  · exact h.read rfl rfl rfl fun _ => by rw [hreader]; rfl
  -- a report goes into the channel
  · obtain ⟨⟨passed, hrun, hpassed, hall⟩, hle, hclosed, hpending⟩ := h
    refine ⟨⟨passed, hrun, ?_, fun _ => ?_⟩, ?_, fun hno => ?_, hpending⟩
    · rw [reports_concat]
      exact hpassed.trans (List.prefix_append _ _)
    · have hbefore := hall hforwarding
      rw [hreader] at hbefore
      rw [reports_concat, ← hbefore]
      show _ ++ (s.channel ++ [data]) ++ [] = _ ++ s.channel ++ [data] ++ []
      rw [List.append_assoc _ s.channel]
    · rw [List.length_append, List.length_singleton]
      exact hlt
    · rw [hforwarding] at hno
      cases hno
  -- the channel is closed, and the report is lost
  · refine h.read rfl rfl rfl fun hthere => ?_
    rw [hforwarding] at hthere
    cases hthere
  -- the reader signals
  · exact h.read rfl rfl rfl fun _ => by rw [hreader]; rfl
  -- the forwarder takes a report: it is there, as the channel is not empty
  · obtain ⟨⟨passed, hrun, hpassed, hall⟩, hle, hclosed, hpending⟩ := h
    have hforwards := Outgoing.forwards_step houtgoing
    have hthere : s.forwarding = true := by
      by_contra hno
      rw [(hclosed (Bool.eq_false_iff.mpr hno)).2] at hqueue
      cases hqueue
    have hmore : (passed ++ [Outgoing.Action.input data]).flatMap Outgoing.Action.forwarded ++
        channel ++ s.reader.inHand = reports (actions ++ [.forward]) := by
      rw [reports_concat, ← hall hthere, hqueue, List.flatMap_append]
      simp [Outgoing.Action.forwarded, reports, completions]
    refine ⟨⟨passed ++ [Outgoing.Action.input data], ?_, ?_, fun _ => hmore⟩, ?_, fun hno => ?_,
      hforwards.pending hpending⟩
    · rw [run_concat, hrun]
      exact houtgoing
    · rw [← hmore, List.append_assoc]
      exact List.prefix_append _ _
    · rw [hqueue, List.length_cons] at hle
      exact (Nat.le_succ _).trans hle
    · rw [hthere] at hno
      cases hno
  -- the rest of the connection: the forwarder may find the queue closed
  · obtain ⟨⟨passed, hrun, hpassed, hall⟩, hle, hclosed, hpending⟩ := h
    have hforwards := Outgoing.forwards_step houtgoing
    have hrun' : run Outgoing.step s₀ (passed ++ [b]) = some outgoing := by
      rw [run_concat, hrun]
      exact houtgoing
    have hsame : (passed ++ [b]).flatMap Outgoing.Action.forwarded =
        passed.flatMap Outgoing.Action.forwarded := Outgoing.flatMap_concat_nil hb
    have hreports : reports (actions ++ [.outgoing b]) = reports actions := by
      rw [reports_concat]
      exact List.append_nil _
    rw [← hsame] at hpassed hall
    obtain rfl | ⟨hnot, rfl⟩ := hcases
    · refine ⟨⟨passed ++ [b], hrun', ?_, ?_⟩, hle,
        fun hno => ⟨hforwards.closed (hclosed hno).1, (hclosed hno).2⟩,
        hforwards.pending hpending⟩
      · rw [hreports]
        exact hpassed
      · rw [hreports]
        exact hall
    · refine ⟨⟨passed ++ [b], hrun', ?_, nofun⟩, Nat.zero_le _,
        fun _ => ⟨hforwards.closed hnot, rfl⟩, hforwards.pending hpending⟩
      rw [hreports]
      exact hpassed

theorem carries_start {endpoint : Endpoint} {opens : Bool} (h : start endpoint opens = .ok s) :
    ∃ s₀, Outgoing.start endpoint = .ok s₀ ∧ Carries s₀ [] s ∧ s.signals = 0 ∧
      s.reader ≠ .signalling := by
  have hidle : ∀ p : Prop, [Decidable p] →
      (if p then InputReader.polling else .stopped).inHand = [] ∧
        (if p then InputReader.polling else .stopped) ≠ .signalling := by
    intro p _
    split <;> exact ⟨rfl, nofun⟩
  cases endpoint with
  | primary connectionId handler =>
    rw [start, Outgoing.start_primary] at h
    cases h
    obtain ⟨hhand, hreader⟩ := hidle ((Endpoint.primary connectionId handler).readsInput ∧ opens)
    exact ⟨_, Outgoing.start_primary connectionId handler,
      ⟨⟨[], rfl, List.nil_prefix, fun _ => hhand⟩, Nat.zero_le _, nofun, Nat.zero_le _⟩, rfl,
      hreader⟩
  | secondary device =>
    cases h
    obtain ⟨hhand, hreader⟩ := hidle ((Endpoint.secondary device).readsInput ∧ opens)
    exact ⟨_, rfl,
      ⟨⟨[], rfl, List.nil_prefix, fun _ => hhand⟩, Nat.zero_le _, nofun, Nat.zero_le _⟩, rfl,
      hreader⟩

theorem carries_run {endpoint : Endpoint} {opens : Bool} {start : InputPath}
    (hstart : InputPath.start endpoint opens = .ok start)
    (hrun : run InputPath.step start actions = some s) :
    ∃ s₀, Outgoing.start endpoint = .ok s₀ ∧ Carries s₀ actions s := by
  obtain ⟨s₀, hs₀, hcarries, -⟩ := carries_start hstart
  refine ⟨s₀, hs₀, ?_⟩
  induction actions using List.reverseRecOn generalizing s with
  | nil =>
    cases hrun
    exact hcarries
  | append_singleton actions a ih =>
    obtain ⟨mid, hmid, hlast⟩ := run_concat_eq_some hrun
    exact (ih hmid).step hlast

/-! ### The end of the reader -/

/-- The reader signals once, after the transfer that failed with the device. -/
def Signals (actions : List Action) (s : InputPath) : Prop :=
  (.error .disconnected ∉ completions actions ∧ s.signals = 0 ∧ s.reader ≠ .signalling) ∨
  ∃ before, completions actions = before ++ [.error .disconnected] ∧
    .error .disconnected ∉ before ∧
    (s.reader = .signalling ∧ s.signals = 0 ∨ s.reader = .stopped ∧ s.signals = 1)

/-- A step of another task, or of a reader that does not signal. -/
theorem Signals.keep (h : Signals actions s) {a : Action} (hcompletions : completions [a] = [])
    (hsignals : s'.signals = s.signals)
    (hreader : s'.reader = s.reader ∨
      (s.reader ≠ .signalling ∧ s.reader ≠ .stopped ∧ s'.reader ≠ .signalling)) :
    Signals (actions ++ [a]) s' := by
  rw [Signals, completions_concat, hcompletions, List.append_nil, hsignals]
  obtain hsame | ⟨hnot, hgoes, hnot'⟩ := hreader
  · rw [hsame]
    exact h
  · obtain ⟨hnever, hzero, -⟩ | ⟨before, -, -, ⟨hsignalling, -⟩ | ⟨hstopped, -⟩⟩ := h
    · exact .inl ⟨hnever, hzero, hnot'⟩
    · exact absurd hsignalling hnot
    · exact absurd hstopped hgoes

theorem Signals.step (h : Signals actions s) {a : Action} (hstep : s.step a = some s') :
    Signals (actions ++ [a]) s' := by
  obtain ⟨status, rfl, hreader, rfl⟩ | ⟨rfl, hreader, rfl⟩ |
    ⟨data, rfl, hreader, -, -, rfl⟩ | ⟨data, rfl, hreader, -, rfl⟩ |
    ⟨rfl, hreader, rfl⟩ | ⟨data, channel, outgoing, rfl, -, -, rfl⟩ |
    ⟨b, outgoing, rfl, -, -, rfl | ⟨-, rfl⟩⟩ := step_cases hstep
  -- a transfer is completed: the reader has not been told before that the device is gone
  · obtain ⟨hnever, hzero, -⟩ | ⟨before, -, -, ⟨hsignalling, -⟩ | ⟨hstopped, -⟩⟩ := h
    · have hconcat : completions (actions ++ [.complete status]) =
          completions actions ++ [status] := completions_concat actions _
      have hother : status ≠ .error .disconnected → (s.onComplete status).reader ≠ .signalling →
          Signals (actions ++ [.complete status]) (s.onComplete status) := by
        intro hstatus hnot
        refine .inl ⟨?_, (s.onComplete_same status).2.2.2.trans hzero, hnot⟩
        rw [hconcat, List.mem_append, List.mem_singleton]
        exact fun h => h.elim hnever (fun h => hstatus h.symm)
      match status with
      | .ok data =>
        refine hother nofun ?_
        rw [onComplete]
        split
        · exact nofun
        · rw [hreader]
          exact nofun
      | .error .disconnected =>
        exact .inr ⟨completions actions, hconcat, hnever, .inl ⟨rfl, hzero⟩⟩
      | .error (.other _) => exact hother nofun nofun
    · rw [hreader] at hsignalling
      cases hsignalling
    · rw [hreader] at hstopped
      cases hstopped
  · exact h.keep rfl rfl (.inr (by simp [hreader]))
  · exact h.keep rfl rfl (.inr (by simp [hreader]))
  · exact h.keep rfl rfl (.inr (by simp [hreader]))
  -- the reader signals, and stops
  · obtain ⟨-, -, hnot⟩ | ⟨before, hlast, hnever, ⟨-, hzero⟩ | ⟨hstopped, -⟩⟩ := h
    · exact absurd hreader hnot
    · have hsame : completions (actions ++ [.signal]) = completions actions := by
        rw [completions_concat]
        exact List.append_nil _
      exact .inr ⟨before, hsame.trans hlast, hnever, .inr ⟨rfl, congrArg Nat.succ hzero⟩⟩
    · rw [hreader] at hstopped
      cases hstopped
  · exact h.keep rfl rfl (.inl rfl)
  · exact h.keep rfl rfl (.inl rfl)
  · exact h.keep rfl rfl (.inl rfl)

theorem signals_run {endpoint : Endpoint} {opens : Bool} {start : InputPath}
    (hstart : InputPath.start endpoint opens = .ok start)
    (hrun : run InputPath.step start actions = some s) : Signals actions s := by
  obtain ⟨-, -, -, hzero, hreader⟩ := carries_start hstart
  induction actions using List.reverseRecOn generalizing s with
  | nil =>
    cases hrun
    exact .inl ⟨nofun, hzero, hreader⟩
  | append_singleton actions a ih =>
    obtain ⟨mid, hmid, hlast⟩ := run_concat_eq_some hrun
    exact (ih hmid).step hlast

/-- The reader and the forwarder have nothing more to do. -/
structure Drained (s : InputPath) : Prop where
  flushed : s.outgoing.Flushed
  channel : s.channel = []
  inHand : s.reader.inHand = []

end InputPath

/-- **Input reports arrive in order**: however the tasks take turns, the input frames
among those that a client decodes are those of the first reports of the device, in their
order; until the queue is closed, no more than 130 reports wait for a place in it, and when
nothing is on its way the client has the frames of all of them. The reader signals at most
once that the device is gone, and then no transfer follows. -/
theorem input_reports_in_order (endpoint : Endpoint) (opens : Bool) (start s : InputPath)
    (actions : List InputPath.Action) (hstart : InputPath.start endpoint opens = .ok start)
    (hrun : run InputPath.step start actions = some s) (reads : List (List UInt8))
    (hreads : ∀ r ∈ reads, r ≠ []) (hread : reads.flatten <+: s.outgoing.pipe.written) :
    (∃ sent : List (Producer × SentFrame),
      (receiver.run [] reads).1 = sent.map (·.2.val) ∧
      (sent.filter (·.1 = .input)).map (·.2) <+: (InputPath.reports actions).map SentFrame.input ∧
      (s.Drained → reads.flatten = s.outgoing.pipe.written →
        (sent.filter (·.1 = .input)).map (·.2) = (InputPath.reports actions).map SentFrame.input)) ∧
    (s.outgoing.pipe.isOpen = true →
      (InputPath.reports actions).length ≤ (s.outgoing.pipe.sentBy .input).length + 130) ∧
    s.signals ≤ 1 ∧
    (.error .disconnected ∈ InputPath.completions actions → ∃ before,
      InputPath.completions actions = before ++ [.error .disconnected] ∧
      .error .disconnected ∉ before) := by
  obtain ⟨s₀, hs₀, ⟨passed, hpassed, hpre, hall⟩, hchannel, hclosed, hpending⟩ :=
    InputPath.carries_run hstart hrun
  obtain ⟨-, said, hspoken⟩ := Outgoing.talks_run hs₀ hpassed
  have hframed : s.outgoing.Framed :=
    run_invariant (fun _ _ _ h hstep => h.step hstep) (Outgoing.framed_start hs₀) hpassed
  have hthere : s.outgoing.pipe.isOpen = true → s.forwarding = true := by
    intro hopen
    by_contra hno
    have hnot := (hclosed (Bool.eq_false_iff.mpr hno)).1
    cases hnot.symm.trans hopen
  refine ⟨?_, fun hopen => ?_, ?_⟩
  · obtain ⟨sent, hdecoded, horder, hdone⟩ :=
      hframed.exists_decoded hspoken.built hreads hread
    refine ⟨sent, hdecoded, ?_, fun hdrained hwritten => ?_⟩
    · have hinput := horder .input
      rw [hspoken.input] at hinput
      exact hinput.trans (hpre.map _)
    · have hreports := hall (hthere hdrained.flushed.isOpen)
      rw [hdrained.channel, hdrained.inHand, List.append_nil, List.append_nil] at hreports
      rw [(hdone hdrained.flushed hwritten).2 .input, hspoken.input, hreports]
  -- 128 in the channel, one with the reader and one with the forwarder
  · have hreports := congrArg List.length (hall (hthere hopen))
    have hbuilt := congrArg List.length (hframed.ordered.kept hopen .input)
    have hhand : s.reader.inHand.length ≤ 1 := by
      cases s.reader <;> simp [InputReader.inHand]
    rw [hspoken.built .input, hspoken.input, List.length_map, List.length_map,
      List.length_append] at hbuilt
    rw [List.length_append, List.length_append] at hreports
    rw [inputCapacity] at hchannel
    omega
  · obtain ⟨hnever, hzero, -⟩ | ⟨before, hlast, hnever, ⟨-, hzero⟩ | ⟨-, hone⟩⟩ :=
      InputPath.signals_run hstart hrun
    · exact ⟨by omega, fun hgone => absurd hgone hnever⟩
    · exact ⟨by omega, fun _ => ⟨before, hlast, hnever⟩⟩
    · exact ⟨by omega, fun _ => ⟨before, hlast, hnever⟩⟩

/-- A button is pressed and the deck is unplugged, before the client reads. -/
theorem input_reports_in_order_unplugged :
    ∃ start s, InputPath.start (.secondary ⟨0, vendorIdElgato, 0x0080, "A", none⟩) true =
        .ok start ∧
      run InputPath.step start [.complete (.ok ⟨[0x01, 0x00, 0x0f, 0x00, 0x01], by decide⟩),
        .send, .complete (.ok ⟨[], by decide⟩), .forward, .complete (.error .disconnected),
        .outgoing (.pipe (.send .input)), .signal, .outgoing (.pipe .recv),
        .outgoing (.pipe (.write 21))] = some s ∧ s.outgoing.pipe.written.length = 21 ∧
      s.signals ≤ 1 := by
  let actions : List InputPath.Action :=
    [.complete (.ok ⟨[0x01, 0x00, 0x0f, 0x00, 0x01], by decide⟩), .send,
      .complete (.ok ⟨[], by decide⟩), .forward, .complete (.error .disconnected),
      .outgoing (.pipe (.send .input)), .signal, .outgoing (.pipe .recv),
      .outgoing (.pipe (.write 21))]
  let deck : InputPath :=
    { reader := .polling
      channel := []
      forwarding := true
      signals := 0
      outgoing := ⟨.secondary ⟨0, vendorIdElgato, 0x0080, "A", none⟩, 1, 0,
        Pipe.empty.build .main []⟩ }
  have hcheck : ((run InputPath.step deck actions).map (·.outgoing.pipe.written.length)) =
      some 21 := by
    decide +kernel
  obtain ⟨s, hrun, hwritten⟩ := Option.map_eq_some_iff.mp hcheck
  have hread : [s.outgoing.pipe.written].flatten <+: s.outgoing.pipe.written := by simp
  have hne : ∀ r ∈ [s.outgoing.pipe.written], r ≠ [] := by
    rw [List.forall_mem_singleton]
    exact List.ne_nil_of_length_pos (by omega)
  exact ⟨deck, s, rfl, hrun, hwritten,
    (input_reports_in_order (.secondary ⟨0, vendorIdElgato, 0x0080, "A", none⟩) true deck s
      actions rfl hrun _ hne hread).2.2.1⟩

end OpenNetDeck
