import OpenNetDeck.Server.Timeout

/-!
# Probes and silent clients

The loop of a connection with any client, one that falls silent included: the clock, the
probes of its ticks, and when it gives a client up. A probe may have to wait for a place in
the outgoing queue, for however long.

## Main definitions

- `KeepaliveLoop.step` — the steps of the loop, its client and the clock
- `KeepaliveLoop.Paced` — what the clock has to do with the probes

## Main results

- `KeepaliveLoop.exists_run` — an active client is one of the clients
- `keepalive_cadence` — a probe for each interval, and an end between 5 and 7.5 seconds
  after the last read, or when its frames have been handled or a probe has its place
-/

namespace OpenNetDeck

open Transition

/-- The loop with the id of its last message and those of the probes of its ticks. -/
structure KeepaliveLoop where
  timing : ActiveClient
  messageSeq : UInt32
  probes : List UInt32

namespace KeepaliveLoop

def start : KeepaliveLoop where
  timing := .start
  messageSeq := 1
  probes := []

/-- Time passes while a frame is handled or a probe waits, and while no branch is ready. -/
def onWait (self : KeepaliveLoop) (d : ℕ) : Option KeepaliveLoop :=
  match self.timing.loop with
  | .selecting =>
    if self.timing.unread = [] ∧ self.timing.now + d ≤ self.timing.nextTick then
      some { self with timing := { self.timing with now := self.timing.now + d } }
    else none
  | .handling (_ :: _) =>
    some { self with timing := { self.timing with
      now := self.timing.now + d
      busy := self.timing.busy + d } }
  | .sending =>
    some { self with timing := { self.timing with
      now := self.timing.now + d
      blocked := self.timing.blocked + d } }
  | _ => none

/-- A tick that does not end the loop hands a probe to the queue. -/
def onTick (self : KeepaliveLoop) : Option KeepaliveLoop :=
  self.timing.onTick.map fun timing =>
    if timing.loop = .timedOut then { self with timing }
    else
      { timing
        messageSeq := self.messageSeq + 1
        probes := self.probes ++ [self.messageSeq + 1] }

def step (self : KeepaliveLoop) : ActiveClient.Action → Option KeepaliveLoop
  | .wait d => self.onWait d
  | .tick => self.onTick
  | a => (self.timing.step a).map fun timing => { self with timing }

/-- The steps of an active client are steps of the loop. -/
theorem exists_step {k : KeepaliveLoop} {a : ActiveClient.Action} {c : ActiveClient}
    (h : k.timing.step a = some c) : ∃ k', k.step a = some k' ∧ k'.timing = c := by
  cases a with
  | wait d =>
    obtain ⟨-, ⟨hloop, hunread, hidle, rfl⟩ | ⟨frame, frames, hloop, rfl⟩ | ⟨hloop, rfl⟩⟩ :=
      ActiveClient.onWait_cases h
    · exact ⟨{ k with timing := _ }, by simp [step, onWait, hloop, hunread, hidle], rfl⟩
    · exact ⟨{ k with timing := _ }, by simp [step, onWait, hloop], rfl⟩
    · exact ⟨{ k with timing := _ }, by simp [step, onWait, hloop], rfl⟩
  | tick =>
    have htick : k.timing.onTick = some c := h
    rw [step, onTick, htick]
    refine ⟨_, rfl, ?_⟩
    dsimp only
    split <;> rfl
  | _ => exact ⟨_, congrArg (Option.map _) h, rfl⟩

/-- A run with an active client is a run of the loop. -/
theorem exists_run {actions : List ActiveClient.Action} {c : ActiveClient}
    (hrun : run ActiveClient.step .start actions = some c) :
    ∃ k, run step start actions = some k ∧ k.timing = c := by
  induction actions using List.reverseRecOn generalizing c with
  | nil => exact ⟨start, rfl, Option.some.inj hrun⟩
  | append_singleton actions a ih =>
    obtain ⟨mid, hmid, hlast⟩ := run_concat_eq_some hrun
    obtain ⟨k, hk, rfl⟩ := ih hmid
    obtain ⟨k', hk', hc⟩ := exists_step hlast
    refine ⟨k', ?_, hc⟩
    rw [run_concat, hk]
    exact hk'

/-- How long the loop can be without a read before it ends. -/
def silenceMs : ℕ := timeoutDurationMs + keepaliveIntervalMs

/-- How long after the last read the loop can be in `select!` or end: the next tick comes,
unless the frames of the read take longer, or a probe waits. -/
def reachMs (timing : ActiveClient) : ℕ :=
  max (max timing.busy silenceMs) (timeoutDurationMs + timing.blocked)

/-- What every step keeps: the probes are numbered, there is one for each interval that is
over, and no tick is due long after the last read. -/
structure Paced (s : KeepaliveLoop) : Prop where
  sent : s.probes = (List.range s.probes.length).map fun i => UInt32.ofNat (i + 2)
  seq : s.messageSeq = UInt32.ofNat (s.probes.length + 1)
  next : s.timing.nextTick = keepaliveIntervalMs * (s.probes.length + 1)
  past : keepaliveIntervalMs * s.probes.length ≤ s.timing.now
  received : s.timing.lastReceived ≤ s.timing.now
  tick : s.timing.nextTick ≤ s.timing.lastReceived + silenceMs
  handling : ∀ frames, s.timing.loop = .handling frames →
    s.timing.now = s.timing.lastReceived + s.timing.busy
  sending : s.timing.loop = .sending →
    s.timing.now ≤ s.timing.lastReceived + (timeoutDurationMs + s.timing.blocked)
  late : s.timing.loop = .selecting ∨ s.timing.loop = .timedOut →
    s.timing.now ≤ s.timing.lastReceived + reachMs s.timing
  timedOut : s.timing.loop = .timedOut →
    timeoutDurationMs < s.timing.now - s.timing.lastReceived

theorem paced_start : start.Paced where
  sent := rfl
  seq := rfl
  next := rfl
  past := Nat.zero_le _
  received := le_rfl
  tick := by decide
  handling := nofun
  sending := nofun
  late := fun _ => Nat.zero_le _
  timedOut := nofun

variable {s s' : KeepaliveLoop}

/-- What waiting can do, for any client. -/
theorem onWait_cases {d : ℕ} (hstep : s.onWait d = some s') :
    s.timing.loop = .selecting ∧ s.timing.now + d ≤ s.timing.nextTick ∧
        s' = { s with timing := { s.timing with now := s.timing.now + d } } ∨
      (∃ frame frames, s.timing.loop = .handling (frame :: frames) ∧
        s' = { s with timing := { s.timing with
          now := s.timing.now + d
          busy := s.timing.busy + d } }) ∨
      s.timing.loop = .sending ∧
        s' = { s with timing := { s.timing with
          now := s.timing.now + d
          blocked := s.timing.blocked + d } } := by
  rw [onWait] at hstep
  split at hstep
  · next hloop =>
    obtain ⟨⟨-, hidle⟩, hstep⟩ := Option.ite_none_right_eq_some.mp hstep
    cases hstep
    exact .inl ⟨hloop, hidle, rfl⟩
  · next frame frames hloop =>
    cases hstep
    exact .inr (.inl ⟨frame, frames, hloop, rfl⟩)
  · next hloop =>
    cases hstep
    exact .inr (.inr ⟨hloop, rfl⟩)
  · cases hstep

theorem Paced.onWait (h : s.Paced) {d : ℕ} (hstep : s.onWait d = some s') : s'.Paced := by
  have hpast : keepaliveIntervalMs * s.probes.length ≤ s.timing.now + d :=
    h.past.trans (Nat.le_add_right _ d)
  have hreceived : s.timing.lastReceived ≤ s.timing.now + d :=
    h.received.trans (Nat.le_add_right _ d)
  have htick := h.tick
  obtain ⟨hloop, hidle, rfl⟩ | ⟨frame, frames, hloop, rfl⟩ | ⟨hloop, rfl⟩ := onWait_cases hstep
  · refine ⟨h.sent, h.seq, h.next, hpast, hreceived, htick, ?_, ?_, fun _ => ?_, ?_⟩
    · intro frames hframes
      cases hloop.symm.trans hframes
    · intro hsending
      cases hloop.symm.trans hsending
    -- the loop waits for its next tick, and no longer
    · show s.timing.now + d ≤
        s.timing.lastReceived + max (max s.timing.busy silenceMs) (timeoutDurationMs + _)
      omega
    · intro htimedOut
      cases hloop.symm.trans htimedOut
  · have hnow := h.handling _ hloop
    refine ⟨h.sent, h.seq, h.next, hpast, hreceived, htick, fun _ _ => ?_, ?_, ?_, ?_⟩
    · show s.timing.now + d = s.timing.lastReceived + (s.timing.busy + d)
      omega
    · intro hsending
      cases hloop.symm.trans hsending
    · rintro (hselecting | htimedOut)
      · cases hloop.symm.trans hselecting
      · cases hloop.symm.trans htimedOut
    · intro htimedOut
      cases hloop.symm.trans htimedOut
  · have hnow := h.sending hloop
    refine ⟨h.sent, h.seq, h.next, hpast, hreceived, htick, ?_, fun _ => ?_, ?_, ?_⟩
    · intro frames hframes
      cases hloop.symm.trans hframes
    · show s.timing.now + d ≤
        s.timing.lastReceived + (timeoutDurationMs + (s.timing.blocked + d))
      omega
    · rintro (hselecting | htimedOut)
      · cases hloop.symm.trans hselecting
      · cases hloop.symm.trans htimedOut
    · intro htimedOut
      cases hloop.symm.trans htimedOut

/-- What a tick can do: it ends the loop or hands over a probe. -/
theorem onTick_cases (hstep : s.onTick = some s') :
    s.timing.loop = .selecting ∧ s.timing.nextTick ≤ s.timing.now ∧
      (timeoutDurationMs < s.timing.now - s.timing.lastReceived ∧
          s' = { s with timing := { s.timing with loop := .timedOut } } ∨
        s.timing.now - s.timing.lastReceived ≤ timeoutDurationMs ∧
          s' =
            { timing := { s.timing with
                nextTick := s.timing.nextTick + keepaliveIntervalMs
                blocked := 0
                loop := .sending }
              messageSeq := s.messageSeq + 1
              probes := s.probes ++ [s.messageSeq + 1] }) := by
  obtain ⟨timing, htiming, rfl⟩ := Option.map_eq_some_iff.mp hstep
  obtain ⟨hloop, hdue, ⟨hlate, rfl⟩ | ⟨hintime, rfl⟩⟩ := ActiveClient.onTick_cases htiming
  · exact ⟨hloop, hdue, .inl ⟨hlate, if_pos rfl⟩⟩
  · exact ⟨hloop, hdue, .inr ⟨hintime, if_neg nofun⟩⟩

theorem Paced.onTick (h : s.Paced) (hstep : s.onTick = some s') : s'.Paced := by
  have hreceived := h.received
  have hnext := h.next
  obtain ⟨hloop, hdue, ⟨hlate, rfl⟩ | ⟨hintime, rfl⟩⟩ := onTick_cases hstep
  · exact ⟨h.sent, h.seq, h.next, h.past, h.received, h.tick, nofun, nofun,
      fun _ => h.late (.inl hloop), fun _ => hlate⟩
  · have hlen : (s.probes ++ [s.messageSeq + 1]).length = s.probes.length + 1 := by simp
    have hseq : s.messageSeq + 1 = UInt32.ofNat (s.probes.length + 2) := by
      rw [h.seq]
      exact (UInt32.ofNat_add _ 1).symm
    refine ⟨?_, ?_, ?_, ?_, h.received, ?_, nofun, fun _ => ?_, ?_, nofun⟩
    · rw [hlen, List.range_succ, List.map_append, ← h.sent, hseq]
      rfl
    · rw [hlen]
      exact hseq
    · rw [hlen, Nat.mul_succ, ← hnext]
    · show keepaliveIntervalMs * _ ≤ s.timing.now
      rw [hlen, ← hnext]
      exact hdue
    -- the last read is at most 5 s ago, and the next tick is due 2.5 s later
    · show s.timing.nextTick + keepaliveIntervalMs ≤ s.timing.lastReceived + silenceMs
      rw [silenceMs]
      omega
    · show s.timing.now ≤ s.timing.lastReceived + (timeoutDurationMs + 0)
      omega
    · rintro (hselecting | htimedOut)
      · cases hselecting
      · cases htimedOut

/-- The other steps leave the clock and the ticks alone, but for a read. -/
theorem Paced.onClient (h : s.Paced) {a : ActiveClient.Action} {timing : ActiveClient}
    (ha : ∀ d, a ≠ .wait d) (htick : a ≠ .tick) (hstep : s.timing.step a = some timing) :
    Paced { s with timing } := by
  have hnone : ∀ {P : Prop} {loop : SelectLoop}, loop ≠ .selecting → loop ≠ .timedOut →
      loop = .selecting ∨ loop = .timedOut → P :=
    fun h h' hloop => (hloop.elim h h').elim
  cases a with
  | arrive bytes =>
    obtain ⟨-, hstep⟩ := Option.ite_none_right_eq_some.mp hstep
    cases hstep
    exact ⟨h.sent, h.seq, h.next, h.past, h.received, h.tick, h.handling, h.sending, h.late,
      h.timedOut⟩
  | wait d => exact absurd rfl (ha d)
  | tick => exact absurd rfl htick
  | read n =>
    cases ActiveClient.onRead_eq hstep
    -- a read is the last one, and nothing has kept the loop busy since
    exact ⟨h.sent, h.seq, h.next, h.past, le_rfl,
      h.tick.trans (Nat.add_le_add_right h.received _), fun _ _ => rfl, nofun, hnone nofun nofun,
      nofun⟩
  | handled =>
    obtain ⟨frame, frames, hloop, rfl⟩ := ActiveClient.step_handled hstep
    exact ⟨h.sent, h.seq, h.next, h.past, h.received, h.tick, fun _ _ => h.handling _ hloop,
      nofun, hnone nofun nofun, nofun⟩
  | resume =>
    obtain ⟨hloop, rfl⟩ := ActiveClient.step_resume hstep
    have hnow := h.handling _ hloop
    refine ⟨h.sent, h.seq, h.next, h.past, h.received, h.tick, nofun, nofun, fun _ => ?_, nofun⟩
    show s.timing.now ≤ s.timing.lastReceived + max (max s.timing.busy silenceMs) (_ + _)
    omega
  | sent =>
    obtain ⟨hloop, rfl⟩ := ActiveClient.step_sent hstep
    have hnow := h.sending hloop
    refine ⟨h.sent, h.seq, h.next, h.past, h.received, h.tick, nofun, nofun, fun _ => ?_, nofun⟩
    show s.timing.now ≤
      s.timing.lastReceived + max _ (timeoutDurationMs + s.timing.blocked)
    omega
  | disconnect =>
    cases ActiveClient.step_disconnect hstep
    exact ⟨h.sent, h.seq, h.next, h.past, h.received, h.tick, nofun, nofun, hnone nofun nofun,
      nofun⟩

/-- A step is a wait, a tick or a step of the client and the handler. -/
theorem step_cases {a : ActiveClient.Action} (h : s.step a = some s') :
    (∃ d, a = .wait d ∧ s.onWait d = some s') ∨ (a = .tick ∧ s.onTick = some s') ∨
      (∀ d, a ≠ .wait d) ∧ a ≠ .tick ∧
        ∃ timing, s.timing.step a = some timing ∧ s' = { s with timing } := by
  cases a with
  | wait d => exact .inl ⟨d, rfl, h⟩
  | tick => exact .inr (.inl ⟨rfl, h⟩)
  | _ =>
    obtain ⟨timing, htiming, rfl⟩ := Option.map_eq_some_iff.mp h
    exact .inr (.inr ⟨by simp, by simp, timing, htiming, rfl⟩)

theorem Paced.step (h : s.Paced) {a : ActiveClient.Action} (hstep : s.step a = some s') :
    s'.Paced := by
  obtain ⟨d, -, hwait⟩ | ⟨-, htick⟩ | ⟨ha, htick, timing, htiming, rfl⟩ := step_cases hstep
  · exact h.onWait hwait
  · exact h.onTick htick
  · exact h.onClient ha htick htiming

end KeepaliveLoop

open KeepaliveLoop

/-- **The cadence of the probes**: whatever the client sends, however long its frames take
and however long a probe waits for a place in the queue, the probes that the ticks hand over
are numbered from 2 on, and there is exactly one for each interval that is over when no tick
is due. The loop ends no sooner than 5 seconds after its last read. It is in `select!`, or
ends, no later than 7.5 seconds after that read, or the time that the frames of the read
take, or 5 seconds and the time that the last probe since then has waited. -/
theorem keepalive_cadence (actions : List ActiveClient.Action) (s : KeepaliveLoop)
    (hrun : run KeepaliveLoop.step .start actions = some s) :
    s.probes = (List.range s.probes.length).map (fun i => UInt32.ofNat (i + 2)) ∧
    (s.timing.now < s.timing.nextTick →
      s.probes.length = s.timing.now / keepaliveIntervalMs) ∧
    (s.timing.loop = .timedOut →
      timeoutDurationMs < s.timing.now - s.timing.lastReceived) ∧
    (s.timing.loop = .selecting ∨ s.timing.loop = .timedOut →
      s.timing.now ≤ s.timing.lastReceived +
        max (max s.timing.busy silenceMs) (timeoutDurationMs + s.timing.blocked)) := by
  have h : s.Paced := run_invariant (fun _ _ _ h hstep => h.step hstep) paced_start hrun
  refine ⟨h.sent, fun hcaught => ?_, h.timedOut, h.late⟩
  have hnext := h.next
  have hpast := h.past
  rw [hnext] at hcaught
  rw [Nat.mul_comm] at hcaught hpast
  exact (Nat.div_eq_of_lt_le hpast hcaught).symm

/-- A client that is silent from the start is given up at its third tick; its first probe
waits for half a second. -/
theorem keepalive_cadence_silent :
    ∃ s, run KeepaliveLoop.step .start
        [.wait 2500, .tick, .wait 500, .sent, .wait 2000, .tick, .sent, .wait 2500, .tick] =
          some s ∧
      s.timing.loop = .timedOut ∧ s.probes = [2, 3] ∧
      timeoutDurationMs < s.timing.now - s.timing.lastReceived := by
  have hcheck : (run KeepaliveLoop.step .start
      [.wait 2500, .tick, .wait 500, .sent, .wait 2000, .tick, .sent, .wait 2500, .tick]).map
        (fun s => (s.timing.loop, s.probes)) = some (.timedOut, [2, 3]) := by
    decide +kernel
  obtain ⟨s, hrun, hs⟩ := Option.map_eq_some_iff.mp hcheck
  obtain ⟨hloop, hprobes⟩ := Prod.mk.inj hs
  exact ⟨s, hrun, hloop, hprobes, (keepalive_cadence _ s hrun).2.2.1 hloop⟩

end OpenNetDeck
