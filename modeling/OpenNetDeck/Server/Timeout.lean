import OpenNetDeck.Lib.Transition
import OpenNetDeck.Server.ReceiveLoop

/-!
# The timeout of a connection

The `select!` of `PrimaryConnection::run` and `SecondaryConnection::run` with its two
branches, the keepalive tick and the read, and a clock in milliseconds. The frames of
a read are handled in the read branch, and the probe of a tick is handed to the outgoing
queue in the tick branch, where it waits for a place while the queue is full. Neither
branch is looked at until that is done; bytes that arrive meanwhile stay unread. The client
is active: it never lets more than the timeout pass without sending something.

## Main definitions

- `ActiveClient.step` — a branch of `select!`, the handling of a frame, a probe that
  enters the queue, the client or the clock
- `ActiveClient.Prompt` — a return to `select!` that comes in time
- `ActiveClient.Timely` — what the clock readings of the loop have to do with each
  other

## Main results

- `active_client_kept_iff` — no tick times out exactly if the frames of no read take
  longer than the timeout and no probe waits past it and the next tick
-/

namespace OpenNetDeck

open Transition

/-- Time without data after which a client is dropped, in milliseconds. -/
def timeoutDurationMs : ℕ := 5000

/-- Interval of the keepalive probes, in milliseconds. -/
def keepaliveIntervalMs : ℕ := 2500

/-- Size of `raw_read_chunk`. -/
def rawReadChunkLen : ℕ := 16384

/-- Where the loop stands. -/
inductive SelectLoop where
  | selecting
  | handling (frames : List CoraFrame)
  | sending
  | timedOut
  | closed
  deriving DecidableEq

/-- The loop and its client: the clock, what the client sent and when, how long the
frames of the last read have taken so far, and how long the last probe since then has
waited for a place in the queue. -/
structure ActiveClient where
  now : ℕ
  lastArrival : ℕ
  unread : List UInt8
  readBuf : List UInt8
  lastReceived : ℕ
  nextTick : ℕ
  busy : ℕ
  blocked : ℕ
  loop : SelectLoop

namespace ActiveClient

/-- The loop is entered; the first tick of the interval has passed. -/
def start : ActiveClient where
  now := 0
  lastArrival := 0
  unread := []
  readBuf := []
  lastReceived := 0
  nextTick := keepaliveIntervalMs
  busy := 0
  blocked := 0
  loop := .selecting

inductive Action where
  | arrive (bytes : List UInt8)
  | wait (d : ℕ)
  | tick
  | read (n : ℕ)
  | handled
  | resume
  | sent
  | disconnect

/-- Time passes while a frame is handled or a probe waits, for whatever time that takes,
and while no branch is ready. -/
def onWait (self : ActiveClient) (d : ℕ) : Option ActiveClient :=
  if self.now + d ≤ self.lastArrival + timeoutDurationMs then
    match self.loop with
    | .selecting =>
      if self.unread = [] ∧ self.now + d ≤ self.nextTick then
        some { self with now := self.now + d }
      else none
    | .handling (_ :: _) => some { self with now := self.now + d, busy := self.busy + d }
    | .sending => some { self with now := self.now + d, blocked := self.blocked + d }
    | _ => none
  else none

/-- The tick branch, up to the probe that it hands over. A tick that was missed is made
up for. -/
def onTick (self : ActiveClient) : Option ActiveClient :=
  match self.loop with
  | .selecting =>
    if self.nextTick ≤ self.now then
      if self.now - self.lastReceived > timeoutDurationMs then some { self with loop := .timedOut }
      else
        some { self with
          nextTick := self.nextTick + keepaliveIntervalMs
          blocked := 0
          loop := .sending }
    else none
  | _ => none

/-- The read branch, up to the frames that it hands over. -/
def onRead (self : ActiveClient) (n : ℕ) : Option ActiveClient :=
  match self.loop with
  | .selecting =>
    if 0 < n ∧ n ≤ rawReadChunkLen ∧ n ≤ self.unread.length then
      let drained := receiver.drain (self.readBuf ++ self.unread.take n)
      some { self with
        unread := self.unread.drop n
        readBuf := drained.2
        lastReceived := self.now
        busy := 0
        blocked := 0
        loop := .handling drained.1 }
    else none
  | _ => none

def step (self : ActiveClient) : Action → Option ActiveClient
  | .arrive bytes =>
    if bytes ≠ [] then
      some { self with unread := self.unread ++ bytes, lastArrival := self.now }
    else none
  | .wait d => self.onWait d
  | .tick => self.onTick
  | .read n => self.onRead n
  | .handled =>
    match self.loop with
    | .handling (_ :: frames) => some { self with loop := .handling frames }
    | _ => none
  | .resume =>
    match self.loop with
    | .handling [] => some { self with loop := .selecting }
    | _ => none
  | .sent =>
    match self.loop with
    | .sending => some { self with loop := .selecting }
    | _ => none
  | .disconnect =>
    match self.loop with
    | .selecting => some { self with loop := .closed }
    -- the writer task is gone, and the send fails
    | .sending => some { self with loop := .closed }
    | _ => none

/-- A return to `select!` in time: the frames of a read have taken no longer than the
timeout, and a probe has waited no longer than that after the last read, or the next tick
is not due yet. -/
def Prompt (self : ActiveClient) : Action → Prop
  | .resume => self.busy ≤ timeoutDurationMs
  | .sent => self.now ≤ self.lastReceived + timeoutDurationMs ∨ self.now < self.nextTick
  | _ => True

variable {s s' : ActiveClient}

/-- What every step keeps. -/
structure Timely (s : ActiveClient) : Prop where
  arrival : s.lastArrival ≤ s.now
  active : s.now ≤ s.lastArrival + timeoutDurationMs
  drained : s.unread = [] → s.lastArrival ≤ s.lastReceived
  handling : ∀ frames, s.loop = .handling frames → s.now = s.lastReceived + s.busy
  tick : s.nextTick ≤ s.now + keepaliveIntervalMs
  late : ∀ frames, s.loop = .handling frames → s.nextTick ≤ s.lastReceived + keepaliveIntervalMs

theorem timely_start : start.Timely where
  arrival := le_rfl
  active := Nat.zero_le _
  drained := fun _ => le_rfl
  handling := nofun
  tick := le_rfl
  late := nofun

/-- What waiting can do: the loop has nothing to do, handles a frame or hands over a
probe. -/
theorem onWait_cases {d : ℕ} (hstep : s.onWait d = some s') :
    s.now + d ≤ s.lastArrival + timeoutDurationMs ∧
      (s.loop = .selecting ∧ s.unread = [] ∧ s.now + d ≤ s.nextTick ∧
          s' = { s with now := s.now + d } ∨
        (∃ frame frames, s.loop = .handling (frame :: frames) ∧
          s' = { s with now := s.now + d, busy := s.busy + d }) ∨
        s.loop = .sending ∧ s' = { s with now := s.now + d, blocked := s.blocked + d }) := by
  obtain ⟨hactive, hstep⟩ := Option.ite_none_right_eq_some.mp hstep
  refine ⟨hactive, ?_⟩
  split at hstep
  · next hloop =>
    obtain ⟨⟨hunread, hidle⟩, hstep⟩ := Option.ite_none_right_eq_some.mp hstep
    cases hstep
    exact .inl ⟨hloop, hunread, hidle, rfl⟩
  · next frame frames hloop =>
    cases hstep
    exact .inr (.inl ⟨frame, frames, hloop, rfl⟩)
  · next hloop =>
    cases hstep
    exact .inr (.inr ⟨hloop, rfl⟩)
  · cases hstep

/-- What a tick can do: it ends the loop, or hands over a probe and is followed by the next
one. -/
theorem onTick_cases (hstep : s.onTick = some s') :
    s.loop = .selecting ∧ s.nextTick ≤ s.now ∧
      (timeoutDurationMs < s.now - s.lastReceived ∧ s' = { s with loop := .timedOut } ∨
        s.now - s.lastReceived ≤ timeoutDurationMs ∧
          s' = { s with
            nextTick := s.nextTick + keepaliveIntervalMs
            blocked := 0
            loop := .sending }) := by
  rw [onTick] at hstep
  split at hstep
  · next hloop =>
    obtain ⟨hdue, hstep⟩ := Option.ite_none_right_eq_some.mp hstep
    refine ⟨hloop, hdue, ?_⟩
    split at hstep
    · next hlate =>
      cases hstep
      exact .inl ⟨hlate, rfl⟩
    · next hintime =>
      cases hstep
      exact .inr ⟨Nat.le_of_not_lt hintime, rfl⟩
  · cases hstep

/-- A read hands over the frames that are complete. -/
theorem onRead_eq {n : ℕ} (hstep : s.onRead n = some s') :
    s' = { s with
      unread := s.unread.drop n
      readBuf := (receiver.drain (s.readBuf ++ s.unread.take n)).2
      lastReceived := s.now
      busy := 0
      blocked := 0
      loop := .handling (receiver.drain (s.readBuf ++ s.unread.take n)).1 } := by
  rw [onRead] at hstep
  split at hstep
  · obtain ⟨-, hstep⟩ := Option.ite_none_right_eq_some.mp hstep
    exact (Option.some.inj hstep).symm
  · cases hstep

theorem step_handled (hstep : s.step .handled = some s') :
    ∃ frame frames, s.loop = .handling (frame :: frames) ∧
      s' = { s with loop := .handling frames } := by
  rw [ActiveClient.step] at hstep
  split at hstep
  · next frame frames hloop =>
    cases hstep
    exact ⟨frame, frames, hloop, rfl⟩
  · cases hstep

theorem step_resume (hstep : s.step .resume = some s') :
    s.loop = .handling [] ∧ s' = { s with loop := .selecting } := by
  rw [ActiveClient.step] at hstep
  split at hstep
  · next hloop =>
    cases hstep
    exact ⟨hloop, rfl⟩
  · cases hstep

theorem step_sent (hstep : s.step .sent = some s') :
    s.loop = .sending ∧ s' = { s with loop := .selecting } := by
  rw [ActiveClient.step] at hstep
  split at hstep
  · next hloop =>
    cases hstep
    exact ⟨hloop, rfl⟩
  · cases hstep

theorem step_disconnect (hstep : s.step .disconnect = some s') :
    s' = { s with loop := .closed } := by
  rw [ActiveClient.step] at hstep
  split at hstep
  · exact (Option.some.inj hstep).symm
  · exact (Option.some.inj hstep).symm
  · cases hstep

theorem Timely.onWait (h : s.Timely) {d : ℕ} (hstep : s.onWait d = some s') : s'.Timely := by
  have harrival : s.lastArrival ≤ s.now + d := h.arrival.trans (Nat.le_add_right _ d)
  have htick : s.nextTick ≤ s.now + d + keepaliveIntervalMs := by
    have := h.tick
    omega
  obtain ⟨hactive, ⟨hloop, -, -, rfl⟩ | ⟨frame, frames, hloop, rfl⟩ | ⟨hloop, rfl⟩⟩ :=
    onWait_cases hstep
  · refine ⟨harrival, hactive, h.drained, ?_, htick, h.late⟩
    intro frames hframes
    cases hloop.symm.trans hframes
  · refine ⟨harrival, hactive, h.drained, fun _ _ => ?_, htick, h.late⟩
    have hnow := h.handling _ hloop
    show s.now + d = s.lastReceived + (s.busy + d)
    omega
  · refine ⟨harrival, hactive, h.drained, ?_, htick, h.late⟩
    intro frames hframes
    cases hloop.symm.trans hframes

theorem Timely.onTick (h : s.Timely) (hstep : s.onTick = some s') : s'.Timely := by
  obtain ⟨-, hdue, ⟨-, rfl⟩ | ⟨-, rfl⟩⟩ := onTick_cases hstep
  · exact ⟨h.arrival, h.active, h.drained, nofun, h.tick, nofun⟩
  · exact ⟨h.arrival, h.active, h.drained, nofun, Nat.add_le_add_right hdue _, nofun⟩

theorem Timely.step (h : s.Timely) {a : Action} (hstep : s.step a = some s') : s'.Timely := by
  cases a with
  | arrive bytes =>
    obtain ⟨hbytes, hstep⟩ := Option.ite_none_right_eq_some.mp hstep
    cases hstep
    refine ⟨le_rfl, Nat.le_add_right _ _, ?_, h.handling, h.tick, h.late⟩
    intro hunread
    exact absurd (List.append_eq_nil_iff.mp hunread).2 hbytes
  | wait d => exact h.onWait hstep
  | tick => exact h.onTick hstep
  | read n =>
    cases onRead_eq hstep
    exact ⟨h.arrival, h.active, fun _ => h.arrival, fun _ _ => rfl, h.tick, fun _ _ => h.tick⟩
  | handled =>
    obtain ⟨frame, frames, hloop, rfl⟩ := step_handled hstep
    exact ⟨h.arrival, h.active, h.drained, fun _ _ => h.handling _ hloop, h.tick,
      fun _ _ => h.late _ hloop⟩
  | resume =>
    obtain ⟨-, rfl⟩ := step_resume hstep
    exact ⟨h.arrival, h.active, h.drained, nofun, h.tick, nofun⟩
  | sent =>
    obtain ⟨-, rfl⟩ := step_sent hstep
    exact ⟨h.arrival, h.active, h.drained, nofun, h.tick, nofun⟩
  | disconnect =>
    cases step_disconnect hstep
    exact ⟨h.arrival, h.active, h.drained, nofun, h.tick, nofun⟩

theorem timely_run {actions : List Action} (hrun : run ActiveClient.step start actions = some s) :
    s.Timely :=
  run_invariant (fun _ _ _ h hstep => h.step hstep) timely_start hrun

/-- No tick that is due comes late. -/
def InTime (s : ActiveClient) : Prop :=
  s.loop = .selecting → s.now ≤ s.lastReceived + timeoutDurationMs ∨ s.now < s.nextTick

/-- While the loop has nothing to do, all that arrived has been read; so only its returns to
`select!` can be late. -/
theorem InTime.step (h : s.InTime) (htimely : s.Timely) {a : Action}
    (hstep : s.step a = some s') (hprompt : s'.Prompt a) : s'.InTime := by
  cases a with
  | arrive bytes =>
    obtain ⟨-, hstep⟩ := Option.ite_none_right_eq_some.mp hstep
    cases hstep
    exact h
  | wait d =>
    obtain ⟨hactive, ⟨hloop, hunread, -, rfl⟩ | ⟨frame, frames, hloop, rfl⟩ | ⟨hloop, rfl⟩⟩ :=
      onWait_cases hstep
    · have hdrained := htimely.drained hunread
      intro _
      left
      show s.now + d ≤ s.lastReceived + timeoutDurationMs
      omega
    · intro hselecting
      cases hloop.symm.trans hselecting
    · intro hselecting
      cases hloop.symm.trans hselecting
  | tick =>
    obtain ⟨-, -, ⟨-, rfl⟩ | ⟨-, rfl⟩⟩ := onTick_cases hstep
    · exact nofun
    · exact nofun
  | read n =>
    cases onRead_eq hstep
    exact nofun
  | handled =>
    obtain ⟨frame, frames, -, rfl⟩ := step_handled hstep
    exact nofun
  | resume =>
    obtain ⟨hloop, rfl⟩ := step_resume hstep
    have hnow := htimely.handling _ hloop
    have hbusy : s.busy ≤ timeoutDurationMs := hprompt
    intro _
    left
    show s.now ≤ s.lastReceived + timeoutDurationMs
    omega
  | sent =>
    obtain ⟨-, rfl⟩ := step_sent hstep
    exact fun _ => hprompt
  | disconnect =>
    cases step_disconnect hstep
    exact nofun

theorem InTime.tick (h : s.InTime) (hstep : s.onTick = some s') : s'.loop ≠ .timedOut := by
  obtain ⟨hloop, hdue, ⟨hlate, -⟩ | ⟨-, rfl⟩⟩ := onTick_cases hstep
  · obtain hnow | hnow := h hloop
    · omega
    · omega
  · exact nofun

/-- After a late return the next tick is due and times out. -/
theorem Timely.tick_of_late (h : s.Timely) {a : Action} (hstep : s.step a = some s')
    (hlate : ¬ s'.Prompt a) : s'.onTick = some { s' with loop := .timedOut } := by
  have hout : s'.loop = .selecting → s'.nextTick ≤ s'.now →
      timeoutDurationMs < s'.now - s'.lastReceived →
      s'.onTick = some { s' with loop := .timedOut } := by
    intro hloop hdue helapsed
    rw [ActiveClient.onTick, hloop]
    show (if s'.nextTick ≤ s'.now then _ else _) = _
    rw [if_pos hdue, if_pos helapsed]
  cases a with
  | resume =>
    obtain ⟨hloop, rfl⟩ := step_resume hstep
    have hnow := h.handling _ hloop
    have htick := h.late _ hloop
    have hbusy : timeoutDurationMs < s.busy := Nat.lt_of_not_le hlate
    have hinterval : keepaliveIntervalMs ≤ timeoutDurationMs := by decide
    refine hout rfl ?_ ?_
    · show s.nextTick ≤ s.now
      omega
    · show timeoutDurationMs < s.now - s.lastReceived
      omega
  | sent =>
    obtain ⟨-, rfl⟩ := step_sent hstep
    obtain ⟨hsilent, hdue⟩ := not_or.mp hlate
    refine hout rfl (Nat.le_of_not_lt hdue) ?_
    have hlong : ¬ s.now ≤ s.lastReceived + timeoutDurationMs := hsilent
    show timeoutDurationMs < s.now - s.lastReceived
    omega
  | _ => exact absurd trivial hlate

end ActiveClient

open ActiveClient

/-- **An active client is kept** as long as the loop is back in `select!` in time: of the
ticks that a run may choose none times out exactly if the frames of no read take longer than
the timeout, and no probe waits for a place in the queue until the last read is longer ago
than the timeout and the next tick is due. -/
theorem active_client_kept_iff (actions : List ActiveClient.Action) :
    (∀ pre s s', pre <+: actions → run ActiveClient.step start pre = some s →
        s.step .tick = some s' → s'.loop ≠ .timedOut) ↔
      ∀ pre a s, pre ++ [a] <+: actions → run ActiveClient.step start (pre ++ [a]) = some s →
        s.Prompt a := by
  constructor
  · intro hkept pre a s hpre hrun
    by_contra hlate
    obtain ⟨mid, hmid, hstep⟩ := run_concat_eq_some hrun
    exact hkept _ s _ hpre hrun ((timely_run hmid).tick_of_late hstep hlate) rfl
  · intro hprompt pre s s' hpre hrun hstep
    have hkept : s.Timely ∧ s.InTime := by
      refine run_invariant_of_guard (I := fun s => s.Timely ∧ s.InTime)
        (G := fun s a => ∀ s', s.step a = some s' → s'.Prompt a) ?_ ⟨timely_start, ?_⟩ ?_ hpre hrun
      · intro s a s' h hguard hstep
        exact ⟨h.1.step hstep, h.2.step h.1 hstep (hguard s' hstep)⟩
      · exact fun _ => .inl (Nat.zero_le _)
      · intro pre a mid hpre hmid s' hstep
        refine hprompt pre a s' hpre ?_
        rw [run_concat, hmid]
        exact hstep
    exact hkept.2.tick hstep

/-- A request that is passed on to the device. -/
def ActiveClient.request : CoraFrame :=
  CoraFrame.new (CoraHeader.new CoraFlags.none .getReport 1 2) [0x03, 0x05]

/-- Four requests in one read, each of which keeps the device busy for 1500 ms. The
client goes on sending meanwhile, but the tick comes before the next read. -/
theorem active_client_dropped :
    ¬ ∀ actions s, run ActiveClient.step start actions = some s → s.loop ≠ .timedOut := by
  intro hall
  have hloop : (run ActiveClient.step start
      [.arrive (request.toVec ++ request.toVec ++ request.toVec ++ request.toVec), .read 72,
        .wait 1500, .handled, .wait 1500, .handled, .arrive request.toVec, .wait 1500, .handled,
        .wait 1500, .handled, .resume, .tick]).map (·.loop) = some .timedOut := by
    decide +kernel
  obtain ⟨s, hrun, hs⟩ := Option.map_eq_some_iff.mp hloop
  exact hall _ s hrun hs

end OpenNetDeck
