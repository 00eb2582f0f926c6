import OpenNetDeck.Server.Hotplug

/-!
# A connection that falls behind

`hotplug_task` takes every error of `recv` for the end of the channel. A
receiver that is more than the channel's capacity behind gets such an error
while the channel is open, and the task ends for good.

## Main definitions

- `Connection.KeepsUp` — the task is alive as long as its ends are, and has
  forwarded the last event once it has received everything

## Main results

- `slow_client_keeps_up` — a run keeps up exactly if no receive lags
- `recv_after_attaches` — a task that sleeps over more than 64 attaches is lost
-/

namespace OpenNetDeck

open Transition

namespace Connection

/-- The task has not ended while its queue and the channel are open, and if it
has received everything its last push is the last event. -/
structure KeepsUp (s : Connection) : Prop where
  alive : ¬ (s.task = .exited ∧ s.queueOpen = true ∧ s.channelOpen = true)
  upToDate : s.queueOpen = true → s.cursor = s.dock.hotplug.length → ∀ event,
    (s.dock.hotplug.drop s.subscribedAt).getLast? = some event →
      s.forwarded.getLast? = some event

/-- The action is no receive of a waiting task, with queue and channel open,
that lags. -/
def RecvInTime (s : Connection) (a : Action) : Prop :=
  a = .recv → s.task = .waiting → s.queueOpen = true → s.channelOpen = true →
    s.backlog ≤ hotplugCapacity

/-- A task that has ended has lost one of its ends. -/
def EndsWithItsEnds (s : Connection) : Prop :=
  s.task = .exited → s.queueOpen = false ∨ s.channelOpen = false

theorem endsWithItsEnds_step {s s' : Connection} {a : Action} (h : s.EndsWithItsEnds)
    (hrecv : s.RecvInTime a) (hstep : s.step a = some s') : s'.EndsWithItsEnds := by
  cases a with
  | dockOp op =>
    rw [step] at hstep
    split at hstep
    · cases hstep
      exact h
    · cases hstep
  | query =>
    cases hstep
    rw [onQuery]
    split
    · exact h
    · exact h
  | recv =>
    rw [step] at hstep
    obtain ⟨htask, hcases⟩ := onRecv_cases hstep
    obtain ⟨hlag, rfl⟩ | ⟨-, -, child, -, rfl⟩ | ⟨-, hclosed, rfl⟩ := hcases
    · intro _
      -- the task has ended in `Err(Lagged)`, which the guard rules out
      by_contra hopen
      rw [not_or, Bool.not_eq_false, Bool.not_eq_false] at hopen
      have := hrecv rfl htask hopen.1 hopen.2
      omega
    · intro hexited
      cases hexited
    · exact fun _ => .inr hclosed
  | send =>
    rw [step] at hstep
    obtain ⟨child, -, ⟨hclosed, rfl⟩ | ⟨-, frame, -, rfl⟩⟩ := onSend_cases hstep
    · exact fun _ => .inl hclosed
    · intro hexited
      cases hexited
  | sendSnapshot n =>
    rw [step] at hstep
    obtain ⟨child, -, ⟨-, rfl⟩ | ⟨-, frame, -, rfl⟩⟩ := onSendSnapshot_cases hstep
    · exact h
    · exact h
  | closeQueue =>
    cases hstep
    exact fun _ => .inl rfl
  | closeChannel =>
    cases hstep
    exact fun _ => .inr rfl

/-- A wired task that has not been cut off keeps up. -/
theorem keepsUp_of_wired {s : Connection} (hwired : s.Wired) (hends : s.EndsWithItsEnds) :
    s.KeepsUp where
  alive := by
    rintro ⟨hexited, hqueue, hchannel⟩
    rcases hends hexited with hclosed | hclosed
    · rw [hqueue] at hclosed
      cases hclosed
    · rw [hchannel] at hclosed
      cases hclosed
  upToDate := by
    intro hopen hcursor event hevent
    rw [hwired.forwarded hopen, hcursor, List.take_length]
    exact hevent

/-- A receive that lags ends the task, whatever is open. -/
theorem onRecv_of_lag {s : Connection} (htask : s.task = .waiting)
    (hlag : s.backlog > hotplugCapacity) : s.onRecv = some { s with task := .exited } := by
  rw [onRecv, htask]
  exact if_pos hlag

/-- **Lagging ends the pushes**: a run keeps up in every state it reaches exactly
if no receive of the waiting task, with queue and channel open, finds more than
64 events. -/
theorem slow_client_keeps_up (config : DockConfig) (ops : List DockOp) (actions : List Action) :
    (∀ pre s, pre <+: actions → run step (start (DockState.run config ops)) pre = some s →
        s.KeepsUp) ↔
      ∀ pre s, pre ++ [.recv] <+: actions →
        run step (start (DockState.run config ops)) pre = some s →
        s.task = .waiting → s.queueOpen = true → s.channelOpen = true →
          s.backlog ≤ hotplugCapacity := by
  constructor
  · intro hkeeps pre s hpre hrun htask hqueue hchannel
    by_contra hlag
    have hnext : run step (start (DockState.run config ops)) (pre ++ [.recv]) =
        some { s with task := .exited } := by
      rw [run_concat, hrun]
      exact onRecv_of_lag htask (Nat.lt_of_not_le hlag)
    exact (hkeeps _ _ hpre hnext).alive ⟨rfl, hqueue, hchannel⟩
  · intro hrecv pre s hpre hrun
    have hends : s.EndsWithItsEnds := by
      refine run_invariant_of_guard (G := RecvInTime)
        (fun _ _ _ hends hguard hstep => endsWithItsEnds_step hends hguard hstep) ?_ ?_ hpre hrun
      · intro hexited
        cases hexited
      · intro pre a mid hpre hmid ha
        subst ha
        exact hrecv pre mid hpre hmid
    exact keepsUp_of_wired (reachable_wired hrun) hends

/-- Attaches that happen while the task sleeps pile up in the channel. -/
theorem run_attaches (device : StreamDeckUsbHandle) (vid pid : UInt16) (modelName : String) (n : ℕ)
    {s : Connection} (hopen : s.channelOpen = true) :
    ∃ dock, run step s (List.replicate n (.dockOp (.attach device vid pid modelName))) =
        some { s with dock } ∧ dock.hotplug.length = s.dock.hotplug.length + n := by
  induction n with
  | zero => exact ⟨s.dock, rfl, rfl⟩
  | succ n ih =>
    obtain ⟨dock, hrun, hlength⟩ := ih
    refine ⟨dock.apply (.attach device vid pid modelName), ?_, ?_⟩
    · rw [List.replicate_succ', run_concat, hrun]
      exact if_pos hopen
    · rw [DockState.apply, DockState.attachDevice, List.length_append, hlength]
      rfl

/-- A task that is not scheduled during more than 64 attaches ends at its next
receive, with queue and channel open. -/
theorem recv_after_attaches (config : DockConfig) (device : StreamDeckUsbHandle)
    (vid pid : UInt16) (modelName : String) {n : ℕ} (hn : hotplugCapacity < n) :
    ∃ s, run step (start (DockState.new config))
        (List.replicate n (.dockOp (.attach device vid pid modelName)) ++ [.recv]) = some s ∧
      ¬ s.KeepsUp := by
  obtain ⟨dock, hrun, hlength⟩ := run_attaches device vid pid modelName n
    (s := start (DockState.new config)) rfl
  have hlag : ({ start (DockState.new config) with dock } : Connection).backlog >
      hotplugCapacity := by
    show dock.hotplug.length - 0 > hotplugCapacity
    rw [hlength]
    show 0 + n - 0 > hotplugCapacity
    omega
  refine ⟨{ start (DockState.new config) with dock, task := .exited }, ?_, ?_⟩
  · rw [run_concat, hrun]
    exact onRecv_of_lag rfl hlag
  · intro hkeeps
    exact hkeeps.alive ⟨rfl, rfl, rfl⟩

/-- One deck that is attached 65 times before the task runs. -/
theorem slow_client_lost :
    ¬ ∀ (config : DockConfig) (ops : List DockOp) (actions : List Action) (s : Connection),
      run step (start (DockState.run config ops)) actions = some s → s.KeepsUp := by
  intro hall
  obtain ⟨s, hrun, hlost⟩ := recv_after_attaches DockConfig.default
    ⟨0, vendorIdElgato, 0x0080, "A", some .originalMK2⟩ vendorIdElgato 0x0080 "Stream Deck MK.2"
    (n := 65) (by decide)
  exact hlost (hall DockConfig.default [] _ s hrun)

end Connection

end OpenNetDeck
