import OpenNetDeck.Lib.Transition
import OpenNetDeck.Server.HotplugClient

/-!
# Hotplug pushes of a primary connection

The tasks of one primary connection that push hotplug events: `hotplug_task`,
which forwards the broadcast events, and the one-shot tasks that the first 0x1a
query spawns, one for each active child. Attaches and detaches, the query and
every task take their steps in any order; a full outgoing queue is a task that
is not scheduled for a while.

## Main definitions

- `Connection` — the dock, the receiver, the tasks and the outgoing queue
- `Connection.step` — one step of the dock, of a task or of the environment
- `Connection.received` — the payloads the client gets

## Main results

- `Connection.reachable_wired` — what has been forwarded is a part of the
  events, and the snapshot pushes are the last events before the snapshot
-/

namespace OpenNetDeck

open Bytes

/-- Capacity of the broadcast channel. -/
def hotplugCapacity : ℕ := 64

/-- The frame that announces an event, as both kinds of tasks build it. -/
def hotplugFrame (child : ChildDeviceInfo) : Option (List UInt8) :=
  match buildCoraPushFrame (pushPayload child) (List.replicate (16 + 128) 0) with
  | (.ok len, out) => some (out.take len)
  | (.error _, _) => none

/-- Where the loop of `hotplug_task` stands. -/
inductive HotplugTask where
  | waiting
  | sending (child : ChildDeviceInfo)
  | exited
  deriving DecidableEq

/-- The event that is received but not yet in the queue. -/
def HotplugTask.inHand : HotplugTask → List ChildDeviceInfo
  | .sending child => [child]
  | _ => []

inductive Origin where
  | live
  | snapshot
  deriving DecidableEq

/-- A frame in the outgoing queue, with the event it announces and the kind of
the task that put it there. -/
structure Push where
  origin : Origin
  child : ChildDeviceInfo
  frame : List UInt8
  deriving DecidableEq

/-- The slot that a push is about. -/
def Push.slot (push : Push) : UInt8 := push.child.slotIndex

/-- The connection with everything that ever entered its outgoing queue.
`cursor` is the number of events received, `subscribedAt` that of the events
sent before `subscribe_hotplug`, `snapshotAt` that of the events sent before the
snapshot was read. -/
structure Connection where
  dock : DockState
  subscribedAt : ℕ
  cursor : ℕ
  task : HotplugTask
  hasSentInitialHotplug : Bool
  snapshotAt : ℕ
  snapshotTasks : List ChildDeviceInfo
  enqueued : List Push
  queueOpen : Bool
  channelOpen : Bool

namespace Connection

/-- A connection to a dock that has been running before. -/
def start (dock : DockState) : Connection where
  dock
  subscribedAt := dock.hotplug.length
  cursor := dock.hotplug.length
  task := .waiting
  hasSentInitialHotplug := false
  snapshotAt := 0
  snapshotTasks := []
  enqueued := []
  queueOpen := true
  channelOpen := true

inductive Action where
  | dockOp (op : DockOp)
  | query
  | recv
  | send
  | sendSnapshot (n : ℕ)
  | closeQueue
  | closeChannel

/-- Events that are sent but not received. -/
def backlog (s : Connection) : ℕ := s.dock.hotplug.length - s.cursor

/-- The push part of the 0x1a branch of `handle_frame`. -/
def onQuery (s : Connection) : Connection :=
  if s.dock.config.mode = .dock ∧ s.hasSentInitialHotplug = false then
    { s with
      hasSentInitialHotplug := true
      snapshotAt := s.dock.hotplug.length
      snapshotTasks := s.snapshotTasks ++ s.dock.allActiveChildren }
  else s

/-- `hotplug_rx.recv()` in the loop condition: more events than the channel
retains are an error, and so is a closed channel; both end the loop. -/
def onRecv (s : Connection) : Option Connection :=
  match s.task with
  | .waiting =>
    -- `Err(Lagged)`: the loop condition does not tell it from `Err(Closed)`
    if s.backlog > hotplugCapacity then some { s with task := .exited }
    else
      match s.dock.hotplug[s.cursor]? with
      | some child => some { s with task := .sending child, cursor := s.cursor + 1 }
      -- nothing to receive: the task sleeps until an event or `Err(Closed)`
      | none => if s.channelOpen then none else some { s with task := .exited }
  | _ => none

/-- The body of the loop: a failed send ends it. -/
def onSend (s : Connection) : Option Connection :=
  match s.task with
  | .sending child =>
    match hotplugFrame child with
    | some frame =>
      if s.queueOpen then
        some { s with task := .waiting, enqueued := s.enqueued ++ [⟨.live, child, frame⟩] }
      else some { s with task := .exited }
    | none => some { s with task := .waiting }
  | _ => none

/-- The rest of a one-shot task, a failed send being ignored. -/
def onSendSnapshot (s : Connection) (n : ℕ) : Option Connection :=
  match s.snapshotTasks[n]? with
  | some child =>
    match hotplugFrame child with
    | some frame =>
      if s.queueOpen then
        some { s with
          snapshotTasks := s.snapshotTasks.eraseIdx n
          enqueued := s.enqueued ++ [⟨.snapshot, child, frame⟩] }
      else some { s with snapshotTasks := s.snapshotTasks.eraseIdx n }
    | none => some { s with snapshotTasks := s.snapshotTasks.eraseIdx n }
  | none => none

def step (s : Connection) : Action → Option Connection
  | .dockOp op => if s.channelOpen then some { s with dock := s.dock.apply op } else none
  | .query => some s.onQuery
  | .recv => s.onRecv
  | .send => s.onSend
  | .sendSnapshot n => s.onSendSnapshot n
  | .closeQueue => some { s with queueOpen := false }
  | .closeChannel => some { s with channelOpen := false }

/-- The payloads that the client decodes from the queue. -/
def received (s : Connection) : List (List UInt8) :=
  s.enqueued.filterMap fun push =>
    match CoraFrame.decode push.frame with
    | .ok (some (frame, _)) => some frame.payload
    | _ => none

/-- The events forwarded by `hotplug_task`, with the one it is about to send. -/
def forwarded (s : Connection) : List ChildDeviceInfo :=
  (s.enqueued.filter (·.origin = .live)).map (·.child) ++ s.task.inHand

/-- The frame of a push. -/
def pushFrame (child : ChildDeviceInfo) : CoraFrame :=
  CoraFrame.new (CoraHeader.new CoraFlags.none .write 0 (pushPayload child).length)
    (pushPayload child)

theorem pushPayload_length (child : ChildDeviceInfo) : (pushPayload child).length = 128 :=
  (child.buildPayload true _).property

/-- A push frame is always built. -/
theorem hotplugFrame_toVec (child : ChildDeviceInfo) :
    hotplugFrame child = some (pushFrame child).toVec := by
  have hlength := pushPayload_length child
  have hout : (List.replicate (16 + 128) (0 : UInt8)).length =
      coraHeaderSize + (pushPayload child).length := by
    rw [List.length_replicate, hlength]
    rfl
  have hbuild : buildCoraPushFrame (pushPayload child) (List.replicate (16 + 128) 0) =
      (.ok (16 + 128), (pushFrame child).toVec) := by
    rw [buildCoraPushFrame_eq hout, List.length_replicate]
    rfl
  have htake : (pushFrame child).toVec.take (16 + 128) = (pushFrame child).toVec := by
    apply List.take_of_length_le
    rw [CoraFrame.toVec_length, coraHeaderSize]
    exact Nat.add_le_add_left hlength.le 16
  unfold hotplugFrame
  rw [hbuild]
  exact congrArg some htake

/-- The client decodes its payload. -/
theorem hotplugFrame_eq (child : ChildDeviceInfo) :
    ∃ frame f n, hotplugFrame child = some frame ∧
      CoraFrame.decode frame = .ok (some (f, n)) ∧ f.payload = pushPayload child := by
  have hdecode := CoraFrame.decode_toVec_append (f := pushFrame child) (by
    show (pushPayload child).length < 2 ^ 32
    rw [pushPayload_length]
    decide) []
  rw [List.append_nil] at hdecode
  exact ⟨_, _, _, hotplugFrame_toVec child, hdecode, rfl⟩

/-! ### What a connection keeps -/

/-- The queue and the tasks agree with the events of the dock. -/
structure Wired (s : Connection) : Prop where
  dock : s.dock.Consistent
  subscribed : s.subscribedAt ≤ s.cursor
  cursor_le : s.cursor ≤ s.dock.hotplug.length
  forwarded : s.queueOpen = true →
    s.forwarded = (s.dock.hotplug.take s.cursor).drop s.subscribedAt
  fresh : s.hasSentInitialHotplug = false →
    s.snapshotTasks = [] ∧ ∀ push ∈ s.enqueued, push.origin = .live
  snapshotAt_le : s.snapshotAt ≤ s.dock.hotplug.length
  tasks : ∀ child ∈ s.snapshotTasks, KeyedLog.last ChildDeviceInfo.slotIndex child.slotIndex
    (s.dock.hotplug.take s.snapshotAt) = some child
  snapshots : ∀ push ∈ s.enqueued, push.origin = .snapshot →
    KeyedLog.last ChildDeviceInfo.slotIndex push.child.slotIndex
      (s.dock.hotplug.take s.snapshotAt) = some push.child
  frames : ∀ push ∈ s.enqueued, hotplugFrame push.child = some push.frame

theorem wired_start {dock : DockState} (h : dock.Consistent) : (start dock).Wired where
  dock := h
  subscribed := le_rfl
  cursor_le := le_rfl
  forwarded _ := by simp [start, Connection.forwarded, HotplugTask.inHand]
  fresh _ := ⟨rfl, nofun⟩
  snapshotAt_le := Nat.zero_le _
  tasks := nofun
  snapshots := nofun
  frames := nofun

/-- Events are only added at the end. -/
theorem take_hotplug_apply (dock : DockState) (op : DockOp) {n : ℕ} (h : n ≤ dock.hotplug.length) :
    (dock.apply op).hotplug.take n = dock.hotplug.take n ∧
      n ≤ (dock.apply op).hotplug.length := by
  obtain heq | ⟨child, heq⟩ := dock.hotplug_apply op
  · rw [heq]
    exact ⟨rfl, h⟩
  · rw [heq, List.take_append_of_le_length h, List.length_append]
    exact ⟨rfl, by omega⟩

theorem wired_dockOp {s : Connection} (h : s.Wired) (op : DockOp) :
    ({ s with dock := s.dock.apply op } : Connection).Wired := by
  obtain ⟨hcursor, hcursor'⟩ := take_hotplug_apply s.dock op h.cursor_le
  obtain ⟨hsnapshot, hsnapshot'⟩ := take_hotplug_apply s.dock op h.snapshotAt_le
  refine { h with
    dock := h.dock.apply op
    cursor_le := hcursor'
    snapshotAt_le := hsnapshot'
    forwarded := ?_
    tasks := ?_
    snapshots := ?_ }
  · intro hopen
    simp only [hcursor]
    exact h.forwarded hopen
  · simp only [hsnapshot]
    exact h.tasks
  · simp only [hsnapshot]
    exact h.snapshots

/-- A child of the table is the last event of its slot. -/
theorem last_of_table {dock : DockState} (hdock : dock.Consistent) {child : ChildDeviceInfo}
    (h : dock.table child.slotIndex = some child) :
    KeyedLog.last ChildDeviceInfo.slotIndex child.slotIndex dock.hotplug = some child := by
  rw [← hdock.mirrors, KeyedLog.replay_eq] at h
  cases hlast : KeyedLog.last ChildDeviceInfo.slotIndex child.slotIndex dock.hotplug with
  | none =>
    rw [hlast] at h
    cases h
  | some event =>
    rw [hlast, Option.map_some, Option.getD_some, ChildDeviceInfo.occupant] at h
    split at h
    · exact h
    · cases h

theorem wired_query {s : Connection} (h : s.Wired) : s.onQuery.Wired := by
  rw [onQuery]
  split
  · next hfirst =>
    obtain ⟨htasks, hlive⟩ := h.fresh hfirst.2
    refine { h with
      fresh := nofun
      snapshotAt_le := le_rfl
      tasks := ?_
      snapshots := ?_ }
    · intro child hchild
      simp only [htasks, List.nil_append] at hchild
      simp only [List.take_length]
      exact last_of_table h.dock ((DockState.mem_allActiveChildren h.dock.placed).mp hchild)
    · intro push hpush hsnapshot
      rw [hlive push hpush] at hsnapshot
      cases hsnapshot
  · exact h

/-- What a receive does. -/
theorem onRecv_cases {s s' : Connection} (h : s.onRecv = some s') :
    s.task = .waiting ∧
      ((s.backlog > hotplugCapacity ∧ s' = { s with task := .exited }) ∨
        (s.backlog ≤ hotplugCapacity ∧ s.cursor < s.dock.hotplug.length ∧
          ∃ child, s.dock.hotplug[s.cursor]? = some child ∧
            s' = { s with task := .sending child, cursor := s.cursor + 1 }) ∨
        (s.dock.hotplug.length ≤ s.cursor ∧ s.channelOpen = false ∧
          s' = { s with task := .exited })) := by
  unfold onRecv at h
  split at h
  · next htask =>
    refine ⟨htask, ?_⟩
    split at h
    · next hlag => exact .inl ⟨hlag, (Option.some.inj h).symm⟩
    · next hlag =>
      right
      split at h
      · next child hchild =>
        left
        have hlt := (List.getElem?_eq_some_iff.mp hchild).1
        exact ⟨Nat.le_of_not_lt hlag, hlt, child, hchild, (Option.some.inj h).symm⟩
      · next hend =>
        right
        split at h
        · cases h
        · next hclosed =>
          exact ⟨List.getElem?_eq_none_iff.mp hend, by simpa using hclosed,
            (Option.some.inj h).symm⟩
  · cases h

/-- What a send does. -/
theorem onSend_cases {s s' : Connection} (h : s.onSend = some s') :
    ∃ child, s.task = .sending child ∧
      ((s.queueOpen = false ∧ s' = { s with task := .exited }) ∨
        (s.queueOpen = true ∧ ∃ frame, hotplugFrame child = some frame ∧
          s' = { s with
            task := .waiting
            enqueued := s.enqueued ++ [⟨.live, child, frame⟩] })) := by
  unfold onSend at h
  split at h
  · next child htask =>
    refine ⟨child, htask, ?_⟩
    split at h
    · next frame hframe =>
      split at h
      · next hopen => exact .inr ⟨hopen, frame, hframe, (Option.some.inj h).symm⟩
      · next hopen => exact .inl ⟨by simpa using hopen, (Option.some.inj h).symm⟩
    · next hnone =>
      -- a push frame is always built
      obtain ⟨frame, _, _, hframe, -⟩ := hotplugFrame_eq child
      rw [hframe] at hnone
      cases hnone
  · cases h

/-- What a snapshot task does. -/
theorem onSendSnapshot_cases {s s' : Connection} {n : ℕ} (h : s.onSendSnapshot n = some s') :
    ∃ child, s.snapshotTasks[n]? = some child ∧
      ((s.queueOpen = false ∧ s' = { s with snapshotTasks := s.snapshotTasks.eraseIdx n }) ∨
        (s.queueOpen = true ∧ ∃ frame, hotplugFrame child = some frame ∧
          s' = { s with
            snapshotTasks := s.snapshotTasks.eraseIdx n
            enqueued := s.enqueued ++ [⟨.snapshot, child, frame⟩] })) := by
  unfold onSendSnapshot at h
  split at h
  · next child hchild =>
    refine ⟨child, hchild, ?_⟩
    split at h
    · next frame hframe =>
      split at h
      · next hopen => exact .inr ⟨hopen, frame, hframe, (Option.some.inj h).symm⟩
      · next hopen => exact .inl ⟨by simpa using hopen, (Option.some.inj h).symm⟩
    · next hnone =>
      obtain ⟨frame, _, _, hframe, -⟩ := hotplugFrame_eq child
      rw [hframe] at hnone
      cases hnone
  · cases h

theorem wired_recv {s s' : Connection} (h : s.Wired) (hstep : s.onRecv = some s') : s'.Wired := by
  obtain ⟨htask, hcases⟩ := onRecv_cases hstep
  have hexit : ({ s with task := .exited } : Connection).Wired := by
    refine { h with forwarded := ?_ }
    intro hopen
    rw [← h.forwarded hopen]
    simp only [Connection.forwarded, htask]
    rfl
  obtain ⟨-, rfl⟩ | ⟨-, hlt, child, hchild, rfl⟩ | ⟨-, -, rfl⟩ := hcases
  · exact hexit
  · refine { h with
      subscribed := h.subscribed.trans (Nat.le_succ _)
      cursor_le := hlt
      forwarded := ?_ }
    intro hopen
    have hforwarded := h.forwarded hopen
    simp only [Connection.forwarded, htask, HotplugTask.inHand, List.append_nil] at hforwarded ⊢
    have hle : s.subscribedAt ≤ (s.dock.hotplug.take s.cursor).length := by
      rw [List.length_take, Nat.min_eq_left h.cursor_le]
      exact h.subscribed
    rw [List.take_add_one, hchild, Option.toList_some, List.drop_append_of_le_length hle,
      hforwarded]
  · exact hexit

theorem wired_send {s s' : Connection} (h : s.Wired) (hstep : s.onSend = some s') : s'.Wired := by
  obtain ⟨child, htask, ⟨hclosed, rfl⟩ | ⟨hopen, frame, hframe, rfl⟩⟩ := onSend_cases hstep
  · refine { h with forwarded := ?_ }
    intro hopen
    rw [hclosed] at hopen
    cases hopen
  · refine { h with forwarded := ?_, fresh := ?_, snapshots := ?_, frames := ?_ }
    · intro _
      have hforwarded := h.forwarded hopen
      simp only [Connection.forwarded, htask] at hforwarded
      rw [← hforwarded]
      simp [Connection.forwarded, HotplugTask.inHand]
    · intro hfresh
      obtain ⟨htasks, hlive⟩ := h.fresh hfresh
      exact ⟨htasks, List.forall_mem_append.mpr ⟨hlive, List.forall_mem_singleton.mpr rfl⟩⟩
    · exact List.forall_mem_append.mpr ⟨h.snapshots, List.forall_mem_singleton.mpr nofun⟩
    · exact List.forall_mem_append.mpr ⟨h.frames, List.forall_mem_singleton.mpr hframe⟩

theorem wired_sendSnapshot {s s' : Connection} {n : ℕ} (h : s.Wired)
    (hstep : s.onSendSnapshot n = some s') : s'.Wired := by
  obtain ⟨child, hchild, hcases⟩ := onSendSnapshot_cases hstep
  have hmem : child ∈ s.snapshotTasks := List.mem_of_getElem? hchild
  have htasks : ∀ child ∈ s.snapshotTasks.eraseIdx n,
      KeyedLog.last ChildDeviceInfo.slotIndex child.slotIndex
        (s.dock.hotplug.take s.snapshotAt) = some child :=
    fun child hchild => h.tasks child (List.mem_of_mem_eraseIdx hchild)
  obtain ⟨-, rfl⟩ | ⟨hopen, frame, hframe, rfl⟩ := hcases
  · refine { h with fresh := ?_, tasks := htasks }
    intro hfresh
    rw [(h.fresh hfresh).1] at hmem
    cases hmem
  · refine { h with forwarded := ?_, fresh := ?_, tasks := htasks, snapshots := ?_, frames := ?_ }
    · intro _
      rw [← h.forwarded hopen]
      simp [Connection.forwarded]
    · intro hfresh
      rw [(h.fresh hfresh).1] at hmem
      cases hmem
    · exact List.forall_mem_append.mpr ⟨h.snapshots,
        List.forall_mem_singleton.mpr fun _ => h.tasks child hmem⟩
    · exact List.forall_mem_append.mpr ⟨h.frames, List.forall_mem_singleton.mpr hframe⟩

theorem wired_step {s s' : Connection} {a : Action} (h : s.Wired) (hstep : s.step a = some s') :
    s'.Wired := by
  cases a with
  | dockOp op =>
    rw [step] at hstep
    split at hstep
    · cases hstep
      exact wired_dockOp h op
    · cases hstep
  | query =>
    cases hstep
    exact wired_query h
  | recv => exact wired_recv h hstep
  | send => exact wired_send h hstep
  | sendSnapshot n =>
    rw [step] at hstep
    exact wired_sendSnapshot h hstep
  | closeQueue =>
    cases hstep
    exact { h with forwarded := nofun }
  | closeChannel =>
    cases hstep
    exact { h with }

/-- Every connection that a dock can have is wired, at any time. -/
theorem reachable_wired {config : DockConfig} {ops : List DockOp} {actions : List Action}
    {s : Connection}
    (h : Transition.run step (start (DockState.run config ops)) actions = some s) : s.Wired :=
  Transition.run_invariant (fun _ _ _ hwired hstep => wired_step hwired hstep)
    (wired_start (DockState.run_consistent config ops)) h

end Connection

end OpenNetDeck
