import OpenNetDeck.Server.Hotplug

/-!
# The initial snapshot and the live pushes

The snapshot of the slots is read when the first 0x1a query is handled, but its
pushes enter the outgoing queue whenever their tasks run, among live pushes for
the same slots. A snapshot push that comes behind the last live push of its slot
stays the client's last word on that slot.

## Main definitions

- `Connection.Settled` — every task has enqueued its frames
- `Connection.Converged` — the client agrees with the dock on the slots that it
  has received a push for
- `Connection.InTime` — a snapshot push that is enqueued now is not the client's
  last word on a slot that changes

## Main results

- `snapshot_converges` — a settled connection has converged exactly if each
  snapshot push was enqueued in time
-/

namespace OpenNetDeck

open Transition

namespace Connection

/-- Every task has enqueued its frames, and none was refused. -/
structure Settled (s : Connection) : Prop where
  received : s.cursor = s.dock.hotplug.length
  sent : s.task.inHand = []
  tasks : s.snapshotTasks = []
  queueOpen : s.queueOpen = true

/-- For every slot of which it has received a push, the client answers what the
dock answers. -/
def Converged (s : Connection) : Prop :=
  ∀ slot, (∃ payload ∈ s.received, payload.getD 5 0 = slot) →
    answer (clientTable s.received) slot = (queryPayload s.dock slot).drop 4

/-- The number of events that are not to be enqueued any more. -/
def sent (s : Connection) : ℕ := s.cursor - s.task.inHand.length

/-- Of the events of the whole run, one of the child's slot is still to be
enqueued, or the last one of the slot since the snapshot, if any, announces what
the snapshot says. -/
def InTime (s : Connection) (child : ChildDeviceInfo) (hotplug : List ChildDeviceInfo) : Prop :=
  (∃ event ∈ hotplug.drop s.sent, event.slotIndex = child.slotIndex) ∨
    ∀ event, KeyedLog.last ChildDeviceInfo.slotIndex child.slotIndex
        (hotplug.drop s.snapshotAt) = some event →
      event.body child.slotIndex = child.body child.slotIndex

/-- The same of the queue: every snapshot push is followed by a live push of its
slot, unless the last event of the slot since the snapshot, if any, announces
what the push says. -/
def SnapshotsInTime (s : Connection) : Prop :=
  ∀ before push behind, s.enqueued = before ++ push :: behind → push.origin = .snapshot →
    (∃ live ∈ behind, live.origin = .live ∧ live.slot = push.slot) ∨
      ∀ event, KeyedLog.last ChildDeviceInfo.slotIndex push.slot
          (s.dock.hotplug.drop s.snapshotAt) = some event →
        event.body push.slot = push.child.body push.slot

/-- The last push of a slot in the queue. -/
def lastPush (s : Connection) (slot : UInt8) : Option Push :=
  KeyedLog.last Push.slot slot s.enqueued

/-- The client receives the events of its pushes. -/
theorem received_eq {s : Connection} (h : s.Wired) :
    s.received = (s.enqueued.map (·.child)).map pushPayload := by
  rw [received, List.map_map]
  apply List.filterMap_eq_map_iff_forall_eq_some.mpr
  intro push hpush
  obtain ⟨frame, f, n, hframe, hdecode, hpayload⟩ := hotplugFrame_eq push.child
  have hpush : push.frame = frame := Option.some.inj ((h.frames push hpush).symm.trans hframe)
  rw [hpush, hdecode]
  exact congrArg some hpayload

theorem getD_pushPayload (child : ChildDeviceInfo) :
    (pushPayload child).getD 5 0 = child.slotIndex := by
  have hsplit := pushPayload_split child
  cases hconn : child.isConnected with
  | true =>
    rw [ChildDeviceInfo.body_of_connected hconn, List.cons.injEq, List.cons.injEq] at hsplit
    exact hsplit.2.1
  | false =>
    rw [ChildDeviceInfo.body_of_disconnected hconn, List.cons.injEq, List.cons.injEq] at hsplit
    exact hsplit.2.1

theorem last_child (slot : UInt8) (pushes : List Push) :
    KeyedLog.last ChildDeviceInfo.slotIndex slot (pushes.map (·.child)) =
      (KeyedLog.last Push.slot slot pushes).map (·.child) :=
  KeyedLog.last_map (fun _ => rfl) pushes

/-- The client answers with the last push of the slot. -/
theorem answer_of_lastPush {s : Connection} (h : s.Wired) {slot : UInt8} {push : Push}
    (hlast : s.lastPush slot = some push) :
    answer (clientTable s.received) slot = push.child.body slot := by
  rw [received_eq h]
  apply answer_of_last
  rw [last_child]
  exact congrArg (Option.map _) hlast

theorem exists_lastPush {s : Connection} {push : Push} (hmem : push ∈ s.enqueued) :
    ∃ last, s.lastPush push.slot = some last := by
  cases hlast : s.lastPush push.slot with
  | none => exact absurd rfl (KeyedLog.last_eq_none.mp hlast push hmem)
  | some last => exact ⟨last, rfl⟩

theorem mem_received {s : Connection} (h : s.Wired) {slot : UInt8} :
    (∃ payload ∈ s.received, payload.getD 5 0 = slot) ↔ ∃ push ∈ s.enqueued, push.slot = slot := by
  rw [received_eq h]
  constructor
  · rintro ⟨payload, hpayload, hslot⟩
    obtain ⟨child, hchild, rfl⟩ := List.mem_map.mp hpayload
    obtain ⟨push, hpush, rfl⟩ := List.mem_map.mp hchild
    rw [getD_pushPayload] at hslot
    exact ⟨push, hpush, hslot⟩
  · rintro ⟨push, hpush, hslot⟩
    refine ⟨pushPayload push.child, ?_, ?_⟩
    · exact List.mem_map_of_mem (List.mem_map_of_mem hpush)
    · rw [getD_pushPayload]
      exact hslot

/-- A live push that is the last of its slot says what the dock says. -/
theorem query_of_live {s : Connection} (h : s.Wired) (hsettled : s.Settled) {slot : UInt8}
    {push : Push} (hlast : s.lastPush slot = some push) (hlive : push.origin = .live) :
    (queryPayload s.dock slot).drop 4 = push.child.body slot := by
  have hfilter := KeyedLog.last_filter (p := fun push => decide (push.origin = .live)) hlast
    (by rw [hlive]; rfl)
  have hforwarded := h.forwarded hsettled.queueOpen
  rw [Connection.forwarded, hsettled.sent, List.append_nil, hsettled.received,
    List.take_length] at hforwarded
  have htail : KeyedLog.last ChildDeviceInfo.slotIndex slot
      (s.dock.hotplug.drop s.subscribedAt) = some push.child := by
    rw [← hforwarded, last_child]
    exact congrArg (Option.map _) hfilter
  apply query_of_last h.dock.mirrors
  rw [← List.take_append_drop s.subscribedAt s.dock.hotplug, KeyedLog.last_append, htail]
  rfl

/-- The dock says what the snapshot says of a slot, unless an event came later. -/
theorem query_of_snapshot {s : Connection} (h : s.Wired) {push : Push}
    (hmem : push ∈ s.enqueued) (hsnapshot : push.origin = .snapshot) :
    (queryPayload s.dock push.slot).drop 4 =
      ((KeyedLog.last ChildDeviceInfo.slotIndex push.slot
        (s.dock.hotplug.drop s.snapshotAt)).getD push.child).body push.slot := by
  have hbefore : KeyedLog.last ChildDeviceInfo.slotIndex push.slot
      (s.dock.hotplug.take s.snapshotAt) = some push.child := h.snapshots push hmem hsnapshot
  have hall : KeyedLog.last ChildDeviceInfo.slotIndex push.slot s.dock.hotplug =
      (KeyedLog.last ChildDeviceInfo.slotIndex push.slot
        (s.dock.hotplug.drop s.snapshotAt)).or (some push.child) := by
    rw [← hbefore, ← KeyedLog.last_append, List.take_append_drop]
  apply query_of_last h.dock.mirrors
  rw [hall]
  cases KeyedLog.last ChildDeviceInfo.slotIndex push.slot
    (s.dock.hotplug.drop s.snapshotAt) <;> rfl

/-- Two snapshot pushes of one slot say the same. -/
theorem snapshot_unique {s : Connection} (h : s.Wired) {push push' : Push}
    (hmem : push ∈ s.enqueued) (hmem' : push' ∈ s.enqueued) (hsnapshot : push.origin = .snapshot)
    (hsnapshot' : push'.origin = .snapshot) (hslot : push'.slot = push.slot) :
    push'.child = push.child := by
  have hpush : KeyedLog.last ChildDeviceInfo.slotIndex push.slot
      (s.dock.hotplug.take s.snapshotAt) = some push.child := h.snapshots push hmem hsnapshot
  have hpush' : KeyedLog.last ChildDeviceInfo.slotIndex push'.slot
      (s.dock.hotplug.take s.snapshotAt) = some push'.child := h.snapshots push' hmem' hsnapshot'
  rw [hslot, hpush] at hpush'
  exact (Option.some.inj hpush').symm

/-- Behind a push, the last push of its slot is the push or comes later. -/
theorem lastPush_of_split {s : Connection} {before behind : List Push} {push last : Push}
    (hsplit : s.enqueued = before ++ push :: behind) (hlast : s.lastPush push.slot = some last) :
    last = push ∨ last ∈ behind := by
  rw [lastPush, hsplit, KeyedLog.last_append, KeyedLog.last_cons, if_pos rfl] at hlast
  cases hrest : KeyedLog.last Push.slot push.slot behind with
  | none =>
    rw [hrest, Option.none_or, Option.some_or, Option.some.injEq] at hlast
    exact .inl hlast.symm
  | some last' =>
    rw [hrest, Option.some_or, Option.some_or, Option.some.injEq] at hlast
    subst hlast
    exact .inr (KeyedLog.mem_of_last hrest)

/-- A settled connection has converged exactly if its queue is in time. -/
theorem converged_iff {s : Connection} (hwired : s.Wired) (hsettled : s.Settled) :
    s.Converged ↔ s.SnapshotsInTime := by
  constructor
  · intro hconverged before push behind hsplit hsnapshot
    by_cases hlater : ∃ live ∈ behind, live.origin = .live ∧ live.slot = push.slot
    · exact .inl hlater
    right
    intro event hevent
    have hmem : push ∈ s.enqueued := by
      rw [hsplit]
      simp
    have hagrees := hconverged push.slot ((mem_received hwired).mpr ⟨push, hmem, rfl⟩)
    -- the last push of the slot is a snapshot push too, and says the same
    obtain ⟨last, hlast⟩ := exists_lastPush hmem
    have hslot : last.slot = push.slot := KeyedLog.key_of_last hlast
    have hchild : last.child = push.child := by
      rcases lastPush_of_split hsplit hlast with rfl | hbehind
      · rfl
      · cases horigin : last.origin with
        | live => exact absurd ⟨last, hbehind, horigin, hslot⟩ hlater
        | snapshot =>
          exact snapshot_unique hwired hmem (KeyedLog.mem_of_last hlast) hsnapshot horigin hslot
    rw [answer_of_lastPush hwired hlast, hchild, query_of_snapshot hwired hmem hsnapshot,
      hevent] at hagrees
    exact hagrees.symm
  · intro htime slot hpush
    obtain ⟨other, hmem, rfl⟩ := (mem_received hwired).mp hpush
    obtain ⟨push, hlast⟩ := exists_lastPush hmem
    have hslot : push.slot = other.slot := KeyedLog.key_of_last hlast
    rw [answer_of_lastPush hwired hlast]
    cases horigin : push.origin with
    | live => exact (query_of_live hwired hsettled hlast horigin).symm
    | snapshot =>
      -- nothing for the slot comes behind it, so the slot has not changed since
      obtain ⟨before, behind, hsplit, hbehind⟩ := KeyedLog.exists_split_of_last hlast
      rw [← hslot, query_of_snapshot hwired (KeyedLog.mem_of_last hlast) horigin]
      obtain ⟨live, hlive, -, hlslot⟩ | hsame := htime before push behind hsplit horigin
      · exact absurd (hlslot.trans hslot) (hbehind live hlive)
      · cases hevent : KeyedLog.last ChildDeviceInfo.slotIndex push.slot
            (s.dock.hotplug.drop s.snapshotAt) with
        | none => rfl
        | some event => exact (hsame event hevent).symm

/-! ### From the queue to the schedule -/

/-- What a step leaves as it is. -/
structure Extends (s s' : Connection) : Prop where
  enqueued : s.enqueued <+: s'.enqueued
  queueOpen : s'.queueOpen = true → s.queueOpen = true
  subscribedAt : s'.subscribedAt = s.subscribedAt
  snapshot : s.hasSentInitialHotplug = true →
    s'.hasSentInitialHotplug = true ∧ s'.snapshotAt = s.snapshotAt

theorem Extends.refl (s : Connection) : s.Extends s where
  enqueued := List.prefix_refl _
  queueOpen := id
  subscribedAt := rfl
  snapshot h := ⟨h, rfl⟩

theorem Extends.trans {s mid s' : Connection} (h : s.Extends mid) (h' : mid.Extends s') :
    s.Extends s' where
  enqueued := h.enqueued.trans h'.enqueued
  queueOpen hopen := h.queueOpen (h'.queueOpen hopen)
  subscribedAt := h'.subscribedAt.trans h.subscribedAt
  snapshot hsent := by
    obtain ⟨hmid, heq⟩ := h.snapshot hsent
    obtain ⟨hsent', heq'⟩ := h'.snapshot hmid
    exact ⟨hsent', heq'.trans heq⟩

theorem extends_of_frame {s s' : Connection} (henqueued : s.enqueued <+: s'.enqueued)
    (hopen : s'.queueOpen = s.queueOpen) (hsubscribed : s'.subscribedAt = s.subscribedAt)
    (hsent : s'.hasSentInitialHotplug = s.hasSentInitialHotplug)
    (hsnapshot : s'.snapshotAt = s.snapshotAt) : s.Extends s' where
  enqueued := henqueued
  queueOpen h := hopen.symm.trans h
  subscribedAt := hsubscribed
  snapshot h := ⟨hsent.trans h, hsnapshot⟩

/-- A step enqueues one push at most, and a snapshot push only for its task. -/
theorem step_extends {s s' : Connection} {a : Action} (h : s.step a = some s') :
    s.Extends s' ∧ (s'.enqueued = s.enqueued ∨ ∃ push, s'.enqueued = s.enqueued ++ [push] ∧
      (push.origin = .snapshot →
        ∃ n, a = .sendSnapshot n ∧ s.snapshotTasks[n]? = some push.child)) := by
  cases a with
  | dockOp op =>
    rw [step] at h
    split at h
    · cases h
      exact ⟨extends_of_frame (List.prefix_refl _) rfl rfl rfl rfl, .inl rfl⟩
    · cases h
  | query =>
    cases h
    rw [onQuery]
    split
    · next hfirst =>
      -- only the first query moves the snapshot
      refine ⟨⟨List.prefix_refl _, id, rfl, ?_⟩, .inl rfl⟩
      intro hsent
      rw [hfirst.2] at hsent
      cases hsent
    · exact ⟨.refl s, .inl rfl⟩
  | recv =>
    rw [step] at h
    obtain ⟨-, ⟨-, rfl⟩ | ⟨-, -, child, -, rfl⟩ | ⟨-, -, rfl⟩⟩ := onRecv_cases h
    · exact ⟨extends_of_frame (List.prefix_refl _) rfl rfl rfl rfl, .inl rfl⟩
    · exact ⟨extends_of_frame (List.prefix_refl _) rfl rfl rfl rfl, .inl rfl⟩
    · exact ⟨extends_of_frame (List.prefix_refl _) rfl rfl rfl rfl, .inl rfl⟩
  | send =>
    rw [step] at h
    obtain ⟨child, -, ⟨-, rfl⟩ | ⟨-, frame, -, rfl⟩⟩ := onSend_cases h
    · exact ⟨extends_of_frame (List.prefix_refl _) rfl rfl rfl rfl, .inl rfl⟩
    · refine ⟨extends_of_frame (List.prefix_append _ _) rfl rfl rfl rfl, .inr ⟨_, rfl, ?_⟩⟩
      intro horigin
      cases horigin
  | sendSnapshot n =>
    rw [step] at h
    obtain ⟨child, hchild, ⟨-, rfl⟩ | ⟨-, frame, -, rfl⟩⟩ := onSendSnapshot_cases h
    · exact ⟨extends_of_frame (List.prefix_refl _) rfl rfl rfl rfl, .inl rfl⟩
    · exact ⟨extends_of_frame (List.prefix_append _ _) rfl rfl rfl rfl,
        .inr ⟨_, rfl, fun _ => ⟨n, rfl, hchild⟩⟩⟩
  | closeQueue =>
    cases h
    refine ⟨⟨List.prefix_refl _, ?_, rfl, fun hsent => ⟨hsent, rfl⟩⟩, .inl rfl⟩
    intro hopen
    cases hopen
  | closeChannel =>
    cases h
    exact ⟨extends_of_frame (List.prefix_refl _) rfl rfl rfl rfl, .inl rfl⟩

theorem run_extends {s s' : Connection} {actions : List Action}
    (h : run step s actions = some s') : s.Extends s' :=
  run_invariant (I := s.Extends) (fun _ _ _ hmid hstep => hmid.trans (step_extends hstep).1)
    (.refl s) h

/-- Every snapshot push in the queue was enqueued by a step of its task. -/
theorem exists_sendSnapshot {dock : DockState} {actions : List Action} {s : Connection}
    (hrun : run step (start dock) actions = some s) {before behind : List Push} {push : Push}
    (hsplit : s.enqueued = before ++ push :: behind) (hsnapshot : push.origin = .snapshot) :
    ∃ pre n mid, pre ++ [.sendSnapshot n] <+: actions ∧ run step (start dock) pre = some mid ∧
      mid.snapshotTasks[n]? = some push.child ∧ mid.enqueued = before := by
  induction actions using List.reverseRecOn generalizing s behind with
  | nil =>
    cases hrun
    exact absurd hsplit (by simp [start])
  | append_singleton actions a ih =>
    obtain ⟨mid, hmid, hstep⟩ := run_concat_eq_some hrun
    have hinit {behind : List Push} (hold : mid.enqueued = before ++ push :: behind) :
        ∃ pre n mid, pre ++ [.sendSnapshot n] <+: actions ++ [a] ∧
          run step (start dock) pre = some mid ∧
          mid.snapshotTasks[n]? = some push.child ∧ mid.enqueued = before := by
      obtain ⟨pre, n, mid', hpre, hrest⟩ := ih hmid hold
      exact ⟨pre, n, mid', hpre.trans (List.prefix_append _ _), hrest⟩
    obtain ⟨-, heq | ⟨last, heq, horigin⟩⟩ := step_extends hstep
    · exact hinit (heq.symm.trans hsplit)
    · rw [hsplit] at heq
      -- the push is the one of this step, or an older one
      induction behind using List.reverseRecOn with
      | nil =>
        obtain ⟨hbefore, hpush⟩ := List.append_inj' heq rfl
        cases hpush
        obtain ⟨n, rfl, hchild⟩ := horigin hsnapshot
        exact ⟨actions, n, mid, List.prefix_refl _, hmid, hchild, hbefore.symm⟩
      | append_singleton behind other _ =>
        rw [← List.cons_append, ← List.append_assoc] at heq
        exact hinit (List.append_inj' heq rfl).1.symm

/-- A snapshot task whose push is not refused puts it behind all pushes so far. -/
theorem enqueued_sendSnapshot {dock : DockState} {actions pre : List Action} {n : ℕ}
    {s mid : Connection} {child : ChildDeviceInfo}
    (hrun : run step (start dock) actions = some s) (hopen : s.queueOpen = true)
    (hpre : pre ++ [.sendSnapshot n] <+: actions) (hmid : run step (start dock) pre = some mid)
    (hchild : mid.snapshotTasks[n]? = some child) :
    ∃ push behind, push.origin = .snapshot ∧ push.child = child ∧
      s.enqueued = mid.enqueued ++ push :: behind := by
  obtain ⟨post, rfl⟩ := hpre
  rw [run_append, run_concat, hmid] at hrun
  obtain ⟨next, hstep, hrest⟩ := Option.bind_eq_some_iff.mp hrun
  have hstep : mid.onSendSnapshot n = some next := hstep
  have hextends := run_extends hrest
  obtain ⟨child', hchild', hcases⟩ := onSendSnapshot_cases hstep
  rw [hchild, Option.some.injEq] at hchild'
  subst hchild'
  obtain ⟨hclosed, rfl⟩ | ⟨-, frame, -, rfl⟩ := hcases
  · have := hextends.queueOpen hopen
    rw [hclosed] at this
    cases this
  · obtain ⟨behind, hbehind⟩ := hextends.enqueued
    refine ⟨⟨.snapshot, child, frame⟩, behind, rfl, rfl, ?_⟩
    rw [← hbehind, List.append_assoc]
    rfl

/-- The children of the live pushes in a part of the queue. -/
def live (pushes : List Push) : List ChildDeviceInfo :=
  (pushes.filter (·.origin = .live)).map (·.child)

/-- The live pushes behind a snapshot push are the events that were not sent when
it was enqueued. -/
theorem live_behind {s mid : Connection} (hwired : s.Wired) (hsettled : s.Settled)
    (hmid : mid.Wired) (hextends : mid.Extends s) {push : Push} {behind : List Push}
    (hsnapshot : push.origin = .snapshot) (hsplit : s.enqueued = mid.enqueued ++ push :: behind) :
    live behind = s.dock.hotplug.drop mid.sent := by
  have hbefore : live mid.enqueued ++ mid.task.inHand =
      (mid.dock.hotplug.take mid.cursor).drop mid.subscribedAt :=
    hmid.forwarded (hextends.queueOpen hsettled.queueOpen)
  have hall : live s.enqueued = s.dock.hotplug.drop mid.subscribedAt := by
    have hforwarded := hwired.forwarded hsettled.queueOpen
    rw [Connection.forwarded, hsettled.sent, List.append_nil, hsettled.received,
      List.take_length, hextends.subscribedAt] at hforwarded
    exact hforwarded
  have hparts : live s.enqueued = live mid.enqueued ++ live behind := by
    rw [hsplit]
    simp [live, hsnapshot]
  -- one live push for each event received before, but for the one in hand
  have hsent : mid.subscribedAt + (live mid.enqueued).length = mid.sent := by
    have hlength := congrArg List.length hbefore
    rw [List.length_append, List.length_drop, List.length_take,
      Nat.min_eq_left hmid.cursor_le] at hlength
    have hle := hmid.subscribed
    rw [sent]
    omega
  rw [← hsent, ← List.drop_drop, ← hall, hparts, List.drop_left]

theorem extends_of_prefix {s s' mid : Connection} {actions pre : List Action}
    (hrun : run step s actions = some s') (hpre : pre <+: actions)
    (hmid : run step s pre = some mid) : mid.Extends s' := by
  obtain ⟨post, rfl⟩ := hpre
  rw [run_append, hmid] at hrun
  exact run_extends hrun

/-- The snapshot is read once, before its tasks run. -/
theorem snapshotAt_eq {s mid : Connection} (hmid : mid.Wired) (hextends : mid.Extends s) {n : ℕ}
    {child : ChildDeviceInfo} (hchild : mid.snapshotTasks[n]? = some child) :
    s.snapshotAt = mid.snapshotAt := by
  cases hsent : mid.hasSentInitialHotplug with
  | true => exact (hextends.snapshot hsent).2
  | false =>
    rw [(hmid.fresh hsent).1] at hchild
    cases hchild

/-- A push is in time if it is followed in the queue as it has to be. -/
theorem inTime_iff {s mid : Connection} (hwired : s.Wired) (hsettled : s.Settled)
    (hmid : mid.Wired) (hextends : mid.Extends s) {n : ℕ} {push : Push} {behind : List Push}
    (hchild : mid.snapshotTasks[n]? = some push.child) (hsnapshot : push.origin = .snapshot)
    (hsplit : s.enqueued = mid.enqueued ++ push :: behind) :
    mid.InTime push.child s.dock.hotplug ↔
      (∃ live ∈ behind, live.origin = .live ∧ live.slot = push.slot) ∨
        ∀ event, KeyedLog.last ChildDeviceInfo.slotIndex push.slot
            (s.dock.hotplug.drop s.snapshotAt) = some event →
          event.body push.slot = push.child.body push.slot := by
  rw [InTime, ← live_behind hwired hsettled hmid hextends hsnapshot hsplit,
    snapshotAt_eq hmid hextends hchild]
  refine or_congr_left ?_
  constructor
  · rintro ⟨event, hevent, hslot⟩
    obtain ⟨live, hlive, rfl⟩ := List.mem_map.mp hevent
    obtain ⟨hmem, horigin⟩ := List.mem_filter.mp hlive
    exact ⟨live, hmem, of_decide_eq_true horigin, hslot⟩
  · rintro ⟨live, hmem, horigin, hslot⟩
    refine ⟨live.child, ?_, hslot⟩
    exact List.mem_map_of_mem (List.mem_filter.mpr ⟨hmem, decide_eq_true horigin⟩)

/-- **Convergence of snapshot and live pushes**: when every task has enqueued its
frames, the client agrees with the dock on the slots it has received a push for
exactly if each snapshot push was enqueued in time. -/
theorem snapshot_converges (config : DockConfig) (ops : List DockOp) (actions : List Action)
    (s : Connection) (hrun : run step (start (DockState.run config ops)) actions = some s)
    (hsettled : s.Settled) :
    s.Converged ↔ ∀ pre n mid child, pre ++ [.sendSnapshot n] <+: actions →
      run step (start (DockState.run config ops)) pre = some mid →
      mid.snapshotTasks[n]? = some child → mid.InTime child s.dock.hotplug := by
  have hwired := reachable_wired hrun
  have hextends {pre : List Action} {n : ℕ} {mid : Connection}
      (hpre : pre ++ [.sendSnapshot n] <+: actions)
      (hmid : run step (start (DockState.run config ops)) pre = some mid) : mid.Extends s :=
    extends_of_prefix hrun ((List.prefix_append pre _).trans hpre) hmid
  rw [converged_iff hwired hsettled]
  constructor
  · intro hqueue pre n mid child hpre hmid hchild
    obtain ⟨push, behind, hsnapshot, rfl, hsplit⟩ :=
      enqueued_sendSnapshot hrun hsettled.queueOpen hpre hmid hchild
    apply (inTime_iff hwired hsettled (reachable_wired hmid) (hextends hpre hmid) hchild hsnapshot
      hsplit).mpr
    exact hqueue mid.enqueued push behind hsplit hsnapshot
  · intro hsteps before push behind hsplit hsnapshot
    obtain ⟨pre, n, mid, hpre, hmid, hchild, rfl⟩ := exists_sendSnapshot hrun hsplit hsnapshot
    apply (inTime_iff hwired hsettled (reachable_wired hmid) (hextends hpre hmid) hchild hsnapshot
      hsplit).mp
    exact hsteps pre n mid push.child hpre hmid hchild

/-- One deck, listed by the query, whose snapshot push comes first. -/
theorem snapshot_converges_first :
    ∃ s, run step (start (DockState.run DockConfig.default []))
        [.dockOp (.attach ⟨0, vendorIdElgato, 0x0080, "A", some .originalMK2⟩ vendorIdElgato 0x0080
          "Stream Deck MK.2"), .query, .sendSnapshot 0, .recv, .send] = some s ∧ s.Converged := by
  have hcheck : (run step (start (DockState.run DockConfig.default []))
        [.dockOp (.attach ⟨0, vendorIdElgato, 0x0080, "A", some .originalMK2⟩ vendorIdElgato 0x0080
          "Stream Deck MK.2"), .query, .sendSnapshot 0, .recv, .send]).map (fun s =>
      decide (s.cursor = s.dock.hotplug.length ∧ s.task.inHand = [] ∧ s.snapshotTasks = [] ∧
        s.queueOpen = true ∧ s.dock.hotplug.drop s.snapshotAt = [])) = some true := by
    decide +kernel
  obtain ⟨s, hrun, hs⟩ := Option.map_eq_some_iff.mp hcheck
  obtain ⟨hreceived, hsent, htasks, hopen, hnone⟩ := of_decide_eq_true hs
  refine ⟨s, hrun, ?_⟩
  apply (snapshot_converges DockConfig.default [] _ s hrun ⟨hreceived, hsent, htasks, hopen⟩).mpr
  intro pre n mid child hpre hmid hchild
  -- no event came after the snapshot
  right
  intro event hevent
  have hextends := extends_of_prefix hrun ((List.prefix_append pre _).trans hpre) hmid
  rw [← snapshotAt_eq (reachable_wired hmid) hextends hchild, hnone] at hevent
  cases hevent

/-- A deck that is listed by the query and unplugged before its snapshot push is
enqueued: the client keeps showing it. -/
theorem snapshot_overtaken :
    ¬ ∀ (config : DockConfig) (ops : List DockOp) (actions : List Action) (s : Connection),
      run step (start (DockState.run config ops)) actions = some s → s.Settled → s.Converged := by
  intro hall
  have hcheck : (run step (start (DockState.run DockConfig.default []))
        [.dockOp (.attach ⟨0, vendorIdElgato, 0x0080, "A", some .originalMK2⟩ vendorIdElgato 0x0080
          "Stream Deck MK.2"), .query, .dockOp (.detach "A"), .recv, .send, .recv, .send,
          .sendSnapshot 0]).map (fun s =>
      decide (s.cursor = s.dock.hotplug.length ∧ s.task.inHand = [] ∧ s.snapshotTasks = [] ∧
        s.queueOpen = true ∧ (∃ payload ∈ s.received, payload.getD 5 0 = 0) ∧
        answer (clientTable s.received) 0 ≠ (queryPayload s.dock 0).drop 4)) = some true := by
    decide +kernel
  obtain ⟨s, hrun, hs⟩ := Option.map_eq_some_iff.mp hcheck
  obtain ⟨hreceived, hsent, htasks, hopen, hpush, hdiffers⟩ := of_decide_eq_true hs
  exact hdiffers (hall DockConfig.default [] _ s hrun ⟨hreceived, hsent, htasks, hopen⟩ 0 hpush)

end Connection

end OpenNetDeck
