import OpenNetDeck.Server.Outgoing
import OpenNetDeck.Server.Sticky

/-!
# A primary connection in Direct mode

What a client of Direct mode gets that it did not ask for. The input reader and the
snapshot look at the mode, `hotplug_task` does not: it pushes the events of the dock
to every client.

## Main definitions

- `DirectSession` — the dock, the receiver of its events and the outgoing side
- `DirectSession.step` — a step of the dock, of a task or of the client
- `DirectSession.Due` — a probe, an answer or an input report

## Main results

- `DirectSession.Quietly.step` — while the dock sends no event, all that is built is due
- `direct_client_undisturbed_iff` — in all runs all that is enqueued is due, exactly if
  the dock sends no event
-/

namespace OpenNetDeck

open DockState Transition

/-- A connection in Direct mode; `cursor` is the number of events that `hotplug_task`
has received, which is `listening` until it misses some. -/
structure DirectSession where
  dock : DockState
  cursor : ℕ
  listening : Bool
  outgoing : Outgoing

namespace DirectSession

/-- A connection to a dock that has been running before. -/
def start (dock : DockState) (connectionId : UInt8) (handler : FrameHandler) :
    Except Checked.Panic DirectSession := do
  let outgoing ← Outgoing.start (.primary connectionId handler)
  return { dock, cursor := dock.hotplug.length, listening := true, outgoing }

theorem start_eq (dock : DockState) (connectionId : UInt8) (handler : FrameHandler) :
    start dock connectionId handler = .ok
      { dock
        cursor := dock.hotplug.length
        listening := true
        outgoing :=
          { endpoint := .primary connectionId handler
            messageSeq := 1
            spawned := 0
            pipe := Pipe.empty.build .main [(keepaliveProbe connectionId 1).toVec] } } := by
  rw [start, Outgoing.start_primary]
  rfl

inductive Action where
  | dockOp (op : DockOp)
  | frame (usb : { usb : UsbInterface // usb.Bounded }) (frame : CoraFrame)
  | tick
  | input (rawReport : { raw : List UInt8 // raw.length < 2 ^ 32 })
  | recv
  | pipe (a : Pipe.Action Producer)

/-- A pass of `hotplug_task`: it ends when the channel has dropped events. -/
def onRecv (s : DirectSession) : Option DirectSession :=
  if s.listening then
    if s.dock.hotplug.length - s.cursor > hotplugCapacity then
      some { s with listening := false }
    else
      match s.dock.hotplug[s.cursor]? with
      | some child => do
        return { s with cursor := s.cursor + 1, outgoing := ← s.outgoing.step (.hotplug child) }
      | none => none
  else none

def step (s : DirectSession) : Action → Option DirectSession
  | .dockOp op => some { s with dock := s.dock.apply op }
  | .frame usb frame => do return { s with outgoing := ← s.outgoing.step (.frame s.dock usb frame) }
  | .tick => do return { s with outgoing := ← s.outgoing.step .tick }
  | .input rawReport => do return { s with outgoing := ← s.outgoing.step (.input rawReport) }
  | .recv => s.onRecv
  | .pipe a => do return { s with outgoing := ← s.outgoing.step (.pipe a) }

/-- The operations on the dock in a run. -/
def dockOps (actions : List Action) : List DockOp :=
  actions.filterMap fun
    | .dockOp op => some op
    | _ => none

/-- A message that a handler in Direct mode sends for the frame. -/
def IsAnswer (frame : CoraFrame) (msg : List UInt8) : Prop :=
  ∃ (handler : FrameHandler) (usb : UsbInterface) (effects : Effects) (handler' : FrameHandler),
    handler.mode = .direct ∧ handler.handleFrame usb frame = .ok (effects, handler') ∧
      msg ∈ effects.sent

/-- What a client should get: probes and answers to its frames of `run`, and the reports
that were read from the device. -/
def Due (actions : List Action) (p : Producer) (msg : List UInt8) : Prop :=
  p = .main ∧ (∃ connectionId messageId, msg = (keepaliveProbe connectionId messageId).toVec) ∨
  p = .main ∧ (∃ usb frame, Action.frame usb frame ∈ actions ∧ IsAnswer frame msg) ∨
  p = .input ∧ ∃ rawReport, Action.input rawReport ∈ actions ∧ msg = (inputFrame rawReport).toVec

/-- All that entered the queue is due. -/
def AllDue (actions : List Action) (s : DirectSession) : Prop :=
  ∀ p msg, (p, msg) ∈ s.outgoing.pipe.enqueued → Due actions p msg

/-- No operation sends an event: none attaches, and none detaches a serial that is in
a slot. -/
def Quiet (dock : DockState) (ops : List DockOp) : Prop :=
  ∀ op ∈ ops, ∃ serial, op = .detach serial ∧ findSerial dock.slots serial = none

theorem Due.mono {actions actions' : List Action} {p : Producer} {msg : List UInt8}
    (h : Due actions p msg) (hsub : actions ⊆ actions') : Due actions' p msg := by
  obtain hprobe | ⟨hp, usb, frame, hframe, hanswer⟩ | ⟨hp, rawReport, hreport, hmsg⟩ := h
  · exact .inl hprobe
  · exact .inr (.inl ⟨hp, usb, frame, hsub hframe, hanswer⟩)
  · exact .inr (.inr ⟨hp, rawReport, hsub hreport, hmsg⟩)

/-! ### While the dock is quiet -/

/-- Operations that send no event change nothing. -/
theorem Quiet.apply {dock : DockState} {ops : List DockOp} (h : Quiet dock ops) {op : DockOp}
    (hop : op ∈ ops) : dock.apply op = dock := by
  obtain ⟨serial, rfl, habsent⟩ := h op hop
  exact detach_of_absent habsent

/-- In Direct mode the handler answers, and starts no task. -/
theorem handle_of_direct {connectionId : UInt8} {handler : FrameHandler} {dock : DockState}
    {usb : UsbInterface} {frame : CoraFrame} {effects : Effects} {endpoint : Endpoint}
    (hmode : handler.mode = .direct)
    (h : (Endpoint.primary connectionId handler).handle dock usb frame = .ok (effects, endpoint)) :
    (∃ handler', endpoint = .primary connectionId handler' ∧ handler'.mode = .direct) ∧
      effects.spawned = [] ∧ ∀ msg ∈ effects.sent, IsAnswer frame msg := by
  obtain ⟨handler', hhandle, rfl⟩ := Endpoint.handle_primary h
  obtain ⟨hspawned, hmode'⟩ :=
    { handler with state := dock }.handleFrame_of_direct usb frame hmode hhandle
  exact ⟨⟨handler', rfl, hmode'⟩, hspawned,
    fun msg hmsg => ⟨{ handler with state := dock }, usb, effects, handler', hmode, hhandle, hmsg⟩⟩

/-- What every step keeps while the dock sends no event. -/
structure Quietly (dock : DockState) (actions : List Action) (s : DirectSession) : Prop where
  dock_eq : s.dock = dock
  cursor_eq : s.cursor = dock.hotplug.length
  direct : ∃ connectionId handler, s.outgoing.endpoint = .primary connectionId handler ∧
    handler.mode = .direct
  framed : s.outgoing.Framed
  due : ∀ p, ∀ msg ∈ s.outgoing.pipe.built p, Due actions p msg

variable {dock : DockState} {actions : List Action} {s s' : DirectSession}

theorem Quietly.allDue (h : Quietly dock actions s) : AllDue actions s :=
  fun p msg hmem => h.due p msg (h.framed.ordered.mem_built hmem)

theorem quietly_start {connectionId : UInt8} {handler : FrameHandler}
    (hmode : handler.mode = .direct) (h : start dock connectionId handler = .ok s) :
    Quietly dock [] s := by
  rw [start_eq] at h
  cases h
  refine ⟨rfl, rfl, ⟨connectionId, handler, rfl, hmode⟩,
    Outgoing.framed_start (Outgoing.start_primary connectionId handler), ?_⟩
  intro p msg hmsg
  obtain hnone | ⟨rfl, hprobe⟩ := Pipe.mem_built_build.mp hmsg
  · cases hnone
  · exact .inl ⟨rfl, connectionId, 1, List.mem_singleton.mp hprobe⟩

/-- A step of the outgoing side that builds only messages that are due. -/
theorem Quietly.outgoing (h : Quietly dock actions s) {a : Action} {b : Outgoing.Action}
    {outgoing : Outgoing} (hstep : s.outgoing.step b = some outgoing)
    (hdirect : ∃ connectionId handler, outgoing.endpoint = .primary connectionId handler ∧
      handler.mode = .direct)
    (hbuilt : ∀ p, ∀ msg ∈ outgoing.pipe.built p,
      msg ∈ s.outgoing.pipe.built p ∨ Due (actions ++ [a]) p msg) :
    Quietly dock (actions ++ [a]) { s with outgoing } := by
  refine ⟨h.dock_eq, h.cursor_eq, hdirect, h.framed.step hstep, ?_⟩
  intro p msg hmsg
  obtain hold | hnew := hbuilt p msg hmsg
  · exact (h.due p msg hold).mono (List.subset_append_left actions [a])
  · exact hnew

/-- While the dock sends no event, all that is built is due. -/
theorem Quietly.step (h : Quietly dock actions s) {a : Action}
    (hquiet : Quiet dock (dockOps [a])) (hstep : s.step a = some s') :
    Quietly dock (actions ++ [a]) s' := by
  obtain ⟨connectionId, handler, hendpoint, hmode⟩ := h.direct
  have hlast : a ∈ actions ++ [a] := List.mem_append_right actions List.mem_cons_self
  cases a with
  | dockOp op =>
    cases hstep
    have hop : op ∈ dockOps [.dockOp op] := List.mem_singleton_self op
    refine ⟨?_, h.cursor_eq, h.direct, h.framed, fun p msg hmsg =>
      (h.due p msg hmsg).mono (List.subset_append_left actions _)⟩
    show s.dock.apply op = dock
    rw [h.dock_eq, hquiet.apply hop]
  | frame usb frame =>
    obtain ⟨outgoing, hout, hs'⟩ := Option.bind_eq_some_iff.mp hstep
    cases hs'
    obtain ⟨-, hframe⟩ := Option.ite_none_right_eq_some.mp hout
    rw [hendpoint] at hframe
    split at hframe
    · next effects endpoint hhandle =>
      obtain ⟨⟨handler', rfl, hmode'⟩, hspawned, hanswers⟩ := handle_of_direct hmode hhandle
      rw [hspawned] at hframe
      cases hframe
      refine h.outgoing hout ⟨connectionId, handler', rfl, hmode'⟩ ?_
      intro p msg hmsg
      obtain hold | ⟨rfl, hnew⟩ := Pipe.mem_built_build.mp hmsg
      · exact .inl hold
      · exact .inr (.inr (.inl ⟨rfl, usb, frame, hlast, hanswers msg hnew⟩))
    · cases hframe
  | tick =>
    obtain ⟨outgoing, hout, hs'⟩ := Option.bind_eq_some_iff.mp hstep
    cases hs'
    obtain ⟨-, htick⟩ := Option.ite_none_right_eq_some.mp hout
    simp only [Endpoint.sendProbe_eq] at htick
    cases htick
    refine h.outgoing hout ⟨connectionId, handler, hendpoint, hmode⟩ ?_
    intro p msg hmsg
    obtain hold | ⟨rfl, hprobe⟩ := Pipe.mem_built_build.mp hmsg
    · exact .inl hold
    · exact .inr (.inl ⟨rfl, _, _, List.mem_singleton.mp hprobe⟩)
  | input rawReport =>
    obtain ⟨outgoing, hout, hs'⟩ := Option.bind_eq_some_iff.mp hstep
    cases hs'
    obtain ⟨-, hinput⟩ := Option.ite_none_right_eq_some.mp hout
    cases hinput
    refine h.outgoing hout ⟨connectionId, handler, hendpoint, hmode⟩ ?_
    intro p msg hmsg
    obtain hold | ⟨rfl, hreport⟩ := Pipe.mem_built_build.mp hmsg
    · exact .inl hold
    · exact .inr (.inr (.inr ⟨rfl, rawReport, hlast, List.mem_singleton.mp hreport⟩))
  | recv =>
    -- there is no event behind the cursor
    have hnone : s.dock.hotplug[s.cursor]? = none := by
      rw [h.dock_eq, h.cursor_eq]
      exact List.getElem?_eq_none le_rfl
    have hlag : ¬ s.dock.hotplug.length - s.cursor > hotplugCapacity := by
      rw [h.dock_eq, h.cursor_eq, Nat.sub_self]
      exact Nat.not_lt_zero _
    change s.onRecv = some s' at hstep
    rw [onRecv, hnone, if_neg hlag] at hstep
    split at hstep
    · cases hstep
    · cases hstep
  | pipe a =>
    obtain ⟨outgoing, hout, hs'⟩ := Option.bind_eq_some_iff.mp hstep
    cases hs'
    obtain ⟨pipe, hpipe, hout'⟩ := Option.bind_eq_some_iff.mp hout
    cases hout'
    refine h.outgoing hout ⟨connectionId, handler, hendpoint, hmode⟩ ?_
    intro p msg hmsg
    rw [Pipe.built_step hpipe] at hmsg
    exact .inl hmsg

theorem quietly_run {s₀ : DirectSession} (hstart : Quietly dock [] s₀)
    (hquiet : Quiet dock (dockOps actions)) (hrun : run step s₀ actions = some s) :
    Quietly dock actions s := by
  induction actions using List.reverseRecOn generalizing s with
  | nil =>
    cases hrun
    exact hstart
  | append_singleton actions a ih =>
    obtain ⟨mid, hmid, hstep⟩ := run_concat_eq_some hrun
    rw [dockOps, List.filterMap_append] at hquiet
    have hbefore : Quiet dock (dockOps actions) :=
      fun op hop => hquiet op (List.mem_append_left _ hop)
    have hnow : Quiet dock (dockOps [a]) := fun op hop => hquiet op (List.mem_append_right _ hop)
    exact (ih hbefore hmid).step hnow hstep

/-! ### When the dock sends an event -/

theorem dockOps_map (ops : List DockOp) : dockOps (ops.map .dockOp) = ops := by
  rw [dockOps, List.filterMap_map]
  exact List.filterMap_some

theorem run_quiet {ops : List DockOp} (hquiet : Quiet s.dock ops) :
    run step s (ops.map .dockOp) = some s := by
  induction ops with
  | nil => rfl
  | cons op ops ih =>
    have hsame : s.step (.dockOp op) = some s := by
      rw [step, hquiet.apply List.mem_cons_self]
    rw [List.map_cons, run_cons, hsame]
    exact ih fun op hop => hquiet op (List.mem_cons_of_mem _ hop)

/-- All other operations send an event. -/
theorem hotplug_apply_of_not_quiet {op : DockOp} (h : ¬ Quiet dock [op]) :
    ∃ child, (dock.apply op).hotplug = dock.hotplug ++ [child] := by
  cases op with
  | attach device vid pid modelName => exact ⟨_, rfl⟩
  | detach serial =>
    cases hfind : findSerial dock.slots serial with
    | none => exact absurd (List.forall_mem_singleton.mpr ⟨serial, rfl, hfind⟩) h
    | some found =>
      rw [apply, detach_of_found hfind]
      exact ⟨_, rfl⟩

/-- The event is pushed, whatever the mode. -/
theorem exists_push {connectionId : UInt8} {handler : FrameHandler} {s₀ : DirectSession}
    (hstart : start dock connectionId handler = .ok s₀) {op : DockOp} {child : ChildDeviceInfo}
    (hevent : (dock.apply op).hotplug = dock.hotplug ++ [child]) :
    ∃ s, run step s₀ [.dockOp op, .recv, .pipe (.send .hotplug)] = some s ∧
      (Producer.hotplug, (Connection.pushFrame child).toVec) ∈ s.outgoing.pipe.enqueued := by
  rw [start_eq] at hstart
  cases hstart
  have hnext : (dock.apply op).hotplug[dock.hotplug.length]? = some child := by
    rw [hevent, List.getElem?_concat_length]
  have hlag : ¬ (dock.apply op).hotplug.length - dock.hotplug.length > hotplugCapacity := by
    rw [hevent, List.length_append, Nat.add_sub_cancel_left, List.length_singleton]
    decide
  rw [run_cons, step, Option.bind_some, run_cons, step, onRecv]
  simp only [if_true, if_neg hlag, hnext, Outgoing.step, Connection.hotplugFrame_toVec]
  exact ⟨_, rfl, List.mem_singleton_self _⟩

end DirectSession

open DirectSession

/-- **Unsolicited traffic of Direct mode**: all that enters the queue of a connection in
Direct mode is a probe, an answer to a frame of the client or a report of the
device, in every run that takes the dock through a list of operations or the first of
them, if and only if none of the operations sends an event. -/
theorem direct_client_undisturbed_iff (dock : DockState) (connectionId : UInt8)
    (handler : FrameHandler) (hmode : handler.mode = .direct) (s₀ : DirectSession)
    (hstart : DirectSession.start dock connectionId handler = .ok s₀) (ops : List DockOp) :
    (∀ actions s, dockOps actions <+: ops → run DirectSession.step s₀ actions = some s →
      s.AllDue actions) ↔ Quiet dock ops := by
  have hquietly := quietly_start hmode hstart
  constructor
  · intro hdue
    induction ops using List.reverseRecOn with
    | nil => exact List.forall_mem_nil _
    | append_singleton ops op ih =>
      have hbefore : Quiet dock ops := ih fun actions s hops =>
        hdue actions s (hops.trans (List.prefix_append ops [op]))
      by_contra hnot
      have hop : ¬ Quiet dock [op] :=
        fun hop => hnot (List.forall_mem_append.mpr ⟨hbefore, hop⟩)
      obtain ⟨child, hevent⟩ := hotplug_apply_of_not_quiet hop
      obtain ⟨s, hrun, hpush⟩ := exists_push hstart hevent
      have hsame : run DirectSession.step s₀ (ops.map .dockOp) = some s₀ :=
        run_quiet (hquietly.dock_eq ▸ hbefore)
      have hall := hdue (ops.map .dockOp ++ [.dockOp op, .recv, .pipe (.send .hotplug)]) s
        (by rw [dockOps, List.filterMap_append, ← dockOps, dockOps_map]; exact List.prefix_rfl)
        (by rw [run_append, hsame]; exact hrun)
      obtain ⟨hmain, -⟩ | ⟨hmain, -⟩ | ⟨hinput, -⟩ := hall _ _ hpush
      · cases hmain
      · cases hmain
      · cases hinput
  · intro hquiet actions s hops hrun
    have hops' : Quiet dock (dockOps actions) := fun op hop => hquiet op (hops.subset hop)
    exact (quietly_run hquietly hops' hrun).allDue

/-- A serial is detached that is in no slot. -/
theorem direct_client_undisturbed_iff_absent :
    ∃ s₀, DirectSession.start directHandler.state 7 directHandler = .ok s₀ ∧
      ((∀ actions s, dockOps actions <+: [.detach "A"] →
          run DirectSession.step s₀ actions = some s → s.AllDue actions) ↔
        Quiet directHandler.state [.detach "A"]) :=
  ⟨_, start_eq _ _ _,
    direct_client_undisturbed_iff directHandler.state 7 directHandler rfl _ (start_eq _ _ _)
      [.detach "A"]⟩

/-- A deck is attached while a client of Direct mode is connected, and the client gets
a push. -/
theorem direct_client_disturbed :
    ∃ s₀ s msg, DirectSession.start directHandler.state 7 directHandler = .ok s₀ ∧
      run DirectSession.step s₀ [.dockOp (plugIn "A"), .recv, .pipe (.send .hotplug)] = some s ∧
      (Producer.hotplug, msg) ∈ s.outgoing.pipe.enqueued ∧
      (msg.drop 16).take 2 = [0x01, 0x0b] := by
  have hstart := start_eq directHandler.state 7 directHandler
  have hevent : (directHandler.state.apply (plugIn "A")).hotplug =
      directHandler.state.hotplug ++
        [.connected 0 vendorIdElgato 0x0080 "Stream Deck" "A" 5344] := rfl
  obtain ⟨s, hrun, hpush⟩ := exists_push hstart hevent
  exact ⟨_, s, _, hstart, hrun, hpush, by decide +kernel⟩

end OpenNetDeck
