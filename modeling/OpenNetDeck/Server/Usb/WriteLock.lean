import OpenNetDeck.Lib.Mutex
import OpenNetDeck.Server.DeviceCalls

/-!
# The write lock of a deck

The methods of the USB handle as the requests that they make of the interface one by one,
under `write_lock`. The connections of a deck share its handle, and each calls the
methods as its frames are due; in between, the others do. A method that panics drops its
guard of the lock, and its connection handles no more frames.

## Main definitions

- `UsbCall.program` — the requests of a method
- `SharedDeck.step` — a connection handles a frame, or a call goes on

## Main results

- `UsbCall.eval_program` — with an interface that answers every request alike, the
  methods return what they are modelled to return
- `deck_asked_one_call_at_a_time` — the interface is asked by one call after the other,
  and by those of a connection in the order of its frames
-/

namespace OpenNetDeck

open Checked Transition

/-- A request to the interface. -/
inductive UsbRequest where
  | controlIn (control : ControlIn)
  | controlOut (control : ControlOut)
  | openEndpoint (addr : UInt8)
  | submit (addr : UInt8) (data : List UInt8)
  | closeEndpoint (addr : UInt8)
  deriving DecidableEq

/-- What the interface answers. An endpoint that cannot be opened gives an error code. -/
def UsbRequest.Answer : UsbRequest → Type
  | controlIn _ => Except TransferError (List UInt8)
  | controlOut _ => Except TransferError Unit
  | openEndpoint _ => Except ℕ Unit
  | submit _ _ => Except TransferError Unit
  | closeEndpoint _ => Unit

instance (o : UsbRequest) : Nonempty o.Answer :=
  match o with
  | .controlIn _ => ⟨.ok []⟩
  | .controlOut _ => ⟨.ok ()⟩
  | .openEndpoint _ => ⟨.ok ()⟩
  | .submit _ _ => ⟨.ok ()⟩
  | .closeEndpoint _ => ⟨()⟩

abbrev UsbProgram := Program UsbRequest.Answer

/-- What a method with nothing to return comes to. -/
abbrev UsbOutcome := Except Panic (Except UsbDeviceError Unit)

/-- A control transfer, and its error as that of a method. Nothing is asked when the data is
too long for one. -/
def ControlOut.program (control : ControlOut) : UsbProgram UsbOutcome :=
  if control.data.length < 2 ^ 16 then
    .ask (.controlOut control) fun
      | .ok _ => .done (.ok (.ok ()))
      | .error e => .done (.ok (.error (.transfer e)))
  else .done (.error .lengthOverflow)

/-- A transfer to an endpoint that is open; it is closed behind it. -/
def transferOut (addr : UInt8) (data : List UInt8) : UsbProgram UsbOutcome :=
  .ask (.submit addr data) fun completion =>
    .ask (.closeEndpoint addr) fun _ =>
      match completion with
      | .ok _ => .done (.ok (.ok ()))
      | .error e => .done (.ok (.error (.transfer e)))

namespace UsbCall

/-- What a method returns when there is no error. -/
def Returned : UsbCall → Type
  | getFeatureReport _ _ => List UInt8
  | setFeatureReport _ => Unit
  | writeOut _ => Unit

/-- What a method comes to. -/
abbrev Outcome (call : UsbCall) := Except Panic (Except UsbDeviceError call.Returned)

/-- The requests of a method under the lock. One with nothing to send returns at once. -/
def program (epOutAddr : Option UInt8) : (call : UsbCall) → Option (UsbProgram call.Outcome)
  | getFeatureReport reportId length =>
    let control : ControlIn :=
      { request := 0x01
        value := ((0x03 : UInt16) <<< 8) ||| reportId.toUInt16
        index := 0
        length := UInt16.ofNat (max length 32) }
    some (.ask (.controlIn control) fun
      | .ok bytes => .done (.ok (.ok bytes))
      | .error e => .done (.ok (.error (.transfer e))))
  | setFeatureReport [] => none
  | setFeatureReport (reportId :: data) =>
    some (ControlOut.program
      { request := 0x09
        value := ((0x03 : UInt16) <<< 8) ||| reportId.toUInt16
        index := 0
        data := reportId :: data })
  | writeOut [] => none
  | writeOut (first :: data) =>
    match epOutAddr with
    | some addr =>
      some (.ask (.openEndpoint addr) fun
        | .ok _ => transferOut addr (first :: data)
        -- an endpoint that does not open is tried once more
        | .error _ => .ask (.openEndpoint addr) fun
          | .ok _ => transferOut addr (first :: data)
          | .error code => .done (.ok (.error (.device code))))
    | none =>
      some (ControlOut.program
        { request := 0x09
          value := ((0x02 : UInt16) <<< 8) ||| first.toUInt16
          index := 0
          data := first :: data })

end UsbCall

/-! ### Methods that are not interrupted -/

namespace UsbInterface

/-- An interface that answers a request in one way. -/
def ofAnswers (epOutAddr : Option UInt8) (answer : ∀ o, UsbRequest.Answer o) : UsbInterface where
  epOutAddr
  controlIn control := answer (.controlIn control)
  setupOut control := answer (.controlOut control)
  writeEndpoint addr data :=
    match answer (.openEndpoint addr) with
    | .ok _ =>
      match answer (.submit addr data) with
      | .ok _ => .ok ()
      | .error e => .error (.transfer e)
    | .error code => .error (.device code)

/-- The method that is called. -/
def perform (self : UsbInterface) : (call : UsbCall) → call.Outcome
  | .getFeatureReport reportId length => .ok (self.getFeatureReport reportId length)
  | .setFeatureReport data => self.setFeatureReport data
  | .writeOut data => self.writeOut data

end UsbInterface

theorem ControlOut.eval_program (answer : ∀ o, UsbRequest.Answer o) (control : ControlOut) :
    control.program.eval answer =
      if control.data.length < 2 ^ 16 then
        match answer (.controlOut control) with
        | .ok _ => .ok (.ok ())
        | .error e => .ok (.error (.transfer e))
      else .error .lengthOverflow := by
  rw [program]
  split
  · rw [Program.eval]
    rcases answer (.controlOut control) with e | _ <;> rfl
  · rfl

theorem eval_transferOut (answer : ∀ o, UsbRequest.Answer o) (addr : UInt8) (data : List UInt8) :
    (transferOut addr data).eval answer =
      match answer (.submit addr data) with
      | .ok _ => .ok (.ok ())
      | .error e => .ok (.error (.transfer e)) := by
  rw [transferOut, Program.eval, Program.eval]
  rcases answer (.submit addr data) with e | _ <;> rfl

/-- The requests of a method come to what the method returns. -/
theorem UsbCall.eval_program {epOutAddr : Option UInt8} (answer : ∀ o, UsbRequest.Answer o)
    {call : UsbCall} {p : UsbProgram call.Outcome} (h : call.program epOutAddr = some p) :
    p.eval answer = (UsbInterface.ofAnswers epOutAddr answer).perform call := by
  cases call with
  | getFeatureReport reportId length =>
    cases h
    unfold UsbInterface.perform UsbInterface.getFeatureReport UsbInterface.ofAnswers
    unfold Program.eval
    dsimp only
    rcases answer (.controlIn _) with e | bytes <;> rfl
  | setFeatureReport data =>
    cases data with
    | nil => cases h
    | cons reportId data =>
      cases h
      refine (ControlOut.eval_program answer _).trans ?_
      unfold UsbInterface.perform UsbInterface.setFeatureReport UsbInterface.controlOut
        UsbInterface.ofAnswers
      dsimp only
      split
      · rcases answer (.controlOut _) with e | _ <;> rfl
      · rfl
  | writeOut data =>
    cases data with
    | nil => cases h
    | cons first data =>
      cases epOutAddr with
      | none =>
        cases h
        refine (ControlOut.eval_program answer _).trans ?_
        unfold UsbInterface.perform UsbInterface.writeOut UsbInterface.controlOut
          UsbInterface.ofAnswers
        dsimp only
        split
        · rcases answer (.controlOut _) with e | _ <;> rfl
        · rfl
      | some addr =>
        cases h
        unfold UsbInterface.perform UsbInterface.writeOut UsbInterface.ofAnswers Program.eval
        dsimp only
        rcases hopen : answer (.openEndpoint addr) with code | _
        · -- the second try fails as the first one did
          unfold Program.eval
          rw [hopen]
          rfl
        · refine (eval_transferOut answer addr (first :: data)).trans ?_
          dsimp only
          rcases answer (.submit addr (first :: data)) with e | _ <;> rfl

/-! ### The OUT endpoint -/

/-- How many endpoints an answer leaves open. -/
def opens : Exchange UsbRequest.Answer → ℤ
  | ⟨.openEndpoint _, .ok _⟩ => 1
  | ⟨.closeEndpoint _, _⟩ => -1
  | _ => 0

def openings : Traffic UsbRequest.Answer → ℤ
  | .asked _ => 0
  | .answered x => opens x

/-- The endpoints that are open after what an interface has seen. -/
def endpointsOpen {ι : Type*} (trace : List (ι × Traffic UsbRequest.Answer)) : ℤ :=
  (trace.map fun e => openings e.2).sum

/-- The program has ended, or opens an endpoint next. -/
def Shut {α : Type} : UsbProgram α → Prop
  | .done _ => True
  | .ask (.openEndpoint _) _ => True
  | _ => False

/-- With so many endpoints open, a program has closed them all when it ends or opens
another one. -/
def Closes {α : Type} (n : ℤ) (p : UsbProgram α) : Prop :=
  ∀ xs q, p.After xs q → Shut q → n + (xs.map opens).sum = 0

theorem closes_done {α : Type} (a : α) : Closes 0 (.done a : UsbProgram α) := by
  intro xs q hafter _
  obtain ⟨rfl, -⟩ := hafter.of_done
  rfl

theorem closes_ask {α : Type} {n : ℤ} {o : UsbRequest} {next : o.Answer → UsbProgram α}
    (hshut : Shut (.ask o next) → n = 0) (hnext : ∀ r, Closes (n + opens ⟨o, r⟩) (next r)) :
    Closes n (.ask o next) := by
  intro xs q hafter hq
  obtain ⟨rfl, rfl⟩ | ⟨r, ys, rfl, hys⟩ := hafter.of_ask
  · rw [hshut hq]
    rfl
  · rw [List.map_cons, List.sum_cons, ← add_assoc]
    exact hnext r ys q hys hq

theorem closes_controlOut (control : ControlOut) : Closes 0 control.program := by
  rw [ControlOut.program]
  split
  · refine closes_ask (fun _ => rfl) fun r => ?_
    cases r with
    | ok _ => exact closes_done _
    | error _ => exact closes_done _
  · exact closes_done _

theorem closes_transferOut (addr : UInt8) (data : List UInt8) :
    Closes 1 (transferOut addr data) := by
  refine closes_ask False.elim fun completion => closes_ask False.elim fun _ => ?_
  cases completion with
  | ok _ => exact closes_done _
  | error _ => exact closes_done _

/-- Every method closes what it opens. -/
theorem UsbCall.closes_program {epOutAddr : Option UInt8} {call : UsbCall}
    {p : UsbProgram call.Outcome} (h : call.program epOutAddr = some p) : Closes 0 p := by
  cases call with
  | getFeatureReport reportId length =>
    cases h
    refine closes_ask (fun _ => rfl) fun r => ?_
    cases r with
    | ok _ => exact closes_done _
    | error _ => exact closes_done _
  | setFeatureReport data =>
    cases data with
    | nil => cases h
    | cons reportId data =>
      cases h
      exact closes_controlOut _
  | writeOut data =>
    cases data with
    | nil => cases h
    | cons first data =>
      cases epOutAddr with
      | none =>
        cases h
        exact closes_controlOut _
      | some addr =>
        cases h
        refine closes_ask (fun _ => rfl) fun r => ?_
        cases r with
        | ok _ => exact closes_transferOut addr _
        | error _ =>
          refine closes_ask (fun _ => rfl) fun r => ?_
          cases r with
          | ok _ => exact closes_transferOut addr _
          | error _ => exact closes_done _

/-! ### The connections of a deck -/

/-- The lock with the calls of the connections, and the frames that they handled. -/
structure SharedDeck (ι : Type*) where
  lock : Mutex ι UsbRequest.Answer UsbCall.Outcome
  heard : ι → List CoraFrame

namespace SharedDeck

variable {ι : Type*} [DecidableEq ι]

def start : SharedDeck ι where
  lock := .empty
  heard := fun _ => []

inductive Action (ι : Type*) where
  | frame (i : ι) (frame : CoraFrame)
  | usb (a : Mutex.Action ι UsbCall UsbRequest.Answer)

/-- None of a connection's calls has panicked or is going to. -/
def Listens (epOutAddr : Option UInt8) (self : SharedDeck ι) (i : ι) : Prop :=
  ∀ call ∈ self.lock.made i, ¬ call.Overlong epOutAddr

instance (epOutAddr : Option UInt8) (self : SharedDeck ι) :
    DecidablePred (self.Listens epOutAddr) := fun i =>
  inferInstanceAs (Decidable (∀ call ∈ self.lock.made i, ¬ call.Overlong epOutAddr))

/-- A connection handles a frame, and makes the calls that the frame is due; no call is
made but for a frame. -/
def step (endpoints : ι → Endpoint) (epOutAddr : Option UInt8) (self : SharedDeck ι) :
    Action ι → Option (SharedDeck ι)
  | .frame i frame =>
    if self.Listens epOutAddr i then
      (self.lock.step (UsbCall.program epOutAddr) (.make i ((endpoints i).told frame))).map
        fun lock =>
          { lock, heard := Function.update self.heard i (self.heard i ++ [frame]) }
    else none
  | .usb (.make _ _) => none
  | .usb a => (self.lock.step (UsbCall.program epOutAddr) a).map fun lock => { self with lock }

variable {endpoints : ι → Endpoint} {epOutAddr : Option UInt8} {s s' : SharedDeck ι}

theorem step_usb {a : Mutex.Action ι UsbCall UsbRequest.Answer}
    (h : ∀ i calls, a ≠ .make i calls) :
    s.step endpoints epOutAddr (.usb a) =
      (s.lock.step (UsbCall.program epOutAddr) a).map fun lock => { s with lock } := by
  cases a with
  | make i calls => exact absurd rfl (h i calls)
  | _ => rfl

/-- Every step is one of the lock. -/
theorem step_cases {a : Action ι} (h : s.step endpoints epOutAddr a = some s') :
    (∃ i frame, s.Listens epOutAddr i ∧
      s'.heard = Function.update s.heard i (s.heard i ++ [frame]) ∧
      s.lock.step (UsbCall.program epOutAddr) (.make i ((endpoints i).told frame)) =
        some s'.lock) ∨
    ∃ a, (∀ i calls, a ≠ .make i calls) ∧ s'.heard = s.heard ∧
      s.lock.step (UsbCall.program epOutAddr) a = some s'.lock := by
  cases a with
  | frame i frame =>
    rw [step] at h
    split at h
    · next hlistens =>
      obtain ⟨lock, hlock, rfl⟩ := Option.map_eq_some_iff.mp h
      exact .inl ⟨i, frame, hlistens, rfl, hlock⟩
    · cases h
  | usb a =>
    have hmake : ∀ i calls, a ≠ .make i calls := by
      rintro i calls rfl
      cases h
    rw [step_usb hmake] at h
    obtain ⟨lock, hlock, rfl⟩ := Option.map_eq_some_iff.mp h
    exact .inr ⟨a, hmake, rfl, hlock⟩

/-- What every step keeps. -/
structure InTurn (endpoints : ι → Endpoint) (epOutAddr : Option UInt8) (s : SharedDeck ι) :
    Prop where
  serial : s.lock.Serial (UsbCall.program epOutAddr)
  made : ∀ i, s.lock.made i = (s.heard i).flatMap (endpoints i).told
  shut : ∀ pre i addr, pre ++ [(i, .asked (.openEndpoint addr))] <+: s.lock.trace →
    endpointsOpen pre = 0

theorem sum_events (xs : List (Exchange UsbRequest.Answer)) :
    ((Exchange.events xs).map openings).sum = (xs.map opens).sum := by
  induction xs with
  | nil => rfl
  | cons x xs ih =>
    rw [Exchange.events] at ih
    rw [Exchange.events, List.flatMap_cons, List.map_append, List.sum_append, ih]
    simp [openings]

/-- The endpoints that are open are those of the call that holds the lock. -/
theorem endpointsOpen_trace (h : s.lock.Serial (UsbCall.program epOutAddr)) :
    endpointsOpen s.lock.trace =
      (s.lock.holder.toList.flatMap fun h => h.exchanges.map opens).sum := by
  have hends : ∀ (call : UsbCall) p xs, call.program epOutAddr = some p → p.Ends xs →
      ((Exchange.events xs).map openings).sum = 0 := by
    rintro call p xs hp ⟨a, hafter⟩
    have hclosed := UsbCall.closes_program hp xs _ hafter trivial
    rwa [zero_add, ← sum_events] at hclosed
  -- what the calls that have returned opened is closed
  refine (h.sum_trace openings hends).trans ?_
  cases s.lock.holder with
  | none => rfl
  | some holder =>
    rw [Option.toList_some, List.flatMap_singleton, List.flatMap_singleton, Holder.trace,
      List.map_append, List.sum_append, sum_events]
    split <;> simp [openings]

theorem InTurn.step (h : s.InTurn endpoints epOutAddr) {a : Action ι}
    (hstep : s.step endpoints epOutAddr a = some s') : s'.InTurn endpoints epOutAddr := by
  obtain ⟨i, frame, -, hheard, hlock⟩ | ⟨a, hmake, hheard, hlock⟩ := step_cases hstep
  -- a frame makes its calls, and the deck sees nothing of it yet
  · have hserial := h.serial.step hlock
    have hnext := Option.some.inj hlock
    refine ⟨hserial, ?_, ?_⟩
    · intro j
      rw [hheard, ← hnext]
      show Function.update s.lock.made i _ j = _
      by_cases hj : j = i
      · subst hj
        rw [Function.update_self, Function.update_self, h.made j, List.flatMap_append,
          List.flatMap_singleton]
      · rw [Function.update_of_ne hj, Function.update_of_ne hj]
        exact h.made j
    · rw [← hnext]
      exact h.shut
  -- a step of the lock
  · have hserial := h.serial.step hlock
    refine ⟨hserial, ?_, ?_⟩
    · intro j
      rw [hheard, Mutex.made_step hlock hmake]
      exact h.made j
    · intro pre i addr hpre
      obtain hsame | ⟨j, call, xs, o, next, hholder, htrace⟩ | ⟨j, x, htrace⟩ :=
        Mutex.trace_step hlock
      · rw [hsame] at hpre
        exact h.shut pre i addr hpre
      · rw [htrace, List.prefix_concat_iff] at hpre
        obtain hlast | hpre := hpre
        · obtain ⟨hfront, hnew⟩ := List.append_inj' hlast rfl
          subst hfront
          cases hnew
          -- the call that opens the endpoint has closed what it opened before
          obtain ⟨p, hp, hafter⟩ := h.serial.holder _ hholder
          have hclosed := UsbCall.closes_program hp xs _ hafter trivial
          rw [endpointsOpen_trace h.serial, hholder, Option.toList_some, List.flatMap_singleton,
            ← zero_add (List.sum _)]
          exact hclosed
        · exact h.shut pre i addr hpre
      · rw [htrace, List.prefix_concat_iff] at hpre
        obtain hlast | hpre := hpre
        · cases (List.append_inj' hlast rfl).2
        · exact h.shut pre i addr hpre

theorem inTurn_run {actions : List (Action ι)}
    (hrun : run (step endpoints epOutAddr) .start actions = some s) :
    s.InTurn endpoints epOutAddr := by
  refine run_invariant (I := InTurn endpoints epOutAddr) (fun _ _ _ h => h.step) ?_ hrun
  refine ⟨Mutex.serial_empty _, fun _ => rfl, ?_⟩
  rintro pre i addr ⟨post, hpre⟩
  simp [start, Mutex.empty] at hpre

end SharedDeck

open SharedDeck

/-- **A deck is asked one call after the other**: however the connections of a deck get
in each other's way, the interface has seen the requests of whole calls, each as its
method makes them and none between those of another, and then those of the call that
holds the lock. A connection's calls come in the order of its frames, the OUT endpoint is
never opened while it is open, and while a call is waited for there is one that can go
on. -/
theorem deck_asked_one_call_at_a_time {ι : Type*} [DecidableEq ι] (endpoints : ι → Endpoint)
    (epOutAddr : Option UInt8) (actions : List (SharedDeck.Action ι)) (s : SharedDeck ι)
    (hrun : run (SharedDeck.step endpoints epOutAddr) .start actions = some s) :
    s.lock.trace =
      (s.lock.returned.flatMap fun d => (Exchange.events d.2.2).map (d.1, ·)) ++
        s.lock.holder.toList.flatMap (fun h => h.trace.map (h.task, ·)) ∧
    (∀ d ∈ s.lock.returned, ∃ p, d.2.1.program epOutAddr = some p ∧ p.Ends d.2.2) ∧
    (∀ h, s.lock.holder = some h →
      ∃ p, h.call.program epOutAddr = some p ∧ p.After h.exchanges h.left) ∧
    (∀ i, (s.lock.locked.filter (·.1 = i)).map (·.2) <+:
      ((s.heard i).flatMap (endpoints i).told).filter fun call =>
        (call.program epOutAddr).isSome) ∧
    (∀ pre i addr, pre ++ [(i, .asked (.openEndpoint addr))] <+: s.lock.trace →
      endpointsOpen pre = 0) ∧
    ((s.lock.holder ≠ none ∨ ∃ i, s.lock.todo i ≠ []) →
      ∃ a, (s.step endpoints epOutAddr (.usb a)).isSome) := by
  have h := inTurn_run hrun
  refine ⟨h.serial.trace, h.serial.returned, h.serial.holder, fun i => ?_, h.shut, fun hwaits => ?_⟩
  · rw [← h.made i]
    exact ⟨_, h.serial.order i⟩
  · obtain ⟨a, ha, hmake⟩ : ∃ a, (s.lock.step (UsbCall.program epOutAddr) a).isSome ∧
        ∀ i calls, a ≠ .make i calls := Mutex.progress hwaits
    refine ⟨a, ?_⟩
    rw [step_usb hmake, Option.isSome_map]
    exact ha

/-- Two clients write to one deck; the first has opened the endpoint, and the second has
to wait. -/
theorem deck_asked_one_call_at_a_time_two :
    ∃ s, run (SharedDeck.step (fun _ : Bool => .secondary ⟨0, vendorIdElgato, 0x0080, "A", none⟩)
        (some 0x02)) .start
        [.frame true (CoraFrame.new (CoraHeader.new CoraFlags.none .write 0 2) [0x02, 0x07]),
          .frame false (CoraFrame.new (CoraHeader.new CoraFlags.none .write 0 2) [0x02, 0x08]),
          .usb (.lock true), .usb .ask, .usb (.answer ⟨.openEndpoint 0x02, .ok ()⟩)] = some s ∧
      (s.step (fun _ : Bool => .secondary ⟨0, vendorIdElgato, 0x0080, "A", none⟩) (some 0x02)
        (.usb (.lock false))).isSome = false ∧
      ∃ a, (s.step (fun _ : Bool => .secondary ⟨0, vendorIdElgato, 0x0080, "A", none⟩) (some 0x02)
        (.usb a)).isSome := by
  have hcheck : (run (SharedDeck.step
      (fun _ : Bool => .secondary ⟨0, vendorIdElgato, 0x0080, "A", none⟩) (some 0x02)) .start
      [.frame true (CoraFrame.new (CoraHeader.new CoraFlags.none .write 0 2) [0x02, 0x07]),
        .frame false (CoraFrame.new (CoraHeader.new CoraFlags.none .write 0 2) [0x02, 0x08]),
        .usb (.lock true), .usb .ask, .usb (.answer ⟨.openEndpoint 0x02, .ok ()⟩)]).map (fun s =>
        ((s.step (fun _ : Bool => .secondary ⟨0, vendorIdElgato, 0x0080, "A", none⟩) (some 0x02)
          (.usb (.lock false))).isSome, s.lock.holder.isSome)) = some (false, true) := by
    decide +kernel
  obtain ⟨s, hrun, hs⟩ := Option.map_eq_some_iff.mp hcheck
  obtain ⟨hwaits, hholder⟩ := Prod.mk.inj hs
  have hheld : s.lock.holder ≠ none := Option.isSome_iff_ne_none.mp hholder
  obtain ⟨-, -, -, -, -, hprogress⟩ := deck_asked_one_call_at_a_time _ _ _ s hrun
  exact ⟨s, hrun, hwaits, hprogress (.inl hheld)⟩

end OpenNetDeck
