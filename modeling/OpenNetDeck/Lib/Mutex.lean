import OpenNetDeck.Lib.Transition

/-!
# Programs under a lock

Tasks that make calls, each a program that asks a shared resource and goes on with its
answers. A call holds the lock of the resource until its program is done; a call without
a program returns without the lock.

## Main definitions

- `Program` — a program that asks, `Program.eval` its value, `Program.After` what is left
  of it after some answers
- `Mutex.step` — a task makes calls, takes the lock, or goes on with its call

## Main results

- `Mutex.Serial.step` — the resource is asked by one call after the other, and by the
  calls of a task in the order in which it makes them
- `Mutex.Serial.sum_trace` — what the calls open and close again is open only for the
  call that holds the lock
- `Mutex.progress` — a call that is made can go on
-/

/-- A program that asks questions, of which the answers decide how it goes on. -/
inductive Program {ω : Type*} (ρ : ω → Type*) (α : Type*) where
  | done (a : α)
  | ask (o : ω) (next : ρ o → Program ρ α)

/-- A question with its answer. -/
abbrev Exchange {ω : Type*} (ρ : ω → Type*) := (o : ω) × ρ o

/-- What the resource sees. -/
inductive Traffic {ω : Type*} (ρ : ω → Type*) where
  | asked (o : ω)
  | answered (x : Exchange ρ)

/-- The question, if it is one. -/
def Traffic.question {ω : Type*} {ρ : ω → Type*} : Traffic ρ → Option ω
  | asked o => some o
  | answered _ => none

namespace Program

variable {ω : Type*} {ρ : ω → Type*} {α : Type*}

/-- The value, where every question has one answer. -/
def eval (answer : ∀ o, ρ o) : Program ρ α → α
  | done a => a
  | ask o next => (next (answer o)).eval answer

/-- What is left of a program after some exchanges. -/
inductive After (p : Program ρ α) : List (Exchange ρ) → Program ρ α → Prop
  | refl : After p [] p
  | step {xs : List (Exchange ρ)} {o : ω} {next : ρ o → Program ρ α} (r : ρ o) :
    After p xs (ask o next) → After p (xs ++ [⟨o, r⟩]) (next r)

/-- A program that has asked goes on with the answer to its first question. -/
theorem After.of_ask {o : ω} {next : ρ o → Program ρ α} {xs : List (Exchange ρ)}
    {q : Program ρ α} (h : (ask o next).After xs q) :
    xs = [] ∧ q = ask o next ∨ ∃ r ys, xs = ⟨o, r⟩ :: ys ∧ (next r).After ys q := by
  induction h with
  | refl => exact .inl ⟨rfl, rfl⟩
  | step r _ ih =>
    obtain ⟨rfl, heq⟩ | ⟨r', ys, rfl, hys⟩ := ih
    · cases heq
      exact .inr ⟨r, [], rfl, .refl⟩
    · exact .inr ⟨r', ys ++ [⟨_, r⟩], rfl, hys.step r⟩

theorem After.of_done {a : α} {xs : List (Exchange ρ)} {q : Program ρ α}
    (h : (done a).After xs q) : xs = [] ∧ q = done a := by
  induction h with
  | refl => exact ⟨rfl, rfl⟩
  | step _ _ ih => cases ih.2

/-- All that the program can ask, whatever the answers. -/
def Every (P : ω → Prop) : Program ρ α → Prop
  | done _ => True
  | ask o next => P o ∧ ∀ r, (next r).Every P

theorem Every.after {P : ω → Prop} {p q : Program ρ α} {xs : List (Exchange ρ)} (h : p.Every P)
    (hafter : p.After xs q) : q.Every P := by
  induction hafter with
  | refl => exact h
  | step r _ ih => exact ih.2 r

/-- The program has ended. -/
def Ends (p : Program ρ α) (xs : List (Exchange ρ)) : Prop := ∃ a, p.After xs (done a)

end Program

/-- What the resource sees of some exchanges. -/
def Exchange.events {ω : Type*} {ρ : ω → Type*} (xs : List (Exchange ρ)) : List (Traffic ρ) :=
  xs.flatMap fun x => [.asked x.1, .answered x]

/-- A call that holds the lock: its exchanges so far, what is left of its program, and
whether it waits for an answer. -/
structure Holder (ι : Type*) {κ ω : Type*} (ρ : ω → Type*) (α : κ → Type*) where
  task : ι
  call : κ
  exchanges : List (Exchange ρ)
  left : Program ρ (α call)
  waits : Bool

namespace Holder

variable {ι κ ω : Type*} {ρ : ω → Type*} {α : κ → Type*}

/-- What the resource has seen of the call. -/
def trace (self : Holder ι ρ α) : List (Traffic ρ) :=
  Exchange.events self.exchanges ++
    match self.left, self.waits with
    | .ask o _, true => [.asked o]
    | _, _ => []

variable (i : ι) (call : κ) (xs : List (Exchange ρ))

/-- A call asks. -/
theorem trace_ask (o : ω) (next : ρ o → Program ρ (α call)) :
    trace ⟨i, call, xs, .ask o next, true⟩ =
      trace ⟨i, call, xs, .ask o next, false⟩ ++ [.asked o] := by
  simp [trace]

/-- It gets an answer. -/
theorem trace_answer (o : ω) (next : ρ o → Program ρ (α call)) (r : ρ o) :
    trace ⟨i, call, xs ++ [⟨o, r⟩], next r, false⟩ =
      trace ⟨i, call, xs, .ask o next, true⟩ ++ [.answered ⟨o, r⟩] := by
  cases hnext : next r <;> simp [trace, Exchange.events]

/-- When it returns, it has got all its answers. -/
theorem trace_done (v : α call) (waits : Bool) :
    trace ⟨i, call, xs, .done v, waits⟩ = Exchange.events xs := by
  simp [trace]

end Holder

/-- The calls that the tasks have still to make and all they were to make, the holder of
the lock, the calls that have returned, and what the resource has seen. -/
structure Mutex (ι : Type*) {κ ω : Type*} (ρ : ω → Type*) (α : κ → Type*) where
  todo : ι → List κ
  made : ι → List κ
  holder : Option (Holder ι ρ α)
  returned : List (ι × κ × List (Exchange ρ))
  trace : List (ι × Traffic ρ)

namespace Mutex

variable {ι κ ω : Type*} {ρ : ω → Type*} {α : κ → Type*} [DecidableEq ι] [DecidableEq ω]

def empty : Mutex ι ρ α where
  todo := fun _ => []
  made := fun _ => []
  holder := none
  returned := []
  trace := []

inductive Action (ι κ : Type*) {ω : Type*} (ρ : ω → Type*) where
  | make (i : ι) (calls : List κ)
  | skip (i : ι)
  | lock (i : ι)
  | ask
  | answer (x : Exchange ρ)
  | unlock

/-- A task makes its calls one after the other. -/
def step (program : (call : κ) → Option (Program ρ (α call))) (self : Mutex ι ρ α) :
    Action ι κ ρ → Option (Mutex ι ρ α)
  | .make i calls =>
    some { self with
      todo := Function.update self.todo i (self.todo i ++ calls)
      made := Function.update self.made i (self.made i ++ calls) }
  | .skip i =>
    match self.todo i with
    | call :: rest =>
      match program call with
      | none => some { self with todo := Function.update self.todo i rest }
      | some _ => none
    | [] => none
  | .lock i =>
    match self.todo i, self.holder with
    | call :: rest, none =>
      (program call).map fun left =>
        { self with
          todo := Function.update self.todo i rest
          holder := some { task := i, call, exchanges := [], left, waits := false } }
    | _, _ => none
  | .ask =>
    match self.holder with
    | some ⟨i, call, exchanges, .ask o next, false⟩ =>
      some { self with
        holder := some ⟨i, call, exchanges, .ask o next, true⟩
        trace := self.trace ++ [(i, .asked o)] }
    | _ => none
  | .answer x =>
    match self.holder with
    | some ⟨i, call, exchanges, .ask o next, true⟩ =>
      if h : x.1 = o then
        some { self with
          holder := some ⟨i, call, exchanges ++ [x], next (h ▸ x.2), false⟩
          trace := self.trace ++ [(i, .answered x)] }
      else none
    | _ => none
  | .unlock =>
    match self.holder with
    | some ⟨i, call, exchanges, .done _, _⟩ =>
      some { self with
        holder := none
        returned := self.returned ++ [(i, call, exchanges)] }
    | _ => none

/-- The calls that took the lock. -/
def locked (s : Mutex ι ρ α) : List (ι × κ) :=
  s.returned.map (fun d => (d.1, d.2.1)) ++ s.holder.toList.map fun h => (h.task, h.call)

/-- The calls that have a program. -/
def locking (program : (call : κ) → Option (Program ρ (α call))) (calls : List κ) : List κ :=
  calls.filter fun call => (program call).isSome

/-- The resource is asked by one call after the other, each with its own program, and by
the calls of a task in their order. -/
structure Serial (program : (call : κ) → Option (Program ρ (α call))) (s : Mutex ι ρ α) : Prop where
  trace : s.trace =
    (s.returned.flatMap fun d => (Exchange.events d.2.2).map (d.1, ·)) ++
      s.holder.toList.flatMap fun h => h.trace.map (h.task, ·)
  returned : ∀ d ∈ s.returned, ∃ p, program d.2.1 = some p ∧ p.Ends d.2.2
  holder : ∀ h, s.holder = some h → ∃ p, program h.call = some p ∧ p.After h.exchanges h.left
  order : ∀ i, (s.locked.filter (·.1 = i)).map (·.2) ++ locking program (s.todo i) =
    locking program (s.made i)

omit [DecidableEq ω] in
theorem serial_empty (program : (call : κ) → Option (Program ρ (α call))) :
    (empty : Mutex ι ρ α).Serial program where
  trace := rfl
  returned := nofun
  holder := nofun
  order := fun _ => rfl

variable {program : (call : κ) → Option (Program ρ (α call))} {s s' : Mutex ι ρ α}

/-- What one step can do. -/
theorem step_cases {a : Action ι κ ρ} (h : s.step program a = some s') :
    (∃ i calls, a = .make i calls ∧ s' = { s with
      todo := Function.update s.todo i (s.todo i ++ calls)
      made := Function.update s.made i (s.made i ++ calls) }) ∨
    (∃ i call rest, s.todo i = call :: rest ∧ program call = none ∧
      s' = { s with todo := Function.update s.todo i rest }) ∨
    (∃ i call rest left, s.todo i = call :: rest ∧ s.holder = none ∧
      program call = some left ∧ s' = { s with
        todo := Function.update s.todo i rest
        holder := some ⟨i, call, [], left, false⟩ }) ∨
    (∃ i call exchanges o next, s.holder = some ⟨i, call, exchanges, .ask o next, false⟩ ∧
      s' = { s with
        holder := some ⟨i, call, exchanges, .ask o next, true⟩
        trace := s.trace ++ [(i, .asked o)] }) ∨
    (∃ i call exchanges o next r, s.holder = some ⟨i, call, exchanges, .ask o next, true⟩ ∧
      s' = { s with
        holder := some ⟨i, call, exchanges ++ [⟨o, r⟩], next r, false⟩
        trace := s.trace ++ [(i, .answered ⟨o, r⟩)] }) ∨
    ∃ i call exchanges v waits, s.holder = some ⟨i, call, exchanges, .done v, waits⟩ ∧
      s' = { s with holder := none, returned := s.returned ++ [(i, call, exchanges)] } := by
  cases a with
  | make i calls =>
    cases h
    exact .inl ⟨i, calls, rfl, rfl⟩
  | skip i =>
    simp only [step] at h
    split at h
    · next call rest htodo =>
      split at h
      · next hnone =>
        cases h
        exact .inr (.inl ⟨i, call, rest, htodo, hnone, rfl⟩)
      · cases h
    · cases h
  | lock i =>
    simp only [step] at h
    split at h
    · next call rest htodo hfree =>
      obtain ⟨left, hleft, rfl⟩ := Option.map_eq_some_iff.mp h
      exact .inr (.inr (.inl ⟨i, call, rest, left, htodo, hfree, hleft, rfl⟩))
    · cases h
  | ask =>
    simp only [step] at h
    split at h
    · next i call exchanges o next hholder =>
      cases h
      exact .inr (.inr (.inr (.inl ⟨i, call, exchanges, o, next, hholder, rfl⟩)))
    · cases h
  | answer x =>
    obtain ⟨o', r⟩ := x
    simp only [step] at h
    split at h
    · next i call exchanges o next hholder =>
      split at h
      · next heq =>
        subst heq
        cases h
        exact .inr (.inr (.inr (.inr (.inl ⟨i, call, exchanges, _, next, r, hholder, rfl⟩))))
      · cases h
    · cases h
  | unlock =>
    simp only [step] at h
    split at h
    · next i call exchanges v waits hholder =>
      cases h
      exact .inr (.inr (.inr (.inr (.inr ⟨i, call, exchanges, v, waits, hholder, rfl⟩))))
    · cases h

/-- Only new calls change what the tasks are to do. -/
theorem made_step {a : Action ι κ ρ} (h : s.step program a = some s')
    (ha : ∀ i calls, a ≠ .make i calls) : s'.made = s.made := by
  obtain ⟨i, calls, rfl, -⟩ | ⟨i, call, rest, -, -, rfl⟩ | ⟨i, call, rest, left, -, -, -, rfl⟩ |
    ⟨i, call, xs, o, next, -, rfl⟩ | ⟨i, call, xs, o, next, r, -, rfl⟩ |
    ⟨i, call, xs, v, waits, -, rfl⟩ := step_cases h
  · exact absurd rfl (ha i calls)
  all_goals rfl

/-- The resource is only asked by the call that holds the lock. -/
theorem trace_step {a : Action ι κ ρ} (h : s.step program a = some s') :
    s'.trace = s.trace ∨
    (∃ i call xs o next, s.holder = some ⟨i, call, xs, .ask o next, false⟩ ∧
      s'.trace = s.trace ++ [(i, .asked o)]) ∨
    ∃ i x, s'.trace = s.trace ++ [(i, .answered x)] := by
  obtain ⟨i, calls, -, rfl⟩ | ⟨i, call, rest, -, -, rfl⟩ | ⟨i, call, rest, left, -, -, -, rfl⟩ |
    ⟨i, call, xs, o, next, hholder, rfl⟩ | ⟨i, call, xs, o, next, r, -, rfl⟩ |
    ⟨i, call, xs, v, waits, -, rfl⟩ := step_cases h
  · exact .inl rfl
  · exact .inl rfl
  · exact .inl rfl
  · exact .inr (.inl ⟨i, call, xs, o, next, hholder, rfl⟩)
  · exact .inr (.inr ⟨i, ⟨o, r⟩, rfl⟩)
  · exact .inl rfl

omit [DecidableEq ι] [DecidableEq ω] in
/-- What the tasks are to do, split at the call that one of them makes. -/
theorem locking_cons {call : κ} {rest : List κ} :
    locking program (call :: rest) =
      (if (program call).isSome then [call] else []) ++ locking program rest := by
  by_cases hcall : (program call).isSome <;> simp [locking, hcall]

theorem Serial.step (h : s.Serial program) {a : Action ι κ ρ}
    (hstep : s.step program a = some s') : s'.Serial program := by
  obtain ⟨i, calls, -, rfl⟩ | ⟨i, call, rest, htodo, hnone, rfl⟩ |
    ⟨i, call, rest, left, htodo, hfree, hleft, rfl⟩ | ⟨i, call, xs, o, next, hholder, rfl⟩ |
    ⟨i, call, xs, o, next, r, hholder, rfl⟩ | ⟨i, call, xs, v, waits, hholder, rfl⟩ :=
    step_cases hstep
  -- new calls
  · refine ⟨h.trace, h.returned, h.holder, ?_⟩
    intro j
    have horder := h.order j
    show (s.locked.filter (·.1 = j)).map (·.2) ++ locking program (Function.update s.todo i _ j) =
      locking program (Function.update s.made i _ j)
    by_cases hj : j = i
    · subst hj
      rw [Function.update_self, Function.update_self, locking, locking, List.filter_append,
        List.filter_append, ← List.append_assoc]
      exact congrArg (· ++ _) horder
    · rw [Function.update_of_ne hj, Function.update_of_ne hj]
      exact horder
  -- a call that asks for nothing is left out
  · refine ⟨h.trace, h.returned, h.holder, ?_⟩
    intro j
    have horder := h.order j
    show (s.locked.filter (·.1 = j)).map (·.2) ++ locking program (Function.update s.todo i _ j) = _
    by_cases hj : j = i
    · subst hj
      rw [htodo, locking_cons, hnone] at horder
      rw [Function.update_self]
      exact horder
    · rw [Function.update_of_ne hj]
      exact horder
  -- a call takes the lock
  · refine ⟨?_, h.returned, ?_, ?_⟩
    · have htrace := h.trace
      rw [hfree] at htrace
      rw [htrace]
      simp [Holder.trace, Exchange.events]
    · rintro h' ⟨⟩
      exact ⟨left, hleft, .refl⟩
    · intro j
      have horder := h.order j
      show (((s.returned.map fun d => (d.1, d.2.1)) ++ [(i, call)]).filter (·.1 = j)).map (·.2) ++
        locking program (Function.update s.todo i _ j) = _
      rw [locked, hfree, Option.toList_none, List.map_nil, List.append_nil] at horder
      rw [List.filter_append, List.map_append]
      by_cases hj : j = i
      · subst hj
        rw [htodo, locking_cons, hleft] at horder
        rw [Function.update_self, ← horder]
        simp
      · rw [Function.update_of_ne hj, ← horder]
        simp [Ne.symm hj]
  -- it asks
  · refine ⟨?_, h.returned, ?_, ?_⟩
    · show s.trace ++ _ = _
      rw [h.trace, hholder]
      simp [Holder.trace_ask]
    · rintro h' ⟨⟩
      obtain ⟨p, hp, hafter⟩ := h.holder _ hholder
      exact ⟨p, hp, hafter⟩
    · intro j
      have horder := h.order j
      rw [locked, hholder] at horder
      exact horder
  -- it is answered
  · refine ⟨?_, h.returned, ?_, ?_⟩
    · show s.trace ++ _ = _
      rw [h.trace, hholder]
      simp [Holder.trace_answer]
    · rintro h' ⟨⟩
      obtain ⟨p, hp, hafter⟩ := h.holder _ hholder
      exact ⟨p, hp, hafter.step r⟩
    · intro j
      have horder := h.order j
      rw [locked, hholder] at horder
      exact horder
  -- it returns, and what it has asked becomes a whole call
  · refine ⟨?_, ?_, nofun, ?_⟩
    · rw [h.trace, hholder]
      simp [Holder.trace_done]
    · intro d hd
      obtain hd | hd := List.mem_append.mp hd
      · exact h.returned d hd
      · obtain rfl := List.mem_singleton.mp hd
        obtain ⟨p, hp, hafter⟩ := h.holder _ hholder
        exact ⟨p, hp, v, hafter⟩
    · intro j
      have horder := h.order j
      rw [locked, hholder] at horder
      rw [← horder, locked, List.map_append]
      simp

/-- Nothing is asked but what the programs ask. -/
theorem Serial.asked_step (h : s.Serial program) {P : ω → Prop}
    (hprogram : ∀ call p, program call = some p → p.Every P)
    (hasked : ∀ i o, (i, .asked o) ∈ s.trace → P o) {a : Action ι κ ρ}
    (hstep : s.step program a = some s') : ∀ i o, (i, .asked o) ∈ s'.trace → P o := by
  intro i o ho
  obtain hsame | ⟨j, call, xs, o', next, hholder, htrace⟩ | ⟨j, x, htrace⟩ := trace_step hstep
  · rw [hsame] at ho
    exact hasked i o ho
  · rw [htrace] at ho
    obtain hbefore | hnew := List.mem_append.mp ho
    · exact hasked i o hbefore
    · cases List.mem_singleton.mp hnew
      obtain ⟨p, hp, hafter⟩ := h.holder _ hholder
      exact ((hprogram call p hp).after hafter).1
  · rw [htrace] at ho
    obtain hbefore | hnew := List.mem_append.mp ho
    · exact hasked i o hbefore
    · cases List.mem_singleton.mp hnew

omit [DecidableEq ω] in
/-- Where the calls that return leave a balance as it was, it is that of the call that
holds the lock. -/
theorem Serial.sum_trace (h : s.Serial program) (weight : Traffic ρ → ℤ)
    (hends : ∀ call p xs, program call = some p → p.Ends xs →
      ((Exchange.events xs).map weight).sum = 0) :
    (s.trace.map fun e => weight e.2).sum =
      (s.holder.toList.flatMap fun h => h.trace.map weight).sum := by
  have hreturned : ∀ ds : List (ι × κ × List (Exchange ρ)), (∀ d ∈ ds, d ∈ s.returned) →
      ((ds.flatMap fun d => (Exchange.events d.2.2).map (d.1, ·)).map fun e => weight e.2).sum =
        0 := by
    intro ds hds
    -- one call that has returned after the other
    induction ds with
    | nil => rfl
    | cons d ds ih =>
      obtain ⟨p, hp, hd⟩ := h.returned d (hds d List.mem_cons_self)
      rw [List.flatMap_cons, List.map_append, List.sum_append,
        ih fun d' hd' => hds d' (List.mem_cons_of_mem d hd'), List.map_map, add_zero]
      exact hends d.2.1 p d.2.2 hp hd
  rw [h.trace, List.map_append, List.sum_append, hreturned s.returned fun _ => id, zero_add,
    List.map_flatMap]
  simp only [List.map_map, Function.comp_def]

/-- A call that is to be made can be made once the lock is free, and one that holds the
lock can go on. -/
theorem progress [∀ o, Nonempty (ρ o)] (h : s.holder ≠ none ∨ ∃ i, s.todo i ≠ []) :
    ∃ a, (s.step program a).isSome ∧ ∀ i calls, a ≠ .make i calls := by
  cases hholder : s.holder with
  | some holder =>
    obtain ⟨i, call, xs, left, waits⟩ := holder
    cases left with
    | done v => exact ⟨.unlock, by simp [step, hholder], by simp⟩
    | ask o next =>
      cases waits with
      | false => exact ⟨.ask, by simp [step, hholder], by simp⟩
      | true =>
        obtain ⟨r⟩ := ‹∀ o, Nonempty (ρ o)› o
        exact ⟨.answer ⟨o, r⟩, by simp [step, hholder], by simp⟩
  | none =>
    obtain ⟨i, htodo⟩ := h.resolve_left fun hne => hne hholder
    obtain ⟨call, rest, hrest⟩ := List.exists_cons_of_ne_nil htodo
    cases hprogram : program call with
    | none => exact ⟨.skip i, by simp [step, hrest, hprogram], by simp⟩
    | some left => exact ⟨.lock i, by simp [step, hrest, hholder, hprogram], by simp⟩

end Mutex
