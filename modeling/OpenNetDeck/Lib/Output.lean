import OpenNetDeck.Lib.Mutex
import Mathlib.Data.List.Flatten
import Mathlib.Data.List.Infix

/-!
# What calls put out under a lock

Some of the questions of a program put something out. Of what its calls are due, a task puts
out nothing twice and nothing before its turn, and it leaves nothing out as long as the
answers are good.

## Main definitions

- `Program.Emits` — a program puts out what is due; a bad answer may cost the rest of it
- `Mutex.output` — what a task has put out

## Main results

- `Mutex.Serial.output_sublist` — what a task has put out is among what its calls are due
- `Mutex.Serial.output_isPrefix`, `Mutex.Serial.output_eq` — with good answers it is the
  first part of it, and all of it when every call has returned
-/

namespace Program

variable {ω : Type*} {ρ : ω → Type*} {α β : Type*}

/-- A program that puts out a list. A bad answer may cost what is left of it. -/
def Emits (out : ω → List β) (Good : Exchange ρ → Prop) : Program ρ α → List β → Prop
  | done _, due => due = []
  | ask o next, due => ∃ rest, due = out o ++ rest ∧
    ∀ r, (next r).Emits out Good rest ∨ ¬ Good ⟨o, r⟩ ∧ (next r).Emits out Good []

variable {out : ω → List β} {Good : Exchange ρ → Prop} {p q : Program ρ α} {due : List β}
  {xs : List (Exchange ρ)}

/-- What has been put out and what is left. -/
theorem Emits.after (h : p.Emits out Good due) (hafter : p.After xs q) :
    ∃ rest, q.Emits out Good rest ∧ xs.flatMap (out ·.1) ++ rest <+: due ∧
      ((∀ x ∈ xs, Good x) → xs.flatMap (out ·.1) ++ rest = due) := by
  -- by induction on the answers; after a bad one nothing more may be due
  induction hafter with
  | refl => exact ⟨due, h, List.prefix_rfl, fun _ => rfl⟩
  | @step xs o next r _ ih =>
    obtain ⟨_, ⟨rest, rfl, hnext⟩, hfront, hall⟩ := ih
    rw [← List.append_assoc] at hfront hall
    rw [List.flatMap_append, List.flatMap_singleton]
    obtain hgo | ⟨hbad, hgo⟩ := hnext r
    · refine ⟨rest, hgo, hfront, fun hgood => hall fun x hx => hgood x ?_⟩
      exact List.mem_append_left _ hx
    · refine ⟨[], hgo, ?_, fun hgood => absurd (hgood _ ?_) hbad⟩
      · rw [List.append_nil]
        exact (List.prefix_append _ rest).trans hfront
      · exact List.mem_append_right _ (List.mem_singleton_self _)

end Program

namespace Holder

variable {ι κ ω : Type*} {ρ : ω → Type*} {α : κ → Type*} {β : Type*}

/-- What the call that holds the lock has put out. -/
def output (out : ω → List β) (self : Holder ι ρ α) : List β :=
  self.trace.flatMap fun e => e.question.toList.flatMap out

end Holder

namespace Exchange

variable {ω : Type*} {ρ : ω → Type*} {β : Type*}

theorem flatMap_events (out : ω → List β) (xs : List (Exchange ρ)) :
    (events xs).flatMap (fun e => e.question.toList.flatMap out) = xs.flatMap (out ·.1) := by
  rw [events, List.flatMap_assoc]
  refine List.flatMap_congr fun x _ => ?_
  simp [Traffic.question]

end Exchange

namespace Mutex

variable {ι κ ω : Type*} {ρ : ω → Type*} {α : κ → Type*} {β : Type*} [DecidableEq ι]
  {program : (call : κ) → Option (Program ρ (α call))} {s : Mutex ι ρ α} {out : ω → List β}
  {Good : Exchange ρ → Prop} {due : κ → List β}

/-- What a task has put out. -/
def output (out : ω → List β) (i : ι) (s : Mutex ι ρ α) : List β :=
  (s.trace.filter (·.1 = i)).flatMap fun e => e.2.question.toList.flatMap out

/-- What a call has put out, with the task that made it. -/
theorem flatMap_filter_map (i j : ι) (es : List (Traffic ρ)) :
    ((es.map (j, ·)).filter (·.1 = i)).flatMap (fun e => e.2.question.toList.flatMap out) =
      if j = i then es.flatMap (fun e => e.question.toList.flatMap out) else [] := by
  rw [List.filter_map, List.flatMap_map]
  by_cases hj : j = i <;> simp [Function.comp_def, hj]

theorem flatMap_filter_fst (i : ι) (due : κ → List β) (calls : List (ι × κ)) :
    ((calls.filter (·.1 = i)).map (·.2)).flatMap due =
      calls.flatMap fun d => if d.1 = i then due d.2 else [] := by
  induction calls with
  | nil => rfl
  | cons d calls ih =>
    rw [List.flatMap_cons, ← ih]
    by_cases hd : d.1 = i <;> simp [hd]

/-- The calls that have returned, and then the one that holds the lock. -/
theorem Serial.output_split (h : s.Serial program) (out : ω → List β) (i : ι) :
    s.output out i =
      (s.returned.flatMap fun d => if d.1 = i then d.2.2.flatMap (out ·.1) else []) ++
        s.holder.toList.flatMap fun h => if h.task = i then h.output out else [] := by
  rw [output, h.trace, List.filter_append, List.flatMap_append, List.filter_flatMap,
    List.filter_flatMap, List.flatMap_assoc, List.flatMap_assoc]
  congr 1
  · refine List.flatMap_congr fun d _ => ?_
    rw [flatMap_filter_map, Exchange.flatMap_events]
  · exact List.flatMap_congr fun h _ => flatMap_filter_map i h.task h.trace

theorem Serial.due_locked (h : s.Serial program) (due : κ → List β) (i : ι)
    (hnone : ∀ call, program call = none → due call = []) :
    (s.locked.flatMap fun d => if d.1 = i then due d.2 else []) ++ (s.todo i).flatMap due =
      (s.made i).flatMap due := by
  have hlocking : ∀ calls, (locking program calls).flatMap due = calls.flatMap due := by
    intro calls
    induction calls with
    | nil => rfl
    | cons call calls ih =>
      rw [locking_cons, List.flatMap_append, ih, List.flatMap_cons]
      by_cases hcall : (program call).isSome
      · rw [if_pos hcall, List.flatMap_singleton]
      · rw [if_neg hcall, hnone call (Option.not_isSome_iff_eq_none.mp hcall)]
        rfl
  rw [← flatMap_filter_fst, ← hlocking (s.todo i), ← List.flatMap_append, h.order i, hlocking]

variable (hprogram : ∀ call p, program call = some p → p.Emits out Good (due call))
  (hnone : ∀ call, program call = none → due call = [])

include hprogram

/-- A call that holds the lock has put out the first part of what it is due. -/
theorem Serial.holder_output (h : s.Serial program) {holder : Holder ι ρ α}
    (hholder : s.holder = some holder) : holder.output out <+: due holder.call := by
  obtain ⟨p, hp, hafter⟩ := h.holder holder hholder
  obtain ⟨rest, hrest, hfront, -⟩ := (hprogram _ p hp).after hafter
  obtain ⟨i, call, xs, left, waits⟩ := holder
  rw [Holder.output, Holder.trace, List.flatMap_append, Exchange.flatMap_events]
  refine List.IsPrefix.trans ?_ hfront
  rw [List.prefix_append_right_inj]
  cases left with
  | done v => exact List.nil_prefix
  | ask o next =>
    obtain ⟨rest', rfl, -⟩ := hrest
    cases waits with
    | false => exact List.nil_prefix
    | true => simp [Traffic.question]

/-- A call that has returned has put out the first part of what it is due, and all of it
with good answers. -/
theorem Serial.returned_output (h : s.Serial program) {d : ι × κ × List (Exchange ρ)}
    (hd : d ∈ s.returned) : d.2.2.flatMap (out ·.1) <+: due d.2.1 ∧
      ((∀ x ∈ d.2.2, Good x) → d.2.2.flatMap (out ·.1) = due d.2.1) := by
  obtain ⟨p, hp, v, hafter⟩ := h.returned d hd
  obtain ⟨rest, hrest, hfront, hall⟩ := (hprogram _ p hp).after hafter
  obtain rfl : rest = [] := hrest
  rw [List.append_nil] at hfront hall
  exact ⟨hfront, hall⟩

/-- With good answers, the calls that have returned have put out all that they are due. -/
theorem Serial.output_of_good (h : s.Serial program) (i : ι)
    (hgood : ∀ x, (i, .answered x) ∈ s.trace → Good x) :
    s.output out i = (s.returned.flatMap fun d => if d.1 = i then due d.2.1 else []) ++
      s.holder.toList.flatMap fun h => if h.task = i then h.output out else [] := by
  rw [h.output_split]
  congr 1
  refine List.flatMap_congr fun d hd => ?_
  split
  · next hi =>
    refine (h.returned_output hprogram hd).2 fun x hx => hgood x ?_
    have hanswered : (d.1, .answered x) ∈ (Exchange.events d.2.2).map (d.1, ·) :=
      List.mem_map_of_mem (List.mem_flatMap.mpr ⟨x, hx, by simp⟩)
    rw [h.trace, ← hi]
    exact List.mem_append_left _ (List.mem_flatMap.mpr ⟨d, hd, hanswered⟩)
  · rfl

include hnone

/-- **Nothing is put out twice or out of its turn.** -/
theorem Serial.output_sublist (h : s.Serial program) (i : ι) :
    (s.output out i).Sublist ((s.made i).flatMap due) := by
  rw [h.output_split, ← h.due_locked due i hnone, locked, List.flatMap_append, List.flatMap_map,
    List.flatMap_map, List.append_assoc]
  refine (List.Sublist.flatMap_right _ fun d hd => ?_).append
    ((List.Sublist.flatMap_right _ fun holder hholder => ?_).trans (List.sublist_append_left _ _))
  · split
    · exact (h.returned_output hprogram hd).1.sublist
    · exact List.Sublist.refl _
  · split
    · exact (h.holder_output hprogram (Option.mem_toList.mp hholder)).sublist
    · exact List.Sublist.refl _

/-- **With good answers nothing is left out** of what is put out. -/
theorem Serial.output_isPrefix (h : s.Serial program) (i : ι)
    (hgood : ∀ x, (i, .answered x) ∈ s.trace → Good x) :
    s.output out i <+: (s.made i).flatMap due := by
  rw [h.output_of_good hprogram i hgood, ← h.due_locked due i hnone, locked, List.flatMap_append,
    List.flatMap_map, List.flatMap_map, List.append_assoc, List.prefix_append_right_inj]
  refine List.IsPrefix.trans ?_ (List.prefix_append _ _)
  cases hholder : s.holder with
  | none => exact List.nil_prefix
  | some holder =>
    rw [Option.toList_some, List.flatMap_singleton, List.flatMap_singleton]
    split
    · exact h.holder_output hprogram hholder
    · exact List.nil_prefix

/-- When the calls of a task have returned, everything has been put out. -/
theorem Serial.output_eq (h : s.Serial program) (i : ι)
    (hgood : ∀ x, (i, .answered x) ∈ s.trace → Good x) (htodo : s.todo i = [])
    (hholder : ∀ holder, s.holder = some holder → holder.task ≠ i) :
    s.output out i = (s.made i).flatMap due := by
  have hidle : ∀ f : Holder ι ρ α → List β,
      (s.holder.toList.flatMap fun h => if h.task = i then f h else []) = [] := by
    intro f
    refine List.flatMap_eq_nil_iff.mpr fun holder hmem => ?_
    rw [if_neg (hholder holder (Option.mem_toList.mp hmem))]
  rw [h.output_of_good hprogram i hgood, ← h.due_locked due i hnone, htodo, locked,
    List.flatMap_append, List.flatMap_map, List.flatMap_map, List.flatMap_nil, List.append_nil,
    hidle, hidle]

end Mutex
