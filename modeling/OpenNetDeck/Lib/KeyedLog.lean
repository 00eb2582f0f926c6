import Mathlib.Tactic

/-!
# Tables rebuilt from a log

Every entry of a log gives the value of one key. Replaying a log over a table
leaves at each key the value of the last entry with that key, so two logs that
agree on the last entry of a key agree on the key.

## Main definitions

- `KeyedLog.replay` — the table after a log
- `KeyedLog.last` — the last entry with a key
- `KeyedLog.Legal` — the entries keep a rule about what may follow a log

## Main results

- `KeyedLog.replay_eq` — a replayed table reads the last entries
- `KeyedLog.last_append`, `KeyedLog.last_filter`, `KeyedLog.last_map` — last
  entries of a concatenation, of a part and of an image of a log
-/

namespace KeyedLog

variable {ε κ ν : Type*} [DecidableEq κ]

/-- The table after the entries of a log, from the first on. -/
def replay (key : ε → κ) (value : ε → ν) (table : κ → ν) (log : List ε) : κ → ν :=
  log.foldl (fun table e => Function.update table (key e) (value e)) table

/-- The last entry with a key. -/
def last (key : ε → κ) (k : κ) (log : List ε) : Option ε :=
  log.reverse.find? fun e => key e = k

variable {key : ε → κ} {value : ε → ν} {k : κ}

@[simp] theorem last_nil : last key k [] = none := rfl

theorem last_append (xs ys : List ε) :
    last key k (xs ++ ys) = (last key k ys).or (last key k xs) := by
  rw [last, List.reverse_append, List.find?_append]
  rfl

theorem last_concat (log : List ε) (e : ε) :
    last key k (log ++ [e]) = if key e = k then some e else last key k log := by
  rw [last_append]
  by_cases he : key e = k
  · simp [last, he]
  · simp [last, he]

theorem last_cons (e : ε) (log : List ε) :
    last key k (e :: log) = (last key k log).or (if key e = k then some e else none) := by
  rw [← List.singleton_append, last_append]
  congr 1
  by_cases he : key e = k
  · simp [last, he]
  · simp [last, he]

theorem last_eq_none {log : List ε} : last key k log = none ↔ ∀ e ∈ log, key e ≠ k := by
  simp [last]

theorem mem_of_last {log : List ε} {e : ε} (h : last key k log = some e) : e ∈ log :=
  List.mem_reverse.mp (List.mem_of_find?_eq_some h)

theorem key_of_last {log : List ε} {e : ε} (h : last key k log = some e) : key e = k := by
  simpa using List.find?_some h

theorem last_map {ε' : Type*} {key' : ε' → κ} {f : ε' → ε} (hkey : ∀ e, key (f e) = key' e)
    (log : List ε') : last key k (log.map f) = (last key' k log).map f := by
  rw [last, ← List.map_reverse, List.find?_map, last]
  congr 2
  funext e
  exact congrArg (fun k' => decide (k' = k)) (hkey e)

/-- Where no two entries have the same key, the last one of a key is the first one. -/
theorem last_eq_find {log : List ε} (h : (log.map key).Nodup) (k : κ) :
    last key k log = log.find? (key · = k) := by
  induction log with
  | nil => rfl
  | cons e log ih =>
    obtain ⟨hnew, hrest⟩ := List.nodup_cons.mp h
    rw [last_cons]
    by_cases hkey : key e = k
    · have hnone : last key k log = none := by
        rw [last_eq_none]
        intro e' he' heq
        exact hnew (hkey.trans heq.symm ▸ List.mem_map_of_mem he')
      simp [hnone, hkey]
    · simp [hkey, ih hrest]

/-- The last entry of a key has no other entry of the key behind it. -/
theorem exists_split_of_last {log : List ε} {e : ε} (h : last key k log = some e) :
    ∃ xs ys, log = xs ++ e :: ys ∧ ∀ e' ∈ ys, key e' ≠ k := by
  obtain ⟨-, ys, xs, hrev, hys⟩ := List.find?_eq_some_iff_append.mp h
  refine ⟨xs.reverse, ys.reverse, ?_, ?_⟩
  · rw [← List.reverse_reverse log, hrev]
    simp
  · intro e' he'
    simpa using hys e' (List.mem_reverse.mp he')

/-- An entry that is the last of its key in a log is so in every part of the log
that holds it. -/
theorem last_filter {p : ε → Bool} {log : List ε} {e : ε} (h : last key k log = some e)
    (hp : p e = true) : last key k (log.filter p) = some e := by
  induction log using List.reverseRecOn with
  | nil => simp at h
  | append_singleton log e' ih =>
    rw [last_concat] at h
    rw [List.filter_append]
    by_cases hkey : key e' = k
    · rw [if_pos hkey, Option.some.injEq] at h
      subst h
      rw [List.filter_singleton, hp, cond_true, last_concat, if_pos hkey]
    · rw [if_neg hkey] at h
      have hrest : last key k ([e'].filter p) = none := by
        rw [last_eq_none]
        intro e'' he''
        have := List.mem_of_mem_filter he''
        rw [List.mem_singleton] at this
        rw [this]
        exact hkey
      rw [last_append, hrest, Option.none_or]
      exact ih h

theorem replay_concat (table : κ → ν) (log : List ε) (e : ε) :
    replay key value table (log ++ [e]) =
      Function.update (replay key value table log) (key e) (value e) := by
  rw [replay, List.foldl_append]
  rfl

/-- A replayed table reads the last entry of each key. -/
theorem replay_eq (table : κ → ν) (log : List ε) (k : κ) :
    replay key value table log k = ((last key k log).map value).getD (table k) := by
  induction log using List.reverseRecOn with
  | nil => rfl
  | append_singleton log e ih =>
    rw [replay_concat, last_concat]
    by_cases he : key e = k
    · subst he
      rw [Function.update_self, if_pos rfl]
      rfl
    · rw [Function.update_of_ne (Ne.symm he), if_neg he, ih]

/-! ### Logs that keep a rule -/

/-- Every entry is allowed by the entries before it. -/
def Legal (allowed : List ε → ε → Prop) (log : List ε) : Prop :=
  ∀ pre e post, log = pre ++ e :: post → allowed pre e

theorem legal_nil (allowed : List ε → ε → Prop) : Legal allowed [] := by
  intro pre e post h
  simp at h

theorem Legal.concat {allowed : List ε → ε → Prop} {log : List ε} {e : ε} (h : Legal allowed log)
    (he : allowed log e) : Legal allowed (log ++ [e]) := by
  intro pre e' post heq
  obtain rfl | ⟨post, last, rfl⟩ := post.eq_nil_or_concat'
  · obtain ⟨rfl, hlast⟩ := List.append_inj' heq rfl
    cases hlast
    exact he
  · rw [← List.cons_append, ← List.append_assoc] at heq
    exact h pre e' post (List.append_inj' heq rfl).1

end KeyedLog
