import Mathlib.Tactic

/-!
# Runs of a transition system

A system is a partial step function on states, an action that is not enabled
giving no state. Runs are lists of actions, the order in which the scheduler and
the environment let things happen.

## Main results

- `Transition.run_invariant` — what every step keeps, every run keeps
- `Transition.run_invariant_of_guard` — what the steps that meet a condition
  keep, the runs keep all of whose steps meet it
- `Transition.foldlM_log`, `Transition.foldlM_fits` — a handler that fails on some
  requests, and what it logs for each of the others, over a list of requests
-/

namespace Transition

variable {σ α : Type*}

/-- The state after a list of actions. -/
def run (step : σ → α → Option σ) (s : σ) (as : List α) : Option σ := as.foldlM step s

variable {step : σ → α → Option σ}

@[simp] theorem run_nil (s : σ) : run step s [] = some s := rfl

theorem run_cons (s : σ) (a : α) (as : List α) :
    run step s (a :: as) = (step s a).bind fun s' => run step s' as := by
  rw [run, List.foldlM_cons]
  rfl

theorem run_append (s : σ) (as bs : List α) :
    run step s (as ++ bs) = (run step s as).bind fun s' => run step s' bs := by
  rw [run, List.foldlM_append]
  rfl

theorem run_concat (s : σ) (as : List α) (a : α) :
    run step s (as ++ [a]) = (run step s as).bind (step · a) := by
  rw [run_append]
  cases run step s as with
  | none => rfl
  | some mid => simp [run_cons]

theorem run_concat_eq_some {s s' : σ} {as : List α} {a : α}
    (h : run step s (as ++ [a]) = some s') :
    ∃ mid, run step s as = some mid ∧ step mid a = some s' := by
  rw [run_concat] at h
  exact Option.bind_eq_some_iff.mp h

theorem exists_run_of_prefix {s s' : σ} {pre as : List α} (hpre : pre <+: as)
    (h : run step s as = some s') : ∃ mid, run step s pre = some mid := by
  obtain ⟨post, rfl⟩ := hpre
  rw [run_append] at h
  obtain ⟨mid, hmid, -⟩ := Option.bind_eq_some_iff.mp h
  exact ⟨mid, hmid⟩

/-- The invariant rule. -/
theorem run_invariant {I : σ → Prop} (hstep : ∀ s a s', I s → step s a = some s' → I s') {s s' : σ}
    {as : List α} (hI : I s) (hrun : run step s as = some s') : I s' := by
  induction as using List.reverseRecOn generalizing s' with
  | nil =>
    cases hrun
    exact hI
  | append_singleton as a ih =>
    obtain ⟨mid, hmid, hlast⟩ := run_concat_eq_some hrun
    exact hstep mid a s' (ih hmid) hlast

/-- The invariant rule for runs all of whose steps meet a condition. -/
theorem run_invariant_of_guard {I : σ → Prop} {G : σ → α → Prop}
    (hstep : ∀ s a s', I s → G s a → step s a = some s' → I s') {s : σ} {as : List α} (hI : I s)
    (hG : ∀ pre a mid, pre ++ [a] <+: as → run step s pre = some mid → G mid a) {pre : List α}
    (hpre : pre <+: as) {s' : σ} (hrun : run step s pre = some s') : I s' := by
  induction pre using List.reverseRecOn generalizing s' with
  | nil =>
    cases hrun
    exact hI
  | append_singleton pre a ih =>
    obtain ⟨mid, hmid, hlast⟩ := run_concat_eq_some hrun
    have hinit : pre <+: as := (List.prefix_append pre [a]).trans hpre
    exact hstep mid a s' (ih hinit hmid) (hG pre a mid hpre hmid) hlast

/-! ### Handlers -/

variable {ρ ο ε : Type*} {handle : σ → ρ → Except ε σ} {I : σ → Prop} {fits : ρ → Prop}

/-- The rule for a handler of requests: where it handles the requests that fit, keeps an
invariant and logs what a request is due, it logs what a list of them is due. -/
theorem foldlM_log {log : σ → List ο} {due : ρ → List ο}
    (hhandle : ∀ s r, I s → fits r →
      ∃ s', handle s r = .ok s' ∧ I s' ∧ log s' = log s ++ due r)
    (requests : List ρ) (hfits : ∀ r ∈ requests, fits r) {s : σ} (hI : I s) :
    ∃ s', requests.foldlM handle s = .ok s' ∧ I s' ∧ log s' = log s ++ requests.flatMap due := by
  induction requests generalizing s with
  | nil => exact ⟨s, rfl, hI, (List.append_nil _).symm⟩
  | cons r requests ih =>
    obtain ⟨hfirst, hrest⟩ := List.forall_mem_cons.mp hfits
    obtain ⟨mid, hmid, hI', hlog⟩ := hhandle s r hI hfirst
    obtain ⟨s', hs', hI'', hlog'⟩ := ih hrest hI'
    refine ⟨s', ?_, hI'', ?_⟩
    · rw [List.foldlM_cons, hmid]
      exact hs'
    · rw [hlog', hlog, List.append_assoc, List.flatMap_cons]

/-- Where it handles no others, a list that it has come through has none of them. -/
theorem foldlM_fits (hhandle : ∀ s r s', I s → handle s r = .ok s' → fits r ∧ I s')
    {requests : List ρ} {s s' : σ} (hI : I s) (h : requests.foldlM handle s = .ok s') :
    ∀ r ∈ requests, fits r := by
  induction requests generalizing s with
  | nil => exact nofun
  | cons r requests ih =>
    rw [List.foldlM_cons] at h
    cases hfirst : handle s r with
    | error e =>
      rw [hfirst] at h
      cases h
    | ok mid =>
      rw [hfirst] at h
      obtain ⟨hr, hI'⟩ := hhandle s r mid hI hfirst
      exact List.forall_mem_cons.mpr ⟨hr, ih hI' h⟩

end Transition
