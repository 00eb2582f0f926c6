import OpenNetDeck.Embedded.Refinement

/-!
# A rule for embedded sessions

What a handler keeps from frame to frame, and the work after a read from read to read,
holds at the end of every session that the loops can follow. The invariant speaks of the
state, of the frames that were handed over and of the number of reads.

## Main definitions

- `SessionRule` — the handler and the work after a read keep an invariant

## Main results

- `SessionRule.serve` — so does the whole session
-/

namespace OpenNetDeck

open Bytes Checked ChunkedScan CoraFrame

variable {σ ε : Type}

/-- The handler keeps the invariant for the frames that meet a condition, and the work
after a read keeps it; neither of them fails. -/
structure SessionRule (handle : σ → CoraFrame → Except ε σ) (afterRead : σ → Except ε σ)
    (P : CoraFrame → Prop) (I : σ → List CoraFrame → ℕ → Prop) : Prop where
  frame : ∀ s fs n f, P f → I s fs n → ∃ s', handle s f = .ok s' ∧ I s' (fs ++ [f]) n
  read : ∀ s fs n, I s fs n → ∃ s', afterRead s = .ok s' ∧ I s' fs (n + 1)

namespace SessionRule

variable {t : Target} {handle : σ → CoraFrame → Except ε σ} {afterRead : σ → Except ε σ}
  {P : CoraFrame → Prop} {I : σ → List CoraFrame → ℕ → Prop}

theorem drainSlice (rule : SessionRule handle afterRead P I) (rxOffset : ℕ) (slice : List UInt8)
    (d : Drained σ) (hsmall : d.consumedTotal + slice.length ≤ rxBufferSize)
    (hover : ∀ b ∈ receiver.inspected slice, ¬ LengthOverflows t b)
    (hP : ∀ f ∈ (receiver.drain slice).1, P f) {fs : List CoraFrame} {n : ℕ}
    (hI : I d.state (fs ++ d.delivered) n) :
    ∃ d', OpenNetDeck.drainSlice t handle rxOffset slice d = .ok d' ∧
      I d'.state (fs ++ d'.delivered) n := by
  induction slice using receiver.drain_induction generalizing d with
  | nil => exact ⟨d, drainSlice_nil, hI⟩
  | wait l hl h =>
    have hl' := hover l (by simp [Scanner.inspected_stop hl (.inl h)])
    exact ⟨d, drainSlice_wait hl hl' h, hI⟩
  | flush l hl h =>
    have hl' := hover l (by simp [Scanner.inspected_stop hl (.inr h)])
    exact ⟨_, drainSlice_flush hl hl' h, hI⟩
  | emit l f k hl h ih =>
    rw [Scanner.inspected_emit hl h] at hover
    rw [Scanner.drain_emit hl h] at hP
    have hl' := hover l List.mem_cons_self
    have hk := (toVec_of_decode (receiveMove_emit.mp h)).2.1
    obtain ⟨state, hstate, hI'⟩ := rule.frame _ _ n f (hP f List.mem_cons_self) hI
    rw [drainSlice_emit hl hl' h (by omega), hstate]
    exact ih ⟨state, d.consumedTotal + k, d.delivered ++ [f]⟩
      (by rw [List.length_drop]; simp only; omega)
      (fun b hb => hover b (List.mem_cons_of_mem l hb))
      (fun g hg => hP g (List.mem_cons_of_mem f hg)) (by rwa [← List.append_assoc])
  | skip l k hl h ih =>
    rw [Scanner.inspected_skip hl h] at hover
    rw [Scanner.drain_skip hl h] at hP
    have hl' := hover l List.mem_cons_self
    have hk := receiveMove_skip_le hl h
    rw [drainSlice_skip hl hl' h (by omega)]
    exact ih { d with consumedTotal := d.consumedTotal + k }
      (by rw [List.length_drop]; simp only; omega)
      (fun b hb => hover b (List.mem_cons_of_mem l hb)) hP hI

/-- One read keeps the invariant. -/
theorem onRead (rule : SessionRule handle afterRead P I) {s : Session σ} {arrived : List UInt8}
    (h : arrived.take s.rx.free ≠ [])
    (hover : ∀ b ∈ receiver.inspected (s.rx.pending ++ arrived.take s.rx.free),
      ¬ LengthOverflows t b)
    (hP : ∀ f ∈ (receiver.drain (s.rx.pending ++ arrived.take s.rx.free)).1, P f) {n : ℕ}
    (hI : I s.state s.delivered n) :
    ∃ s', OpenNetDeck.onRead t handle afterRead s arrived = .ok s' ∧
      I s'.state s'.delivered (n + 1) := by
  have hlength : (arrived.take s.rx.free).length ≠ 0 := by
    rwa [Ne, List.length_eq_zero_iff]
  rw [← s.rx.pending_fill arrived] at hover hP
  have hsize : (s.rx.fill arrived).pending.length ≤ rxBufferSize := by
    rw [RxBuffer.pending_length]
    exact (s.rx.fill arrived).inBounds
  have hsmall : 0 + (s.rx.fill arrived).pending.length ≤ rxBufferSize := by
    rwa [Nat.zero_add]
  obtain ⟨d, hdrain, hdrained⟩ := rule.drainSlice (t := t) (s.rx.fill arrived).pending.length
    (s.rx.fill arrived).pending ⟨s.state, 0, []⟩ hsmall hover hP (by rwa [List.append_nil])
  obtain ⟨state, hafter, hI'⟩ := rule.read _ _ _ hdrained
  -- the loop is done with no more than the pending bytes
  have hconsumed : d.consumedTotal ≤ (s.rx.fill arrived).offset := by
    obtain ⟨_, _, _, _, hfail⟩ | ⟨d', hdrain', -, hle, -⟩ := drainSlice_eq t handle hsize
      (s.rx.fill arrived).pending ⟨s.state, 0, []⟩ List.drop_zero (Nat.zero_le _) hover
    · rw [hdrain] at hfail
      cases hfail
    · rw [hdrain] at hdrain'
      cases hdrain'
      rwa [RxBuffer.pending_length] at hle
  obtain ⟨rx, hcompact, -⟩ := (s.rx.fill arrived).compact_eq hconsumed
  rw [RxBuffer.pending_length] at hdrain
  refine ⟨⟨state, rx, s.delivered ++ d.delivered, false⟩, ?_, hI'⟩
  rw [OpenNetDeck.onRead, if_neg hlength]
  simp only [hdrain, bind, Except.bind, hcompact, Fault.ofPanic, hafter, Fault.ofFailure]
  rfl

/-- In a session that the loops can follow, all of whose frames meet the condition, no
handler fails, the loop agrees with the server's, and the invariant holds at the end. -/
theorem serve (rule : SessionRule handle afterRead P I) {state : σ} (hI : I state [] 0)
    {reads : List (List UInt8)} (hreads : Admissible t reads)
    (hP : ∀ f ∈ (SecondaryConnection.receive reads).1, P f) :
    ∃ s, OpenNetDeck.serve t handle afterRead (.start state) reads = .ok s ∧
      Agrees s (SecondaryConnection.receive reads) ∧ I s.state s.delivered reads.length := by
  induction hreads with
  | nil => exact ⟨.start state, rfl, ⟨rfl, rfl, rfl⟩, hI⟩
  | @concat pre arrived hpre hne hfits hover ih =>
    rw [receive_concat hpre.ne_nil hne] at hP
    obtain ⟨s, hs, hagrees, hmid⟩ := ih fun f hf => hP f (List.mem_append_left _ hf)
    obtain ⟨-, hpending, hopen⟩ := hagrees
    have hchunk : arrived.take s.rx.free = arrived := by
      apply List.take_of_length_le
      rw [← hpending, RxBuffer.pending_length] at hfits
      rw [RxBuffer.free]
      omega
    rw [← hpending] at hover hP
    obtain ⟨s', hs', hlast⟩ := rule.onRead (t := t) (s := s) (by rwa [hchunk])
      (by rwa [hchunk]) (fun f hf => hP f (List.mem_append_right _ (by rwa [hchunk] at hf))) hmid
    have hserve : OpenNetDeck.serve t handle afterRead (.start state) (pre ++ [arrived]) =
        .ok s' := by
      rw [serve_append, hs]
      show OpenNetDeck.serve t handle afterRead s [arrived] = .ok s'
      rw [serve_cons hopen, hs']
      rfl
    obtain ⟨-, e, hfail⟩ | ⟨s'', hs'', hagrees⟩ :
        (Fails handle afterRead ∧ ∃ e, OpenNetDeck.serve t handle afterRead (.start state)
          (pre ++ [arrived]) = .error (.failed e)) ∨
        ∃ s, OpenNetDeck.serve t handle afterRead (.start state) (pre ++ [arrived]) = .ok s ∧
          Agrees s (SecondaryConnection.receive (pre ++ [arrived])) :=
      serve_agrees state (.concat hpre hne hfits (by rwa [hpending] at hover))
    · rw [hserve] at hfail
      cases hfail
    · rw [hserve] at hs''
      cases hs''
      rw [List.length_append]
      exact ⟨s', hserve, hagrees, hlast⟩

end SessionRule

end OpenNetDeck
