import Mathlib.Tactic

/-!
# Scanning a stream that arrives in chunks

A receiver appends each chunk it reads to a pending buffer and then drains the
buffer with a loop whose body looks at the pending elements and either waits
for more, hands a value over and drops what it was read from, skips some
elements, or throws the whole buffer away.

## Main definitions

- `ChunkedScan.Scanner` — a loop body that consumes something whenever it goes on
- `Scanner.drain`, `Scanner.run` — the loop over one buffer, and over all chunks
- `Scanner.inspected`, `Scanner.Throughout` — the buffers the body looks at, in
  one drain and in a whole run
- `Scanner.Computes` — the body agrees with a function of the whole stream
- `Scanner.Frames` — the body recognises the words of an encoding
- `Scanner.drainWithin` — the loop with a bound on its passes
- `Scanner.Layout` — the ranges that the values of a drain are read from

## Main results

- `Scanner.Computes.run_eq` — a run computes the stream function, however the
  stream was cut
- `Scanner.Frames.run_flatMap` — a run over a concatenation of words hands over
  exactly those words and leaves a proper prefix of the next one
- `Scanner.drainWithin_of_le` — the loop ends
- `Scanner.Covers.drain_layout` — what a drain reads and skips
-/

namespace ChunkedScan

variable {α β γ : Type*}

/-- What one pass of a drain loop decides about the elements it holds. -/
inductive Move (β : Type*) where
  | wait
  | emit (b : β) (n : ℕ)
  | skip (n : ℕ)
  | flush

/-- A value and the range of the buffer that it was read from. -/
structure Span (β : Type*) where
  start : ℕ
  value : β
  length : ℕ

namespace Span

def stop (x : Span β) : ℕ := x.start + x.length

instance : Membership ℕ (Span β) := ⟨fun x i => x.start ≤ i ∧ i < x.stop⟩

end Span

/-- A drain loop body. Going on always consumes at least one element, so the
loop ends. -/
structure Scanner (α β : Type*) where
  move : List α → Move β
  emit_pos : ∀ {l b n}, move l = .emit b n → 0 < n
  skip_pos : ∀ {l n}, move l = .skip n → 0 < n

namespace Scanner

variable (S : Scanner α β)

private theorem drop_shorter {l : List α} {n : ℕ} (hl : l ≠ []) (hn : 0 < n) :
    (l.drop n).length < l.length := by
  have := List.length_pos_iff.mpr hl
  rw [List.length_drop]
  omega

/-- The loop over one buffer: the values handed over and what is left. -/
def drain (l : List α) : List β × List α :=
  if _hl : l = [] then ([], [])
  else
    match _h : S.move l with
    | .wait => ([], l)
    | .flush => ([], [])
    | .emit b n => (b :: (drain (l.drop n)).1, (drain (l.drop n)).2)
    | .skip n => drain (l.drop n)
termination_by l.length
decreasing_by
  all_goals first
    | exact drop_shorter ‹_› (S.emit_pos ‹_›)
    | exact drop_shorter ‹_› (S.skip_pos ‹_›)

/-- The buffers the loop body looks at while it drains one buffer. -/
def inspected (l : List α) : List (List α) :=
  if _hl : l = [] then []
  else
    match _h : S.move l with
    | .wait | .flush => [l]
    | .emit _ n => l :: inspected (l.drop n)
    | .skip n => l :: inspected (l.drop n)
termination_by l.length
decreasing_by
  all_goals first
    | exact drop_shorter ‹_› (S.emit_pos ‹_›)
    | exact drop_shorter ‹_› (S.skip_pos ‹_›)

@[simp] theorem drain_nil : S.drain [] = ([], []) := by
  rw [drain, dif_pos rfl]

@[simp] theorem inspected_nil : S.inspected [] = [] := by
  rw [inspected, dif_pos rfl]

section

variable {S} {l : List α} {b : β} {n : ℕ}

theorem drain_wait (h : S.move l = .wait) : S.drain l = ([], l) := by
  by_cases hl : l = []
  · subst hl
    exact S.drain_nil
  · rw [drain, dif_neg hl]
    split <;> simp_all

theorem drain_flush (h : S.move l = .flush) : S.drain l = ([], []) := by
  by_cases hl : l = []
  · subst hl
    exact S.drain_nil
  · rw [drain, dif_neg hl]
    split <;> simp_all

theorem drain_emit (hl : l ≠ []) (h : S.move l = .emit b n) :
    S.drain l = (b :: (S.drain (l.drop n)).1, (S.drain (l.drop n)).2) := by
  rw [drain, dif_neg hl]
  split <;> simp_all

theorem drain_skip (hl : l ≠ []) (h : S.move l = .skip n) :
    S.drain l = S.drain (l.drop n) := by
  rw [drain, dif_neg hl]
  split <;> simp_all

theorem inspected_stop (hl : l ≠ []) (h : S.move l = .wait ∨ S.move l = .flush) :
    S.inspected l = [l] := by
  rw [inspected, dif_neg hl]
  split <;> simp_all

theorem inspected_emit (hl : l ≠ []) (h : S.move l = .emit b n) :
    S.inspected l = l :: S.inspected (l.drop n) := by
  rw [inspected, dif_neg hl]
  split <;> simp_all

theorem inspected_skip (hl : l ≠ []) (h : S.move l = .skip n) :
    S.inspected l = l :: S.inspected (l.drop n) := by
  rw [inspected, dif_neg hl]
  split <;> simp_all

end

/-- Induction along a drain: the buffer is empty, or the loop stops at it, or
it goes on with a shorter one. -/
theorem drain_induction {P : List α → Prop} (nil : P [])
    (wait : ∀ l, l ≠ [] → S.move l = .wait → P l)
    (flush : ∀ l, l ≠ [] → S.move l = .flush → P l)
    (emit : ∀ l b n, l ≠ [] → S.move l = .emit b n → P (l.drop n) → P l)
    (skip : ∀ l n, l ≠ [] → S.move l = .skip n → P (l.drop n) → P l) (l : List α) : P l := by
  by_cases hl : l = []
  · subst hl
    exact nil
  · cases h : S.move l with
    | wait => exact wait l hl h
    | flush => exact flush l hl h
    | emit b n =>
      exact emit l b n hl h (drain_induction nil wait flush emit skip (l.drop n))
    | skip n =>
      exact skip l n hl h (drain_induction nil wait flush emit skip (l.drop n))
termination_by l.length
decreasing_by
  all_goals first
    | exact drop_shorter hl (S.emit_pos h)
    | exact drop_shorter hl (S.skip_pos h)

/-- A drain leaves no more than it was given. -/
theorem drain_rest_length_le (l : List α) : (S.drain l).2.length ≤ l.length := by
  induction l using S.drain_induction with
  | nil => rw [drain_nil]
  | wait l _ h => rw [drain_wait h]
  | flush l _ h =>
    rw [drain_flush h]
    exact Nat.zero_le l.length
  | emit l b n hl h ih =>
    rw [drain_emit hl h]
    exact ih.trans (drop_shorter hl (S.emit_pos h)).le
  | skip l n hl h ih =>
    rw [drain_skip hl h]
    exact ih.trans (drop_shorter hl (S.skip_pos h)).le

/-- A drain leaves a shorter buffer, or waits on the one it was given. -/
theorem drain_rest_lt_or_wait (l : List α) (hl : l ≠ []) :
    (S.drain l).2.length < l.length ∨ S.move l = .wait ∧ (S.drain l).2 = l := by
  cases h : S.move l with
  | wait => exact .inr ⟨rfl, by rw [drain_wait h]⟩
  | flush =>
    rw [drain_flush h]
    exact .inl (List.length_pos_iff.mpr hl)
  | emit b n =>
    rw [drain_emit hl h]
    have hlt := drop_shorter hl (S.emit_pos h)
    exact .inl ((S.drain_rest_length_le (l.drop n)).trans_lt hlt)
  | skip n =>
    rw [drain_skip hl h]
    have hlt := drop_shorter hl (S.skip_pos h)
    exact .inl ((S.drain_rest_length_le (l.drop n)).trans_lt hlt)

/-! ### Runs over chunks -/

/-- The receive loop: each chunk is appended to the pending buffer, which is
then drained. An empty chunk is the end of the stream. -/
def run : List α → List (List α) → List β × List α
  | pending, [] => ([], pending)
  | pending, chunk :: chunks =>
    if chunk.isEmpty then ([], pending)
    else
      let drained := S.drain (pending ++ chunk)
      let rest := run drained.2 chunks
      (drained.1 ++ rest.1, rest.2)

/-- `P buffer future` holds of every buffer the loop body looks at in a run,
`future` being what the chunks not yet read will bring. -/
def Throughout (P : List α → List α → Prop) : List α → List (List α) → Prop
  | _, [] => True
  | pending, chunk :: chunks =>
    (∀ b ∈ S.inspected (pending ++ chunk), P b chunks.flatten) ∧
      Throughout P (S.drain (pending ++ chunk)).2 chunks

@[simp] theorem run_nil (p : List α) : S.run p [] = ([], p) := rfl

theorem run_cons {p c : List α} (cs : List (List α)) (hc : c ≠ []) :
    S.run p (c :: cs) =
      ((S.drain (p ++ c)).1 ++ (S.run (S.drain (p ++ c)).2 cs).1,
        (S.run (S.drain (p ++ c)).2 cs).2) := by
  have hemp : c.isEmpty = false := by simpa using hc
  simp only [run, hemp, Bool.false_eq_true, if_false]

theorem run_append {cs : List (List α)} (hcs : ∀ c ∈ cs, c ≠ []) (p : List α)
    (ds : List (List α)) :
    S.run p (cs ++ ds) =
      ((S.run p cs).1 ++ (S.run (S.run p cs).2 ds).1, (S.run (S.run p cs).2 ds).2) := by
  induction cs generalizing p with
  | nil => simp
  | cons c cs ih =>
    have hc := hcs c List.mem_cons_self
    have hrest := ih (fun d hd => hcs d (List.mem_cons_of_mem c hd)) (S.drain (p ++ c)).2
    rw [List.cons_append, run_cons S _ hc, run_cons S _ hc, hrest, List.append_assoc]

/-! ### Functions of the whole stream -/

/-- What is left after a drain is empty or makes the loop body wait. -/
theorem drain_settled (l : List α) :
    (S.drain l).2 = [] ∨ S.move (S.drain l).2 = .wait := by
  induction l using S.drain_induction with
  | nil => exact .inl (by rw [S.drain_nil])
  | wait l hl h =>
    rw [drain_wait h]
    exact .inr h
  | flush l hl h => exact .inl (by rw [drain_flush h])
  | emit l b n hl h ih =>
    rw [drain_emit hl h]
    exact ih
  | skip l n hl h ih =>
    rw [drain_skip hl h]
    exact ih

/-- The loop body agrees with `spec`, a function of the whole stream. Only
throwing a buffer away may depend on what follows it: `Harmless l t` says that
nothing of the stream `l ++ t` is lost with `l`. -/
structure Computes (spec : List α → List β) (Harmless : List α → List α → Prop) : Prop where
  nil : spec [] = []
  wait : ∀ {l}, S.move l = .wait → spec l = []
  emit : ∀ {l b n}, S.move l = .emit b n → ∀ t, spec (l ++ t) = b :: spec (l.drop n ++ t)
  skip : ∀ {l n}, S.move l = .skip n → ∀ t, spec (l ++ t) = spec (l.drop n ++ t)
  flush : ∀ {l t}, S.move l = .flush → Harmless l t → spec (l ++ t) = spec t

/-- Every buffer that is thrown away with the given future is harmless. -/
def FlushHarmless (Harmless : List α → List α → Prop) (l t : List α) : Prop :=
  S.move l = .flush → Harmless l t

section

variable {S} {spec : List α → List β} {Harmless : List α → List α → Prop}

/-- One drain hands over a prefix of the stream's values, and what it leaves
stands for the rest. -/
theorem Computes.drain_eq (hS : S.Computes spec Harmless) (l t : List α)
    (hflush : ∀ b ∈ S.inspected l, S.FlushHarmless Harmless b t) :
    spec (l ++ t) = (S.drain l).1 ++ spec ((S.drain l).2 ++ t) := by
  induction l using S.drain_induction with
  | nil => simp
  | wait l hl h => simp [drain_wait h]
  | flush l hl h =>
    have hmem : l ∈ S.inspected l := by simp [inspected_stop hl (.inr h)]
    rw [drain_flush h, List.nil_append, List.nil_append]
    exact hS.flush h (hflush l hmem h)
  | emit l b n hl h ih =>
    rw [inspected_emit hl h] at hflush
    rw [hS.emit h t, drain_emit hl h, List.cons_append,
      ih fun b hb => hflush b (List.mem_cons_of_mem l hb)]
  | skip l n hl h ih =>
    rw [inspected_skip hl h] at hflush
    rw [hS.skip h t, drain_skip hl h, ih fun b hb => hflush b (List.mem_cons_of_mem l hb)]

theorem Computes.drain_rest (hS : S.Computes spec Harmless) (l : List α) :
    spec (S.drain l).2 = [] := by
  rcases S.drain_settled l with h | h
  · rw [h, hS.nil]
  · exact hS.wait h

/-- **Independence of the cuts**: a run in which no flush loses anything
computes the stream function of what it was fed. -/
theorem Computes.run_eq (hS : S.Computes spec Harmless) {cs : List (List α)}
    (hcs : ∀ c ∈ cs, c ≠ []) (p : List α) (hp : spec p = [])
    (hrun : S.Throughout (S.FlushHarmless Harmless) p cs) :
    (S.run p cs).1 = spec (p ++ cs.flatten) := by
  induction cs generalizing p with
  | nil => simp [hp]
  | cons c cs ih =>
    obtain ⟨hflush, hrest⟩ := hrun
    have hc := hcs c List.mem_cons_self
    -- what is pending after this chunk stands for nothing by itself
    have htail := ih (fun d hd => hcs d (List.mem_cons_of_mem c hd)) _
      (hS.drain_rest (p ++ c)) hrest
    rw [run_cons S cs hc, List.flatten_cons, ← List.append_assoc,
      hS.drain_eq (p ++ c) cs.flatten hflush, htail]

end

/-! ### Streams of encoded words -/

/-- The loop body recognises the words of an encoding: it hands over a word
that is complete, whatever follows, and waits on a proper prefix of one. -/
structure Frames (encode : γ → List α) (view : γ → β) : Prop where
  emit : ∀ c t, S.move (encode c ++ t) = .emit (view c) (encode c).length
  wait : ∀ c p, p <+: encode c → p.length < (encode c).length → S.move p = .wait

/-- The pending buffer is empty or a proper prefix of the next word. -/
def Partial (encode : γ → List α) (p : List α) (ms : List γ) : Prop :=
  p = [] ∨ ∃ m rest, ms = m :: rest ∧ p <+: encode m ∧ p.length < (encode m).length

section

variable {S} {encode : γ → List α} {view : γ → β}

/-- A drain of a prefix of the encoded stream hands over the words it holds and
leaves a proper prefix of the next. -/
theorem Frames.drain_flatMap (hS : S.Frames encode view) (ms : List γ) (l t : List α)
    (hstream : l ++ t = ms.flatMap encode) :
    ∃ done rest, ms = done ++ rest ∧ (S.drain l).1 = done.map view ∧
      (S.drain l).2 ++ t = rest.flatMap encode ∧ Partial encode (S.drain l).2 rest := by
  induction ms generalizing l with
  | nil =>
    have hl : l = [] := (List.append_eq_nil_iff.mp hstream).1
    subst hl
    exact ⟨[], [], rfl, by simp, by simpa using hstream, .inl (by simp)⟩
  | cons m ms ih =>
    rw [List.flatMap_cons] at hstream
    by_cases hl : l = []
    · subst hl
      exact ⟨[], m :: ms, rfl, by simp, by simpa using hstream, .inl (by simp)⟩
    rcases Nat.lt_or_ge l.length (encode m).length with hlt | hge
    · -- the word is not complete yet
      have hpre : l <+: encode m := by
        have hboth : encode m <+: l ++ t := ⟨ms.flatMap encode, hstream.symm⟩
        exact List.prefix_of_prefix_length_le (List.prefix_append l t) hboth hlt.le
      have hwait := hS.wait m l hpre hlt
      rw [drain_wait hwait]
      exact ⟨[], m :: ms, rfl, rfl, by simpa using hstream, .inr ⟨m, ms, rfl, hpre, hlt⟩⟩
    · -- the word is complete, and `l` goes on with `l'`
      have hpre : encode m <+: l := by
        have hboth : encode m <+: l ++ t := ⟨ms.flatMap encode, hstream.symm⟩
        exact List.prefix_of_prefix_length_le hboth (List.prefix_append l t) hge
      obtain ⟨l', rfl⟩ := hpre
      have hrest : l' ++ t = ms.flatMap encode := by
        rw [List.append_assoc] at hstream
        exact List.append_cancel_left hstream
      obtain ⟨done, rest, hms, hout, hleft, hpart⟩ := ih l' hrest
      rw [drain_emit hl (hS.emit m l'), List.drop_left]
      exact ⟨m :: done, rest, by rw [hms, List.cons_append], by rw [hout, List.map_cons],
        hleft, hpart⟩

/-- **Lossless framing**: a run over the beginning of an encoded stream hands
over its words in order and keeps a proper prefix of the next one. -/
theorem Frames.run_flatMap (hS : S.Frames encode view) {cs : List (List α)}
    (hcs : ∀ c ∈ cs, c ≠ []) (ms : List γ) (p t : List α) (hp : Partial encode p ms)
    (hstream : p ++ cs.flatten ++ t = ms.flatMap encode) :
    ∃ done rest, ms = done ++ rest ∧ (S.run p cs).1 = done.map view ∧
      (S.run p cs).2 ++ t = rest.flatMap encode ∧ Partial encode (S.run p cs).2 rest := by
  induction cs generalizing p ms with
  | nil => exact ⟨[], ms, rfl, rfl, by simpa using hstream, hp⟩
  | cons c cs ih =>
    have hc := hcs c List.mem_cons_self
    have hsplit : (p ++ c) ++ (cs.flatten ++ t) = ms.flatMap encode := by
      simpa [List.append_assoc] using hstream
    obtain ⟨done, rest, hms, hout, hleft, hpart⟩ := hS.drain_flatMap ms (p ++ c) _ hsplit
    obtain ⟨done', rest', hms', hout', hleft', hpart'⟩ :=
      ih (fun d hd => hcs d (List.mem_cons_of_mem c hd)) rest _ hpart
        (by rw [List.append_assoc]; exact hleft)
    rw [run_cons S cs hc]
    exact ⟨done ++ done', rest', by rw [hms, hms', List.append_assoc],
      by rw [hout, hout', List.map_append], hleft', hpart'⟩

/-- A pending buffer that holds all the rest of the stream holds no word. -/
theorem Partial.eq_nil (hpos : ∀ m, encode m ≠ []) {p : List α} {ms : List γ}
    (hp : Partial encode p ms) (hend : p = ms.flatMap encode) : ms = [] := by
  obtain hp | ⟨m, rest, rfl, -, hlt⟩ := hp
  · cases ms with
    | nil => rfl
    | cons m rest =>
      rw [hp, List.flatMap_cons] at hend
      exact absurd (List.append_eq_nil_iff.mp hend.symm).1 (hpos m)
  · rw [hend, List.flatMap_cons, List.length_append] at hlt
    omega

end

/-! ### Bounded passes -/

/-- The loop with at most `fuel` passes of its body. -/
def drainWithin (fuel : ℕ) (l : List α) : Option (List β × List α) :=
  if l = [] then some ([], [])
  else
    match fuel with
    | 0 => none
    | fuel + 1 =>
      match S.move l with
      | .wait => some ([], l)
      | .flush => some ([], [])
      | .emit b n => (drainWithin fuel (l.drop n)).map fun r => (b :: r.1, r.2)
      | .skip n => drainWithin fuel (l.drop n)

/-- A pass of the loop, when there is fuel for it. -/
theorem drainWithin_succ {l : List α} (hl : l ≠ []) (fuel : ℕ) :
    S.drainWithin (fuel + 1) l =
      match S.move l with
      | .wait => some ([], l)
      | .flush => some ([], [])
      | .emit b n => (S.drainWithin fuel (l.drop n)).map fun r => (b :: r.1, r.2)
      | .skip n => S.drainWithin fuel (l.drop n) := by
  rw [drainWithin, if_neg hl]

/-- The loop ends after as many passes as the buffer has elements. -/
theorem drainWithin_of_le {l : List α} {fuel : ℕ} (h : l.length ≤ fuel) :
    S.drainWithin fuel l = some (S.drain l) := by
  have hfuel {l : List α} {fuel : ℕ} (hl : l ≠ []) (h : l.length ≤ fuel) :
      ∃ k, fuel = k + 1 :=
    Nat.exists_eq_succ_of_ne_zero ((List.length_pos_iff.mpr hl).trans_le h).ne'
  induction l using S.drain_induction generalizing fuel with
  | nil =>
    unfold drainWithin
    rw [if_pos rfl, drain_nil]
  | wait l hl hmove =>
    obtain ⟨k, rfl⟩ := hfuel hl h
    rw [S.drainWithin_succ hl, hmove, drain_wait hmove]
  | flush l hl hmove =>
    obtain ⟨k, rfl⟩ := hfuel hl h
    rw [S.drainWithin_succ hl, hmove, drain_flush hmove]
  | emit l b n hl hmove ih =>
    obtain ⟨k, rfl⟩ := hfuel hl h
    have hshort := drop_shorter hl (S.emit_pos hmove)
    have hrest : (l.drop n).length ≤ k := by omega
    rw [S.drainWithin_succ hl, hmove, drain_emit hl hmove]
    simp only [ih hrest, Option.map_some]
  | skip l n hl hmove ih =>
    obtain ⟨k, rfl⟩ := hfuel hl h
    have hshort := drop_shorter hl (S.skip_pos hmove)
    rw [S.drainWithin_succ hl, hmove, drain_skip hl hmove]
    exact ih (by omega)

/-! ### Where the values stand -/

/-- The loop body reads nothing behind the buffer, and throws no element away at which
a value may start. -/
structure Covers (Starts : List α → Prop) : Prop where
  emit_le : ∀ {l b n}, S.move l = .emit b n → n ≤ l.length
  skip_le : ∀ {l n}, l ≠ [] → S.move l = .skip n → n ≤ l.length
  skip : ∀ {l n}, S.move l = .skip n → ∀ i < n, ¬ Starts (l.drop i)
  flush : ∀ {l}, S.move l = .flush → ∀ i, ¬ Starts (l.drop i)

/-- The values that the loop reads from the elements of `l` between two positions: at
what it skips there no value starts. -/
structure Layout (Starts : List α → Prop) (l : List α) (start stop : ℕ) (spans : List (Span β)) :
    Prop where
  read : ∀ x ∈ spans, S.move (l.drop x.start) = .emit x.value x.length
  inside : ∀ x ∈ spans, start ≤ x.start ∧ x.stop ≤ stop
  ordered : spans.Pairwise fun x y => x.stop ≤ y.start
  skipped : ∀ i, start ≤ i → i < stop → (∀ x ∈ spans, i ∉ x) → ¬ Starts (l.drop i)

section

variable {S} {Starts : List α → Prop} {l : List α} {start stop n : ℕ} {b : β}
  {spans : List (Span β)}

theorem layout_nil (hskip : ∀ i, start ≤ i → i < stop → ¬ Starts (l.drop i)) :
    S.Layout Starts l start stop [] where
  read := List.forall_mem_nil _
  inside := List.forall_mem_nil _
  ordered := List.Pairwise.nil
  skipped i hi hstop _ := hskip i hi hstop

/-- Elements in front at which no value starts. -/
theorem Layout.skip (h : S.Layout Starts l (start + n) stop spans)
    (hskip : ∀ i < n, ¬ Starts ((l.drop start).drop i)) : S.Layout Starts l start stop spans where
  read := h.read
  inside x hx := ⟨(Nat.le_add_right start n).trans (h.inside x hx).1, (h.inside x hx).2⟩
  ordered := h.ordered
  skipped i hi hstop hout := by
    by_cases hn : start + n ≤ i
    · exact h.skipped i hn hstop hout
    · obtain ⟨k, rfl⟩ := Nat.exists_eq_add_of_le hi
      rw [← List.drop_drop]
      exact hskip k (by omega)

/-- A value in front. -/
theorem Layout.emit (h : S.Layout Starts l (start + n) stop spans)
    (hmove : S.move (l.drop start) = .emit b n) (hstop : start + n ≤ stop) :
    S.Layout Starts l start stop (⟨start, b, n⟩ :: spans) where
  read := List.forall_mem_cons.mpr ⟨hmove, h.read⟩
  inside := List.forall_mem_cons.mpr ⟨⟨le_rfl, hstop⟩, fun x hx =>
    ⟨(Nat.le_add_right start n).trans (h.inside x hx).1, (h.inside x hx).2⟩⟩
  ordered := List.pairwise_cons.mpr ⟨fun x hx => (h.inside x hx).1, h.ordered⟩
  skipped i hi hlt hout := by
    obtain ⟨hfirst, hrest⟩ := List.forall_mem_cons.mp hout
    have hn : start + n ≤ i := by
      by_contra hless
      exact hfirst ⟨hi, Nat.lt_of_not_le hless⟩
    exact h.skipped i hn hlt hrest

/-- **What a drain reads and skips**: the values come from ranges of the buffer one
behind the other, no value starts at what is skipped, and the rest is left. -/
theorem Covers.drain_layout (hS : S.Covers Starts) (hstart : start ≤ l.length) :
    ∃ stop spans, stop ≤ l.length ∧ start ≤ stop ∧
      S.drain (l.drop start) = (spans.map (·.value), l.drop stop) ∧
      S.Layout Starts l start stop spans := by
  generalize hbuf : l.drop start = buf
  induction buf using S.drain_induction generalizing start with
  | nil =>
    have hend : l.length ≤ start := List.drop_eq_nil_iff.mp hbuf
    refine ⟨start, [], hstart, le_rfl, ?_, layout_nil fun i hi hlt => absurd hlt (not_lt.mpr hi)⟩
    rw [drain_nil, hbuf, List.map_nil]
  | wait buf hl hmove =>
    refine ⟨start, [], hstart, le_rfl, ?_, layout_nil fun i hi hlt => absurd hlt (not_lt.mpr hi)⟩
    rw [drain_wait hmove, hbuf, List.map_nil]
  | flush buf hl hmove =>
    refine ⟨l.length, [], le_rfl, hstart, ?_, layout_nil fun i hi _ => ?_⟩
    · rw [drain_flush hmove, List.drop_length, List.map_nil]
    · obtain ⟨k, rfl⟩ := Nat.exists_eq_add_of_le hi
      rw [← List.drop_drop, hbuf]
      exact hS.flush hmove k
  | emit buf b n hl hmove ih =>
    have hn : n ≤ buf.length := hS.emit_le hmove
    rw [← hbuf, List.length_drop] at hn
    have hnext : start + n ≤ l.length := by omega
    obtain ⟨stop, spans, hstop, hle, hdrain, hlayout⟩ :=
      ih hnext (by rw [← List.drop_drop, hbuf])
    refine ⟨stop, ⟨start, b, n⟩ :: spans, hstop, (Nat.le_add_right start n).trans hle, ?_,
      hlayout.emit (hbuf ▸ hmove) hle⟩
    rw [drain_emit hl hmove, hdrain, List.map_cons]
  | skip buf n hl hmove ih =>
    have hn : n ≤ buf.length := hS.skip_le hl hmove
    rw [← hbuf, List.length_drop] at hn
    have hnext : start + n ≤ l.length := by omega
    obtain ⟨stop, spans, hstop, hle, hdrain, hlayout⟩ :=
      ih hnext (by rw [← List.drop_drop, hbuf])
    refine ⟨stop, spans, hstop, (Nat.le_add_right start n).trans hle, ?_,
      hlayout.skip (hbuf ▸ hS.skip hmove)⟩
    rw [drain_skip hl hmove, hdrain]

end

end Scanner

end ChunkedScan
