import Mathlib.Data.Set.List
import OpenNetDeck.Lib.Transition

/-!
# Many producers and one writer

Producers that put messages into a bounded queue, each its own in the order in which
it built them, and a writer that puts the messages on a stream of symbols, one after
the other. When a write fails the queue is closed.

## Main definitions

- `Pipe.build` — a producer builds messages
- `Pipe.step` — a message enters the queue, leaves it, or is written in part

## Main results

- `Pipe.Ordered.build`, `Pipe.Ordered.step` — every message stays whole, and those
  of a producer stay in its order; none is lost while the queue is open
- `Pipe.Ordered.exists_encoded` — a queue of encodings is an encoded queue
- `Pipe.Ordered.exists_sent` — and one of what the producers said, each in its order
-/

/-- The messages that the producers are about to send, the queue and the rest of the
message that is being written, with all that was ever built, enqueued, dequeued and
written. -/
structure Pipe (ι α : Type*) where
  pending : ι → List (List α)
  queue : List (List α)
  writing : List α
  isOpen : Bool
  built : ι → List (List α)
  enqueued : List (ι × List α)
  dequeued : List (List α)
  written : List α

namespace Pipe

variable {ι α γ : Type*} [DecidableEq ι]

inductive Action (ι : Type*) where
  | send (i : ι)
  | recv
  | write (n : ℕ)
  | fail

def empty : Pipe ι α where
  pending := fun _ => []
  queue := []
  writing := []
  isOpen := true
  built := fun _ => []
  enqueued := []
  dequeued := []
  written := []

/-- A producer builds messages, to send them one by one. -/
def build (self : Pipe ι α) (i : ι) (msgs : List (List α)) : Pipe ι α :=
  { self with
    pending := Function.update self.pending i (self.pending i ++ msgs)
    built := Function.update self.built i (self.built i ++ msgs) }

/-- A producer waits while the queue is full, and its message is dropped when the
queue is closed. The writer takes a message when the last one is written. -/
def step (capacity : ℕ) (self : Pipe ι α) : Action ι → Option (Pipe ι α)
  | .send i =>
    match self.pending i with
    | msg :: rest =>
      if self.isOpen then
        if self.queue.length < capacity then
          some { self with
            pending := Function.update self.pending i rest
            queue := self.queue ++ [msg]
            enqueued := self.enqueued ++ [(i, msg)] }
        else none
      else some { self with pending := Function.update self.pending i rest }
    | [] => none
  | .recv =>
    match self.queue with
    | msg :: queue =>
      if self.isOpen ∧ self.writing = [] then
        some { self with queue, writing := msg, dequeued := self.dequeued ++ [msg] }
      else none
    | [] => none
  | .write n =>
    if self.isOpen then
      some { self with
        writing := self.writing.drop n
        written := self.written ++ self.writing.take n }
    else none
  | .fail => some { self with isOpen := false }

/-- The messages of a producer that entered the queue. -/
def sentBy (self : Pipe ι α) (i : ι) : List (List α) :=
  (self.enqueued.filter (·.1 = i)).map (·.2)

/-- The queue is first in, first out, what is written is what left it, and a producer
keeps its order. -/
structure Ordered (s : Pipe ι α) : Prop where
  fifo : s.dequeued ++ s.queue = s.enqueued.map (·.2)
  whole : s.written ++ s.writing = s.dequeued.flatten
  order : ∀ i, s.sentBy i <+: s.built i
  kept : s.isOpen = true → ∀ i, s.sentBy i ++ s.pending i = s.built i

theorem ordered_empty : (empty : Pipe ι α).Ordered where
  fifo := rfl
  whole := rfl
  order := fun _ => List.nil_prefix
  kept := fun _ _ => rfl

variable {s s' : Pipe ι α}

@[simp] theorem pending_build_self (s : Pipe ι α) (i : ι) (msgs : List (List α)) :
    (s.build i msgs).pending i = s.pending i ++ msgs := Function.update_self _ _ _

theorem pending_build_of_ne (s : Pipe ι α) {i j : ι} (h : j ≠ i) (msgs : List (List α)) :
    (s.build i msgs).pending j = s.pending j := Function.update_of_ne h _ _

/-- What a producer built is what it had built, and its new messages. -/
theorem mem_built_build {i j : ι} {msgs : List (List α)} {msg : List α} :
    msg ∈ (s.build i msgs).built j ↔ msg ∈ s.built j ∨ j = i ∧ msg ∈ msgs := by
  show msg ∈ Function.update s.built i _ j ↔ _
  by_cases hj : j = i
  · subst hj
    rw [Function.update_self, List.mem_append]
    simp
  · rw [Function.update_of_ne hj]
    simp [hj]

/-- What entered the queue was built by its producer. -/
theorem Ordered.mem_built (h : s.Ordered) {i : ι} {msg : List α} (hmem : (i, msg) ∈ s.enqueued) :
    msg ∈ s.built i := by
  apply (h.order i).subset
  rw [sentBy, List.mem_map]
  exact ⟨(i, msg), List.mem_filter.mpr ⟨hmem, decide_eq_true rfl⟩, rfl⟩

theorem Ordered.build (h : s.Ordered) (i : ι) (msgs : List (List α)) :
    (s.build i msgs).Ordered where
  fifo := h.fifo
  whole := h.whole
  order := by
    intro j
    show s.sentBy j <+: Function.update s.built i _ j
    by_cases hj : j = i
    · subst hj
      rw [Function.update_self]
      exact (h.order j).trans (List.prefix_append _ _)
    · rw [Function.update_of_ne hj]
      exact h.order j
  kept := by
    intro hopen j
    show s.sentBy j ++ Function.update s.pending i _ j = Function.update s.built i _ j
    by_cases hj : j = i
    · subst hj
      rw [Function.update_self, Function.update_self, ← List.append_assoc, h.kept hopen]
    · rw [Function.update_of_ne hj, Function.update_of_ne hj]
      exact h.kept hopen j

/-- What one step can do. -/
theorem step_cases {capacity : ℕ} {a : Action ι} (h : s.step capacity a = some s') :
    (∃ i msg rest, s.pending i = msg :: rest ∧ s.isOpen = true ∧
      s' = { s with
        pending := Function.update s.pending i rest
        queue := s.queue ++ [msg]
        enqueued := s.enqueued ++ [(i, msg)] }) ∨
    (∃ i rest, s.isOpen = false ∧
      s' = { s with pending := Function.update s.pending i rest }) ∨
    (∃ msg queue, s.queue = msg :: queue ∧ s.writing = [] ∧
      s' = { s with queue, writing := msg, dequeued := s.dequeued ++ [msg] }) ∨
    (∃ n, s' = { s with
      writing := s.writing.drop n
      written := s.written ++ s.writing.take n }) ∨
    s' = { s with isOpen := false } := by
  cases a with
  | send i =>
    simp only [step] at h
    split at h
    · next msg rest hpending =>
      split at h
      · next hopen =>
        obtain ⟨-, h⟩ := Option.ite_none_right_eq_some.mp h
        cases h
        exact .inl ⟨i, msg, rest, hpending, hopen, rfl⟩
      · next hclosed =>
        cases h
        exact .inr (.inl ⟨i, rest, Bool.eq_false_iff.mpr hclosed, rfl⟩)
    · cases h
  | recv =>
    simp only [step] at h
    split at h
    · next msg queue hqueue =>
      obtain ⟨⟨-, hwriting⟩, h⟩ := Option.ite_none_right_eq_some.mp h
      cases h
      exact .inr (.inr (.inl ⟨msg, queue, hqueue, hwriting, rfl⟩))
    · cases h
  | write n =>
    obtain ⟨-, h⟩ := Option.ite_none_right_eq_some.mp h
    cases h
    exact .inr (.inr (.inr (.inl ⟨n, rfl⟩)))
  | fail =>
    cases h
    exact .inr (.inr (.inr (.inr rfl)))

theorem built_step {capacity : ℕ} {a : Action ι} (h : s.step capacity a = some s') :
    s'.built = s.built := by
  obtain ⟨i, msg, rest, -, -, rfl⟩ | ⟨i, rest, -, rfl⟩ | ⟨msg, queue, -, -, rfl⟩ | ⟨n, rfl⟩ | rfl :=
    step_cases h <;> rfl

theorem suffix_update (pending : ι → List (List α)) {i : ι} {msg : List α}
    {rest : List (List α)} (h : pending i = msg :: rest) (j : ι) :
    Function.update pending i rest j <:+ pending j := by
  by_cases hj : j = i
  · subst hj
    rw [Function.update_self, h]
    exact List.suffix_cons msg rest
  · rw [Function.update_of_ne hj]

/-- A step only takes messages away from those that a producer is about to send. -/
theorem pending_step {capacity : ℕ} {a : Action ι} (h : s.step capacity a = some s') (i : ι) :
    s'.pending i <:+ s.pending i := by
  cases a with
  | send j =>
    simp only [step] at h
    split at h
    · next msg rest hpending =>
      split at h
      · obtain ⟨-, h⟩ := Option.ite_none_right_eq_some.mp h
        cases h
        exact suffix_update s.pending hpending i
      · cases h
        exact suffix_update s.pending hpending i
    · cases h
  | recv =>
    simp only [step] at h
    split at h
    · obtain ⟨-, h⟩ := Option.ite_none_right_eq_some.mp h
      cases h
      exact List.suffix_rfl
    · cases h
  | write n =>
    obtain ⟨-, h⟩ := Option.ite_none_right_eq_some.mp h
    cases h
    exact List.suffix_rfl
  | fail =>
    cases h
    exact List.suffix_rfl

theorem sentBy_concat (s : Pipe ι α) (i j : ι) (msg : List α) :
    (((s.enqueued ++ [(i, msg)]).filter (·.1 = j)).map (·.2)) =
      s.sentBy j ++ if i = j then [msg] else [] := by
  rw [List.filter_append, List.map_append, sentBy]
  by_cases hij : i = j
  · simp [hij]
  · simp [hij]

theorem Ordered.step (h : s.Ordered) {capacity : ℕ} {a : Action ι}
    (hstep : s.step capacity a = some s') : s'.Ordered := by
  obtain ⟨i, msg, rest, hpending, hopen, rfl⟩ | ⟨i, rest, hclosed, rfl⟩ |
    ⟨msg, queue, hqueue, hwriting, rfl⟩ | ⟨n, rfl⟩ | rfl := step_cases hstep
  · have hkept : ∀ j, s.sentBy j ++ (if i = j then [msg] else []) ++
        Function.update s.pending i rest j = s.built j := by
      intro j
      rw [← h.kept hopen j]
      by_cases hij : i = j
      · subst hij
        rw [if_pos rfl, Function.update_self, hpending, List.append_assoc, List.singleton_append]
      · rw [if_neg hij, Function.update_of_ne (Ne.symm hij), List.append_nil]
    refine ⟨?_, h.whole, ?_, ?_⟩
    · show s.dequeued ++ (s.queue ++ [msg]) = (s.enqueued ++ [(i, msg)]).map (·.2)
      rw [← List.append_assoc, h.fifo, List.map_append]
      rfl
    · intro j
      refine ⟨Function.update s.pending i rest j, ?_⟩
      rw [← hkept j, sentBy, sentBy_concat]
    · intro _ j
      rw [← hkept j, sentBy, sentBy_concat]
  · refine ⟨h.fifo, h.whole, h.order, ?_⟩
    intro hopen
    cases hclosed.symm.trans hopen
  · refine ⟨?_, ?_, h.order, h.kept⟩
    · show s.dequeued ++ [msg] ++ queue = s.enqueued.map (·.2)
      rw [← h.fifo, hqueue, List.append_assoc, List.singleton_append]
    · show s.written ++ msg = (s.dequeued ++ [msg]).flatten
      have hwhole := h.whole
      rw [hwriting, List.append_nil] at hwhole
      rw [hwhole, List.flatten_append, List.flatten_singleton]
  · refine ⟨h.fifo, ?_, h.order, h.kept⟩
    show s.written ++ s.writing.take n ++ s.writing.drop n = s.dequeued.flatten
    rw [List.append_assoc, List.take_append_drop, h.whole]
  · exact ⟨h.fifo, h.whole, h.order, nofun⟩

/-- What left the queue is the front of what entered it. -/
theorem Ordered.dequeued_eq (h : s.Ordered) :
    s.dequeued = (s.enqueued.take s.dequeued.length).map (·.2) := by
  rw [List.map_take, ← h.fifo, List.take_left]

/-- Where all that is built is an encoding, so is all that entered the queue. -/
theorem Ordered.exists_encoded (h : s.Ordered) {encode : γ → List α}
    (hbuilt : ∀ i, ∀ msg ∈ s.built i, ∃ c, encode c = msg) :
    ∃ sent : List (ι × γ), s.enqueued = sent.map (Prod.map id encode) := by
  have hmem : ∀ entry ∈ s.enqueued, entry ∈ Set.range (Prod.map (id : ι → ι) encode) := by
    rintro ⟨i, msg⟩ hentry
    obtain ⟨c, rfl⟩ := hbuilt i msg (h.mem_built hentry)
    exact ⟨(i, c), rfl⟩
  have hrange : s.enqueued ∈ Set.range (List.map (Prod.map (id : ι → ι) encode)) := by
    rw [Set.range_list_map]
    exact hmem
  obtain ⟨sent, hsent⟩ := hrange
  exact ⟨sent, hsent.symm⟩

/-! ### Encoded messages -/

/-- What the producers built are the encodings of what they said. -/
def Says (s : Pipe ι α) (encode : γ → List α) (said : ι → List γ) : Prop :=
  ∀ i, s.built i = (said i).map encode

omit [DecidableEq ι] in
theorem says_empty (encode : γ → List α) : (empty : Pipe ι α).Says encode fun _ => [] :=
  fun _ => rfl

theorem Says.build {encode : γ → List α} {said : ι → List γ} (h : s.Says encode said) (i : ι)
    (cs : List γ) :
    (s.build i (cs.map encode)).Says encode (Function.update said i (said i ++ cs)) := by
  intro j
  show Function.update s.built i _ j = _
  by_cases hj : j = i
  · subst hj
    rw [Function.update_self, Function.update_self, h j, List.map_append]
  · rw [Function.update_of_ne hj, Function.update_of_ne hj]
    exact h j

theorem Says.step {encode : γ → List α} {said : ι → List γ} (h : s.Says encode said)
    {capacity : ℕ} {a : Action ι} (hstep : s.step capacity a = some s') :
    s'.Says encode said := by
  rw [Says, built_step hstep]
  exact h

/-- What entered the queue is what the producers said, each in its order; while the
queue is open, what is missing of it is yet to be sent. -/
theorem Ordered.exists_sent (h : s.Ordered) {encode : γ → List α}
    (hencode : Function.Injective encode) {said : ι → List γ} (hsaid : s.Says encode said) :
    ∃ sent : List (ι × γ), s.enqueued = sent.map (Prod.map id encode) ∧
      (∀ i, (sent.filter (·.1 = i)).map (·.2) <+: said i) ∧
      (s.isOpen = true → ∀ i, s.pending i = [] →
        (sent.filter (·.1 = i)).map (·.2) = said i) := by
  have hbuilt : ∀ i, ∀ msg ∈ s.built i, ∃ c, encode c = msg := by
    intro i msg hmsg
    rw [hsaid i] at hmsg
    obtain ⟨c, -, hc⟩ := List.mem_map.mp hmsg
    exact ⟨c, hc⟩
  obtain ⟨sent, hsent⟩ := h.exists_encoded hbuilt
  have hsentBy : ∀ i, s.sentBy i = ((sent.filter (·.1 = i)).map (·.2)).map encode := by
    intro i
    rw [sentBy, hsent, List.filter_map, List.map_map, List.map_map]
    rfl
  refine ⟨sent, hsent, fun i => ?_, fun hopen i hpending => ?_⟩
  · have horder := h.order i
    rw [hsentBy, hsaid i, List.prefix_map_iff_of_injective hencode] at horder
    exact horder
  · have hkept := h.kept hopen i
    rw [hpending, List.append_nil, hsentBy, hsaid i] at hkept
    exact List.map_injective_iff.mpr hencode hkept

end Pipe
