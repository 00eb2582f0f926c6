import OpenNetDeck.Embedded.ReceiveLoop

/-!
# Safety of the embedded receive loops

The decoder is safe exactly on the buffers whose declared length fits in a word
with the header size, and the session loops are safe exactly on the reads that
bring no other buffer before it. On a 64-bit target that is every buffer.

## Main results

- `embedded_decode_safe` — the decoder and the loops panic exactly on a declared
  length that overflows
-/

namespace OpenNetDeck

open Bytes Checked ChunkedScan CoraFrame

variable {σ ε : Type}

/-- `decode` returns, and a frame it returns took its header and its declared
payload from the buffer. -/
def DecodeSafe (t : Target) (buf : List UInt8) : Prop :=
  ∃ r, decodeOn t buf = .ok r ∧ ∀ f n, r = .ok (.some (f, n)) →
    n = coraHeaderSize + f.header.payloadLen.toNat ∧ coraHeaderSize ≤ n ∧ n ≤ buf.length

/-- Neither session loop panics on the reads, whatever its handlers do. -/
def LoopsSafe (t : Target) (reads : List (List UInt8)) : Prop :=
  ∀ (σ ε : Type) (greet : Except ε σ) (handleFrame : σ → CoraFrame → Except ε σ) (surface : σ)
    (handleIncomingFrame : σ → CoraFrame → Except ε σ) (pushEvent : σ → Except ε σ) (p : Panic),
    EmbeddedDockHub.handleConnection t greet handleFrame reads ≠ .error (.panic p) ∧
      EmbeddedDeckBridge.handleConnection t surface handleIncomingFrame pushEvent reads ≠
        .error (.panic p)

/-- No buffer that the drain loop inspects, at any of the reads up to the one
that ends the session, declares a length that overflows. -/
def SafeReads (t : Target) : List UInt8 → List (List UInt8) → Prop
  | _, [] => True
  | pending, arrived :: reads =>
    let chunk := arrived.take (rxBufferSize - pending.length)
    chunk = [] ∨ (∀ b ∈ receiver.inspected (pending ++ chunk), ¬ LengthOverflows t b) ∧
      SafeReads t (receiver.drain (pending ++ chunk)).2 reads

theorem decodeSafe_iff (t : Target) (buf : List UInt8) :
    DecodeSafe t buf ↔ ¬ LengthOverflows t buf := by
  constructor
  · rintro ⟨r, hr, -⟩ hover
    obtain ⟨p, hp⟩ := decodeOn_of_overflow hover
    rw [hp] at hr
    cases hr
  · intro hover
    refine ⟨decode buf, decodeOn_eq hover, ?_⟩
    intro f n hdecode
    obtain ⟨-, hle, hn, hplen⟩ := toVec_of_decode hdecode
    refine ⟨by rw [hplen, hn], ?_, hle⟩
    rw [hn]
    exact Nat.le_add_right _ _

theorem serve_safe {t : Target} {handle : σ → CoraFrame → Except ε σ}
    {afterRead : σ → Except ε σ} {s : Session σ} {reads : List (List UInt8)}
    (hsafe : SafeReads t s.rx.pending reads) (p : Panic) :
    serve t handle afterRead s reads ≠ .error (.panic p) := by
  induction reads generalizing s with
  | nil =>
    rw [serve_nil]
    exact nofun
  | cons arrived reads ih =>
    cases hclosed : s.closed with
    | true =>
      rw [serve_closed hclosed]
      exact nofun
    | false =>
      rw [serve_cons hclosed]
      rw [SafeReads, RxBuffer.pending_length] at hsafe
      by_cases hchunk : arrived.take s.rx.free = []
      · rw [onRead_closed hchunk]
        show serve t handle afterRead { s with closed := true } reads ≠ _
        rw [serve_closed rfl]
        exact nofun
      · obtain ⟨hover, hrest⟩ := hsafe.resolve_left hchunk
        obtain ⟨-, e, hfail⟩ | ⟨s', hs', -, hpending, -⟩ :=
          onRead_eq t handle afterRead hchunk hover
        · rw [hfail]
          exact nofun
        · rw [hs']
          exact ih (by rw [hpending]; exact hrest)

theorem safeReads_of_serve {t : Target} {handle : σ → CoraFrame → Except ε σ}
    {afterRead : σ → Except ε σ} (hok : ¬ Fails handle afterRead) {s : Session σ}
    {reads : List (List UInt8)} (hopen : s.closed = false)
    (hserve : ∀ p, serve t handle afterRead s reads ≠ .error (.panic p)) :
    SafeReads t s.rx.pending reads := by
  have hhandle : ∀ s f, ∃ s', handle s f = .ok s' := by
    intro s f
    cases hresult : handle s f with
    | ok s' => exact ⟨s', rfl⟩
    | error e => exact absurd (.inl ⟨s, f, e, hresult⟩) hok
  induction reads generalizing s with
  | nil => trivial
  | cons arrived reads ih =>
    rw [SafeReads, RxBuffer.pending_length]
    by_cases hchunk : arrived.take s.rx.free = []
    · exact .inl hchunk
    · right
      by_cases hover : ∃ b ∈ receiver.inspected (s.rx.pending ++ arrived.take s.rx.free),
          LengthOverflows t b
      · obtain ⟨p, hp⟩ := onRead_overflow afterRead hhandle hchunk hover
        refine absurd ?_ (hserve p)
        rw [serve_cons hopen, hp]
        rfl
      · have hover' : ∀ b ∈ receiver.inspected (s.rx.pending ++ arrived.take s.rx.free),
            ¬ LengthOverflows t b := fun b hb hlo => hover ⟨b, hb, hlo⟩
        obtain ⟨hfails, -⟩ | ⟨s', hs', -, hpending, hopen'⟩ :=
          onRead_eq t handle afterRead hchunk hover'
        · exact absurd hfails hok
        · refine ⟨hover', ?_⟩
          have hrest := ih hopen' (by
            intro p hp
            apply hserve p
            rw [serve_cons hopen, hs']
            exact hp)
          rwa [hpending] at hrest

theorem loopsSafe_iff (t : Target) (reads : List (List UInt8)) :
    LoopsSafe t reads ↔ SafeReads t [] reads := by
  constructor
  · intro hsafe
    have hbridge : ∀ p, serve t (fun (_ : Unit) _ => (.ok () : Except Unit Unit)) .ok
        (.start ()) reads ≠ .error (.panic p) :=
      fun p => (hsafe Unit Unit (.ok ()) (fun _ _ => .ok ()) () (fun _ _ => .ok ()) .ok p).2
    exact safeReads_of_serve (by rintro (⟨_, _, _, h⟩ | ⟨_, _, h⟩) <;> cases h) rfl hbridge
  · intro hsafe σ ε greet handleFrame surface handleIncomingFrame pushEvent p
    constructor
    · rw [EmbeddedDockHub.handleConnection]
      cases greet with
      | error e => exact nofun
      | ok state => exact serve_safe (s := .start state) hsafe p
    · exact serve_safe (s := .start surface) hsafe p

/-- **Panics on a declared length**: for every target, the decoder is safe on
exactly the buffers that declare no overflowing length, and the session loops on
exactly the reads that bring no such buffer before `decode`. -/
theorem embedded_decode_safe (t : Target) :
    (∀ buf, DecodeSafe t buf ↔ ¬ LengthOverflows t buf) ∧
      ∀ reads, LoopsSafe t reads ↔ SafeReads t [] reads :=
  ⟨decodeSafe_iff t, loopsSafe_iff t⟩

/-- A header that declares 16 bytes less than a 32-bit word can count. -/
def overflowHeader : List UInt8 :=
  coraMagic ++ [0, 0, 0, 0] ++ [0, 0, 0, 0] ++ [0xf0, 0xff, 0xff, 0xff]

theorem inspected_overflowHeader : receiver.inspected overflowHeader = [overflowHeader] :=
  Scanner.inspected_stop (by decide) (.inl (by rfl))

/-- On a 32-bit target the header alone stops the decoder and both loops, with
and without overflow checks. -/
theorem embedded_decode_unsafe :
    ¬ ((∀ t buf, DecodeSafe t buf) ∧ ∀ t reads, LoopsSafe t reads) ∧
      (¬ DecodeSafe ⟨.w32, true⟩ overflowHeader ∧ ¬ DecodeSafe ⟨.w32, false⟩ overflowHeader) ∧
      ¬ LoopsSafe ⟨.w32, true⟩ [overflowHeader] ∧ ¬ LoopsSafe ⟨.w32, false⟩ [overflowHeader] := by
  have hover : ∀ checks, LengthOverflows ⟨.w32, checks⟩ overflowHeader := by decide
  have hdecode : ∀ checks, ¬ DecodeSafe ⟨.w32, checks⟩ overflowHeader := by
    intro checks
    rw [decodeSafe_iff, not_not]
    exact hover checks
  have hloops : ∀ checks, ¬ LoopsSafe ⟨.w32, checks⟩ [overflowHeader] := by
    intro checks hsafe
    obtain hend | ⟨hsafe, -⟩ := (loopsSafe_iff _ _).mp hsafe
    · revert hend
      decide
    · apply hsafe overflowHeader _ (hover checks)
      rw [List.nil_append, List.take_of_length_le (by decide), inspected_overflowHeader]
      exact List.mem_cons_self
  exact ⟨fun hall => hdecode true (hall.1 _ _), ⟨hdecode true, hdecode false⟩, hloops true,
    hloops false⟩

end OpenNetDeck
