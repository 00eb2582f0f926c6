import OpenNetDeck.Embedded.Target
import OpenNetDeck.Server.ReceiveLoop

/-!
# The embedded receive loops

`EmbeddedDockHub::handle_connection` and `EmbeddedDeckBridge::handle_connection`
read into a fixed array behind the bytes already pending, walk a slice of it
while counting the bytes they are done with, and move the rest to the front once
for each read.

## Main definitions

- `RxBuffer` — the array `rx_buffer` with `rx_offset`
- `drainSlice` — the drain loop over a slice and `consumed_total`
- `EmbeddedDockHub.handleConnection`, `EmbeddedDeckBridge.handleConnection`

## Main results

- `drainSlice_eq` — the drain loop does what the server's does
- `onRead_eq` — so does a read with its compaction
- `onRead_overflow` — a declared length that overflows ends the session
-/

namespace OpenNetDeck

open Bytes Checked ChunkedScan CoraFrame

/-- Size of `rx_buffer`. -/
def rxBufferSize : ℕ := 2048

/-- `rx_buffer`, of which the first `rx_offset` bytes are pending. -/
structure RxBuffer where
  bytes : List UInt8
  offset : ℕ
  size : bytes.length = rxBufferSize
  inBounds : offset ≤ rxBufferSize

namespace RxBuffer

def empty : RxBuffer where
  bytes := List.replicate rxBufferSize 0
  offset := 0
  size := List.length_replicate
  inBounds := Nat.zero_le _

/-- `rx_buffer[..rx_offset]` -/
def pending (rx : RxBuffer) : List UInt8 := rx.bytes.take rx.offset

/-- The length of the slice `rx_buffer[rx_offset..]` that a read may fill. -/
def free (rx : RxBuffer) : ℕ := rxBufferSize - rx.offset

/-- A read stores the arrived bytes that fit behind the pending ones. -/
def fill (rx : RxBuffer) (arrived : List UInt8) : RxBuffer where
  bytes := splice rx.bytes rx.offset (arrived.take rx.free)
  offset := rx.offset + (arrived.take rx.free).length
  size := by
    have hin := rx.inBounds
    rw [splice_length, rx.size]
    rw [rx.size, List.length_take, free]
    omega
  inBounds := by
    have hin := rx.inBounds
    rw [List.length_take, free]
    omega

/-- `copy_within(consumed_total..rx_offset, 0)` and `rx_offset -= consumed_total`
when something was consumed. -/
def compact (rx : RxBuffer) (consumedTotal : ℕ) : Except Panic RxBuffer :=
  if consumedTotal > 0 then
    if h : consumedTotal ≤ rx.offset then
      .ok {
        bytes := splice rx.bytes 0 (rx.pending.drop consumedTotal)
        offset := rx.offset - consumedTotal
        size := by
          have hin := rx.inBounds
          rw [splice_length, rx.size]
          rw [pending, List.length_drop, List.length_take, rx.size]
          omega
        inBounds := (Nat.sub_le _ _).trans rx.inBounds }
    else .error .sliceOutOfRange
  else .ok rx

@[simp] theorem pending_length (rx : RxBuffer) : rx.pending.length = rx.offset := by
  rw [pending, List.length_take, rx.size, Nat.min_eq_left rx.inBounds]

theorem pending_fill (rx : RxBuffer) (arrived : List UInt8) :
    (rx.fill arrived).pending = rx.pending ++ arrived.take rx.free :=
  take_splice (by rw [rx.size]; exact rx.inBounds)

theorem compact_eq (rx : RxBuffer) {n : ℕ} (h : n ≤ rx.offset) :
    ∃ rx', rx.compact n = .ok rx' ∧ rx'.pending = rx.pending.drop n := by
  by_cases hn : n > 0
  · have hlen : (rx.pending.drop n).length = rx.offset - n := by
      rw [List.length_drop, pending_length]
    refine ⟨_, by rw [compact, if_pos hn, dif_pos h], ?_⟩
    show (splice rx.bytes 0 (rx.pending.drop n)).take (rx.offset - n) = rx.pending.drop n
    rw [← hlen, splice_zero, List.take_left]
  · have hzero : n = 0 := by omega
    refine ⟨rx, by rw [compact, if_neg hn], ?_⟩
    rw [hzero, List.drop_zero]

end RxBuffer

/-- What ends a session early: a panic of the loop itself, or the failure of a
handler or of the stream it writes to. -/
inductive Fault (ε : Type) where
  | panic (p : Panic)
  | failed (e : ε)

variable {σ ε : Type}

def Fault.ofPanic {α : Type} : Except Panic α → Except (Fault ε) α
  | .ok a => .ok a
  | .error p => .error (.panic p)

def Fault.ofFailure {α : Type} : Except ε α → Except (Fault ε) α
  | .ok a => .ok a
  | .error e => .error (.failed e)

/-- The variables of the drain loop, and the frames given to the handler. -/
structure Drained (σ : Type) where
  state : σ
  consumedTotal : ℕ
  delivered : List CoraFrame

/-- `while !slice.is_empty()` -/
def drainSlice (t : Target) (handle : σ → CoraFrame → Except ε σ) (rxOffset : ℕ)
    (slice : List UInt8) (d : Drained σ) : Except (Fault ε) (Drained σ) :=
  if _hne : slice = [] then .ok d
  else
    match _h : decodeOn t slice with
    | .error p => .error (.panic p)
    | .ok (.ok (.some (frame, consumed))) => do
      let state ← Fault.ofFailure (handle d.state frame)
      -- `slice = &slice[consumed..]`
      let _ ← Fault.ofPanic (Checked.slice slice consumed slice.length)
      let consumedTotal ← Fault.ofPanic (t.add d.consumedTotal consumed)
      drainSlice t handle rxOffset (slice.drop consumed)
        ⟨state, consumedTotal, d.delivered ++ [frame]⟩
    | .ok (.ok .none) => .ok d
    | .ok (.error _) =>
      match findMagic slice with
      | .some pos =>
        if _hpos : pos > 0 then do
          let _ ← Fault.ofPanic (Checked.slice slice pos slice.length)
          let consumedTotal ← Fault.ofPanic (t.add d.consumedTotal pos)
          drainSlice t handle rxOffset (slice.drop pos) { d with consumedTotal }
        else do
          let _ ← Fault.ofPanic (Checked.slice slice 1 slice.length)
          let consumedTotal ← Fault.ofPanic (t.add d.consumedTotal 1)
          drainSlice t handle rxOffset (slice.drop 1) { d with consumedTotal }
      -- no magic in sight: all that is buffered counts as consumed
      | .none => .ok { d with consumedTotal := rxOffset }
termination_by slice.length
decreasing_by
  all_goals
    have := List.length_pos_iff.mpr ‹_›
    rw [List.length_drop]
  · have hn := (toVec_of_decode (decodeOn_some ‹_›)).2.2.1
    rw [coraHeaderSize] at hn
    omega
  · omega
  · omega

/-- A session: the handler's state, the receive buffer, the frames given to the
handler so far, and whether a read has returned `Ok(0)`. -/
structure Session (σ : Type) where
  state : σ
  rx : RxBuffer
  delivered : List CoraFrame
  closed : Bool

def Session.start (state : σ) : Session σ := ⟨state, .empty, [], false⟩

/-- One pass of the session loop: a read, the drain loop, the compaction, and
what the loop does before the next read. A read into an empty slice returns
`Ok(0)` like the end of the stream. -/
def onRead (t : Target) (handle : σ → CoraFrame → Except ε σ) (afterRead : σ → Except ε σ)
    (s : Session σ) (arrived : List UInt8) : Except (Fault ε) (Session σ) :=
  if (arrived.take s.rx.free).length = 0 then .ok { s with closed := true }
  else do
    let rx := s.rx.fill arrived
    let d ← drainSlice t handle rx.offset rx.pending ⟨s.state, 0, []⟩
    let rx ← Fault.ofPanic (rx.compact d.consumedTotal)
    let state ← Fault.ofFailure (afterRead d.state)
    return { state, rx, delivered := s.delivered ++ d.delivered, closed := false }

/-- The session loop over a sequence of reads. -/
def serve (t : Target) (handle : σ → CoraFrame → Except ε σ) (afterRead : σ → Except ε σ)
    (s : Session σ) (reads : List (List UInt8)) : Except (Fault ε) (Session σ) :=
  reads.foldlM (fun s arrived => if s.closed then pure s else onRead t handle afterRead s arrived) s

/-- The hub's session: `greet` sends the probe and the initial pushes. -/
def EmbeddedDockHub.handleConnection (t : Target) (greet : Except ε σ)
    (handleFrame : σ → CoraFrame → Except ε σ) (reads : List (List UInt8)) :
    Except (Fault ε) (Session σ) := do
  let state ← Fault.ofFailure greet
  serve t handleFrame .ok (.start state) reads

/-- The bridge's session: `pushEvent` polls the surface after each read and
pushes the report of its event. -/
def EmbeddedDeckBridge.handleConnection (t : Target) (surface : σ)
    (handleIncomingFrame : σ → CoraFrame → Except ε σ) (pushEvent : σ → Except ε σ)
    (reads : List (List UInt8)) : Except (Fault ε) (Session σ) :=
  serve t handleIncomingFrame pushEvent (.start surface) reads

/-! ### The drain loop -/

section

variable {t : Target} {handle : σ → CoraFrame → Except ε σ} {rxOffset : ℕ}
  {slice : List UInt8} {d : Drained σ}

theorem drainSlice_nil : drainSlice t handle rxOffset [] d = .ok d := by
  rw [drainSlice, dif_pos rfl]

theorem drainSlice_panic (hne : slice ≠ []) (hover : LengthOverflows t slice) :
    ∃ p, drainSlice t handle rxOffset slice d = .error (.panic p) := by
  obtain ⟨p, hp⟩ := decodeOn_of_overflow hover
  refine ⟨p, ?_⟩
  rw [drainSlice, dif_neg hne]
  split <;> simp_all

theorem drainSlice_wait (hne : slice ≠ []) (hover : ¬ LengthOverflows t slice)
    (h : receiver.move slice = .wait) : drainSlice t handle rxOffset slice d = .ok d := by
  have hdecode := decodeOn_eq hover
  rw [receiveMove_wait.mp h] at hdecode
  rw [drainSlice, dif_neg hne]
  split <;> simp_all

theorem drainSlice_flush (hne : slice ≠ []) (hover : ¬ LengthOverflows t slice)
    (h : receiver.move slice = .flush) :
    drainSlice t handle rxOffset slice d = .ok { d with consumedTotal := rxOffset } := by
  obtain ⟨⟨e, herr⟩, hfind⟩ := receiveMove_eq_flush h
  have hdecode := decodeOn_eq hover
  rw [herr] at hdecode
  rw [drainSlice, dif_neg hne]
  split <;> simp_all

theorem drainSlice_emit {f : CoraFrame} {n : ℕ} (hne : slice ≠ [])
    (hover : ¬ LengthOverflows t slice) (h : receiver.move slice = .emit f n)
    (hsmall : d.consumedTotal + slice.length ≤ rxBufferSize) :
    drainSlice t handle rxOffset slice d = (do
      let state ← Fault.ofFailure (handle d.state f)
      drainSlice t handle rxOffset (slice.drop n)
        ⟨state, d.consumedTotal + n, d.delivered ++ [f]⟩) := by
  have hmove := receiveMove_emit.mp h
  have hle := (toVec_of_decode hmove).2.1
  have hadd : d.consumedTotal + n < 2 ^ 32 := by
    rw [rxBufferSize] at hsmall
    omega
  have hdecode := decodeOn_eq hover
  rw [hmove] at hdecode
  rw [drainSlice, dif_neg hne]
  split
  · simp_all
  · next heq =>
    rw [hdecode] at heq
    cases heq
    rw [slice_of_le hle le_rfl, t.add_of_small hadd]
    rfl
  · simp_all
  · simp_all

theorem drainSlice_skip {n : ℕ} (hne : slice ≠ []) (hover : ¬ LengthOverflows t slice)
    (h : receiver.move slice = .skip n)
    (hsmall : d.consumedTotal + slice.length ≤ rxBufferSize) :
    drainSlice t handle rxOffset slice d =
      drainSlice t handle rxOffset (slice.drop n)
        { d with consumedTotal := d.consumedTotal + n } := by
  obtain ⟨e, pos, herr, hfind, hn⟩ := receiveMove_eq_skip h
  have hle := receiveMove_skip_le hne h
  have hadd : d.consumedTotal + n < 2 ^ 32 := by
    rw [rxBufferSize] at hsmall
    omega
  have hdecode := decodeOn_eq hover
  rw [herr] at hdecode
  rw [drainSlice, dif_neg hne]
  split
  · simp_all
  · simp_all
  · simp_all
  · split
    · next pos' hfind' =>
      rw [hfind] at hfind'
      cases hfind'
      split
      · next hpos =>
        rw [if_pos hpos] at hn
        subst hn
        rw [slice_of_le hle le_rfl, t.add_of_small hadd]
        rfl
      · next hpos =>
        rw [if_neg hpos] at hn
        subst hn
        rw [slice_of_le hle le_rfl, t.add_of_small hadd]
        rfl
    · simp_all

/-- While no declared length overflows, the drain loop hands over what the
server's drain hands over and is done with what the server drops, unless the
handler fails. -/
theorem drainSlice_eq (t : Target) (handle : σ → CoraFrame → Except ε σ) {pending : List UInt8}
    (hsize : pending.length ≤ rxBufferSize) (slice : List UInt8) (d : Drained σ)
    (hslice : pending.drop d.consumedTotal = slice)
    (hle : d.consumedTotal ≤ pending.length)
    (hover : ∀ b ∈ receiver.inspected slice, ¬ LengthOverflows t b) :
    (∃ s f e, handle s f = .error e ∧
      drainSlice t handle pending.length slice d = .error (.failed e)) ∨
    ∃ d', drainSlice t handle pending.length slice d = .ok d' ∧
      d'.delivered = d.delivered ++ (receiver.drain slice).1 ∧
      d'.consumedTotal ≤ pending.length ∧
      pending.drop d'.consumedTotal = (receiver.drain slice).2 := by
  have hlength : d.consumedTotal + slice.length = pending.length := by
    rw [← hslice, List.length_drop]
    omega
  induction slice using receiver.drain_induction generalizing d with
  | nil =>
    refine .inr ⟨d, drainSlice_nil, ?_, hle, ?_⟩
    · simp
    · simp [hslice]
  | wait l hl h =>
    have hl' := hover l (by simp [Scanner.inspected_stop hl (.inl h)])
    refine .inr ⟨d, drainSlice_wait hl hl' h, ?_, hle, ?_⟩
    · simp [Scanner.drain_wait h]
    · simp [Scanner.drain_wait h, hslice]
  | flush l hl h =>
    have hl' := hover l (by simp [Scanner.inspected_stop hl (.inr h)])
    refine .inr ⟨_, drainSlice_flush hl hl' h, ?_, le_rfl, ?_⟩
    · simp [Scanner.drain_flush h]
    · simp [Scanner.drain_flush h]
  | emit l f n hl h ih =>
    rw [Scanner.inspected_emit hl h] at hover
    have hl' := hover l List.mem_cons_self
    have hn := (toVec_of_decode (receiveMove_emit.mp h)).2.1
    rw [drainSlice_emit hl hl' h (by omega), Scanner.drain_emit hl h]
    cases hhandle : handle d.state f with
    | error e => exact .inl ⟨d.state, f, e, hhandle, rfl⟩
    | ok state =>
      have hrest := ih ⟨state, d.consumedTotal + n, d.delivered ++ [f]⟩
        (by rw [← hslice, List.drop_drop]) (by simp only; omega)
        (fun b hb => hover b (List.mem_cons_of_mem l hb))
        (by rw [List.length_drop]; simp only; omega)
      simp only [List.append_assoc, List.cons_append, List.nil_append] at hrest
      exact hrest
  | skip l n hl h ih =>
    rw [Scanner.inspected_skip hl h] at hover
    have hl' := hover l List.mem_cons_self
    have hn := receiveMove_skip_le hl h
    rw [drainSlice_skip hl hl' h (by omega), Scanner.drain_skip hl h]
    exact ih { d with consumedTotal := d.consumedTotal + n }
      (by rw [← hslice, List.drop_drop]) (by simp only; omega)
      (fun b hb => hover b (List.mem_cons_of_mem l hb))
      (by rw [List.length_drop]; simp only; omega)

/-- A handler that never fails lets the drain loop reach every buffer the server
inspects, so an overflow in one of them ends the loop. -/
theorem drainSlice_overflow (rxOffset : ℕ) (hhandle : ∀ s f, ∃ s', handle s f = .ok s')
    (slice : List UInt8) (d : Drained σ)
    (hsmall : d.consumedTotal + slice.length ≤ rxBufferSize)
    (hover : ∃ b ∈ receiver.inspected slice, LengthOverflows t b) :
    ∃ p, drainSlice t handle rxOffset slice d = .error (.panic p) := by
  induction slice using receiver.drain_induction generalizing d with
  | nil => simp at hover
  | wait l hl h =>
    rw [Scanner.inspected_stop hl (.inl h)] at hover
    exact drainSlice_panic hl (by simpa using hover)
  | flush l hl h =>
    rw [Scanner.inspected_stop hl (.inr h)] at hover
    exact drainSlice_panic hl (by simpa using hover)
  | emit l f n hl h ih =>
    by_cases hl' : LengthOverflows t l
    · exact drainSlice_panic hl hl'
    rw [Scanner.inspected_emit hl h] at hover
    have hn := (toVec_of_decode (receiveMove_emit.mp h)).2.1
    obtain ⟨state, hstate⟩ := hhandle d.state f
    obtain ⟨p, hp⟩ := ih ⟨state, d.consumedTotal + n, d.delivered ++ [f]⟩
      (by rw [List.length_drop]; simp only; omega) (by simpa [hl'] using hover)
    refine ⟨p, ?_⟩
    rw [drainSlice_emit hl hl' h hsmall, hstate]
    exact hp
  | skip l n hl h ih =>
    by_cases hl' : LengthOverflows t l
    · exact drainSlice_panic hl hl'
    rw [Scanner.inspected_skip hl h] at hover
    have hn := receiveMove_skip_le hl h
    obtain ⟨p, hp⟩ := ih { d with consumedTotal := d.consumedTotal + n }
      (by rw [List.length_drop]; simp only; omega) (by simpa [hl'] using hover)
    refine ⟨p, ?_⟩
    rw [drainSlice_skip hl hl' h hsmall]
    exact hp

end

/-! ### One read -/

section

variable {t : Target} {handle : σ → CoraFrame → Except ε σ} {afterRead : σ → Except ε σ}
  {s : Session σ} {arrived : List UInt8}

/-- A step of the session that can fail without a panic of the loop. -/
def Fails (handle : σ → CoraFrame → Except ε σ) (afterRead : σ → Except ε σ) : Prop :=
  (∃ s f e, handle s f = .error e) ∨ ∃ s e, afterRead s = .error e

theorem onRead_closed (h : arrived.take s.rx.free = []) :
    onRead t handle afterRead s arrived = .ok { s with closed := true } := by
  rw [onRead, if_pos (by rw [h, List.length_nil])]

/-- A read without overflow does to the pending bytes what the server does. -/
theorem onRead_eq (t : Target) (handle : σ → CoraFrame → Except ε σ) (afterRead : σ → Except ε σ)
    {s : Session σ} {arrived : List UInt8} (h : arrived.take s.rx.free ≠ [])
    (hover : ∀ b ∈ receiver.inspected (s.rx.pending ++ arrived.take s.rx.free),
      ¬ LengthOverflows t b) :
    (Fails handle afterRead ∧ ∃ e, onRead t handle afterRead s arrived = .error (.failed e)) ∨
    ∃ s', onRead t handle afterRead s arrived = .ok s' ∧
      s'.delivered =
        s.delivered ++ (receiver.drain (s.rx.pending ++ arrived.take s.rx.free)).1 ∧
      s'.rx.pending = (receiver.drain (s.rx.pending ++ arrived.take s.rx.free)).2 ∧
      s'.closed = false := by
  have hlength : (arrived.take s.rx.free).length ≠ 0 := by
    rwa [Ne, List.length_eq_zero_iff]
  have hpending := s.rx.pending_fill arrived
  rw [← hpending] at hover ⊢
  have hdrain := drainSlice_eq t handle
    (by rw [RxBuffer.pending_length]; exact (s.rx.fill arrived).inBounds)
    (s.rx.fill arrived).pending ⟨s.state, 0, []⟩ List.drop_zero (Nat.zero_le _) hover
  rw [RxBuffer.pending_length] at hdrain
  rw [onRead, if_neg hlength]
  obtain ⟨s', f, e, hfail, hdrain⟩ | ⟨d, hdrain, hdelivered, hle, hrest⟩ := hdrain
  · left
    refine ⟨.inl ⟨s', f, e, hfail⟩, e, ?_⟩
    simp only [hdrain]
    rfl
  · obtain ⟨rx, hcompact, hleft⟩ := (s.rx.fill arrived).compact_eq hle
    cases hafter : afterRead d.state with
    | error e =>
      left
      refine ⟨.inr ⟨d.state, e, hafter⟩, e, ?_⟩
      simp only [hdrain, bind, Except.bind, hcompact, Fault.ofPanic, hafter, Fault.ofFailure]
    | ok state =>
      right
      refine ⟨⟨state, rx, s.delivered ++ d.delivered, false⟩, ?_, ?_, ?_, rfl⟩
      · simp only [hdrain, bind, Except.bind, hcompact, Fault.ofPanic, hafter, Fault.ofFailure]
        rfl
      · simp only [hdelivered, List.nil_append]
      · simp only [hleft, hrest]

theorem onRead_overflow (afterRead : σ → Except ε σ) (hhandle : ∀ s f, ∃ s', handle s f = .ok s')
    {s : Session σ} (h : arrived.take s.rx.free ≠ [])
    (hover : ∃ b ∈ receiver.inspected (s.rx.pending ++ arrived.take s.rx.free),
      LengthOverflows t b) :
    ∃ p, onRead t handle afterRead s arrived = .error (.panic p) := by
  have hlength : (arrived.take s.rx.free).length ≠ 0 := by
    rwa [Ne, List.length_eq_zero_iff]
  have hpending := s.rx.pending_fill arrived
  rw [← hpending] at hover
  obtain ⟨p, hp⟩ := drainSlice_overflow (s.rx.fill arrived).offset hhandle
    (s.rx.fill arrived).pending ⟨s.state, 0, []⟩
    (by rw [RxBuffer.pending_length, Nat.zero_add]; exact (s.rx.fill arrived).inBounds) hover
  refine ⟨p, ?_⟩
  rw [onRead, if_neg hlength]
  simp only [hp]
  rfl

theorem serve_nil : serve t handle afterRead s [] = .ok s := rfl

theorem serve_cons (hopen : s.closed = false) (reads : List (List UInt8)) :
    serve t handle afterRead s (arrived :: reads) = (do
      let s' ← onRead t handle afterRead s arrived
      serve t handle afterRead s' reads) := by
  rw [serve, List.foldlM_cons, if_neg (by rw [hopen]; exact Bool.false_ne_true)]
  rfl

theorem serve_closed (hclosed : s.closed = true) (reads : List (List UInt8)) :
    serve t handle afterRead s reads = .ok s := by
  induction reads with
  | nil => rfl
  | cons arrived reads ih =>
    rw [serve, List.foldlM_cons, if_pos hclosed]
    exact ih

theorem serve_append (pre post : List (List UInt8)) :
    serve t handle afterRead s (pre ++ post) = (do
      let s' ← serve t handle afterRead s pre
      serve t handle afterRead s' post) :=
  List.foldlM_append

end

end OpenNetDeck
