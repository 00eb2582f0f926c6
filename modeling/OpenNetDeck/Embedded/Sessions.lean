import OpenNetDeck.Embedded.HubSession
import OpenNetDeck.Lib.Transition

/-!
# The end of an embedded session

The session loops take `Ok(0)` for the end of the stream. A read into an empty
slice returns `Ok(0)` as well, and the slice is empty when `rx_buffer` is full of
the beginning of a frame that is too long for it.

## Main definitions

- `Streaming` — a session with the bytes that its peer has for it
- `Streaming.step` — one read of a session and what follows it
- `Streaming.EndsWithPeer` — there is room for the next read, and a session that
  is over has read everything

## Main results

- `sessions_end_with_peer` — both sessions end with their peer exactly if no read
  fills `rx_buffer` with the beginning of a longer frame
-/

namespace OpenNetDeck

open Bytes Checked ChunkedScan CoraFrame Transition

variable {σ ε : Type}

/-- A session, and the bytes that its peer sends before it closes the stream, as
far as they are not read. -/
structure Streaming (σ : Type) where
  session : Session σ
  incoming : List UInt8

namespace Streaming

def start (state : σ) (stream : List UInt8) : Streaming σ := ⟨.start state, stream⟩

/-- `stream.read` returns `Ok(n)`: any number of the bytes that fit in the slice,
and 0 only for an empty slice or at the end of the stream. A session that fails
or panics takes no further step. -/
def step (t : Target) (handle : σ → CoraFrame → Except ε σ) (afterRead : σ → Except ε σ)
    (s : Streaming σ) (n : ℕ) : Option (Streaming σ) :=
  if s.session.closed = false ∧ n ≤ s.session.rx.free ∧ n ≤ s.incoming.length ∧
      (n = 0 → s.session.rx.free = 0 ∨ s.incoming = []) then
    match onRead t handle afterRead s.session (s.incoming.take n) with
    | .ok session => some ⟨session, s.incoming.drop n⟩
    | .error _ => none
  else none

/-- `rx_offset < 2048` whenever a read is issued, and the session is over only
when the peer's bytes are. -/
structure EndsWithPeer (s : Streaming σ) : Prop where
  room : s.session.closed = false → s.session.rx.offset < rxBufferSize
  ended : s.session.closed = true → s.incoming = []

/-- A read of `n` bytes fills `rx_buffer` with the beginning of a frame that does
not fit in it. -/
def Overlong (s : Streaming σ) (n : ℕ) : Prop :=
  (s.session.rx.pending ++ s.incoming.take n).length = rxBufferSize ∧
    HasHeader (s.session.rx.pending ++ s.incoming.take n) ∧
    rxBufferSize < coraHeaderSize + declaredLen (s.session.rx.pending ++ s.incoming.take n)

end Streaming

/-- The session of the hub, one read at a time. -/
def EmbeddedDockHub.readStep (t : Target) (handleFrame : σ → CoraFrame → Except ε σ) :
    Streaming σ → ℕ → Option (Streaming σ) :=
  Streaming.step t handleFrame .ok

/-- The session of the bridge, one read at a time. -/
def EmbeddedDeckBridge.readStep (t : Target) (handleIncomingFrame : σ → CoraFrame → Except ε σ)
    (pushEvent : σ → Except ε σ) : Streaming σ → ℕ → Option (Streaming σ) :=
  Streaming.step t handleIncomingFrame pushEvent

/-! ### What a read leaves pending -/

section

variable {t : Target} {handle : σ → CoraFrame → Except ε σ} {afterRead : σ → Except ε σ}

/-- A drain loop that returns has met no length that overflows. -/
theorem not_overflows_of_drainSlice {rxOffset : ℕ} (slice : List UInt8) (d : Drained σ)
    (hsmall : d.consumedTotal + slice.length ≤ rxBufferSize) {d' : Drained σ}
    (h : drainSlice t handle rxOffset slice d = .ok d') :
    ∀ b ∈ receiver.inspected slice, ¬ LengthOverflows t b := by
  have hhead {l : List UInt8} {d : Drained σ} (hl : l ≠ [])
      (h : drainSlice t handle rxOffset l d = .ok d') : ¬ LengthOverflows t l := by
    intro hover
    obtain ⟨p, hp⟩ : ∃ p, drainSlice t handle rxOffset l d = .error (.panic p) :=
      drainSlice_panic hl hover
    rw [hp] at h
    cases h
  induction slice using receiver.drain_induction generalizing d with
  | nil => simp
  | wait l hl hmove =>
    rw [Scanner.inspected_stop hl (.inl hmove)]
    exact List.forall_mem_singleton.mpr (hhead hl h)
  | flush l hl hmove =>
    rw [Scanner.inspected_stop hl (.inr hmove)]
    exact List.forall_mem_singleton.mpr (hhead hl h)
  | emit l f n hl hmove ih =>
    have hover := hhead hl h
    have hn := (toVec_of_decode (receiveMove_emit.mp hmove)).2.1
    rw [Scanner.inspected_emit hl hmove, List.forall_mem_cons]
    refine ⟨hover, ?_⟩
    rw [drainSlice_emit hl hover hmove hsmall] at h
    cases hstate : handle d.state f with
    | error e =>
      rw [hstate] at h
      cases h
    | ok state =>
      rw [hstate] at h
      exact ih ⟨state, d.consumedTotal + n, d.delivered ++ [f]⟩
        (by rw [List.length_drop]; simp only; omega) h
  | skip l n hl hmove ih =>
    have hover := hhead hl h
    have hn := receiveMove_skip_le hl hmove
    rw [Scanner.inspected_skip hl hmove, List.forall_mem_cons]
    refine ⟨hover, ?_⟩
    rw [drainSlice_skip hl hover hmove hsmall] at h
    exact ih _ (by rw [List.length_drop]; simp only; omega) h

/-- A read that returns leaves pending what the server's drain leaves. -/
theorem onRead_ok {s s' : Session σ} {arrived : List UInt8} (hfits : arrived.length ≤ s.rx.free)
    (hne : arrived ≠ []) (h : onRead t handle afterRead s arrived = .ok s') :
    s'.rx.pending = (receiver.drain (s.rx.pending ++ arrived)).2 ∧ s'.closed = false := by
  have htake : arrived.take s.rx.free = arrived := List.take_of_length_le hfits
  have hpending : (s.rx.fill arrived).pending = s.rx.pending ++ arrived := by
    rw [RxBuffer.pending_fill, htake]
  have hover : ∀ b ∈ receiver.inspected (s.rx.pending ++ arrived), ¬ LengthOverflows t b := by
    rw [onRead, if_neg (by rwa [htake, List.length_eq_zero_iff])] at h
    cases hdrain : drainSlice t handle (s.rx.fill arrived).offset (s.rx.fill arrived).pending
        ⟨s.state, 0, []⟩ with
    | error e =>
      simp only [hdrain] at h
      cases h
    | ok d =>
      rw [← hpending]
      refine not_overflows_of_drainSlice _ _ ?_ hdrain
      rw [RxBuffer.pending_length, Nat.zero_add]
      exact (s.rx.fill arrived).inBounds
  rw [← htake] at hover
  obtain ⟨-, e, hfail⟩ | ⟨s'', hs'', -, hleft, hopen⟩ :=
    onRead_eq t handle afterRead (by rwa [htake]) hover
  · rw [hfail] at h
    cases h
  · rw [hs''] at h
    cases h
    rw [htake] at hleft
    exact ⟨hleft, hopen⟩

namespace Streaming

variable {s s' : Streaming σ} {n : ℕ}

/-- What a step does: the last read ends the session, any other one leaves what
the server's drain leaves. -/
theorem step_cases (h : s.step t handle afterRead n = some s') :
    s.session.closed = false ∧
      ((n = 0 ∧ (s.session.rx.free = 0 ∨ s.incoming = []) ∧
          s' = ⟨{ s.session with closed := true }, s.incoming⟩) ∨
        (0 < n ∧ s'.session.closed = false ∧
          (s.session.rx.pending ++ s.incoming.take n).length ≤ rxBufferSize ∧
          s.session.rx.pending ++ s.incoming.take n ≠ [] ∧
          s'.session.rx.pending =
            (receiver.drain (s.session.rx.pending ++ s.incoming.take n)).2)) := by
  rw [step] at h
  split at h
  · next henabled =>
    obtain ⟨hopen, hfits, havailable, hzero⟩ := henabled
    have htake : (s.incoming.take n).length = n := List.length_take_of_le havailable
    refine ⟨hopen, ?_⟩
    by_cases hn : n = 0
    · subst hn
      rw [List.take_zero, List.drop_zero, onRead_closed List.take_nil] at h
      exact .inl ⟨rfl, hzero rfl, (Option.some.inj h).symm⟩
    · have hpos : 0 < n := Nat.pos_of_ne_zero hn
      have hne : s.incoming.take n ≠ [] := by
        rw [← List.length_pos_iff, htake]
        exact hpos
      split at h
      · next session hsession =>
        cases h
        obtain ⟨hleft, hopen'⟩ := onRead_ok (by rw [htake]; exact hfits) hne hsession
        refine .inr ⟨hpos, hopen', ?_, by simp [hne], hleft⟩
        have hin := s.session.rx.inBounds
        rw [RxBuffer.free] at hfits
        rw [List.length_append, RxBuffer.pending_length, htake]
        omega
      · cases h
  · cases h

/-- A read that leaves no room has filled the buffer with the beginning of a
frame that is too long, and conversely. -/
theorem full_iff_overlong (h : s.step t handle afterRead n = some s') (hn : 0 < n) :
    s'.session.rx.offset = rxBufferSize ↔ s.Overlong n := by
  obtain ⟨-, ⟨rfl, -⟩ | ⟨-, -, hle, hne, hleft⟩⟩ := step_cases h
  · exact absurd hn (lt_irrefl 0)
  rw [← RxBuffer.pending_length, hleft]
  constructor
  · intro hfull
    obtain hless | ⟨hwait, heq⟩ := receiver.drain_rest_lt_or_wait _ hne
    · omega
    · rw [heq] at hfull
      refine ⟨hfull, ?_⟩
      obtain hshort | ⟨hheader, hlong⟩ := (decode_eq_none_iff _).mp (receiveMove_wait.mp hwait)
      · rw [hfull] at hshort
        exact absurd hshort (by decide)
      · rw [hfull] at hlong
        exact ⟨hheader, hlong⟩
  · rintro ⟨hfull, hheader, hlong⟩
    have hwait : receiver.move (s.session.rx.pending ++ s.incoming.take n) = .wait := by
      apply receiveMove_wait.mpr
      rw [decode_eq_none_iff]
      exact .inr ⟨hheader, by rw [hfull]; exact hlong⟩
    rw [Scanner.drain_wait hwait]
    exact hfull

theorem endsWithPeer_start (state : σ) (stream : List UInt8) :
    (start state stream).EndsWithPeer where
  room _ := by
    show 0 < rxBufferSize
    decide
  ended h := by cases h

/-- A step that does not fill the buffer with a frame that is too long ends the
session only with the stream. -/
theorem endsWithPeer_step (h : s.EndsWithPeer) (hfits : ¬ s.Overlong n)
    (hstep : s.step t handle afterRead n = some s') : s'.EndsWithPeer := by
  obtain ⟨hopen, ⟨rfl, hend, rfl⟩ | ⟨hn, hopen', -⟩⟩ := step_cases hstep
  · refine ⟨nofun, fun _ => ?_⟩
    have hroom := h.room hopen
    obtain hfree | hend := hend
    · -- the slice is not empty, so this `Ok(0)` is the peer's
      rw [RxBuffer.free] at hfree
      omega
    · exact hend
  · have hin := s'.session.rx.inBounds
    have hne : s'.session.rx.offset ≠ rxBufferSize := by
      rw [Ne, full_iff_overlong hstep hn]
      exact hfits
    refine ⟨fun _ => by omega, fun hclosed => ?_⟩
    rw [hopen'] at hclosed
    cases hclosed

/-- A step that fills the buffer with a frame that is too long leaves no room for
the next read. -/
theorem not_endsWithPeer_of_overlong (h : s.EndsWithPeer) (hlong : s.Overlong n)
    (hstep : s.step t handle afterRead n = some s') : ¬ s'.EndsWithPeer := by
  obtain ⟨hopen, ⟨rfl, -, rfl⟩ | ⟨hn, hopen', -⟩⟩ := step_cases hstep
  · have hfull := hlong.1
    have hroom := h.room hopen
    rw [List.take_zero, List.append_nil, RxBuffer.pending_length] at hfull
    omega
  · intro hends
    have hroom := hends.room hopen'
    rw [(full_iff_overlong hstep hn).mpr hlong] at hroom
    exact lt_irrefl _ hroom

/-- In every state that the reads reach, the session ends with its peer exactly if
no read on the way fills `rx_buffer` with the beginning of a longer frame. -/
theorem run_endsWithPeer_iff (state : σ) (stream : List UInt8) (reads : List ℕ) :
    (∀ pre s, pre <+: reads → run (step t handle afterRead) (start state stream) pre = some s →
        s.EndsWithPeer) ↔
      ∀ pre n mid s, pre ++ [n] <+: reads →
        run (step t handle afterRead) (start state stream) pre = some mid →
        mid.step t handle afterRead n = some s → ¬ mid.Overlong n := by
  constructor
  · intro hends pre n mid s hpre hmid hstep hlong
    have hmid' := hends pre mid ((List.prefix_append pre [n]).trans hpre) hmid
    refine not_endsWithPeer_of_overlong hmid' hlong hstep (hends (pre ++ [n]) s hpre ?_)
    rw [run_concat, hmid]
    exact hstep
  · intro hfits pre s hpre hrun
    refine run_invariant_of_guard (I := EndsWithPeer)
      (G := fun mid n => ∀ s, mid.step t handle afterRead n = some s → ¬ mid.Overlong n)
      ?_ (endsWithPeer_start state stream) ?_ hpre hrun
    · intro mid n s hends hguard hstep
      exact endsWithPeer_step hends (hguard s hstep) hstep
    · intro pre n mid hpre hmid s hstep
      exact hfits pre n mid s hpre hmid hstep

/-- A read of no complete frame hands over nothing. -/
theorem onRead_of_wait {s : Session σ} {arrived : List UInt8} (hne : arrived.take s.rx.free ≠ [])
    (hover : ¬ LengthOverflows t (s.rx.pending ++ arrived.take s.rx.free))
    (hwait : receiver.move (s.rx.pending ++ arrived.take s.rx.free) = .wait)
    (hafter : afterRead s.state = .ok s.state) :
    onRead t handle afterRead s arrived =
      .ok { s with rx := s.rx.fill arrived, closed := false } := by
  have hpending := s.rx.pending_fill arrived
  have hfill : (s.rx.fill arrived).pending ≠ [] := by
    rw [hpending]
    exact List.append_ne_nil_of_right_ne_nil _ hne
  rw [← hpending] at hover hwait
  rw [onRead, if_neg (by rwa [List.length_eq_zero_iff])]
  simp only [bind, Except.bind, drainSlice_wait hfill hover hwait, RxBuffer.compact,
    if_neg (lt_irrefl 0), hafter, Fault.ofPanic, Fault.ofFailure, List.append_nil]
  rfl

/-- A frame that does not fit in `rx_buffer` ends a session, whatever its handler does: its
first 2048 bytes are read, and the next read is one into an empty slice. -/
theorem cut_off_of_long (hword : t.word = .w64) {state : σ} (hafter : afterRead state = .ok state)
    (f : WireFrame) (hlong : rxBufferSize < f.toVec.length) :
    ∃ s, run (step t handle afterRead) (start state f.toVec) [rxBufferSize, 0] = some s ∧
      s.session.closed = true ∧ s.incoming ≠ [] := by
  have htake : (f.toVec.take rxBufferSize).length = rxBufferSize :=
    List.length_take_of_le hlong.le
  have hwait : receiver.move (f.toVec.take rxBufferSize) = .wait := by
    rw [receiver_move, receiveMove_wait]
    exact f.decode_of_prefix (List.take_prefix _ _) (by rw [htake]; exact hlong)
  have hne : f.toVec.take rxBufferSize ≠ [] := by
    rw [← List.length_pos_iff, htake]
    decide
  have hall : (f.toVec.take rxBufferSize).take (Session.start state).rx.free =
      f.toVec.take rxBufferSize := by
    rw [List.take_take]
    rfl
  have hover : ¬ LengthOverflows t (f.toVec.take rxBufferSize) := by
    rintro ⟨hword', -⟩
    rw [hword] at hword'
    cases hword'
  have hread : onRead t handle afterRead (start state f.toVec).session
      ((start state f.toVec).incoming.take rxBufferSize) =
      .ok { Session.start state with
        rx := RxBuffer.empty.fill (f.toVec.take rxBufferSize), closed := false } :=
    onRead_of_wait (by rwa [← hall] at hne) (by rwa [← hall] at hover)
      (by rwa [← hall] at hwait) hafter
  obtain ⟨session, hsession, hopen, hpending⟩ : ∃ session,
      onRead t handle afterRead (start state f.toVec).session
        ((start state f.toVec).incoming.take rxBufferSize) = .ok session ∧
      session.closed = false ∧ session.rx.pending = f.toVec.take rxBufferSize :=
    ⟨_, hread, rfl, (RxBuffer.pending_fill _ _).trans hall⟩
  have hfree : session.rx.free = 0 := by
    rw [RxBuffer.free, ← RxBuffer.pending_length, hpending, htake, Nat.sub_self]
  have hfirst : (start state f.toVec).step t handle afterRead rxBufferSize =
      some ⟨session, f.toVec.drop rxBufferSize⟩ := by
    rw [step, if_pos ⟨rfl, le_rfl, hlong.le, nofun⟩, hsession]
    rfl
  have hsecond : step t handle afterRead ⟨session, f.toVec.drop rxBufferSize⟩ 0 =
      some ⟨{ session with closed := true }, f.toVec.drop rxBufferSize⟩ := by
    have henabled : session.closed = false ∧ 0 ≤ session.rx.free ∧
        0 ≤ (f.toVec.drop rxBufferSize).length ∧
        (0 = 0 → session.rx.free = 0 ∨ f.toVec.drop rxBufferSize = []) :=
      ⟨hopen, Nat.zero_le _, Nat.zero_le _, fun _ => .inl hfree⟩
    rw [step, if_pos henabled, List.take_zero, List.drop_zero, onRead_closed List.take_nil]
  refine ⟨⟨{ session with closed := true }, f.toVec.drop rxBufferSize⟩, ?_, rfl, ?_⟩
  · rw [run_cons, hfirst, Option.bind_some, run_cons, hsecond]
    rfl
  · rw [← List.length_pos_iff, List.length_drop]
    omega

/-- The reads of a run are reads of the session loop. -/
theorem run_serve (state : σ) (stream : List UInt8) (reads : List ℕ)
    (h : run (step t handle afterRead) (start state stream) reads = some s) :
    ∃ chunks, serve t handle afterRead (.start state) chunks = .ok s.session ∧
      chunks.flatten ++ s.incoming = stream := by
  induction reads using List.reverseRecOn generalizing s with
  | nil =>
    cases h
    exact ⟨[], rfl, rfl⟩
  | append_singleton reads n ih =>
    obtain ⟨mid, hmid, hstep⟩ := run_concat_eq_some h
    obtain ⟨chunks, hserve, hstream⟩ := ih hmid
    have hopen := (step_cases hstep).1
    rw [step] at hstep
    split at hstep
    · split at hstep
      · next session hsession =>
        cases hstep
        refine ⟨chunks ++ [mid.incoming.take n], ?_, ?_⟩
        · rw [serve_append, hserve]
          show serve t handle afterRead mid.session [mid.incoming.take n] = _
          rw [serve_cons hopen, hsession]
          rfl
        · rw [List.flatten_append, List.flatten_singleton, List.append_assoc,
            List.take_append_drop, hstream]
      · cases hstep
    · cases hstep

end Streaming

end

/-- **The end of a session**: at every read there is room in `rx_buffer`, and the
session is over only when its peer's bytes are, exactly if no read fills
`rx_buffer` with the beginning of a frame that does not fit in it. -/
theorem sessions_end_with_peer {σ' ε' : Type} (t : Target)
    (handleFrame : σ → CoraFrame → Except ε σ)
    (handleIncomingFrame : σ' → CoraFrame → Except ε' σ') (pushEvent : σ' → Except ε' σ')
    (hub : σ) (surface : σ') (stream : List UInt8) (reads : List ℕ) :
    ((∀ pre s, pre <+: reads →
        run (EmbeddedDockHub.readStep t handleFrame) (.start hub stream) pre = some s →
        s.EndsWithPeer) ↔
      ∀ pre n mid s, pre ++ [n] <+: reads →
        run (EmbeddedDockHub.readStep t handleFrame) (.start hub stream) pre = some mid →
        EmbeddedDockHub.readStep t handleFrame mid n = some s → ¬ mid.Overlong n) ∧
    ((∀ pre s, pre <+: reads →
        run (EmbeddedDeckBridge.readStep t handleIncomingFrame pushEvent) (.start surface stream)
          pre = some s →
        s.EndsWithPeer) ↔
      ∀ pre n mid s, pre ++ [n] <+: reads →
        run (EmbeddedDeckBridge.readStep t handleIncomingFrame pushEvent) (.start surface stream)
          pre = some mid →
        EmbeddedDeckBridge.readStep t handleIncomingFrame pushEvent mid n = some s →
        ¬ mid.Overlong n) :=
  ⟨Streaming.run_endsWithPeer_iff hub stream reads,
    Streaming.run_endsWithPeer_iff surface stream reads⟩

/-- A frame with 2033 bytes of payload is one byte too long for `rx_buffer`: the
session of a hub ends before the frame does. -/
theorem session_ends_early :
    ¬ ∀ (t : Target) (hub : EmbeddedDockHub) (activeChildren : List ChildDeviceInfo)
      (greeted : Writing (List UInt8)) (stream : List UInt8) (reads : List ℕ)
      (s : Streaming (Writing (List UInt8))),
      EmbeddedDockHub.greet activeChildren = .ok greeted →
      run (EmbeddedDockHub.readStep t (hub.handleWriting activeChildren)) (.start greeted stream)
        reads = some s →
      s.EndsWithPeer := by
  intro hall
  let f : WireFrame :=
    ⟨⟨CoraHeader.new CoraFlags.none .write 0 2033, List.replicate 2033 0⟩, by decide +kernel⟩
  obtain ⟨greeted, hgreet, -⟩ := EmbeddedDockHub.inSession_greet []
  obtain ⟨s, hrun, hclosed, hunread⟩ : ∃ s,
      run (EmbeddedDockHub.readStep ⟨.w64, true⟩
        ((EmbeddedDockHub.ofConfig .default (Block.zeroed 4)).handleWriting []))
        (.start greeted f.toVec) [rxBufferSize, 0] = some s ∧
      s.session.closed = true ∧ s.incoming ≠ [] :=
    Streaming.cut_off_of_long rfl rfl f (by decide +kernel)
  exact hunread ((hall ⟨.w64, true⟩ _ [] greeted _ _ s hgreet hrun).ended hclosed)

end OpenNetDeck
