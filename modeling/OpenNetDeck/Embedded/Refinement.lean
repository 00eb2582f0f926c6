import OpenNetDeck.Embedded.ReceiveLoop

/-!
# The embedded receive loops refine the server's

The server advances `read_buf` itself; the embedded loops advance a slice, count
what they are done with and compact once for each read. Between two reads all of
them have handed over the same frames and hold the same bytes.

## Main definitions

- `Admissible` — reads that fit in `rx_buffer` and overflow nowhere
- `Agrees` — a session has delivered and holds what the server has

## Main results

- `embedded_refines_server` — both embedded sessions agree with the server after
  every read, and deliver every frame that fits in `rx_buffer`
-/

namespace OpenNetDeck

open Bytes Checked ChunkedScan CoraFrame

variable {σ ε : Type}

/-- The reads of a session that the embedded loops can follow: none is empty,
none is longer than the space behind the pending bytes, and none brings a buffer
that declares an overflowing length (on a 32-bit target, one of at least
`2 ^ 32 - 16` bytes). -/
inductive Admissible (t : Target) : List (List UInt8) → Prop where
  | nil : Admissible t []
  | concat {pre : List (List UInt8)} {arrived : List UInt8} (hpre : Admissible t pre)
      (hne : arrived ≠ [])
      (hfits : (SecondaryConnection.receive pre).2.length + arrived.length ≤ rxBufferSize)
      (hover : ∀ b ∈ receiver.inspected ((SecondaryConnection.receive pre).2 ++ arrived),
        ¬ LengthOverflows t b) : Admissible t (pre ++ [arrived])

namespace Admissible

variable {t : Target} {reads : List (List UInt8)}

theorem ne_nil (h : Admissible t reads) : ∀ r ∈ reads, r ≠ [] := by
  induction h with
  | nil => simp
  | concat hpre hne hfits hover ih =>
    intro r hr
    rcases List.mem_append.mp hr with hr | hr
    · exact ih r hr
    · rw [List.mem_singleton] at hr
      subst hr
      exact hne

theorem of_append {pre post : List (List UInt8)} (h : Admissible t (pre ++ post)) :
    Admissible t pre := by
  induction post using List.reverseRecOn with
  | nil => rwa [List.append_nil] at h
  | append_singleton post arrived ih =>
    rw [← List.append_assoc] at h
    generalize hreads : pre ++ post ++ [arrived] = reads at h
    cases h with
    | nil => simp at hreads
    | concat hpre hne hfits hover =>
      obtain ⟨hinit, -⟩ := List.append_inj' hreads rfl
      subst hinit
      exact ih hpre

end Admissible

/-- The session has handed over the server's frames and holds its `read_buf`. -/
def Agrees (s : Session σ) (server : List CoraFrame × List UInt8) : Prop :=
  s.delivered = server.1 ∧ s.rx.pending = server.2 ∧ s.closed = false

/-- One more read of the server's loop. -/
theorem receive_concat {pre : List (List UInt8)} (hpre : ∀ r ∈ pre, r ≠ []) {arrived : List UInt8}
    (hne : arrived ≠ []) :
    SecondaryConnection.receive (pre ++ [arrived]) =
      ((SecondaryConnection.receive pre).1 ++
          (receiver.drain ((SecondaryConnection.receive pre).2 ++ arrived)).1,
        (receiver.drain ((SecondaryConnection.receive pre).2 ++ arrived)).2) := by
  rw [SecondaryConnection.receive, Scanner.run_append _ hpre, Scanner.run_cons _ _ hne]
  simp only [Scanner.run_nil, List.append_nil]
  rfl

/-- After admissible reads a session agrees with the server, unless a handler
failed. -/
theorem serve_agrees {t : Target} {handle : σ → CoraFrame → Except ε σ}
    {afterRead : σ → Except ε σ} (state : σ) {reads : List (List UInt8)}
    (hreads : Admissible t reads) :
    (Fails handle afterRead ∧
        ∃ e, serve t handle afterRead (.start state) reads = .error (.failed e)) ∨
      ∃ s, serve t handle afterRead (.start state) reads = .ok s ∧
        Agrees s (SecondaryConnection.receive reads) := by
  induction hreads with
  | nil => exact .inr ⟨.start state, rfl, rfl, rfl, rfl⟩
  | @concat pre arrived hpre hne hfits hover ih =>
    rw [serve_append, receive_concat hpre.ne_nil hne]
    obtain ⟨hfails, e, hfail⟩ | ⟨s, hs, hdelivered, hpending, hopen⟩ := ih
    · left
      refine ⟨hfails, e, ?_⟩
      rw [hfail]
      rfl
    · rw [hs]
      show (Fails handle afterRead ∧ ∃ e, serve t handle afterRead s [arrived] = _) ∨
        ∃ s', serve t handle afterRead s [arrived] = .ok s' ∧ _
      -- the whole read fits behind the pending bytes
      have hchunk : arrived.take s.rx.free = arrived := by
        apply List.take_of_length_le
        rw [← hpending, RxBuffer.pending_length] at hfits
        rw [RxBuffer.free]
        omega
      rw [← hpending] at hover ⊢
      have hread := onRead_eq t handle afterRead (s := s)
        (by rwa [hchunk] : arrived.take s.rx.free ≠ []) (by rwa [hchunk])
      rw [hchunk] at hread
      rw [serve_cons hopen]
      obtain ⟨hfails, e, hfail⟩ | ⟨s', hs', hdelivered', hpending', hopen'⟩ := hread
      · left
        refine ⟨hfails, e, ?_⟩
        rw [hfail]
        rfl
      · right
        refine ⟨s', ?_, ?_, hpending', hopen'⟩
        · rw [hs']
          rfl
        · rw [hdelivered', hdelivered]

/-- Handlers that never fail end no session. -/
theorem serve_handled {t : Target} {handle : σ → CoraFrame → Except ε σ}
    {afterRead : σ → Except ε σ} (hok : ¬ Fails handle afterRead) (state : σ)
    {reads : List (List UInt8)} (hreads : Admissible t reads) (e : ε) :
    serve t handle afterRead (.start state) reads ≠ .error (.failed e) := by
  obtain ⟨hfails, -⟩ | ⟨s, hs, -⟩ := serve_agrees state hreads
  · exact absurd hfails hok
  · rw [hs]
    exact nofun

/-- A session that fails in no handler has not failed before any of its reads. -/
theorem serve_agrees_of_prefix {t : Target} {handle : σ → CoraFrame → Except ε σ}
    {afterRead : σ → Except ε σ} (state : σ) {pre reads : List (List UInt8)}
    (hreads : Admissible t reads) (hpre : pre <+: reads)
    (hhandled : ∀ e, serve t handle afterRead (.start state) reads ≠ .error (.failed e)) :
    ∃ s, serve t handle afterRead (.start state) pre = .ok s ∧
      Agrees s (SecondaryConnection.receive pre) := by
  obtain ⟨post, rfl⟩ := hpre
  obtain ⟨-, e, hfail⟩ | hok := serve_agrees state hreads.of_append
  · refine absurd ?_ (hhandled e)
    rw [serve_append, hfail]
    rfl
  · exact hok

/-- What the server holds between two reads of encoded frames is shorter than
the longest of them. -/
theorem pending_lt_of_frames {frames : List WireFrame} {pre reads : List (List UInt8)} {n : ℕ}
    (hn : 0 < n) (hframes : ∀ f ∈ frames, f.toVec.length ≤ n) (hreads : ∀ r ∈ reads, r ≠ [])
    (hpre : pre <+: reads) (hcut : reads.flatten = frames.flatMap WireFrame.toVec) :
    (SecondaryConnection.receive pre).2.length < n := by
  obtain ⟨post, rfl⟩ := hpre
  obtain ⟨done, rest, hms, -, -, hpart⟩ :=
    receiver_frames.run_flatMap (fun r hr => hreads r (List.mem_append_left post hr)) frames []
      post.flatten (.inl rfl) (by rw [List.nil_append, ← hcut, List.flatten_append])
  obtain hempty | ⟨f, rest', rfl, -, hlt⟩ := hpart
  · rw [SecondaryConnection.receive, hempty]
    exact hn
  · have hf := hframes f (by rw [hms]; simp)
    exact hlt.trans_le hf

/-- **The embedded loops refine the server's**: after every one of the reads both
sessions have handed over the server's frames and hold its pending bytes; when
the reads are cut from encoded frames that fit in `rx_buffer`, it is never full
when a read is issued, and every frame is handed over. -/
theorem embedded_refines_server {σ' ε' : Type} (t : Target) (greet : Except ε σ)
    (handleFrame : σ → CoraFrame → Except ε σ) (surface : σ')
    (handleIncomingFrame : σ' → CoraFrame → Except ε' σ') (pushEvent : σ' → Except ε' σ')
    (reads : List (List UInt8)) (hreads : Admissible t reads)
    (hhub : ∀ e, EmbeddedDockHub.handleConnection t greet handleFrame reads ≠ .error (.failed e))
    (hbridge : ∀ e, EmbeddedDeckBridge.handleConnection t surface handleIncomingFrame pushEvent
      reads ≠ .error (.failed e)) :
    (∀ pre, pre <+: reads → ∃ hub bridge,
      EmbeddedDockHub.handleConnection t greet handleFrame pre = .ok hub ∧
      EmbeddedDeckBridge.handleConnection t surface handleIncomingFrame pushEvent pre =
        .ok bridge ∧
      Agrees hub (SecondaryConnection.receive pre) ∧
      Agrees bridge (SecondaryConnection.receive pre)) ∧
    ∀ frames : List WireFrame, (∀ f ∈ frames, f.toVec.length ≤ rxBufferSize) →
      reads.flatten = frames.flatMap WireFrame.toVec →
      (∀ pre, pre <+: reads → ∃ hub bridge,
        EmbeddedDockHub.handleConnection t greet handleFrame pre = .ok hub ∧
        EmbeddedDeckBridge.handleConnection t surface handleIncomingFrame pushEvent pre =
          .ok bridge ∧
        hub.rx.offset < rxBufferSize ∧ bridge.rx.offset < rxBufferSize) ∧
      ∃ hub bridge,
        EmbeddedDockHub.handleConnection t greet handleFrame reads = .ok hub ∧
        EmbeddedDeckBridge.handleConnection t surface handleIncomingFrame pushEvent reads =
          .ok bridge ∧
        hub.delivered = frames.map WireFrame.received ∧
        bridge.delivered = frames.map WireFrame.received := by
  have hrefines : ∀ pre, pre <+: reads → ∃ hub bridge,
      EmbeddedDockHub.handleConnection t greet handleFrame pre = .ok hub ∧
      EmbeddedDeckBridge.handleConnection t surface handleIncomingFrame pushEvent pre =
        .ok bridge ∧
      Agrees hub (SecondaryConnection.receive pre) ∧
      Agrees bridge (SecondaryConnection.receive pre) := by
    intro pre hpre
    cases greet with
    | error e => exact absurd rfl (hhub e)
    | ok state =>
      obtain ⟨hub, hhubOk, hhubAgrees⟩ := serve_agrees_of_prefix state hreads hpre hhub
      obtain ⟨bridge, hbridgeOk, hbridgeAgrees⟩ :=
        serve_agrees_of_prefix surface hreads hpre hbridge
      exact ⟨hub, bridge, hhubOk, hbridgeOk, hhubAgrees, hbridgeAgrees⟩
  refine ⟨hrefines, ?_⟩
  intro frames hframes hcut
  constructor
  · intro pre hpre
    obtain ⟨hub, bridge, hhubOk, hbridgeOk, ⟨-, hhubRx, -⟩, ⟨-, hbridgeRx, -⟩⟩ := hrefines pre hpre
    have hlt := pending_lt_of_frames (by decide) hframes hreads.ne_nil hpre hcut
    refine ⟨hub, bridge, hhubOk, hbridgeOk, ?_, ?_⟩
    · rwa [← RxBuffer.pending_length, hhubRx]
    · rwa [← RxBuffer.pending_length, hbridgeRx]
  · obtain ⟨hub, bridge, hhubOk, hbridgeOk, ⟨hhubAll, -⟩, ⟨hbridgeAll, -⟩⟩ :=
      hrefines reads (List.prefix_refl reads)
    have hall : (SecondaryConnection.receive reads).1 = frames.map WireFrame.received := by
      rw [SecondaryConnection.receive, receiver_run_frames frames reads hreads.ne_nil hcut]
    exact ⟨hub, bridge, hhubOk, hbridgeOk, hhubAll.trans hall, hbridgeAll.trans hall⟩

/-- A query cut inside its header, with handlers that count frames. -/
theorem embedded_refines_server_query :
    ∃ hub bridge,
      EmbeddedDockHub.handleConnection (ε := Unit) ⟨.w32, true⟩ (.ok 0)
        (fun (n : ℕ) _ => .ok (n + 1))
        [[0x43, 0x93, 0x8a, 0x41, 0], [0, 2, 0, 1, 0, 0, 0, 0, 0, 0, 0]] = .ok hub ∧
      EmbeddedDeckBridge.handleConnection (ε := Unit) ⟨.w32, true⟩ 0
        (fun (n : ℕ) _ => .ok (n + 1)) .ok
        [[0x43, 0x93, 0x8a, 0x41, 0], [0, 2, 0, 1, 0, 0, 0, 0, 0, 0, 0]] = .ok bridge ∧
      hub.delivered = [⟨CoraHeader.new CoraFlags.none .getReport 1 0, []⟩] ∧
      bridge.delivered = [⟨CoraHeader.new CoraFlags.none .getReport 1 0, []⟩] := by
  have hwait : receiver.move [0x43, 0x93, 0x8a, 0x41, 0] = .wait := by rfl
  have hemit : receiver.move [0x43, 0x93, 0x8a, 0x41, 0, 0, 2, 0, 1, 0, 0, 0, 0, 0, 0, 0] =
      .emit ⟨CoraHeader.new CoraFlags.none .getReport 1 0, []⟩ 16 := by rfl
  have hfirst : (SecondaryConnection.receive [[0x43, 0x93, 0x8a, 0x41, 0]]).2 =
      [0x43, 0x93, 0x8a, 0x41, 0] := by
    rw [SecondaryConnection.receive, Scanner.run_cons _ _ (by decide), List.nil_append,
      Scanner.drain_wait hwait, Scanner.run_nil]
  have hreads : Admissible ⟨.w32, true⟩
      [[0x43, 0x93, 0x8a, 0x41, 0], [0, 2, 0, 1, 0, 0, 0, 0, 0, 0, 0]] := by
    refine @Admissible.concat _ [[0x43, 0x93, 0x8a, 0x41, 0]] _ (.concat .nil ?_ ?_ ?_) ?_ ?_ ?_
    · decide
    · decide
    · intro b hb
      rw [SecondaryConnection.receive, Scanner.run_nil, List.nil_append,
        Scanner.inspected_stop (by decide) (.inl hwait), List.mem_singleton] at hb
      subst hb
      decide
    · decide
    · rw [hfirst]
      decide
    · intro b hb
      rw [hfirst] at hb
      change b ∈ receiver.inspected
        [0x43, 0x93, 0x8a, 0x41, 0, 0, 2, 0, 1, 0, 0, 0, 0, 0, 0, 0] at hb
      rw [Scanner.inspected_emit (by decide) hemit, List.drop_of_length_le (by decide),
        Scanner.inspected_nil, List.mem_singleton] at hb
      subst hb
      decide
  have hcount : ¬ Fails (fun (n : ℕ) (_ : CoraFrame) => (.ok (n + 1) : Except Unit ℕ)) .ok := by
    rintro (⟨_, _, _, h⟩ | ⟨_, _, h⟩) <;> cases h
  obtain ⟨-, hframes⟩ := embedded_refines_server ⟨.w32, true⟩ (.ok 0)
    (fun (n : ℕ) _ => .ok (n + 1)) 0 (fun (n : ℕ) _ => .ok (n + 1)) .ok _ hreads
    (serve_handled hcount 0 hreads) (serve_handled hcount 0 hreads)
  exact (hframes [⟨⟨CoraHeader.new CoraFlags.none .getReport 1 0, []⟩, by decide⟩]
    (by decide) (by decide)).2

end OpenNetDeck
