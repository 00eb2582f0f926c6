import OpenNetDeck.Lib.ChunkedScan
import OpenNetDeck.Protocol.Codec

/-!
# The server's receive loops

`PrimaryConnection::run` and `SecondaryConnection::run` append every read to
`read_buf` and drain it: a decoded frame goes to the handler, a decode error
moves to the next magic, or past the first byte if the magic is there, or clears
the buffer. The frames are listed here in the order in which the handler gets
them.

## Main definitions

- `receiver` — the body of the drain loop
- `PrimaryConnection.receive`, `SecondaryConnection.receive` — frames handed to
  the handler and the bytes left in `read_buf`
- `streamFrames` — the frames of a byte stream, independently of any reads
- `LosesNoMagic` — no read boundary inside a magic makes the loop throw the
  beginning of that magic away

## Main results

- `receive_lossless` — a stream of encoded frames is delivered exactly
- `receive_cut_independent` — delivery does not depend on the cuts of a stream,
  as long as they lose no magic
- `receive_cut_magic` — a magic cut behind a header's worth of junk is lost
-/

namespace OpenNetDeck

open Bytes ChunkedScan

namespace CoraFrame

theorem findMagic_some {buf : List UInt8} {p : ℕ} (h : findMagic buf = .some p) :
    (buf.drop p).take 4 = coraMagic ∧ ∀ i < p, (buf.drop i).take 4 ≠ coraMagic := by
  unfold findMagic at h
  split at h
  · cases h
  · have hfind : (windows coraMagic.length buf).findIdx? (· == coraMagic) = .some p := h
    exact findIdx?_windows_eq_some hfind

theorem findMagic_none {buf : List UInt8} (h : findMagic buf = .none) (i : ℕ) :
    (buf.drop i).take 4 ≠ coraMagic := by
  unfold findMagic at h
  split at h
  · next hlen =>
    intro heq
    have hfour : 4 ≤ (buf.drop i).length := le_length_of_take heq rfl
    rw [List.length_drop] at hfour
    omega
  · have hfind : (windows coraMagic.length buf).findIdx? (· == coraMagic) = .none := h
    exact findIdx?_windows_eq_none (by decide) hfind i

end CoraFrame

open CoraFrame

/-- The body of `while !read_buf.is_empty()`. -/
def receiveMove (readBuf : List UInt8) : Move CoraFrame :=
  match decode readBuf with
  | .ok (.some (frame, consumed)) => .emit frame consumed
  | .ok .none => .wait
  | .error _ =>
    -- resynchronise on the next magic; `read_buf.clear()` when there is none
    match findMagic readBuf with
    | .some pos => if pos > 0 then .skip pos else .skip 1
    | .none => .flush

theorem receiveMove_emit {l : List UInt8} {f : CoraFrame} {n : ℕ} :
    receiveMove l = .emit f n ↔ decode l = .ok (.some (f, n)) := by
  unfold receiveMove
  constructor
  · intro h
    split at h
    · next hdecode =>
      cases h
      exact hdecode
    · cases h
    · split at h
      · split at h <;> cases h
      · cases h
  · intro h
    rw [h]

theorem receiveMove_wait {l : List UInt8} :
    receiveMove l = .wait ↔ decode l = .ok .none := by
  unfold receiveMove
  constructor
  · intro h
    split at h
    · cases h
    · next hdecode => exact hdecode
    · split at h
      · split at h <;> cases h
      · cases h
  · intro h
    rw [h]

theorem receiveMove_eq_skip {l : List UInt8} {n : ℕ} (h : receiveMove l = .skip n) :
    ∃ e pos, decode l = .error e ∧ findMagic l = .some pos ∧ n = if pos > 0 then pos else 1 := by
  unfold receiveMove at h
  split at h
  · cases h
  · cases h
  · next e hdecode =>
    split at h
    · next pos hfind =>
      refine ⟨e, pos, hdecode, hfind, ?_⟩
      split at h
      · next hpos =>
        cases h
        rw [if_pos hpos]
      · next hpos =>
        cases h
        rw [if_neg hpos]
    · cases h

theorem receiveMove_eq_flush {l : List UInt8} (h : receiveMove l = .flush) :
    (∃ e, decode l = .error e) ∧ findMagic l = .none := by
  unfold receiveMove at h
  split at h
  · cases h
  · cases h
  · next e hdecode =>
    split at h
    · split at h <;> cases h
    · next hfind => exact ⟨⟨e, hdecode⟩, hfind⟩

/-- A resynchronisation step skips bytes at which no magic starts, or one byte
of a header with an unknown operation. -/
theorem receiveMove_skip {l : List UInt8} {n : ℕ} (h : receiveMove l = .skip n) :
    0 < n ∧ ((l.drop n).take 4 = coraMagic ∧ (∀ i < n, (l.drop i).take 4 ≠ coraMagic) ∨
      n = 1 ∧ ∃ e, decode l = .error e) := by
  obtain ⟨e, pos, hdecode, hfind, rfl⟩ := receiveMove_eq_skip h
  by_cases hpos : pos > 0
  · rw [if_pos hpos]
    exact ⟨hpos, .inl (findMagic_some hfind)⟩
  · rw [if_neg hpos]
    exact ⟨Nat.one_pos, .inr ⟨rfl, e, hdecode⟩⟩

theorem receiveMove_flush {l : List UInt8} (h : receiveMove l = .flush) (i : ℕ) :
    (l.drop i).take 4 ≠ coraMagic :=
  findMagic_none (receiveMove_eq_flush h).2 i

theorem add_four_le_of_magic {l : List UInt8} {p : ℕ}
    (h : (l.drop p).take 4 = coraMagic) : p + 4 ≤ l.length := by
  have hfour : 4 ≤ (l.drop p).length := le_length_of_take h rfl
  rw [List.length_drop] at hfour
  omega

/-- A resynchronisation step stays inside the buffer. -/
theorem receiveMove_skip_le {l : List UInt8} {n : ℕ} (hl : l ≠ []) (h : receiveMove l = .skip n) :
    n ≤ l.length := by
  obtain ⟨-, ⟨hmagic, -⟩ | ⟨rfl, -⟩⟩ := receiveMove_skip h
  · have := add_four_le_of_magic hmagic
    omega
  · exact List.length_pos_iff.mpr hl

/-- A step that parses a frame takes its header at least. -/
theorem receiveMove_emit_pos {l : List UInt8} {f : CoraFrame} {n : ℕ}
    (h : receiveMove l = .emit f n) : 0 < n := by
  have := (toVec_of_decode (receiveMove_emit.mp h)).2.2.1
  rw [this, coraHeaderSize]
  omega

theorem receiveMove_skip_pos {l : List UInt8} {n : ℕ} (h : receiveMove l = .skip n) : 0 < n :=
  (receiveMove_skip h).1

def receiver : Scanner UInt8 CoraFrame where
  move := receiveMove
  emit_pos := receiveMove_emit_pos
  skip_pos := receiveMove_skip_pos

theorem receiver_move (l : List UInt8) : receiver.move l = receiveMove l := rfl

/-- The read branch of `PrimaryConnection::run`, from an empty `read_buf`. -/
def PrimaryConnection.receive (reads : List (List UInt8)) : List CoraFrame × List UInt8 :=
  receiver.run [] reads

/-- The read branch of `SecondaryConnection::run`, from an empty `read_buf`. -/
def SecondaryConnection.receive (reads : List (List UInt8)) : List CoraFrame × List UInt8 :=
  receiver.run [] reads

/-! ### Encoded frames -/

/-- A frame whose length field can hold the length of its payload. -/
abbrev WireFrame := { f : CoraFrame // f.payload.length < 2 ^ 32 }

namespace WireFrame

def toVec (f : WireFrame) : List UInt8 := f.val.toVec

/-- The frame as the receiver sees it: only the length field can differ. -/
def received (f : WireFrame) : CoraFrame :=
  { f.val with header :=
    { f.val.header with payloadLen := UInt32.ofNat f.val.payload.length } }

theorem toVec_ne_nil (f : WireFrame) : f.toVec ≠ [] := f.val.toVec_ne_nil

/-- A proper prefix of an encoded frame asks for more data. -/
theorem decode_of_prefix (f : WireFrame) {p : List UInt8} (hp : p <+: f.toVec)
    (hlt : p.length < f.toVec.length) : decode p = .ok .none := by
  rw [decode_eq_none_iff]
  by_cases hlen : p.length < coraHeaderSize
  · exact .inl hlen
  · right
    have hsize : 16 ≤ p.length := Nat.le_of_not_lt hlen
    have htake : ∀ n ≤ 16, p.take n = f.toVec.take n := by
      intro n hn
      obtain ⟨t, ht⟩ := hp
      rw [← ht, List.take_append_of_le_length (by omega)]
    have hheader := hasHeader_toVec f.val []
    rw [List.append_nil] at hheader
    have hop : p.getD 6 0 = f.toVec.getD 6 0 := by
      rw [← getD_take (show 6 < 16 by omega), htake 16 le_rfl, getD_take (by omega)]
    have hdeclared : declaredLen p = declaredLen f.toVec := by
      have hfield : ∀ b : List UInt8, (b.drop 12).take 4 = (b.take 16).drop 12 := by
        intro b
        rw [List.drop_take]
      rw [declaredLen, hfield, htake 16 le_rfl, ← hfield, declaredLen]
    have hpayload := declaredLen_toVec f.property []
    rw [List.append_nil] at hpayload
    refine ⟨⟨hsize, ?_, ?_⟩, ?_⟩
    · rw [htake 4 (by omega)]
      exact hheader.2.1
    · rw [hop]
      exact hheader.2.2
    · rw [hdeclared, toVec, hpayload]
      rw [toVec, CoraFrame.toVec_length] at hlt
      exact hlt

end WireFrame

theorem receiver_frames : receiver.Frames WireFrame.toVec WireFrame.received where
  emit f t := by
    rw [receiver_move, receiveMove_emit, WireFrame.toVec, toVec_length]
    exact decode_toVec_append f.property t
  wait f p hp hlt := by
    rw [receiver_move, receiveMove_wait]
    exact f.decode_of_prefix hp hlt

theorem receiver_run_frames (frames : List WireFrame) (reads : List (List UInt8))
    (hreads : ∀ r ∈ reads, r ≠ []) (hcut : reads.flatten = frames.flatMap WireFrame.toVec) :
    receiver.run [] reads = (frames.map WireFrame.received, []) := by
  obtain ⟨done, rest, hms, hout, hleft, hpart⟩ :=
    receiver_frames.run_flatMap hreads frames [] [] (.inl rfl) (by simpa using hcut)
  rw [List.append_nil] at hleft
  have hrest := hpart.eq_nil WireFrame.toVec_ne_nil hleft
  subst hrest
  rw [List.append_nil] at hms
  apply Prod.ext
  · rw [hout, hms]
  · simpa using hleft

/-- **Lossless framing**: however the encodings of a list of frames are cut into
reads, both receive loops hand exactly these frames to their handler, in order
and once each, and nothing is left in `read_buf`. -/
theorem receive_lossless (frames : List WireFrame) (reads : List (List UInt8))
    (hreads : ∀ r ∈ reads, r ≠ []) (hcut : reads.flatten = frames.flatMap WireFrame.toVec) :
    PrimaryConnection.receive reads = (frames.map WireFrame.received, []) ∧
      SecondaryConnection.receive reads = (frames.map WireFrame.received, []) :=
  ⟨receiver_run_frames frames reads hreads hcut, receiver_run_frames frames reads hreads hcut⟩

/-- A query and a write whose payload holds the magic bytes, cut in the middle
of the first header and of the second payload. -/
theorem receive_lossless_two_frames :
    PrimaryConnection.receive
        [[0x43, 0x93, 0x8a], [0x41, 0, 0, 2, 0, 1, 0, 0, 0, 1, 0, 0, 0, 0x80,
          0x43, 0x93, 0x8a, 0x41, 0, 0, 0, 0, 2, 0, 0, 0, 4, 0, 0, 0, 0x43, 0x93],
          [0x8a, 0x41]] =
      ([⟨CoraHeader.new CoraFlags.none .getReport 1 1, [0x80]⟩,
        ⟨CoraHeader.new CoraFlags.none .write 2 4, coraMagic⟩], []) :=
  (receive_lossless
    [⟨⟨CoraHeader.new CoraFlags.none .getReport 1 1, [0x80]⟩, by decide⟩,
      ⟨⟨CoraHeader.new CoraFlags.none .write 2 4, coraMagic⟩, by decide⟩]
    [[0x43, 0x93, 0x8a], [0x41, 0, 0, 2, 0, 1, 0, 0, 0, 1, 0, 0, 0, 0x80,
      0x43, 0x93, 0x8a, 0x41, 0, 0, 0, 0, 2, 0, 0, 0, 4, 0, 0, 0, 0x43, 0x93],
      [0x8a, 0x41]]
    (by decide) (by decide)).1

/-! ### Arbitrary streams -/

/-- The body of a scan that looks for a frame at every byte. -/
def byteMove (stream : List UInt8) : Move CoraFrame :=
  match decode stream with
  | .ok (.some (frame, consumed)) => .emit frame consumed
  | .ok .none => .wait
  | .error _ => .skip 1

theorem byteMove_emit {l : List UInt8} {f : CoraFrame} {n : ℕ}
    (h : decode l = .ok (.some (f, n))) : byteMove l = .emit f n := by
  rw [byteMove, h]

theorem byteMove_wait {l : List UInt8} (h : decode l = .ok .none) : byteMove l = .wait := by
  rw [byteMove, h]

theorem byteMove_skip {l : List UInt8} {e : ProtocolError} (h : decode l = .error e) :
    byteMove l = .skip 1 := by
  rw [byteMove, h]

theorem byteMove_emit_pos {l : List UInt8} {f : CoraFrame} {n : ℕ}
    (h : byteMove l = .emit f n) : 0 < n := by
  unfold byteMove at h
  split at h
  · next hdecode =>
    cases h
    rw [(toVec_of_decode hdecode).2.2.1, coraHeaderSize]
    omega
  · cases h
  · cases h

theorem byteMove_skip_pos {l : List UInt8} {n : ℕ} (h : byteMove l = .skip n) : 0 < n := by
  unfold byteMove at h
  split at h
  · cases h
  · cases h
  · cases h
    exact Nat.one_pos

def byteScanner : Scanner UInt8 CoraFrame where
  move := byteMove
  emit_pos := byteMove_emit_pos
  skip_pos := byteMove_skip_pos

/-- The frames of a byte stream: after a frame the scan goes on behind it, and
where no header starts it goes on with the next byte. -/
def streamFrames (stream : List UInt8) : List CoraFrame := (byteScanner.drain stream).1

theorem ne_nil_of_decode {l : List UInt8} (h : decode l ≠ .ok .none) : l ≠ [] := by
  rintro rfl
  exact h rfl

theorem streamFrames_wait {l : List UInt8} (h : decode l = .ok .none) :
    streamFrames l = [] := by
  rw [streamFrames, Scanner.drain_wait (byteMove_wait h)]

theorem streamFrames_emit {l : List UInt8} {f : CoraFrame} {n : ℕ}
    (h : decode l = .ok (.some (f, n))) : streamFrames l = f :: streamFrames (l.drop n) := by
  have hl : l ≠ [] := ne_nil_of_decode (by rw [h]; simp)
  rw [streamFrames, Scanner.drain_emit hl (byteMove_emit h), streamFrames]

theorem streamFrames_error {l : List UInt8} {e : ProtocolError} (h : decode l = .error e) :
    streamFrames l = streamFrames (l.drop 1) := by
  have hl : l ≠ [] := ne_nil_of_decode (by rw [h]; simp)
  rw [streamFrames, Scanner.drain_skip hl (byteMove_skip h), streamFrames]

/-- Bytes at which no magic starts do not change the frames of a stream. -/
theorem streamFrames_junk {s : List UInt8} {n : ℕ}
    (h : ∀ i < n, (s.drop i).take 4 ≠ coraMagic) : streamFrames s = streamFrames (s.drop n) := by
  induction n generalizing s with
  | zero => rw [List.drop_zero]
  | succ n ih =>
    have hfirst : streamFrames s = streamFrames (s.drop 1) := by
      by_cases hlen : s.length < coraHeaderSize
      · -- neither the stream nor its tail is long enough for a header
        have htail : (s.drop 1).length < coraHeaderSize := by
          rw [List.length_drop]
          omega
        rw [streamFrames_wait (decode_of_short hlen), streamFrames_wait (decode_of_short htail)]
      · have hmagic : s.take 4 ≠ coraMagic := h 0 (Nat.succ_pos n)
        exact streamFrames_error (decode_of_wrong_magic (Nat.le_of_not_lt hlen) hmagic)
    have hrest := ih (s := s.drop 1) fun i hi => by
      rw [List.drop_drop, Nat.add_comm]
      exact h (i + 1) (Nat.succ_lt_succ hi)
    rw [hfirst, hrest, List.drop_drop, Nat.add_comm]

/-- A magic starts in `l` and ends, at the latest, in what follows. -/
def StartsMagic (l t : List UInt8) : Prop := ∃ i < l.length, ((l ++ t).drop i).take 4 = coraMagic

theorem not_startsMagic_of_take {l t : List UInt8} {p : ℕ} (hp : p + 4 ≤ l.length)
    (h : ∀ i < p, (l.drop i).take 4 ≠ coraMagic) :
    ∀ i < p, ((l ++ t).drop i).take 4 ≠ coraMagic := by
  intro i hi
  rw [List.drop_append_of_le_length (by omega),
    List.take_append_of_le_length (by rw [List.length_drop]; omega)]
  exact h i hi

/-- An error of the decoder stays one when more bytes arrive. -/
theorem decode_error_append {l : List UInt8} {e : ProtocolError} (h : decode l = .error e)
    (t : List UInt8) : ∃ e', decode (l ++ t) = .error e' := by
  have hlen := le_length_of_decode_error h
  have hsize : 16 ≤ l.length := hlen
  have hlen' : coraHeaderSize ≤ (l ++ t).length := by
    rw [List.length_append]
    omega
  have htake : (l ++ t).take 4 = l.take 4 := List.take_append_of_le_length (by omega)
  have hget : (l ++ t).getD 6 0 = l.getD 6 0 := by
    rw [List.getD_eq_getElem?_getD, List.getElem?_append_left (by omega),
      ← List.getD_eq_getElem?_getD]
  by_cases hmagic : l.take 4 = coraMagic
  · have hop : ¬ l.getD 6 0 ≤ 2 := fun hop => decode_ne_error ⟨hlen, hmagic, hop⟩ e h
    exact ⟨_, decode_of_unknown_op hlen' (htake.trans hmagic) (by rw [hget]; exact hop)⟩
  · exact ⟨_, decode_of_wrong_magic hlen' (by rw [htake]; exact hmagic)⟩

/-- The drain loop computes the frames of the stream, as far as it clears no
buffer in which a magic starts. -/
theorem receiver_computes : receiver.Computes streamFrames fun l t => ¬ StartsMagic l t where
  nil := streamFrames_wait rfl
  wait h := streamFrames_wait (receiveMove_wait.mp h)
  emit := by
    intro l f n h t
    have hdecode := receiveMove_emit.mp h
    have hle := (toVec_of_decode hdecode).2.1
    rw [streamFrames_emit (decode_append hdecode t), List.drop_append_of_le_length hle]
  skip := by
    intro l n h t
    obtain ⟨-, ⟨hmagic, hjunk⟩ | ⟨rfl, e, hdecode⟩⟩ := receiveMove_skip h
    · have hp := add_four_le_of_magic hmagic
      rw [streamFrames_junk (not_startsMagic_of_take hp hjunk),
        List.drop_append_of_le_length (by omega)]
    · obtain ⟨e', hdecode'⟩ := decode_error_append hdecode t
      have hl : 1 ≤ l.length :=
        List.length_pos_iff.mpr (ne_nil_of_decode (by rw [hdecode]; simp))
      rw [streamFrames_error hdecode', List.drop_append_of_le_length hl]
  flush := by
    intro l t _ hkeep
    have hjunk : ∀ i < l.length, ((l ++ t).drop i).take 4 ≠ coraMagic :=
      fun i hi heq => hkeep ⟨i, hi, heq⟩
    rw [streamFrames_junk hjunk, List.drop_left]

/-- Whenever the loop clears `read_buf`, no magic starts in the cleared bytes:
the last bytes before the cut are not the beginning of a magic that the next
reads complete. -/
def LosesNoMagic (reads : List (List UInt8)) : Prop :=
  receiver.Throughout (receiver.FlushHarmless fun l t => ¬ StartsMagic l t) [] reads

/-- A run that loses no magic delivers the frames of the stream. -/
theorem receiver_run_eq_streamFrames {reads : List (List UInt8)}
    (hreads : ∀ r ∈ reads, r ≠ []) (hkeep : LosesNoMagic reads) :
    (receiver.run [] reads).1 = streamFrames reads.flatten := by
  have h := receiver_computes.run_eq hreads [] (streamFrames_wait rfl) hkeep
  rwa [List.nil_append] at h

/-- **Resynchronisation does not depend on the cuts**: two ways of cutting one
stream that lose no magic deliver the same frames, in both receive loops. -/
theorem receive_cut_independent (reads₁ reads₂ : List (List UInt8))
    (h₁ : ∀ r ∈ reads₁, r ≠ []) (h₂ : ∀ r ∈ reads₂, r ≠ [])
    (hsame : reads₁.flatten = reads₂.flatten)
    (hkeep₁ : LosesNoMagic reads₁) (hkeep₂ : LosesNoMagic reads₂) :
    (PrimaryConnection.receive reads₁).1 = (PrimaryConnection.receive reads₂).1 ∧
      (SecondaryConnection.receive reads₁).1 = (SecondaryConnection.receive reads₂).1 := by
  have hrun : (receiver.run [] reads₁).1 = (receiver.run [] reads₂).1 := by
    rw [receiver_run_eq_streamFrames h₁ hkeep₁, receiver_run_eq_streamFrames h₂ hkeep₂, hsame]
  exact ⟨hrun, hrun⟩

/-- A read of the whole stream loses no magic. -/
theorem losesNoMagic_single (s : List UInt8) : LosesNoMagic [s] := by
  refine ⟨fun b _ hflush ⟨i, _, hmagic⟩ => ?_, trivial⟩
  rw [List.flatten_nil, List.append_nil] at hmagic
  exact receiveMove_flush hflush i hmagic

/-- Junk, a frame and junk again, read at once and cut behind the first junk. -/
theorem receive_cut_independent_junk :
    (PrimaryConnection.receive
        [List.replicate 16 0 ++ [0x43, 0x93, 0x8a, 0x41, 0, 0, 2, 0, 1, 0, 0, 0, 0, 0, 0, 0]]).1 =
      (PrimaryConnection.receive
        [List.replicate 16 0, [0x43, 0x93, 0x8a, 0x41, 0, 0, 2, 0, 1, 0, 0, 0, 0, 0, 0, 0]]).1 := by
  have hjunk : receiver.move (List.replicate 16 0) = .flush := by rfl
  have hframe : receiver.move [0x43, 0x93, 0x8a, 0x41, 0, 0, 2, 0, 1, 0, 0, 0, 0, 0, 0, 0] =
      .emit ⟨CoraHeader.new CoraFlags.none .getReport 1 0, []⟩ 16 := by rfl
  have hcut : LosesNoMagic
      [List.replicate 16 0, [0x43, 0x93, 0x8a, 0x41, 0, 0, 2, 0, 1, 0, 0, 0, 0, 0, 0, 0]] := by
    refine ⟨?_, ?_, trivial⟩
    · intro b hb _
      rw [List.nil_append, Scanner.inspected_stop (by decide) (.inr hjunk),
        List.mem_singleton] at hb
      subst hb
      rintro ⟨i, hi, hmagic⟩
      revert i
      decide
    · intro b hb hflush
      rw [List.nil_append, Scanner.drain_flush hjunk, List.nil_append,
        Scanner.inspected_emit (by decide) hframe, List.drop_of_length_le (by decide),
        Scanner.inspected_nil, List.mem_singleton] at hb
      rw [hb, hframe] at hflush
      cases hflush
  exact (receive_cut_independent _ _ (by decide) (by decide) (by decide)
    (losesNoMagic_single _) hcut).1

/-- A frame delivered by a drain has all its bytes in the buffer. -/
theorem length_le_of_mem_drain (l : List UInt8) :
    ∀ f ∈ (receiver.drain l).1, coraHeaderSize + f.payload.length ≤ l.length := by
  induction l using receiver.drain_induction with
  | nil => simp
  | wait l hl h => simp [Scanner.drain_wait h]
  | flush l hl h => simp [Scanner.drain_flush h]
  | emit l g n hl h ih =>
    obtain ⟨-, hle, hn, -⟩ := toVec_of_decode (receiveMove_emit.mp h)
    intro f hf
    rw [Scanner.drain_emit hl h] at hf
    rcases List.mem_cons.mp hf with rfl | hf
    · omega
    · have := ih f hf
      rw [List.length_drop] at this
      omega
  | skip l n hl h ih =>
    intro f hf
    rw [Scanner.drain_skip hl h] at hf
    have := ih f hf
    rw [List.length_drop] at this
    omega

/-- **A cut magic is lost**: behind a header's worth of junk, a frame that a
single read delivers is never delivered when a read ends inside its magic. -/
theorem receive_cut_magic (junk : List UInt8) (f : WireFrame) (k : ℕ) (hk : 0 < k) (hk4 : k < 4)
    (hlen : 16 ≤ junk.length + k)
    (hjunk : ∀ i < junk.length, ((junk ++ f.toVec).drop i).take 4 ≠ coraMagic) :
    (receiver.run [] [junk ++ f.toVec]).1 = [f.received] ∧
      f.received ∉ (receiver.run [] [junk ++ f.toVec.take k, f.toVec.drop k]).1 := by
  have hsize : f.toVec.length = 16 + f.val.payload.length := f.val.toVec_length
  constructor
  · have hdecode := decode_toVec_append f.property []
    have hend : f.val.toVec.drop (coraHeaderSize + f.val.payload.length) = [] :=
      List.drop_of_length_le (by rw [toVec_length])
    rw [List.append_nil] at hdecode
    rw [receiver_run_eq_streamFrames (by simp [f.toVec_ne_nil]) (losesNoMagic_single _),
      List.flatten_singleton, streamFrames_junk hjunk, List.drop_left, WireFrame.toVec,
      streamFrames_emit hdecode, hend, streamFrames_wait rfl]
    rfl
  · have htake : (f.toVec.take k).length = k := by
      rw [List.length_take, Nat.min_eq_left (by omega)]
    have hnoMagic : ∀ i, ((junk ++ f.toVec.take k).drop i).take 4 ≠ coraMagic := by
      intro i hmagic
      have hi := add_four_le_of_magic hmagic
      rw [List.length_append, htake] at hi
      apply hjunk i (by omega)
      have hpre : junk ++ f.toVec = (junk ++ f.toVec.take k) ++ f.toVec.drop k := by
        rw [List.append_assoc, List.take_append_drop]
      rw [hpre, List.drop_append_of_le_length (by rw [List.length_append, htake]; omega),
        List.take_append_of_le_length
          (by rw [List.length_drop, List.length_append, htake]; omega)]
      exact hmagic
    have hflush : receiver.move (junk ++ f.toVec.take k) = .flush := by
      have hmagic := hnoMagic 0
      rw [List.drop_zero] at hmagic
      have hdecode := decode_of_wrong_magic
        (by rw [List.length_append, htake]; exact hlen) hmagic
      show receiveMove _ = _
      rw [receiveMove, hdecode]
      cases hfind : findMagic (junk ++ f.toVec.take k) with
      | none => rfl
      | some p => exact absurd (findMagic_some hfind).1 (hnoMagic p)
    have hfirst : junk ++ f.toVec.take k ≠ [] := by
      rw [← List.length_pos_iff, List.length_append, htake]
      omega
    have hsecond : f.toVec.drop k ≠ [] := by
      rw [← List.length_pos_iff, List.length_drop]
      omega
    rw [Scanner.run_cons _ _ hfirst, List.nil_append, Scanner.drain_flush hflush,
      Scanner.run_cons _ _ hsecond, Scanner.run_nil, List.nil_append, List.nil_append,
      List.append_nil]
    intro hmem
    have hle := length_le_of_mem_drain _ _ hmem
    have hpayload : f.received.payload = f.val.payload := rfl
    rw [List.length_drop, hsize, coraHeaderSize, hpayload] at hle
    omega

/-- Sixteen zero bytes and a frame without payload, cut behind the second byte
of its magic: one read delivers the frame, the two reads nothing. -/
theorem receive_cut_dependent :
    ¬ ∀ reads₁ reads₂ : List (List UInt8), (∀ r ∈ reads₁, r ≠ []) → (∀ r ∈ reads₂, r ≠ []) →
      reads₁.flatten = reads₂.flatten →
      (PrimaryConnection.receive reads₁).1 = (PrimaryConnection.receive reads₂).1 ∧
        (SecondaryConnection.receive reads₁).1 = (SecondaryConnection.receive reads₂).1 := by
  intro hindep
  let f : WireFrame := ⟨⟨CoraHeader.new CoraFlags.none .getReport 1 0, []⟩, by decide⟩
  obtain ⟨hwhole, hcut⟩ := receive_cut_magic (List.replicate 16 0) f 2 (by decide) (by decide)
    (by decide) (by decide)
  have h := (hindep [List.replicate 16 0 ++ f.toVec]
    [List.replicate 16 0 ++ f.toVec.take 2, f.toVec.drop 2]
    (by decide) (by decide) (by decide)).1
  rw [PrimaryConnection.receive, PrimaryConnection.receive, hwhole] at h
  rw [← h] at hcut
  exact hcut List.mem_cons_self

end OpenNetDeck
