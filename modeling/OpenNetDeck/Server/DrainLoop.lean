import OpenNetDeck.Server.ReceiveLoop

/-!
# What the drain loop skips

The loop that `PrimaryConnection::run` and `SecondaryConnection::run` drain
`read_buf` with: which bytes become frames, which are thrown away, and what stays
for the next read.

## Main results

- `receiver_covers` — resynchronisation skips no header
- `drain_loop_exact` — the loop ends, and what it did with each byte
-/

namespace OpenNetDeck

open Bytes ChunkedScan CoraFrame

theorem not_hasHeader_of_magic {l : List UInt8} (h : l.take 4 ≠ coraMagic) : ¬ HasHeader l :=
  fun hheader => h hheader.2.1

/-- No step of the loop goes behind the buffer, and none skips a header. -/
theorem receiver_covers : receiver.Covers HasHeader where
  emit_le h := (toVec_of_decode (receiveMove_emit.mp h)).2.1
  skip_le := receiveMove_skip_le
  skip := by
    intro l n h i hi
    obtain ⟨-, ⟨-, hjunk⟩ | ⟨rfl, e, herror⟩⟩ := receiveMove_skip h
    · exact not_hasHeader_of_magic (hjunk i hi)
    · -- the magic is there, and the operation behind it is unknown
      rw [Nat.lt_one_iff.mp hi, List.drop_zero]
      exact fun hheader => decode_ne_error hheader e herror
  flush h i := not_hasHeader_of_magic (receiveMove_flush h i)

/-- What the loop leaves is empty, too short for a header, or the beginning of a frame. -/
theorem receiver_leftover (l : List UInt8) :
    (receiver.drain l).2 = [] ∨ (receiver.drain l).2.length < coraHeaderSize ∨
      HasHeader (receiver.drain l).2 ∧
        (receiver.drain l).2.length < coraHeaderSize + declaredLen (receiver.drain l).2 := by
  obtain hnil | hwait := receiver.drain_settled l
  · exact .inl hnil
  · exact .inr ((decode_eq_none_iff _).mp (receiveMove_wait.mp hwait))

/-- **The drain loop**: it ends after as many passes as there are bytes; the frames that
it delivers are decoded from ranges of the buffer one behind the other, no header
starts at a byte that it skips, and what it leaves is empty, shorter than a header, or
starts with the header of a frame that is not complete. -/
theorem drain_loop_exact (readBuf : List UInt8) :
    ∃ (spans : List (Span CoraFrame)) (stop : ℕ),
      stop ≤ readBuf.length ∧
      receiver.drainWithin readBuf.length readBuf =
        some (spans.map (·.value), readBuf.drop stop) ∧
      (spans.Pairwise fun x y => x.stop ≤ y.start) ∧
      (∀ x ∈ spans, 0 < x.length ∧ x.stop ≤ stop ∧
        decode ((readBuf.drop x.start).take x.length) = .ok (some (x.value, x.length))) ∧
      (∀ i < stop, (∀ x ∈ spans, i ∉ x) → ¬ HasHeader (readBuf.drop i)) ∧
      (readBuf.drop stop = [] ∨ (readBuf.drop stop).length < 16 ∨
        HasHeader (readBuf.drop stop) ∧
          (readBuf.drop stop).length < 16 + declaredLen (readBuf.drop stop)) := by
  obtain ⟨stop, spans, hstop, -, hdrain, hlayout⟩ :=
    receiver_covers.drain_layout (Nat.zero_le readBuf.length)
  rw [List.drop_zero] at hdrain
  refine ⟨spans, stop, hstop, ?_, hlayout.ordered, ?_, ?_, ?_⟩
  · rw [receiver.drainWithin_of_le le_rfl, hdrain]
  · intro x hx
    have hmove := hlayout.read x hx
    exact ⟨receiver.emit_pos hmove, (hlayout.inside x hx).2,
      decode_take (receiveMove_emit.mp hmove)⟩
  · exact fun i hi hout => hlayout.skipped i (Nat.zero_le i) hi hout
  · have hleft := receiver_leftover readBuf
    rwa [hdrain] at hleft

/-- Two bytes of junk, a frame, a header with an unknown operation and two bytes of a
magic: the last eighteen bytes are cleared. -/
example :
    receiver.drainWithin 36 ([0x00, 0x43] ++ (coraMagic ++ [0, 0, 2, 0, 1, 0, 0, 0, 0, 0, 0, 0]) ++
        (coraMagic ++ [0, 0, 9, 0, 1, 0, 0, 0, 0, 0, 0, 0]) ++ [0x43, 0x93]) =
      some ([⟨CoraHeader.new CoraFlags.none .getReport 1 0, []⟩], []) := by
  rfl

end OpenNetDeck
