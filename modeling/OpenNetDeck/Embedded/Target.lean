import OpenNetDeck.Lib.Checked
import OpenNetDeck.Protocol.Codec

/-!
# Frame decoding on 32-bit and 64-bit targets

`CoraFrame::decode` again, with the failures of its word arithmetic and slices.
On a 64-bit target it is `CoraFrame.decode`; on a 32-bit target it is so except
on a header whose declared length overflows when the header size is added.
-/

namespace OpenNetDeck

open Bytes Checked

namespace CoraFrame

/-- `decode` as compiled for a target. -/
def decodeOn (t : Target) (buf : List UInt8) :
    Except Panic (Except ProtocolError (Option (CoraFrame × ℕ))) :=
  if buf.length < coraHeaderSize then .ok (.ok .none)
  else do
    let magic ← slice buf 0 4
    if magic ≠ coraMagic then return .error .invalidMagic
    let head ← slice buf 0 coraHeaderSize
    match CoraHeader.parse head with
    | .error e => return .error e
    | .ok header =>
      let totalLen ← t.add coraHeaderSize header.payloadLen.toNat
      if buf.length < totalLen then return .ok .none
      let payload ← slice buf coraHeaderSize totalLen
      return .ok (.some (⟨header, payload⟩, totalLen))

/-- The header size and the declared length do not fit in a 32-bit word
together. -/
def LengthOverflows (t : Target) (buf : List UInt8) : Prop :=
  t.word = .w32 ∧ HasHeader buf ∧ 2 ^ 32 - 16 ≤ declaredLen buf

instance (t : Target) : DecidablePred (LengthOverflows t) :=
  fun _ => inferInstanceAs (Decidable (_ ∧ _ ∧ _))

theorem decodeOn_of_short {t : Target} {buf : List UInt8} (h : buf.length < coraHeaderSize) :
    decodeOn t buf = .ok (.ok .none) := by
  rw [decodeOn, if_pos h]

theorem decodeOn_of_long {t : Target} {buf : List UInt8} (h : coraHeaderSize ≤ buf.length) :
    decodeOn t buf =
      if buf.take 4 ≠ coraMagic then .ok (.error .invalidMagic)
      else match CoraHeader.parse (buf.take coraHeaderSize) with
        | .error e => .ok (.error e)
        | .ok header => do
          let totalLen ← t.add coraHeaderSize header.payloadLen.toNat
          if buf.length < totalLen then return .ok .none
          let payload ← slice buf coraHeaderSize totalLen
          return .ok (.some (⟨header, payload⟩, totalLen)) := by
  have hsize : 16 ≤ buf.length := h
  rw [decodeOn, if_neg (by omega), slice_zero (by omega), slice_zero h]
  rfl

theorem decode_of_long {buf : List UInt8} (h : coraHeaderSize ≤ buf.length) :
    decode buf =
      if buf.take 4 ≠ coraMagic then .error .invalidMagic
      else match CoraHeader.parse (buf.take coraHeaderSize) with
        | .error e => .error e
        | .ok header =>
          if buf.length < coraHeaderSize + header.payloadLen.toNat then .ok .none
          else .ok (.some (⟨header, (buf.take (coraHeaderSize + header.payloadLen.toNat)).drop
            coraHeaderSize⟩, coraHeaderSize + header.payloadLen.toNat)) := by
  rw [decode, if_neg (by omega)]
  split
  · rfl
  · cases CoraHeader.parse (buf.take coraHeaderSize) <;> rfl

/-- The header the parser returns declares the length found in the buffer. -/
theorem payloadLen_of_parse {buf : List UInt8} {header : CoraHeader}
    (hlen : coraHeaderSize ≤ buf.length) (hmagic : buf.take 4 = coraMagic)
    (hparse : CoraHeader.parse (buf.take coraHeaderSize) = .ok header) :
    HasHeader buf ∧ header.payloadLen.toNat = declaredLen buf := by
  have hop : buf.getD 6 0 ≤ 2 := by
    by_contra hop
    have hdecode := decode_of_unknown_op hlen hmagic hop
    rw [decode_of_long hlen, if_neg (not_not.mpr hmagic), hparse] at hdecode
    simp only at hdecode
    split at hdecode <;> cases hdecode
  refine ⟨⟨hlen, hmagic, hop⟩, ?_⟩
  obtain ⟨header', hencode, hplen, -⟩ := decode_of_hasHeader ⟨hlen, hmagic, hop⟩
  rw [← hencode, CoraHeader.parse_encode] at hparse
  cases hparse
  exact hplen

/-- Without overflow the target's decoder is the decoder. -/
theorem decodeOn_eq {t : Target} {buf : List UInt8} (h : ¬ LengthOverflows t buf) :
    decodeOn t buf = .ok (decode buf) := by
  by_cases hlen : buf.length < coraHeaderSize
  · rw [decodeOn_of_short hlen, decode_of_short hlen]
  have hle := Nat.le_of_not_lt hlen
  rw [decodeOn_of_long hle, decode_of_long hle]
  by_cases hmagic : buf.take 4 = coraMagic
  · rw [if_neg (not_not.mpr hmagic), if_neg (not_not.mpr hmagic)]
    cases hparse : CoraHeader.parse (buf.take coraHeaderSize) with
    | error e => rfl
    | ok header =>
      obtain ⟨hheader, hplen⟩ := payloadLen_of_parse hle hmagic hparse
      have hadd : t.add coraHeaderSize header.payloadLen.toNat =
          .ok (coraHeaderSize + header.payloadLen.toNat) := by
        apply Target.add_of_lt
        have hlt := header.payloadLen.toNat_lt
        cases hword : t.word with
        | w32 =>
          have hsmall : ¬ 2 ^ 32 - 16 ≤ declaredLen buf := fun hbig => h ⟨hword, hheader, hbig⟩
          rw [hplen, coraHeaderSize, WordSize.bits]
          omega
        | w64 =>
          rw [coraHeaderSize, WordSize.bits]
          omega
      simp only [hadd, bind, Except.bind, pure, Except.pure]
      split
      · rfl
      · next hfull => rw [slice_of_le (Nat.le_add_right _ _) (Nat.le_of_not_lt hfull)]
  · rw [if_pos hmagic, if_pos hmagic]

/-- With overflow the decoder panics: in the addition, or, where the addition
wraps, in the slice that then ends before the header does. -/
theorem decodeOn_of_overflow {t : Target} {buf : List UInt8} (h : LengthOverflows t buf) :
    ∃ p, decodeOn t buf = .error p := by
  obtain ⟨hword, hheader, hbig⟩ := h
  have hlen := hheader.1
  have hmagic := hheader.2.1
  obtain ⟨header, hencode, hplen, -⟩ := decode_of_hasHeader hheader
  have hlt := declaredLen_lt buf
  have hsize : 16 ≤ buf.length := hlen
  rw [decodeOn_of_long hlen, if_neg (not_not.mpr hmagic), ← hencode, CoraHeader.parse_encode]
  have hover : ¬ coraHeaderSize + header.payloadLen.toNat < 2 ^ t.word.bits := by
    rw [hword, WordSize.bits, coraHeaderSize, hplen]
    omega
  simp only [Target.add, if_neg hover]
  cases t.overflowChecks with
  | true => exact ⟨.addOverflow, rfl⟩
  | false =>
    -- the wrapped sum is below the header size, so the buffer looks long enough
    have hwrap : (coraHeaderSize + header.payloadLen.toNat) % 2 ^ t.word.bits <
        coraHeaderSize := by
      rw [hword, WordSize.bits, coraHeaderSize, hplen]
      omega
    refine ⟨.sliceOutOfRange, ?_⟩
    simp only [Bool.false_eq_true, if_false, bind, Except.bind]
    rw [if_neg (Nat.not_lt.mpr (hwrap.le.trans hlen)), slice_of_gt hwrap]

/-- What a frame taken by the target's decoder occupies. -/
theorem decodeOn_some {t : Target} {buf : List UInt8} {f : CoraFrame} {n : ℕ}
    (h : decodeOn t buf = .ok (.ok (.some (f, n)))) :
    decode buf = .ok (.some (f, n)) := by
  by_cases hover : LengthOverflows t buf
  · obtain ⟨p, hp⟩ := decodeOn_of_overflow hover
    rw [hp] at h
    cases h
  · rw [decodeOn_eq hover] at h
    exact Except.ok.inj h

end CoraFrame

end OpenNetDeck
