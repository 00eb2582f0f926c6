import OpenNetDeck.Lib.Checked
import OpenNetDeck.Protocol.Cora

/-!
# The CORA codec

The two encoders and the decoder agree in both directions: what is encoded
decodes to itself whatever follows it, and what is decoded encodes to the bytes
it was read from. Every other outcome of the decoder is a condition on the
first bytes of its buffer.

## Main results

- `CoraFrame.decode_toVec_append` — decoding an encoded frame
- `CoraFrame.toVec_of_decode` — encoding a decoded frame
- `CoraFrame.decode_outcomes` — both directions and the conditions of each
  outcome of the decoder
- `sendBuilt_encode` — a frame encoded into a buffer that it fits in is sent whole
-/

namespace OpenNetDeck

open Bytes

namespace CoraHeader

@[simp] theorem encode_length (h : CoraHeader) : h.encode.length = coraHeaderSize := by
  simp [encode, coraMagic, coraHeaderSize]

theorem parse_encode (h : CoraHeader) : parse h.encode = .ok h := by
  have hlen : ¬ h.encode.length < coraHeaderSize := by simp
  have hmagic : h.encode.take 4 = coraMagic := rfl
  have hop : h.encode.getD 6 0 = h.hidOp.asU8 := rfl
  have hreserved : h.encode.getD 7 0 = h.reserved := rfl
  have hflags : (h.encode.drop 4).take 2 = leBytes 2 h.flags.bits.toNat := rfl
  have hid : (h.encode.drop 8).take 4 = leBytes 4 h.messageId.toNat := rfl
  have hplen : (h.encode.drop 12).take 4 = leBytes 4 h.payloadLen.toNat := rfl
  rw [parse, if_neg hlen, if_neg (not_not.mpr hmagic), hop, hreserved, hflags, hid, hplen,
    leNat_leBytes_of_lt h.flags.bits.toNat_lt, leNat_leBytes_of_lt h.messageId.toNat_lt,
    leNat_leBytes_of_lt h.payloadLen.toNat_lt, CoraHidOp.fromU8_asU8]
  cases h
  simp [bind, Except.bind, pure, Except.pure]

/-- A header-sized slice is the concatenation of its fields. -/
theorem fields_split {buf : List UInt8} (h : buf.length = coraHeaderSize) :
    buf = buf.take 4 ++ (buf.drop 4).take 2 ++ [buf.getD 6 0] ++ [buf.getD 7 0] ++
      (buf.drop 8).take 4 ++ (buf.drop 12).take 4 := by
  rw [coraHeaderSize] at h
  have h4 : buf.drop 4 = (buf.drop 4).take 2 ++ buf.drop 6 := by
    conv_lhs => rw [← List.take_append_drop 2 (buf.drop 4), List.drop_drop]
  have h8 : buf.drop 8 = (buf.drop 8).take 4 ++ buf.drop 12 := by
    conv_lhs => rw [← List.take_append_drop 4 (buf.drop 8), List.drop_drop]
  have h12 : buf.drop 12 = (buf.drop 12).take 4 :=
    (List.take_of_length_le (by rw [List.length_drop]; omega)).symm
  calc buf = buf.take 4 ++ buf.drop 4 := (List.take_append_drop 4 buf).symm
    _ = buf.take 4 ++ ((buf.drop 4).take 2 ++ (buf.getD 6 0 :: buf.getD 7 0 ::
          ((buf.drop 8).take 4 ++ (buf.drop 12).take 4))) := by
        rw [← h12, ← h8, ← drop_eq_getD_cons (i := 7) 0 (by omega),
          ← drop_eq_getD_cons (i := 6) 0 (by omega), ← h4]
    _ = _ := by simp only [List.append_assoc, List.cons_append, List.nil_append]

/-- The parser accepts a slice with the magic bytes and a known operation, and
what it returns encodes back to the slice. -/
theorem parse_of_fields {buf : List UInt8} (hlen : buf.length = coraHeaderSize)
    (hmagic : buf.take 4 = coraMagic) (hop : buf.getD 6 0 ≤ 2) :
    ∃ h : CoraHeader, parse buf = .ok h ∧ h.encode = buf ∧
      h.payloadLen.toNat = leNat ((buf.drop 12).take 4) := by
  obtain ⟨op, hfrom, has⟩ := CoraHidOp.fromU8_of_le hop
  have hsize : buf.length = 16 := hlen
  have hflags : ((buf.drop 4).take 2).length = 2 := by simp [hsize]
  have hid : ((buf.drop 8).take 4).length = 4 := by simp [hsize]
  have hplen : ((buf.drop 12).take 4).length = 4 := by simp [hsize]
  have hflagsLt : leNat ((buf.drop 4).take 2) < 2 ^ 16 := by
    have := leNat_lt ((buf.drop 4).take 2)
    rwa [hflags] at this
  have hidLt : leNat ((buf.drop 8).take 4) < 2 ^ 32 := by
    have := leNat_lt ((buf.drop 8).take 4)
    rwa [hid] at this
  have hplenLt : leNat ((buf.drop 12).take 4) < 2 ^ 32 := by
    have := leNat_lt ((buf.drop 12).take 4)
    rwa [hplen] at this
  let header : CoraHeader :=
    { flags := ⟨UInt16.ofNat (leNat ((buf.drop 4).take 2))⟩
      hidOp := op
      reserved := buf.getD 7 0
      messageId := UInt32.ofNat (leNat ((buf.drop 8).take 4))
      payloadLen := UInt32.ofNat (leNat ((buf.drop 12).take 4)) }
  refine ⟨header, ?_, ?_, ?_⟩
  · rw [parse, if_neg (by omega), if_neg (not_not.mpr hmagic), hfrom]
    rfl
  · simp only [encode, header]
    rw [UInt16.toNat_ofNat_of_lt' hflagsLt, UInt32.toNat_ofNat_of_lt' hidLt,
      UInt32.toNat_ofNat_of_lt' hplenLt, leBytes_leNat_of_length hflags,
      leBytes_leNat_of_length hid, leBytes_leNat_of_length hplen, has, ← hmagic]
    exact (fields_split hlen).symm
  · exact UInt32.toNat_ofNat_of_lt' hplenLt

end CoraHeader

namespace CoraFrame

/-- The bytes start with a header that `CoraHeader.parse` accepts. -/
def HasHeader (buf : List UInt8) : Prop :=
  coraHeaderSize ≤ buf.length ∧ buf.take 4 = coraMagic ∧ buf.getD 6 0 ≤ 2

instance : DecidablePred HasHeader := fun _ => inferInstanceAs (Decidable (_ ∧ _ ∧ _))

/-- The payload length that the header at the start of the bytes declares. -/
def declaredLen (buf : List UInt8) : ℕ := leNat ((buf.drop 12).take 4)

theorem declaredLen_lt (buf : List UInt8) : declaredLen buf < 2 ^ 32 := by
  have hlen : ((buf.drop 12).take 4).length ≤ 4 := by
    rw [List.length_take]
    omega
  calc declaredLen buf < 256 ^ ((buf.drop 12).take 4).length := leNat_lt _
    _ ≤ 256 ^ 4 := Nat.pow_le_pow_right (by decide) hlen

@[simp] theorem toVec_length (f : CoraFrame) :
    f.toVec.length = coraHeaderSize + f.payload.length := by
  simp [toVec]

theorem drop_toVec (f : CoraFrame) : f.toVec.drop coraHeaderSize = f.payload := by
  rw [toVec, ← f.wireHeader.encode_length, List.drop_left]

/-- The header that the receiver of a frame parses. -/
theorem parse_toVec (f : CoraFrame) :
    CoraHeader.parse (f.toVec.take coraHeaderSize) = .ok f.wireHeader := by
  rw [toVec, ← f.wireHeader.encode_length, List.take_left, CoraHeader.parse_encode]

theorem toVec_ne_nil (f : CoraFrame) : f.toVec ≠ [] := by
  rw [← List.length_pos_iff, toVec_length, coraHeaderSize]
  omega

theorem decode_of_short {buf : List UInt8} (h : buf.length < coraHeaderSize) :
    decode buf = .ok .none := by
  rw [decode, if_pos h]

theorem decode_of_wrong_magic {buf : List UInt8} (h : coraHeaderSize ≤ buf.length)
    (hmagic : buf.take 4 ≠ coraMagic) : decode buf = .error .invalidMagic := by
  rw [decode, if_neg (by omega), if_pos hmagic]

theorem getD_take {buf : List UInt8} {i n : ℕ} (h : i < n) :
    (buf.take n).getD i 0 = buf.getD i 0 := by
  simp [List.getD_eq_getElem?_getD, List.getElem?_take_of_lt h]

theorem decode_of_unknown_op {buf : List UInt8} (h : coraHeaderSize ≤ buf.length)
    (hmagic : buf.take 4 = coraMagic) (hop : ¬ buf.getD 6 0 ≤ 2) :
    decode buf = .error (.unknownHidOp (buf.getD 6 0)) := by
  have hlen : (buf.take coraHeaderSize).length = coraHeaderSize := by
    rw [List.length_take, Nat.min_eq_left h]
  have hmagic' : (buf.take coraHeaderSize).take 4 = coraMagic := by
    rw [List.take_take]
    exact hmagic
  rw [decode, if_neg (by omega), if_neg (not_not.mpr hmagic), CoraHeader.parse,
    if_neg (by omega), if_neg (not_not.mpr hmagic'), getD_take (by decide),
    CoraHidOp.fromU8_of_not_le hop]
  rfl

/-- Behind a good header the decoder compares the buffer with the declared
length, and the frame it returns is made of the bytes of the buffer. -/
theorem decode_of_hasHeader {buf : List UInt8} (h : HasHeader buf) :
    ∃ header : CoraHeader, header.encode = buf.take coraHeaderSize ∧
      header.payloadLen.toNat = declaredLen buf ∧
      decode buf =
        if buf.length < coraHeaderSize + declaredLen buf then .ok .none
        else .ok (.some
          (⟨header, (buf.take (coraHeaderSize + declaredLen buf)).drop coraHeaderSize⟩,
            coraHeaderSize + declaredLen buf)) := by
  obtain ⟨hlen, hmagic, hop⟩ := h
  have hsize : (buf.take coraHeaderSize).length = coraHeaderSize := by
    rw [List.length_take, Nat.min_eq_left hlen]
  have hmagic' : (buf.take coraHeaderSize).take 4 = coraMagic := by
    rw [List.take_take]
    exact hmagic
  have hop' : (buf.take coraHeaderSize).getD 6 0 ≤ 2 := by
    rw [getD_take (by decide)]
    exact hop
  obtain ⟨header, hparse, hencode, hplen⟩ := CoraHeader.parse_of_fields hsize hmagic' hop'
  have hdeclared : header.payloadLen.toNat = declaredLen buf := by
    rw [hplen, declaredLen, coraHeaderSize, List.drop_take, List.take_take,
      Nat.min_eq_left (by decide)]
  refine ⟨header, hencode, hdeclared, ?_⟩
  rw [decode, if_neg (by omega), if_neg (not_not.mpr hmagic), hparse]
  simp only [bind, Except.bind, hdeclared, pure, Except.pure]

/-- **Encode after decode**: a decoded frame is made of the bytes it was read
from, and its length field is the length of its payload. -/
theorem toVec_of_decode {buf : List UInt8} {f : CoraFrame} {n : ℕ}
    (h : decode buf = .ok (.some (f, n))) :
    f.toVec = buf.take n ∧ n ≤ buf.length ∧ n = coraHeaderSize + f.payload.length ∧
      f.header.payloadLen.toNat = f.payload.length := by
  by_cases hlen : buf.length < coraHeaderSize
  · rw [decode_of_short hlen] at h
    cases h
  by_cases hmagic : buf.take 4 = coraMagic
  · by_cases hop : buf.getD 6 0 ≤ 2
    · obtain ⟨header, hencode, hplen, hdecode⟩ :=
        decode_of_hasHeader ⟨Nat.le_of_not_lt hlen, hmagic, hop⟩
      rw [hdecode] at h
      split at h
      · cases h
      · next hfull =>
        simp only [Except.ok.injEq, Option.some.injEq, Prod.mk.injEq] at h
        obtain ⟨rfl, rfl⟩ := h
        have hpayload : ((buf.take (coraHeaderSize + declaredLen buf)).drop
            coraHeaderSize).length = declaredLen buf := by
          rw [List.length_drop, List.length_take]
          omega
        refine ⟨?_, by omega, by rw [hpayload], by rw [hpayload]; exact hplen⟩
        have hfield : UInt32.ofNat ((buf.take (coraHeaderSize + declaredLen buf)).drop
            coraHeaderSize).length = header.payloadLen := by
          rw [hpayload, ← hplen, UInt32.ofNat_toNat]
        have hwire : wireHeader
            ⟨header, (buf.take (coraHeaderSize + declaredLen buf)).drop coraHeaderSize⟩ =
              header := by
          rw [wireHeader, hfield]
        have htake : buf.take coraHeaderSize =
            (buf.take (coraHeaderSize + declaredLen buf)).take coraHeaderSize := by
          rw [List.take_take, Nat.min_eq_left (by omega)]
        rw [toVec, hwire, hencode, htake, List.take_append_drop]
    · rw [decode_of_unknown_op (Nat.le_of_not_lt hlen) hmagic hop] at h
      cases h
  · rw [decode_of_wrong_magic (Nat.le_of_not_lt hlen) hmagic] at h
    cases h

theorem hasHeader_toVec (f : CoraFrame) (t : List UInt8) : HasHeader (f.toVec ++ t) := by
  refine ⟨?_, rfl, f.header.hidOp.asU8_le⟩
  rw [List.length_append, toVec_length]
  omega

theorem declaredLen_toVec {f : CoraFrame} (hf : f.payload.length < 2 ^ 32) (t : List UInt8) :
    declaredLen (f.toVec ++ t) = f.payload.length := by
  have hfield : ((f.toVec ++ t).drop 12).take 4 =
      leBytes 4 (UInt32.ofNat f.payload.length).toNat := rfl
  rw [declaredLen, hfield, UInt32.toNat_ofNat_of_lt' hf, leNat_leBytes_of_lt hf]

/-- **Decode after encode**: an encoded frame is read back whatever follows it,
its length field set to the length of its payload. -/
theorem decode_toVec_append {f : CoraFrame} (hf : f.payload.length < 2 ^ 32) (t : List UInt8) :
    decode (f.toVec ++ t) =
      .ok (.some (⟨f.wireHeader, f.payload⟩, coraHeaderSize + f.payload.length)) := by
  obtain ⟨header, hencode, -, hdecode⟩ := decode_of_hasHeader (hasHeader_toVec f t)
  have hfull : ¬ (f.toVec ++ t).length < coraHeaderSize + f.payload.length := by
    rw [List.length_append, toVec_length]
    omega
  have htake : (f.toVec ++ t).take (coraHeaderSize + f.payload.length) = f.toVec := by
    rw [← toVec_length, List.take_left]
  have hheader : header = f.wireHeader := by
    have hbytes : header.encode = f.wireHeader.encode := by
      rw [hencode, toVec, List.append_assoc, ← f.wireHeader.encode_length, List.take_left]
    have hparse := CoraHeader.parse_encode header
    rw [hbytes, CoraHeader.parse_encode] at hparse
    exact (Except.ok.inj hparse).symm
  rw [hdecode, declaredLen_toVec hf, if_neg hfull, htake, drop_toVec, hheader]

/-- A decoded frame is read back from its own bytes, whatever follows them. -/
theorem decode_toVec_of_decode {buf : List UInt8} {f : CoraFrame} {n : ℕ}
    (h : decode buf = .ok (.some (f, n))) (t : List UInt8) :
    decode (f.toVec ++ t) = .ok (.some (f, n)) := by
  obtain ⟨-, -, hn, hplen⟩ := toVec_of_decode h
  have hf : f.payload.length < 2 ^ 32 := by
    rw [← hplen]
    exact f.header.payloadLen.toNat_lt
  have hwire : f.wireHeader = f.header := by
    rw [wireHeader, ← hplen, UInt32.ofNat_toNat]
  rw [decode_toVec_append hf, hwire, ← hn]

/-- The decoder's answer on a buffer with a complete frame does not depend on
what follows. -/
theorem decode_append {buf : List UInt8} {f : CoraFrame} {n : ℕ}
    (h : decode buf = .ok (.some (f, n))) (t : List UInt8) :
    decode (buf ++ t) = .ok (.some (f, n)) := by
  have hsplit : buf ++ t = f.toVec ++ (buf.drop n ++ t) := by
    rw [(toVec_of_decode h).1, ← List.append_assoc, List.take_append_drop]
  rw [hsplit, decode_toVec_of_decode h]

/-- A decoded frame is read from the bytes that it takes. -/
theorem decode_take {buf : List UInt8} {f : CoraFrame} {n : ℕ}
    (h : decode buf = .ok (.some (f, n))) : decode (buf.take n) = .ok (.some (f, n)) := by
  have hfront := decode_toVec_of_decode h []
  rwa [List.append_nil, (toVec_of_decode h).1] at hfront

theorem decode_eq_none_iff (buf : List UInt8) :
    decode buf = .ok .none ↔ buf.length < coraHeaderSize ∨
      HasHeader buf ∧ buf.length < coraHeaderSize + declaredLen buf := by
  constructor
  · intro h
    by_contra hnot
    obtain ⟨hlen, hbad⟩ := not_or.mp hnot
    by_cases hmagic : buf.take 4 = coraMagic
    · by_cases hop : buf.getD 6 0 ≤ 2
      · have hheader : HasHeader buf := ⟨Nat.le_of_not_lt hlen, hmagic, hop⟩
        obtain ⟨_, _, _, hdecode⟩ := decode_of_hasHeader hheader
        rw [hdecode, if_neg fun hlt => hbad ⟨hheader, hlt⟩] at h
        cases h
      · rw [decode_of_unknown_op (Nat.le_of_not_lt hlen) hmagic hop] at h
        cases h
    · rw [decode_of_wrong_magic (Nat.le_of_not_lt hlen) hmagic] at h
      cases h
  · rintro (hlen | ⟨hheader, hlt⟩)
    · exact decode_of_short hlen
    · obtain ⟨_, _, _, hdecode⟩ := decode_of_hasHeader hheader
      rw [hdecode, if_pos hlt]

/-- Behind a good header there is a frame or too few bytes, never an error. -/
theorem decode_ne_error {buf : List UInt8} (h : HasHeader buf) (e : ProtocolError) :
    decode buf ≠ .error e := by
  obtain ⟨_, _, _, hdecode⟩ := decode_of_hasHeader h
  rw [hdecode]
  split <;> simp

/-- An error is about a whole header. -/
theorem le_length_of_decode_error {buf : List UInt8} {e : ProtocolError}
    (h : decode buf = .error e) : coraHeaderSize ≤ buf.length := by
  by_contra hlt
  rw [decode_of_short (Nat.lt_of_not_le hlt)] at h
  cases h

theorem decode_eq_invalidMagic_iff (buf : List UInt8) :
    decode buf = .error .invalidMagic ↔
      coraHeaderSize ≤ buf.length ∧ buf.take 4 ≠ coraMagic := by
  constructor
  · intro h
    have hlen := le_length_of_decode_error h
    refine ⟨hlen, fun hmagic => ?_⟩
    by_cases hop : buf.getD 6 0 ≤ 2
    · exact decode_ne_error ⟨hlen, hmagic, hop⟩ _ h
    · rw [decode_of_unknown_op hlen hmagic hop] at h
      cases h
  · rintro ⟨hlen, hmagic⟩
    exact decode_of_wrong_magic hlen hmagic

theorem decode_eq_unknownHidOp_iff (buf : List UInt8) (op : UInt8) :
    decode buf = .error (.unknownHidOp op) ↔
      coraHeaderSize ≤ buf.length ∧ buf.take 4 = coraMagic ∧ 2 < buf.getD 6 0 ∧
        op = buf.getD 6 0 := by
  constructor
  · intro h
    have hlen := le_length_of_decode_error h
    have hmagic : buf.take 4 = coraMagic := by
      by_contra hbad
      rw [decode_of_wrong_magic hlen hbad] at h
      cases h
    have hop : ¬ buf.getD 6 0 ≤ 2 := fun hop => decode_ne_error ⟨hlen, hmagic, hop⟩ _ h
    rw [decode_of_unknown_op hlen hmagic hop] at h
    cases h
    exact ⟨hlen, hmagic, UInt8.not_le.mp hop, rfl⟩
  · rintro ⟨hlen, hmagic, hop, rfl⟩
    exact decode_of_unknown_op hlen hmagic (UInt8.not_le.mpr hop)

theorem encode_of_fits {f : CoraFrame} {out : List UInt8}
    (h : coraHeaderSize + f.payload.length ≤ out.length) :
    f.encode out = (.ok (coraHeaderSize + f.payload.length),
      f.toVec ++ out.drop (coraHeaderSize + f.payload.length)) := by
  have hfirst : splice out 0 f.wireHeader.encode =
      f.wireHeader.encode ++ out.drop coraHeaderSize := by
    rw [splice_zero, CoraHeader.encode_length]
  have hsecond : splice (f.wireHeader.encode ++ out.drop coraHeaderSize) coraHeaderSize
      f.payload = f.toVec ++ out.drop (coraHeaderSize + f.payload.length) := by
    have hhead : (f.wireHeader.encode ++ out.drop coraHeaderSize).take coraHeaderSize =
        f.wireHeader.encode := by
      rw [← f.wireHeader.encode_length, List.take_left]
    have hrest : (f.wireHeader.encode ++ out.drop coraHeaderSize).drop
        (coraHeaderSize + f.payload.length) =
          out.drop (coraHeaderSize + f.payload.length) := by
      rw [← List.drop_drop, ← f.wireHeader.encode_length, List.drop_left, List.drop_drop,
        f.wireHeader.encode_length]
    rw [splice, hhead, hrest, toVec]
  rw [encode, if_neg (by omega)]
  simp only [hfirst, hsecond]

/-- A buffer of the right size is filled with the frame. -/
theorem encode_exact {f : CoraFrame} {out : List UInt8}
    (hout : out.length = coraHeaderSize + f.payload.length) :
    f.encode out = (.ok out.length, f.toVec) := by
  have hend : out.drop (coraHeaderSize + f.payload.length) = [] :=
    List.drop_of_length_le hout.le
  rw [encode_of_fits hout.ge, hend, List.append_nil, hout]

theorem encode_of_small {f : CoraFrame} {out : List UInt8}
    (h : out.length < coraHeaderSize + f.payload.length) :
    f.encode out = (.error .bufferTooSmall, out) := by
  rw [encode, if_pos h]

/-- **Codec exactness**: decoding after encoding, the fixed-buffer encoder
against the vector encoder, encoding after decoding, and the exact condition of
every outcome of the decoder. -/
theorem decode_outcomes (f : CoraFrame) (hf : f.payload.length < 2 ^ 32)
    (t out b : List UInt8) :
    decode (f.toVec ++ t) =
        .ok (.some ({ f with header :=
          { f.header with payloadLen := UInt32.ofNat f.payload.length } },
          16 + f.payload.length)) ∧
      (16 + f.payload.length ≤ out.length →
        f.encode out = (.ok (16 + f.payload.length),
          f.toVec ++ out.drop (16 + f.payload.length))) ∧
      (out.length < 16 + f.payload.length →
        f.encode out = (.error .bufferTooSmall, out)) ∧
      (∀ g n, decode b = .ok (.some (g, n)) → n ≤ b.length ∧ g.toVec = b.take n) ∧
      (decode b = .ok .none ↔ b.length < 16 ∨
        (16 ≤ b.length ∧ b.take 4 = coraMagic ∧ b.getD 6 0 ≤ 2) ∧
          b.length < 16 + leNat ((b.drop 12).take 4)) ∧
      (decode b = .error .invalidMagic ↔ 16 ≤ b.length ∧ b.take 4 ≠ coraMagic) ∧
      (∀ op, decode b = .error (.unknownHidOp op) ↔
        16 ≤ b.length ∧ b.take 4 = coraMagic ∧ 2 < b.getD 6 0 ∧ op = b.getD 6 0) :=
  ⟨decode_toVec_append hf t, encode_of_fits, encode_of_small,
    fun _ _ h => ⟨(toVec_of_decode h).2.1, (toVec_of_decode h).1⟩,
    decode_eq_none_iff b, decode_eq_invalidMagic_iff b, decode_eq_unknownHidOp_iff b⟩

/-- A two-byte query with a stale length field, two bytes of another frame
behind it, and a buffer that is one byte short. -/
theorem decode_outcomes_query :
    decode (toVec ⟨CoraHeader.new CoraFlags.none .getReport 7 99, [0x03, 0x80]⟩ ++ [0x43, 0x93]) =
        .ok (.some (⟨CoraHeader.new CoraFlags.none .getReport 7 2, [0x03, 0x80]⟩, 18)) ∧
      encode ⟨CoraHeader.new CoraFlags.none .getReport 7 99, [0x03, 0x80]⟩
          (List.replicate 17 0) = (.error .bufferTooSmall, List.replicate 17 0) :=
  have h := decode_outcomes ⟨CoraHeader.new CoraFlags.none .getReport 7 99, [0x03, 0x80]⟩
    (by decide) [0x43, 0x93] (List.replicate 17 0) []
  ⟨h.1, h.2.2.1 (by decide)⟩

end CoraFrame

open Checked

/-- Send what an encoder left in a buffer, and nothing if it failed. -/
def sendBuilt : Except ProtocolError ℕ × List UInt8 → Except Panic (List (List UInt8))
  | (.ok len, out) => do return [← slice out 0 len]
  | (.error _, _) => return []

theorem sendBuilt_encode {f : CoraFrame} {out : List UInt8}
    (h : coraHeaderSize + f.payload.length ≤ out.length) :
    sendBuilt (f.encode out) = .ok [f.toVec] := by
  have hle : coraHeaderSize + f.payload.length ≤
      (f.toVec ++ out.drop (coraHeaderSize + f.payload.length)).length := by
    rw [List.length_append, CoraFrame.toVec_length]
    exact Nat.le_add_right _ _
  rw [CoraFrame.encode_of_fits h]
  show ((slice (f.toVec ++ _) 0 (coraHeaderSize + f.payload.length)).bind fun msg => .ok [msg]) = _
  rw [slice_zero hle, ← CoraFrame.toVec_length, List.take_left]
  rfl

end OpenNetDeck
