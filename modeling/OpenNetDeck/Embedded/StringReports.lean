import OpenNetDeck.Embedded.Replies

/-!
# String reports of the embedded bridge

The firmware version (0x05) and the serial number (0x06): the length in byte 1, and
the bytes that it announces. The bridge copies up to 30 bytes whatever the report, but
a short answer has 32 bytes, and the firmware version starts at byte 6.

## Main definitions

- `EmbeddedDeckBridge.stringPayload` — the payload of a string report
- `Announces` — the announced bytes are sent, and they are those of the string

## Main results

- `EmbeddedDeckBridge.handleIncomingFrame_of_string` — what a query for a string gets
- `string_reports_consistent_iff` — which answers announce what they do not hold
-/

namespace OpenNetDeck

open Bytes Checked StreamDeckSurface
open SecondaryConnection (IsFeatureQuery replyFrame paddedLen le_paddedLen paddedLen_le)

/-- The payload holds the bytes that it announces in byte 1, from `offset` on, and they
are the first bytes of the string. -/
def Announces (p : List UInt8) (offset : ℕ) (s : String) : Prop :=
  let len := (p.getD 1 0).toNat
  offset + len ≤ p.length ∧ (p.drop offset).take len = (asBytes s).take len

instance (p : List UInt8) (offset : ℕ) (s : String) : Decidable (Announces p offset s) :=
  inferInstanceAs (Decidable (_ ∧ _))

/-- A probe names a command of its own. -/
theorem commandByte_of_probe {frame : CoraFrame} (h : frame.IsProbe) :
    commandByte frame.payload = some 0x01 := by
  obtain ⟨hlen, hfirst, -⟩ := h
  rw [commandByte_of_two_le (by omega), hfirst, if_neg (by decide)]

theorem commandByte_of_ack {frame : CoraFrame} (h : frame.IsAck) :
    commandByte frame.payload = some 0x1a := by
  obtain ⟨hlen, hfirst, hsecond⟩ := h
  rw [commandByte_of_two_le (by omega), if_pos hfirst, hsecond]

namespace EmbeddedDeckBridge

/-- The response to a query for a string. -/
def stringResponse (id : UInt8) (s : String) (offset : ℕ) : List UInt8 :=
  let len := min (asBytes s).length 30
  splice (id :: UInt8.ofNat len :: List.replicate 1022 0) offset ((asBytes s).take len)

/-- The part of the response that is sent. -/
def stringPayload (id : UInt8) (s : String) (offset respLen : ℕ) : List UInt8 :=
  (stringResponse id s offset).take respLen

section

variable {id : UInt8} {s : String} {offset respLen : ℕ}

theorem head_length (id len : UInt8) : (id :: len :: List.replicate 1022 0).length = 1024 := by
  rw [List.length_cons, List.length_cons, List.length_replicate]

theorem copied_length (s : String) :
    ((asBytes s).take (min (asBytes s).length 30)).length = min (asBytes s).length 30 :=
  List.length_take_of_le (Nat.min_le_left _ _)

theorem stringReport_eq (hsize : offset + 30 ≤ 1024) :
    stringReport s offset (id :: List.replicate 1023 0) = .ok (stringResponse id s offset) := by
  have hfits : offset + ((asBytes s).take (min (asBytes s).length 30)).length ≤
      (id :: UInt8.ofNat (min (asBytes s).length 30) :: List.replicate 1022 0).length := by
    rw [copied_length, head_length]
    omega
  have hlen : store (id :: List.replicate 1023 0) 1 [UInt8.ofNat (min (asBytes s).length 30)] =
      .ok (id :: UInt8.ofNat (min (asBytes s).length 30) :: List.replicate 1022 0) :=
    store_cons_one id 0 _ (List.replicate 1022 0)
  rw [stringReport, slice_zero (Nat.min_le_left _ _)]
  simp only [bind, Except.bind, hlen]
  exact store_of_le hfits

theorem stringResponse_length (hsize : offset + 30 ≤ 1024) :
    (stringResponse id s offset).length = 1024 := by
  have hfits : offset + ((asBytes s).take (min (asBytes s).length 30)).length ≤ 1024 := by
    rw [copied_length]
    omega
  rw [stringResponse, splice_length (by rwa [head_length]), head_length]

/-- Byte 1 is the number of bytes that were copied. -/
theorem getD_stringPayload (hoffset : 2 ≤ offset) (hsize : offset + 30 ≤ 1024)
    (hresp : 2 ≤ respLen) :
    ((stringPayload id s offset respLen).getD 1 0).toNat = min (asBytes s).length 30 := by
  have htake : (stringResponse id s offset).take 2 =
      [id, UInt8.ofNat (min (asBytes s).length 30)] := by
    rw [stringResponse, take_splice_of_le hoffset]
    · rfl
    · rw [head_length]
      omega
  have hbyte : min (asBytes s).length 30 < 2 ^ 8 := (Nat.min_le_right _ _).trans_lt (by decide)
  rw [stringPayload, CoraFrame.getD_take hresp, ← CoraFrame.getD_take Nat.one_lt_two, htake]
  exact UInt8.toNat_ofNat_of_lt' hbyte

/-- The copied bytes, as far as they are sent. -/
theorem read_stringPayload (hsize : offset + 30 ≤ 1024)
    (hfits : offset + min (asBytes s).length 30 ≤ respLen) :
    ((stringPayload id s offset respLen).drop offset).take (min (asBytes s).length 30) =
      (asBytes s).take (min (asBytes s).length 30) := by
  have hdrop : (stringResponse id s offset).drop offset =
      splice
        ((id :: UInt8.ofNat (min (asBytes s).length 30) :: List.replicate 1022 0).drop offset) 0
        ((asBytes s).take (min (asBytes s).length 30)) := by
    rw [stringResponse, drop_splice le_rfl, Nat.sub_self]
    rw [head_length]
    omega
  rw [stringPayload, List.drop_take, List.take_take, Nat.min_eq_left (by omega), hdrop,
    take_splice_zero (copied_length s).ge, List.take_take, Nat.min_self]

/-- The announced bytes are sent if the answer has room for them. -/
theorem announces_stringPayload_iff (hoffset : 2 ≤ offset) (hsize : offset + 30 ≤ 1024)
    (hresp : 2 ≤ respLen) (hresp' : respLen ≤ 1024) :
    Announces (stringPayload id s offset respLen) offset s ↔
      offset + min (asBytes s).length 30 ≤ respLen := by
  have hlen : (stringPayload id s offset respLen).length = respLen :=
    List.length_take_of_le (hresp'.trans (stringResponse_length hsize).ge)
  rw [Announces, getD_stringPayload hoffset hsize hresp, hlen]
  exact and_iff_left_of_imp (read_stringPayload hsize)

end

variable {D : Type} [StreamDeckSurface D] (self : EmbeddedDeckBridge D) {frame : CoraFrame}

/-- A query for a string gets it, up to 30 bytes, in an answer of 32 or 1024. -/
theorem handleIncomingFrame_of_string (hquery : IsFeatureQuery frame) {id : UInt8} {s : String}
    {offset : ℕ} (hid : commandByte frame.payload = some id) (hprobe : id ≠ 0x01)
    (hack : id ≠ 0x1a) (hoffset : offset + 30 ≤ 1024)
    (hreport : ∀ out respLen, self.answerReport id out respLen =
      (do return (← stringReport s offset out, respLen))) :
    self.handleIncomingFrame frame = .ok
      ([(replyFrame frame (stringPayload id s offset (paddedLen frame 32))).toVec], self) := by
  have hnoProbe : ¬ frame.IsProbe := fun h =>
    hprobe (Option.some.inj (hid.symm.trans (commandByte_of_probe h)))
  have hnoAck : ¬ frame.IsAck := fun h =>
    hack (Option.some.inj (hid.symm.trans (commandByte_of_ack h)))
  have hsent : paddedLen frame 32 ≤ (stringResponse id s offset).length := by
    rw [stringResponse_length hoffset]
    exact paddedLen_le frame (by decide)
  have hlen : (stringPayload id s offset (paddedLen frame 32)).length = paddedLen frame 32 :=
    List.length_take_of_le hsent
  rw [self.handleIncomingFrame_of_query frame hnoProbe hnoAck hquery, answerQuery,
    SecondaryConnection.reportId_of_command frame hid]
  simp only [bind, Except.bind, store_reportId, hreport, stringReport_eq hoffset, slice_zero hsent,
    pure, Except.pure]
  rw [replyFrame, hlen]
  rfl

theorem handleIncomingFrame_of_firmware (hquery : IsFeatureQuery frame)
    (hid : commandByte frame.payload = some 0x05) :
    self.handleIncomingFrame frame = .ok ([(replyFrame frame
      (stringPayload 0x05 (firmwareVersion self.surface) 6 (paddedLen frame 32))).toVec], self) :=
  self.handleIncomingFrame_of_string hquery hid (by decide) (by decide) (by decide)
    fun out respLen => by rw [answerReport, if_pos rfl]

theorem handleIncomingFrame_of_serial (hquery : IsFeatureQuery frame)
    (hid : commandByte frame.payload = some 0x06) :
    self.handleIncomingFrame frame = .ok ([(replyFrame frame
      (stringPayload 0x06 (serialNumber self.surface) 2 (paddedLen frame 32))).toVec], self) :=
  self.handleIncomingFrame_of_string hquery hid (by decide) (by decide) (by decide)
    fun out respLen => by rw [answerReport, if_neg (by decide), if_pos rfl]

/-- There is one payload to an answer. -/
theorem exists_reply_iff {p : List UInt8} {P : List UInt8 → Prop}
    (h : self.handleIncomingFrame frame = .ok ([(replyFrame frame p).toVec], self)) :
    (∃ q, self.handleIncomingFrame frame = .ok ([(replyFrame frame q).toVec], self) ∧ P q) ↔
      P p := by
  constructor
  · rintro ⟨q, hq, hP⟩
    rw [h] at hq
    have hvec : (replyFrame frame p).toVec = (replyFrame frame q).toVec :=
      (List.cons.inj (Prod.mk.inj (Except.ok.inj hq)).1).1
    have hpayload := congrArg (List.drop coraHeaderSize) hvec
    rw [CoraFrame.drop_toVec, CoraFrame.drop_toVec] at hpayload
    have hsame : p = q := hpayload
    rwa [hsame]
  · intro hP
    exact ⟨p, h, hP⟩

end EmbeddedDeckBridge

open EmbeddedDeckBridge

/-- **String reports**: the answer to a query for the firmware version or for the serial
number holds the bytes that it announces, except that a firmware version of more than 26
bytes does not fit into a short answer. -/
theorem string_reports_consistent_iff {D : Type} [StreamDeckSurface D]
    (bridge : EmbeddedDeckBridge D) (frame : CoraFrame) (hquery : IsFeatureQuery frame) :
    ((commandByte frame.payload = some 0x05 →
        ∃ p, bridge.handleIncomingFrame frame = .ok ([(replyFrame frame p).toVec], bridge) ∧
          Announces p 6 (firmwareVersion bridge.surface)) ∧
      (commandByte frame.payload = some 0x06 →
        ∃ p, bridge.handleIncomingFrame frame = .ok ([(replyFrame frame p).toVec], bridge) ∧
          Announces p 2 (serialNumber bridge.surface))) ↔
      ¬ (commandByte frame.payload = some 0x05 ∧ frame.payload.length < 1024 ∧
        26 < (asBytes (firmwareVersion bridge.surface)).length) := by
  have hpadded : paddedLen frame 32 = if 1024 ≤ frame.payload.length then 1024 else 32 := rfl
  have hmin : 2 ≤ paddedLen frame 32 :=
    (by decide : 2 ≤ 32).trans (le_paddedLen frame (by decide))
  have hmax : paddedLen frame 32 ≤ 1024 := paddedLen_le frame (by decide)
  have hserial (hid : commandByte frame.payload = some 0x06) :
      ∃ p, bridge.handleIncomingFrame frame = .ok ([(replyFrame frame p).toVec], bridge) ∧
        Announces p 2 (serialNumber bridge.surface) := by
    refine ⟨_, bridge.handleIncomingFrame_of_serial hquery hid,
      (announces_stringPayload_iff le_rfl (by decide) hmin hmax).mpr ?_⟩
    rw [hpadded]
    split <;> omega
  rw [and_iff_left hserial]
  by_cases hid : commandByte frame.payload = some 0x05
  · have hreply := bridge.handleIncomingFrame_of_firmware hquery hid
    rw [forall_prop_of_true hid, bridge.exists_reply_iff hreply,
      announces_stringPayload_iff (by decide) (by decide) hmin hmax, hpadded]
    constructor
    · rintro hfits ⟨-, hshort, hlong⟩
      rw [if_neg (not_le.mpr hshort)] at hfits
      omega
    · intro hno
      by_cases hshort : 1024 ≤ frame.payload.length
      · rw [if_pos hshort]
        omega
      · rw [if_neg hshort]
        by_contra hover
        exact hno ⟨hid, not_le.mp hshort, by omega⟩
  · exact iff_of_true (fun h => absurd h hid) fun h => hid h.1

/-- The firmware version of the virtual deck is asked for. -/
theorem string_reports_consistent_iff_virtual :
    ((commandByte (request .getReport 7 [0x03, 0x05]).payload = some 0x05 →
        ∃ p, EmbeddedDeckBridge.handleIncomingFrame ⟨VirtualStreamDeckPlus.new "A", 0, 5344⟩
            (request .getReport 7 [0x03, 0x05]) =
              .ok ([(replyFrame (request .getReport 7 [0x03, 0x05]) p).toVec],
                ⟨VirtualStreamDeckPlus.new "A", 0, 5344⟩) ∧
          Announces p 6 "2.0.3.5") ∧
      (commandByte (request .getReport 7 [0x03, 0x05]).payload = some 0x06 →
        ∃ p, EmbeddedDeckBridge.handleIncomingFrame ⟨VirtualStreamDeckPlus.new "A", 0, 5344⟩
            (request .getReport 7 [0x03, 0x05]) =
              .ok ([(replyFrame (request .getReport 7 [0x03, 0x05]) p).toVec],
                ⟨VirtualStreamDeckPlus.new "A", 0, 5344⟩) ∧
          Announces p 2 "A")) ↔
      ¬ (commandByte [0x03, 0x05] = some 0x05 ∧ ([0x03, 0x05] : List UInt8).length < 1024 ∧
        26 < (asBytes "2.0.3.5").length) :=
  string_reports_consistent_iff ⟨VirtualStreamDeckPlus.new "A", 0, 5344⟩
    (request .getReport 7 [0x03, 0x05]) (.inl rfl)

/-- A bridge whose firmware version has 27 bytes. -/
def nightlyBridge : EmbeddedDeckBridge VirtualStreamDeckPlus :=
  ⟨{ VirtualStreamDeckPlus.new "A" with firmware := "2.0.3.5-nightly-2026-10-01a" }, 0, 5344⟩

/-- Byte 1 of the 32 bytes says 27, and 26 follow. -/
theorem firmware_report_overruns :
    ∃ p, nightlyBridge.handleIncomingFrame (request .getReport 7 [0x03, 0x05]) =
        .ok ([(replyFrame (request .getReport 7 [0x03, 0x05]) p).toVec], nightlyBridge) ∧
      p.length = 32 ∧ p.getD 1 0 = 27 ∧ ¬ Announces p 6 "2.0.3.5-nightly-2026-10-01a" := by
  refine ⟨_, nightlyBridge.handleIncomingFrame_of_firmware (.inl rfl) rfl, ?_, ?_, ?_⟩
  · decide +kernel
  · decide +kernel
  · decide +kernel

end OpenNetDeck
