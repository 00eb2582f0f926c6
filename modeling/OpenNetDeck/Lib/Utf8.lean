import Mathlib.Tactic

/-!
# Strings cut at a number of bytes

A string cut at a fixed number of bytes is a string again exactly if the cut splits no
character.

## Main definitions

- `Utf8.bytes`, `Utf8.fromUtf8` — a string as bytes and back
- `Utf8.CutsNoChar` — a cut between two characters, or behind the last

## Main results

- `Utf8.exists_fromUtf8_take_iff` — when a prefix is a string
-/

namespace Utf8

/-- The bytes of a string. -/
def bytes (s : String) : List UInt8 := s.toUTF8.data.toList

/-- `core::str::from_utf8` -/
def fromUtf8 (bs : List UInt8) : Option String := String.fromUTF8? bs.toByteArray

/-- A cut at `n` bytes splits no character: the next byte, if there is one, is the first
of a character. -/
def CutsNoChar (s : String) (n : ℕ) : Prop := ∀ b ∈ (bytes s)[n]?, b.IsUTF8FirstByte

instance (s : String) (n : ℕ) : Decidable (CutsNoChar s n) :=
  inferInstanceAs (Decidable (∀ b ∈ (bytes s)[n]?, b.IsUTF8FirstByte))

theorem cutsNoChar_of_length_le {s : String} {n : ℕ} (h : (bytes s).length ≤ n) :
    CutsNoChar s n := by
  intro b hb
  rw [List.getElem?_eq_none h] at hb
  cases hb

theorem exists_fromUtf8_iff (bs : List UInt8) :
    (∃ s, fromUtf8 bs = some s) ↔ bs.toByteArray.IsValidUTF8 := by
  rw [fromUtf8, String.fromUTF8?]
  constructor
  · rintro ⟨s, hs⟩
    split at hs
    · next hvalid => exact hvalid
    · cases hs
  · intro hvalid
    exact ⟨_, dif_pos hvalid⟩

/-- A string is what its own bytes stand for, and no other's. -/
theorem fromUtf8_eq_some {bs : List UInt8} {s : String} : fromUtf8 bs = some s ↔ bytes s = bs := by
  rw [fromUtf8, String.fromUTF8?, bytes]
  constructor
  · intro h
    split at h
    · cases h
      exact List.toList_data_toByteArray
    · cases h
  · rintro rfl
    have hsame : s.toUTF8.data.toList.toByteArray = s.toUTF8 := by
      apply ByteArray.ext
      rw [List.data_toByteArray]
    have hvalid : s.toUTF8.IsValidUTF8 := s.isValidUTF8
    rw [hsame, dif_pos hvalid]
    rfl

theorem toByteArray_take (s : String) (n : ℕ) :
    ((bytes s).take n).toByteArray = s.toByteArray.extract 0 n := by
  apply ByteArray.ext
  apply Array.toList_inj.mp
  rw [List.toList_data_toByteArray, ByteArray.data_extract, Array.toList_extract]
  simp [bytes]

/-- Inside a string the positions between two characters are those in front of a first
byte. -/
theorem isValid_iff_cutsNoChar {s : String} {n : ℕ} (hn : n < (bytes s).length) :
    String.Pos.Raw.IsValid s ⟨n⟩ ↔ CutsNoChar s n := by
  have hlt : (⟨n⟩ : String.Pos.Raw) < s.rawEndPos := hn
  have hne : (⟨n⟩ : String.Pos.Raw) ≠ s.rawEndPos := by
    intro heq
    have hidx : n = s.rawEndPos.byteIdx := congrArg String.Pos.Raw.byteIdx heq
    exact absurd hn (not_lt.mpr hidx.ge)
  have hbyte : s.getUTF8Byte ⟨n⟩ hlt = (bytes s)[n] := rfl
  rw [String.Pos.Raw.isValid_iff_isUTF8FirstByte, or_iff_right hne, exists_prop_of_true hlt, hbyte,
    CutsNoChar, List.getElem?_eq_getElem hn]
  constructor
  · intro hfirst b hb
    cases hb
    exact hfirst
  · intro h
    exact h _ rfl

/-- **Prefixes of strings**: a prefix is a string exactly if the cut splits no character. -/
theorem exists_fromUtf8_take_iff (s : String) (n : ℕ) :
    (∃ t, fromUtf8 ((bytes s).take n) = some t) ↔ CutsNoChar s n := by
  by_cases hn : n < (bytes s).length
  · have hle : (⟨n⟩ : String.Pos.Raw) ≤ s.rawEndPos := hn.le
    rw [exists_fromUtf8_iff, toByteArray_take, ← isValid_iff_cutsNoChar hn,
      String.Pos.Raw.isValid_iff_isValidUTF8_extract_zero]
    exact (and_iff_right hle).symm
  · rw [List.take_of_length_le (not_lt.mp hn)]
    exact iff_of_true ⟨s, fromUtf8_eq_some.mpr rfl⟩ (cutsNoChar_of_length_le (not_lt.mp hn))

end Utf8
