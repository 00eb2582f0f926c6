import OpenNetDeck.Lib.Bytes

/-!
# Checked machine operations

Word arithmetic, indexing and slicing with the failures that stop a program: on
a target with overflow checks an addition that does not fit in a word fails,
without them it wraps, and an index or a slice outside its sequence always fails.

## Main definitions

- `Checked.index`, `Checked.slice`, `Checked.store` — read a byte or a part of a
  buffer, write over a part of it
- `Checked.Writes` — a computation that succeeds and changes a part of a buffer only
-/

namespace Checked

/-- The run-time failures of slices and word arithmetic, and of a length that does
not fit in the integer it is written to. -/
inductive Panic where
  | addOverflow
  | sliceOutOfRange
  | lengthOverflow
  deriving DecidableEq, Repr

inductive WordSize where
  | w32
  | w64
  deriving DecidableEq, Repr

def WordSize.bits : WordSize → ℕ
  | .w32 => 32
  | .w64 => 64

/-- The machine a program is compiled for. -/
structure Target where
  word : WordSize
  overflowChecks : Bool
  deriving DecidableEq, Repr

/-- Addition of two machine words. -/
def Target.add (t : Target) (a b : ℕ) : Except Panic ℕ :=
  if a + b < 2 ^ t.word.bits then .ok (a + b)
  else if t.overflowChecks then .error .addOverflow
  else .ok ((a + b) % 2 ^ t.word.bits)

theorem Target.add_of_lt {t : Target} {a b : ℕ} (h : a + b < 2 ^ t.word.bits) :
    t.add a b = .ok (a + b) := by
  rw [Target.add, if_pos h]

/-- Sums far below the narrowest word never overflow. -/
theorem Target.add_of_small (t : Target) {a b : ℕ} (h : a + b < 2 ^ 32) :
    t.add a b = .ok (a + b) := by
  apply Target.add_of_lt
  cases t.word with
  | w32 => exact h
  | w64 => exact h.trans (by decide)

/-- `u16::saturating_add` -/
def saturatingAdd (a b : UInt16) : UInt16 :=
  if a.toNat + b.toNat < 2 ^ 16 then a + b else 0xffff

theorem toNat_saturatingAdd (a b : UInt16) :
    (saturatingAdd a b).toNat = min (a.toNat + b.toNat) 65535 := by
  rw [saturatingAdd]
  split
  · next hlt =>
    rw [UInt16.toNat_add, Nat.mod_eq_of_lt hlt]
    omega
  · next hge =>
    rw [Nat.min_eq_right (by omega)]
    rfl

variable {α : Type*}

/-- `l[a..b]` -/
def slice (l : List α) (a b : ℕ) : Except Panic (List α) :=
  if a ≤ b ∧ b ≤ l.length then .ok ((l.take b).drop a) else .error .sliceOutOfRange

theorem slice_of_le {l : List α} {a b : ℕ} (hab : a ≤ b) (hb : b ≤ l.length) :
    slice l a b = .ok ((l.take b).drop a) := by
  rw [slice, if_pos ⟨hab, hb⟩]

theorem slice_of_gt {l : List α} {a b : ℕ} (h : b < a) :
    slice l a b = .error .sliceOutOfRange := by
  rw [slice, if_neg (by omega)]

theorem slice_zero {l : List α} {b : ℕ} (hb : b ≤ l.length) : slice l 0 b = .ok (l.take b) := by
  rw [slice_of_le (Nat.zero_le b) hb, List.drop_zero]

/-- `l[i]` -/
def index (l : List α) (i : ℕ) : Except Panic α :=
  match l[i]? with
  | some a => .ok a
  | none => .error .sliceOutOfRange

theorem index_of_lt {l : List α} {i : ℕ} (h : i < l.length) : index l i = .ok l[i] := by
  rw [index, List.getElem?_eq_getElem h]

theorem index_eq_getD {l : List α} {i : ℕ} (d : α) (h : i < l.length) :
    index l i = .ok (l.getD i d) := by
  rw [index_of_lt h, List.getD_eq_getElem?_getD, List.getElem?_eq_getElem h, Option.getD_some]

@[simp] theorem index_cons_zero (a : α) (l : List α) : index (a :: l) 0 = .ok a := rfl

@[simp] theorem index_cons_succ (a : α) (l : List α) (i : ℕ) :
    index (a :: l) (i + 1) = index l i := rfl

/-- `out[a..a + src.len()].copy_from_slice(src)` -/
def store (out : List α) (a : ℕ) (src : List α) : Except Panic (List α) :=
  if a + src.length ≤ out.length then .ok (Bytes.splice out a src) else .error .sliceOutOfRange

theorem store_of_le {out src : List α} {a : ℕ} (h : a + src.length ≤ out.length) :
    store out a src = .ok (Bytes.splice out a src) := by
  rw [store, if_pos h]

theorem store_ok {out src : List α} {a : ℕ} (h : a + src.length ≤ out.length) :
    ∃ out', store out a src = .ok out' ∧ out'.length = out.length :=
  ⟨_, store_of_le h, Bytes.splice_length h⟩

/-- An assignment into the first of two parts. -/
theorem store_append {pre rest src : List α} {a : ℕ} (h : a + src.length ≤ pre.length) :
    store (pre ++ rest) a src = .ok (Bytes.splice pre a src ++ rest) := by
  rw [store_of_le (by rw [List.length_append]; omega), Bytes.splice_append_left h]

/-- An assignment at the start of a padding. -/
theorem store_padding {pre src rest : List α} {n a : ℕ} {pad : α} (ha : pre.length = a)
    (h : src.length ≤ n) :
    store (pre ++ List.replicate n pad ++ rest) a src =
      .ok (pre ++ src ++ List.replicate (n - src.length) pad ++ rest) := by
  subst ha
  have hfits : pre.length + src.length ≤ (pre ++ List.replicate n pad).length := by
    rw [List.length_append, List.length_replicate]
    omega
  rw [store_append hfits, Bytes.splice, List.take_left, ← List.drop_drop, List.drop_left,
    List.drop_replicate]

/-- An assignment over a whole prefix replaces it. -/
theorem store_zero {out src : List α} (h : src.length ≤ out.length) :
    store out 0 src = .ok (src ++ out.drop src.length) := by
  rw [store_of_le (by rwa [Nat.zero_add]), Bytes.splice_zero]

@[simp] theorem store_cons_zero (a b : α) (l : List α) : store (a :: l) 0 [b] = .ok (b :: l) := by
  rw [store_zero (by simp)]
  rfl

theorem store_cons_succ {a : α} {l src : List α} {i : ℕ} (h : i + src.length ≤ l.length) :
    store (a :: l) (i + 1) src = .ok (a :: Bytes.splice l i src) := by
  rw [store_of_le (by rw [List.length_cons]; omega), Bytes.splice, Bytes.splice,
    Nat.add_right_comm]
  rfl

theorem store_cons_one (a b c : α) (l : List α) :
    store (a :: b :: l) 1 [c] = .ok (a :: c :: l) := by
  rw [store_cons_succ (by simp), Bytes.splice_zero]
  rfl

/-- Two programs that agree from their first step on. -/
theorem map_bind_congr {β γ δ : Type} {m : Except Panic β} {f : β → Except Panic γ} {g : γ → δ}
    {h : β → Except Panic δ} (hfg : ∀ b, (f b).map g = h b) : (m >>= f).map g = m >>= h := by
  cases m with
  | error e => rfl
  | ok b => exact hfg b

/-! ### Programs that write into a buffer -/

/-- The computation does not fail, and what it returns is `out` up to the positions
from `lo` to `hi`. -/
def Writes (lo hi : ℕ) (out : List α) (m : Except Panic (List α)) : Prop :=
  ∃ out', m = .ok out' ∧ out'.length = out.length ∧ out'.take lo = out.take lo ∧
    out'.drop hi = out.drop hi

namespace Writes

variable {lo hi : ℕ} {out : List α} {m : Except Panic (List α)}

theorem done (lo hi : ℕ) (out : List α) : Writes lo hi out (.ok out) := ⟨out, rfl, rfl, rfl, rfl⟩

theorem store {src : List α} {a : ℕ} (hlo : lo ≤ a) (hhi : a + src.length ≤ hi)
    (h : a + src.length ≤ out.length) : Writes lo hi out (Checked.store out a src) :=
  ⟨_, store_of_le h, Bytes.splice_length h, Bytes.take_splice_of_le hlo (by omega),
    Bytes.drop_splice_of_ge hhi (by omega)⟩

theorem bind {f : List α → Except Panic (List α)} (hm : Writes lo hi out m)
    (hf : ∀ out', out'.length = out.length → Writes lo hi out' (f out')) :
    Writes lo hi out (m >>= f) := by
  obtain ⟨mid, rfl, hlen, htake, hdrop⟩ := hm
  obtain ⟨out', hout', hlen', htake', hdrop'⟩ := hf mid hlen
  exact ⟨out', hout', hlen'.trans hlen, htake'.trans htake, hdrop'.trans hdrop⟩

end Writes

end Checked
