import Mathlib.Data.List.TakeWhile
import Mathlib.Tactic

/-!
# Little-endian words, overwritten slices, strings and windows

Byte-level vocabulary shared by every wire format: fixed-width little-endian
words as lists of bytes, the slice assignment `out[a..a+n].copy_from_slice(src)`,
strings that end in a NUL, and the sliding windows in which a pattern is searched for.

## Main results

- `Bytes.leNat_leBytes`, `Bytes.leBytes_leNat` — the two word codecs invert
  each other at a fixed width
- `Bytes.take_splice`, `Bytes.drop_splice` — a slice assignment changes nothing
  outside its range
- `Bytes.findIdx?_windows_eq_some`, `Bytes.findIdx?_windows_eq_none` — the
  first window equal to a pattern is the pattern's first occurrence
- `Bytes.Block.drop_copyAt` — what a slice assignment does behind a position
- `Bytes.untilNul_append_replicate` — padding with NULs does not change a string
-/

namespace Bytes

/-! ### Little-endian words -/

/-- The low `k` bytes of `n`, least significant first. -/
def leBytes : ℕ → ℕ → List UInt8
  | 0, _ => []
  | k + 1, n => UInt8.ofNat n :: leBytes k (n / 256)

/-- The number whose little-endian bytes are given. -/
def leNat : List UInt8 → ℕ
  | [] => 0
  | b :: bs => b.toNat + 256 * leNat bs

@[simp] theorem leBytes_length (k n : ℕ) : (leBytes k n).length = k := by
  induction k generalizing n with
  | zero => rfl
  | succ k ih => simp [leBytes, ih]

theorem leNat_lt (bs : List UInt8) : leNat bs < 256 ^ bs.length := by
  induction bs with
  | nil => simp [leNat]
  | cons b bs ih =>
    have hb : b.toNat < 256 := b.toNat_lt
    simp only [leNat, List.length_cons, Nat.pow_succ]
    omega

/-- Reading back `k` bytes keeps the number modulo `256 ^ k`. -/
theorem leNat_leBytes (k n : ℕ) : leNat (leBytes k n) = n % 256 ^ k := by
  induction k generalizing n with
  | zero => simp [leBytes, leNat, Nat.mod_one]
  | succ k ih =>
    have hbyte : (UInt8.ofNat n).toNat = n % 256 := by simp
    rw [leBytes, leNat, ih, hbyte, Nat.pow_succ, Nat.mul_comm (256 ^ k) 256, Nat.mod_mul]

theorem leNat_leBytes_of_lt {k n : ℕ} (h : n < 256 ^ k) : leNat (leBytes k n) = n := by
  rw [leNat_leBytes, Nat.mod_eq_of_lt h]

theorem uint16_leBytes (v : UInt16) : UInt16.ofNat (leNat (leBytes 2 v.toNat)) = v := by
  rw [leNat_leBytes_of_lt v.toNat_lt, UInt16.ofNat_toNat]

theorem leBytes_inj {k m n : ℕ} (hm : m < 256 ^ k) (hn : n < 256 ^ k)
    (h : leBytes k m = leBytes k n) : m = n := by
  rw [← leNat_leBytes_of_lt hm, h, leNat_leBytes_of_lt hn]

/-- Every byte string is the encoding of its own number. -/
theorem leBytes_leNat (bs : List UInt8) : leBytes bs.length (leNat bs) = bs := by
  induction bs with
  | nil => rfl
  | cons b bs ih =>
    have hb : b.toNat < 256 := b.toNat_lt
    have hdiv : (b.toNat + 256 * leNat bs) / 256 = leNat bs := by omega
    have hbyte : UInt8.ofNat (b.toNat + 256 * leNat bs) = b := by
      apply UInt8.toNat_inj.mp
      rw [UInt8.toNat_ofNat']
      omega
    rw [leNat, List.length_cons, leBytes, hdiv, hbyte, ih]

theorem leBytes_leNat_of_length {k : ℕ} {bs : List UInt8} (h : bs.length = k) :
    leBytes k (leNat bs) = bs := by
  subst h
  exact leBytes_leNat bs

/-! ### Slice assignment -/

variable {α : Type*}

/-- `out` with `src` written over the positions `a .. a + src.length`. -/
def splice (out : List α) (a : ℕ) (src : List α) : List α :=
  out.take a ++ src ++ out.drop (a + src.length)

theorem splice_length {out src : List α} {a : ℕ} (h : a + src.length ≤ out.length) :
    (splice out a src).length = out.length := by
  simp only [splice, List.length_append, List.length_take, List.length_drop]
  omega

theorem take_splice {out src : List α} {a : ℕ} (h : a ≤ out.length) :
    (splice out a src).take (a + src.length) = out.take a ++ src := by
  have hlen : (out.take a ++ src).length = a + src.length := by
    simp [List.length_take, Nat.min_eq_left h]
  rw [splice, ← hlen, List.take_left]

/-- Dropping a prefix that ends before the written range leaves the same
assignment on the rest. -/
theorem drop_splice {out src : List α} {a k : ℕ} (hk : k ≤ a) (ha : a ≤ out.length) :
    (splice out a src).drop k = splice (out.drop k) (a - k) src := by
  have hlen : k ≤ (out.take a).length := by
    rw [List.length_take]
    omega
  rw [splice, List.append_assoc, List.drop_append_of_le_length hlen, List.drop_take, splice,
    List.append_assoc, List.drop_drop]
  congr 3
  omega

theorem drop_eq_getD_cons {l : List α} {i : ℕ} (d : α) (h : i < l.length) :
    l.drop i = l.getD i d :: l.drop (i + 1) := by
  rw [List.drop_eq_getElem_cons h, List.getD_eq_getElem?_getD, List.getElem?_eq_getElem h,
    Option.getD_some]

theorem splice_zero (out src : List α) : splice out 0 src = src ++ out.drop src.length := by
  simp [splice]

/-- A list from which `n` elements can be taken has as many. -/
theorem le_length_of_take {l front : List α} {n : ℕ} (h : l.take n = front)
    (hn : front.length = n) : n ≤ l.length := by
  have hlen := congrArg List.length h
  rw [List.length_take, hn] at hlen
  omega

theorem take_splice_zero {out src : List α} {k : ℕ} (hk : k ≤ src.length) :
    (splice out 0 src).take k = src.take k := by
  rw [splice_zero, List.take_append_of_le_length hk]

/-- A later assignment leaves a prefix alone. -/
theorem take_splice_of_le {out src : List α} {a k : ℕ} (hk : k ≤ a) (ha : a ≤ out.length) :
    (splice out a src).take k = out.take k := by
  have hlen : k ≤ (out.take a).length := by
    rw [List.length_take]
    omega
  rw [splice, List.append_assoc, List.take_append_of_le_length hlen, List.take_take,
    Nat.min_eq_left hk]

/-- An assignment into the first of two parts leaves the second alone. -/
theorem splice_append_left {pre rest src : List α} {a : ℕ} (h : a + src.length ≤ pre.length) :
    splice (pre ++ rest) a src = splice pre a src ++ rest := by
  rw [splice, splice, List.take_append_of_le_length (by omega), List.drop_append_of_le_length h]
  simp only [List.append_assoc]

/-- What stands behind the written range stays. -/
theorem drop_splice_of_ge {out src : List α} {a k : ℕ} (hk : a + src.length ≤ k)
    (ha : a ≤ out.length) : (splice out a src).drop k = out.drop k := by
  have hlen : (out.take a ++ src).length = a + src.length := by
    rw [List.length_append, List.length_take, Nat.min_eq_left ha]
  obtain ⟨m, rfl⟩ := Nat.exists_eq_add_of_le hk
  rw [splice, ← List.drop_drop, ← hlen, List.drop_left, List.drop_drop, hlen]

/-! ### Arrays of a fixed size -/

/-- An array of `n` bytes. -/
abbrev Block (n : ℕ) := { bytes : List UInt8 // bytes.length = n }

namespace Block

variable {n : ℕ}

def zeroed (n : ℕ) : Block n := ⟨List.replicate n 0, List.length_replicate⟩

/-- `out[a..a + src.len()].copy_from_slice(src)`, in range. -/
def copyAt (out : Block n) (a : ℕ) (src : List UInt8) (h : a + src.length ≤ n) : Block n :=
  ⟨splice out.val a src, by rw [splice_length (by rw [out.property]; exact h), out.property]⟩

/-- `out[i] = b`, in range. -/
def set (out : Block n) (i : ℕ) (b : UInt8) (h : i < n) : Block n := out.copyAt i [b] h

theorem val_set (out : Block n) {i : ℕ} {b : UInt8} (h : i < n) :
    (out.set i b h).val = out.val.set i b := by
  have hi : i < out.val.length := by rwa [out.property]
  rw [List.set_eq_take_append_cons_drop, if_pos hi]
  show splice out.val i [b] = _
  rw [splice, List.append_assoc]
  rfl

/-- What is read at a position after one byte was written. -/
theorem getD_set (out : Block n) {i j : ℕ} {b d : UInt8} (h : i < n) :
    (out.set i b h).val.getD j d = if j = i then b else out.val.getD j d := by
  have hi : i < out.val.length := by rwa [out.property]
  rw [val_set, List.getD_eq_getElem?_getD, List.getElem?_set, List.getD_eq_getElem?_getD]
  by_cases hj : j = i
  · rw [if_pos hj.symm, if_pos hi, if_pos hj, Option.getD_some]
  · rw [if_neg (Ne.symm hj), if_neg hj]

theorem getD_zeroed (n j : ℕ) : (zeroed n).val.getD j 0 = 0 := by
  show (List.replicate n (0 : UInt8)).getD j 0 = 0
  rw [List.getD_eq_getElem?_getD, List.getElem?_replicate]
  split <;> rfl

theorem drop_copyAt {out : Block n} {a k : ℕ} {src : List UInt8} {h : a + src.length ≤ n}
    (hk : k ≤ a) : (out.copyAt a src h).val.drop k = splice (out.val.drop k) (a - k) src :=
  drop_splice hk (by rw [out.property]; omega)

theorem take_copyAt {out : Block n} {a k : ℕ} {src : List UInt8} {h : a + src.length ≤ n}
    (hk : k ≤ a) : (out.copyAt a src h).val.take k = out.val.take k :=
  take_splice_of_le hk (by rw [out.property]; omega)

theorem take_set {out : Block n} {i k : ℕ} {b : UInt8} {h : i < n} (hk : k ≤ i) :
    (out.set i b h).val.take k = out.val.take k :=
  take_copyAt hk

theorem drop_set {out : Block n} {i k : ℕ} {b : UInt8} {h : i < n} (hk : k ≤ i) :
    (out.set i b h).val.drop k = splice (out.val.drop k) (i - k) [b] :=
  drop_copyAt hk

/-- `out[k..k + n]` -/
def read (out : Block n) (k m : ℕ) : List UInt8 := (out.val.drop k).take m

theorem read_copyAt_self {out : Block n} {a : ℕ} {src : List UInt8} {h : a + src.length ≤ n} :
    (out.copyAt a src h).read a src.length = src := by
  rw [read, drop_copyAt le_rfl, Nat.sub_self, splice_zero, List.take_left]

/-- What is read at a position in front of a slice assignment. -/
theorem getD_copyAt_of_lt {out : Block n} {a j : ℕ} {src : List UInt8} {d : UInt8}
    {h : a + src.length ≤ n} (hj : j < a) :
    (out.copyAt a src h).val.getD j d = out.val.getD j d := by
  have htake : (out.copyAt a src h).val.take a = out.val.take a := take_copyAt le_rfl
  rw [List.getD_eq_getElem?_getD, List.getD_eq_getElem?_getD, ← List.getElem?_take_of_lt hj, htake,
    List.getElem?_take_of_lt hj]

/-- A later assignment leaves what is read in front of it. -/
theorem read_copyAt_of_le {out : Block n} {a k m : ℕ} {src : List UInt8} {h : a + src.length ≤ n}
    (hk : k + m ≤ a) : (out.copyAt a src h).read k m = out.read k m := by
  rw [read, read, List.take_drop, List.take_drop, take_copyAt hk]

theorem read_set_of_le {out : Block n} {i k m : ℕ} {b : UInt8} {h : i < n} (hk : k + m ≤ i) :
    (out.set i b h).read k m = out.read k m :=
  read_copyAt_of_le hk

/-- An assignment leaves what is read behind it. -/
theorem read_copyAt_of_ge {out : Block n} {a k m : ℕ} {src : List UInt8} {h : a + src.length ≤ n}
    (hk : a + src.length ≤ k) : (out.copyAt a src h).read k m = out.read k m := by
  have hdrop : (out.copyAt a src h).val.drop k = out.val.drop k :=
    drop_splice_of_ge hk (by rw [out.property]; omega)
  rw [read, read, hdrop]

theorem read_set_of_gt {out : Block n} {i k m : ℕ} {b : UInt8} {h : i < n} (hk : i < k) :
    (out.set i b h).read k m = out.read k m :=
  read_copyAt_of_ge hk

/-- An assignment at the start of a cleared range. -/
theorem read_copyAt_cleared {out : Block n} {a m : ℕ} {src : List UInt8} {h : a + src.length ≤ n}
    (hm : src.length ≤ m) (hclear : out.read a m = List.replicate m 0) :
    (out.copyAt a src h).read a m = src ++ List.replicate (m - src.length) 0 := by
  have hrest : (out.val.drop (a + src.length)).take (m - src.length) =
      List.replicate (m - src.length) 0 := by
    rw [← List.drop_drop, ← List.drop_take, ← read, hclear, List.drop_replicate]
  rw [read, drop_copyAt le_rfl, Nat.sub_self, splice_zero, List.take_append,
    List.take_of_length_le hm, List.drop_drop, hrest]

theorem read_zeroed {k m : ℕ} (h : k + m ≤ n) : (zeroed n).read k m = List.replicate m 0 := by
  show ((List.replicate n (0 : UInt8)).drop k).take m = _
  rw [List.drop_replicate, List.take_replicate, Nat.min_eq_left (by omega)]

/-- The bytes that fit, at the start of a cleared array. -/
def ofList (n : ℕ) (src : List UInt8) : Block n :=
  (zeroed n).copyAt 0 (src.take n) (by rw [Nat.zero_add]; exact List.length_take_le n src)

theorem val_ofList {src : List UInt8} (h : src.length ≤ n) :
    (ofList n src).val = src ++ List.replicate (n - src.length) 0 := by
  show splice (List.replicate n 0) 0 (src.take n) = _
  rw [List.take_of_length_le h, splice_zero, List.drop_replicate]

theorem take_ofList {src : List UInt8} {k : ℕ} (h : src.length ≤ n) (hk : k ≤ src.length) :
    (ofList n src).val.take k = src.take k := by
  rw [val_ofList h, List.take_append_of_le_length hk]

end Block

/-! ### Strings that end in a NUL -/

/-- The bytes before the first NUL. -/
def untilNul (bytes : List UInt8) : List UInt8 := bytes.takeWhile (· ≠ 0)

theorem untilNul_length_le (bytes : List UInt8) : (untilNul bytes).length ≤ bytes.length :=
  (List.takeWhile_prefix _).length_le

theorem zero_notMem_untilNul (bytes : List UInt8) : 0 ∉ untilNul bytes := by
  intro h
  simpa using List.mem_takeWhile_imp h

theorem untilNul_of_notMem {bytes : List UInt8} (h : 0 ∉ bytes) : untilNul bytes = bytes := by
  refine List.takeWhile_eq_self_iff.mpr fun b hb => ?_
  have hne : b ≠ 0 := fun hzero => h (hzero ▸ hb)
  exact decide_eq_true hne

/-- Padding with NULs does not change a string. -/
theorem untilNul_append_replicate (bytes : List UInt8) (k : ℕ) :
    untilNul (bytes ++ List.replicate k 0) = untilNul bytes := by
  induction bytes with
  | nil => cases k <;> rfl
  | cons b bytes ih =>
    rw [untilNul, List.cons_append, List.takeWhile_cons, ← untilNul, ih, untilNul, untilNul,
      List.takeWhile_cons]

/-- The position of the first NUL is the length of the string. -/
theorem firstNull_eq (bytes : List UInt8) :
    (bytes.findIdx? (· == 0)).getD bytes.length = (untilNul bytes).length := by
  have hnot : (fun b : UInt8 => !(decide (b ≠ 0))) = (· == 0) := by
    funext b
    rw [decide_not, Bool.not_not]
    rfl
  rw [← List.findIdx_eq_getD_findIdx?, untilNul, List.takeWhile_eq_take_findIdx_not, hnot,
    List.length_take_of_le List.findIdx_le_length]

theorem take_firstNull (bytes : List UInt8) :
    bytes.take (untilNul bytes).length = untilNul bytes :=
  (List.prefix_iff_eq_take.mp (List.takeWhile_prefix _)).symm

/-! ### Windows -/

/-- The runs of `n` consecutive elements of `l`, in order. -/
def windows (n : ℕ) (l : List α) : List (List α) :=
  (List.range (l.length + 1 - n)).map fun i => (l.drop i).take n

theorem windows_length (n : ℕ) (l : List α) : (windows n l).length = l.length + 1 - n := by
  simp [windows]

theorem getElem_windows {n i : ℕ} {l : List α} (h : i < (windows n l).length) :
    (windows n l)[i] = (l.drop i).take n := by
  simp [windows]

/-- A pattern found at `i` occurs in `l` from position `i` on. -/
theorem lt_windows_length_of_take_drop {l pat : List α} {i : ℕ} (hpat : pat ≠ [])
    (h : (l.drop i).take pat.length = pat) : i < (windows pat.length l).length := by
  have hlen := congrArg List.length h
  have hpos : 0 < pat.length := List.length_pos_iff.mpr hpat
  rw [List.length_take, List.length_drop] at hlen
  rw [windows_length]
  omega

section

variable [DecidableEq α]

theorem findIdx?_windows_eq_some {l pat : List α} {p : ℕ}
    (h : (windows pat.length l).findIdx? (· == pat) = some p) :
    (l.drop p).take pat.length = pat ∧ ∀ i < p, (l.drop i).take pat.length ≠ pat := by
  obtain ⟨hp, hat, hbefore⟩ := List.findIdx?_eq_some_iff_getElem.mp h
  rw [getElem_windows, beq_iff_eq] at hat
  refine ⟨hat, fun i hi heq => hbefore i hi ?_⟩
  rw [getElem_windows, beq_iff_eq]
  exact heq

theorem findIdx?_windows_eq_none {l pat : List α} (hpat : pat ≠ [])
    (h : (windows pat.length l).findIdx? (· == pat) = none) (i : ℕ) :
    (l.drop i).take pat.length ≠ pat := by
  intro heq
  have hi := lt_windows_length_of_take_drop hpat heq
  have hmem : (windows pat.length l)[i] ∈ windows pat.length l := List.getElem_mem hi
  have hne := List.findIdx?_eq_none_iff.mp h _ hmem
  rw [getElem_windows, heq, beq_self_eq_true] at hne
  exact Bool.noConfusion hne

end

end Bytes
