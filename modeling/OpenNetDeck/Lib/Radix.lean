import Mathlib.Tactic

/-!
# Numbers in a radix

Reading an unsigned number of a bounded type from its digits, the first digit being the
most significant one. A sign in front is allowed, an overflow on the way is an error.

## Main definitions

- `Radix.fromStrRadix` — read a number
- `Radix.Denotes` — the number that a string of digits stands for
- `Radix.hexByte` — two digits of a byte

## Main results

- `Radix.fromStrRadix_eq_some` — what is read are the numerals below the bound
- `Radix.denotes_hexByte` — two digits of a byte stand for it
-/

namespace Radix

/-- The digit that a character stands for, if it is one of the radix. -/
def toDigit (radix : ℕ) (c : Char) : Option ℕ :=
  let digit :=
    if '0' ≤ c ∧ c ≤ '9' then some (c.toNat - 48)
    else if 'a' ≤ c ∧ c ≤ 'z' then some (c.toNat - 97 + 10)
    else if 'A' ≤ c ∧ c ≤ 'Z' then some (c.toNat - 65 + 10)
    else none
  digit.filter (· < radix)

/-- A value of the type, if it fits. -/
def checked (bound n : ℕ) : Option ℕ := if n < bound then some n else none

/-- The loop over the digits, with a product and a sum that may overflow. -/
def accumulate (radix bound : ℕ) : ℕ → List Char → Option ℕ
  | result, [] => some result
  | result, c :: cs => do
    let product ← checked bound (result * radix)
    let digit ← toDigit radix c
    let sum ← checked bound (product + digit)
    accumulate radix bound sum cs

/-- Read a number below a bound. A sign alone is not one. -/
def fromStrRadix (radix bound : ℕ) : List Char → Option ℕ
  | [] => none
  | ['+'] => none
  | ['-'] => none
  | '+' :: digits => accumulate radix bound 0 digits
  | digits => accumulate radix bound 0 digits

/-- The value of some digits behind others. -/
def value (radix : ℕ) (result : ℕ) (digits : List ℕ) : ℕ :=
  digits.foldl (fun result digit => result * radix + digit) result

/-- A string of digits and its value. -/
def Denotes (radix : ℕ) (cs : List Char) (n : ℕ) : Prop :=
  cs ≠ [] ∧ ∃ digits : List ℕ, cs.map (toDigit radix) = digits.map some ∧ value radix 0 digits = n

/-- The numeral with or without a sign. -/
def Numeral (radix : ℕ) (s : List Char) (n : ℕ) : Prop :=
  ∃ cs, (s = cs ∨ s = '+' :: cs) ∧ Denotes radix cs n

variable {radix bound : ℕ}

theorem checked_eq_some {n m : ℕ} : checked bound n = some m ↔ n < bound ∧ n = m := by
  rw [checked, Option.ite_none_right_eq_some, Option.some.injEq]

theorem le_value (hradix : 0 < radix) (result : ℕ) (digits : List ℕ) :
    result ≤ value radix result digits := by
  induction digits generalizing result with
  | nil => exact le_rfl
  | cons digit digits ih =>
    calc result ≤ result * radix := Nat.le_mul_of_pos_right result hradix
      _ ≤ result * radix + digit := Nat.le_add_right _ _
      _ ≤ value radix (result * radix + digit) digits := ih _

/-- No step overflows if the value does not. -/
theorem accumulate_eq_some (hradix : 0 < radix) {result : ℕ} (hresult : result < bound)
    {cs : List Char} {n : ℕ} :
    accumulate radix bound result cs = some n ↔
      ∃ digits : List ℕ, cs.map (toDigit radix) = digits.map some ∧
        value radix result digits = n ∧ n < bound := by
  -- what has been read is below the bound, and stays so as long as the whole value is
  induction cs generalizing result with
  | nil =>
    simp only [accumulate, Option.some.injEq, List.map_nil, List.nil_eq, List.map_eq_nil_iff,
      exists_eq_left]
    constructor
    · rintro rfl
      exact ⟨rfl, hresult⟩
    · rintro ⟨hvalue, -⟩
      exact hvalue
  | cons c cs ih =>
    simp only [accumulate, Option.bind_eq_bind, Option.bind_eq_some_iff, checked_eq_some]
    constructor
    · rintro ⟨_, ⟨-, rfl⟩, digit, hdigit, _, ⟨hsum, rfl⟩, hrest⟩
      obtain ⟨digits, hdigits, hvalue, hn⟩ := (ih hsum).mp hrest
      exact ⟨digit :: digits, by rw [List.map_cons, List.map_cons, hdigit, hdigits], hvalue, hn⟩
    · rintro ⟨digits, hdigits, hvalue, hn⟩
      cases digits with
      | nil => cases hdigits
      | cons digit digits =>
        obtain ⟨hdigit, hdigits⟩ := List.cons.inj hdigits
        have hsum : result * radix + digit < bound :=
          (le_value hradix _ digits).trans_lt (hvalue.trans_lt hn)
        exact ⟨_, ⟨(Nat.le_add_right _ _).trans_lt hsum, rfl⟩, digit, hdigit, _, ⟨hsum, rfl⟩,
          (ih hsum).mpr ⟨digits, hdigits, hvalue, hn⟩⟩

/-- A numeral has nothing but digits behind its sign. -/
theorem Denotes.isDigit {cs : List Char} {n : ℕ} (h : Denotes radix cs n) {c : Char}
    (hc : c ∈ cs) : toDigit radix c ≠ none := by
  obtain ⟨-, digits, hdigits, -⟩ := h
  intro hnone
  have hmem : none ∈ cs.map (toDigit radix) := List.mem_map.mpr ⟨c, hc, hnone⟩
  rw [hdigits] at hmem
  obtain ⟨digit, -, hdigit⟩ := List.mem_map.mp hmem
  cases hdigit

theorem not_denotes_sign {c : Char} (hc : toDigit radix c = none) {cs : List Char} {n : ℕ} :
    ¬ Denotes radix (c :: cs) n := fun h => h.isDigit List.mem_cons_self hc

theorem Numeral.isDigit {s : List Char} {n : ℕ} (h : Numeral radix s n) {c : Char}
    (hc : c ∈ s) (hsign : c ≠ '+') : toDigit radix c ≠ none := by
  obtain ⟨cs, rfl | rfl, hcs⟩ := h
  · exact hcs.isDigit hc
  · exact hcs.isDigit ((List.mem_cons.mp hc).resolve_left hsign)

theorem accumulate_iff_denotes (hradix : 0 < radix) (hbound : 0 < bound) {cs : List Char} {n : ℕ}
    (hcs : cs ≠ []) :
    accumulate radix bound 0 cs = some n ↔ Denotes radix cs n ∧ n < bound := by
  rw [accumulate_eq_some hradix hbound, Denotes]
  constructor
  · rintro ⟨digits, hdigits, hvalue, hn⟩
    exact ⟨⟨hcs, digits, hdigits, hvalue⟩, hn⟩
  · rintro ⟨⟨-, digits, hdigits, hvalue⟩, hn⟩
    exact ⟨digits, hdigits, hvalue, hn⟩

/-- Nothing, or a sign alone, stands for no number. -/
theorem not_numeral_of_short {s : List Char} {n : ℕ}
    (hs : s = [] ∨ ∃ c, toDigit radix c = none ∧ s = [c]) : ¬ Numeral radix s n := by
  rintro ⟨cs, rfl | rfl, hcs⟩
  · obtain rfl | ⟨c, hc, rfl⟩ := hs
    · exact hcs.1 rfl
    · exact not_denotes_sign hc hcs
  · obtain h | ⟨c, -, h⟩ := hs
    · cases h
    · exact hcs.1 (List.cons.inj h).2

/-- A numeral is its digits, or the digits behind the sign. -/
theorem numeral_plus_iff {digits : List Char} {n : ℕ} :
    Numeral radix ('+' :: digits) n ↔ Denotes radix digits n := by
  constructor
  · rintro ⟨cs, rfl | h, hcs⟩
    · exact absurd hcs (not_denotes_sign rfl)
    · rwa [(List.cons.inj h).2]
  · intro hdigits
    exact ⟨digits, .inr rfl, hdigits⟩

theorem numeral_iff_of_ne_plus {s : List Char} (hs : ∀ cs, s ≠ '+' :: cs) {n : ℕ} :
    Numeral radix s n ↔ Denotes radix s n := by
  constructor
  · rintro ⟨cs, rfl | rfl, hcs⟩
    · exact hcs
    · exact absurd rfl (hs cs)
  · intro h
    exact ⟨s, .inl rfl, h⟩

/-- **What is read are the numerals below the bound.** -/
theorem fromStrRadix_eq_some (hradix : 0 < radix) (hbound : 0 < bound) {s : List Char} {n : ℕ} :
    fromStrRadix radix bound s = some n ↔ Numeral radix s n ∧ n < bound := by
  have hshort : ∀ {s : List Char}, (s = [] ∨ ∃ c, toDigit radix c = none ∧ s = [c]) →
      (none = some n ↔ Numeral radix s n ∧ n < bound) := fun hs =>
    iff_of_false (by simp) fun h => not_numeral_of_short hs h.1
  rw [fromStrRadix.eq_def]
  split
  · exact hshort (.inl rfl)
  · exact hshort (.inr ⟨'+', rfl, rfl⟩)
  · exact hshort (.inr ⟨'-', rfl, rfl⟩)
  · next digits hdigits =>
    rw [numeral_plus_iff, accumulate_iff_denotes hradix hbound hdigits]
  · next s hempty hplus hminus hsigned =>
    rw [numeral_iff_of_ne_plus fun cs h => hsigned cs h,
      accumulate_iff_denotes hradix hbound hempty]

/-- A digit of a number below sixteen, in lower case. -/
def hexDigit (n : ℕ) : Char := if n < 10 then .ofNat (48 + n) else .ofNat (87 + n)

/-- Two digits of a byte. -/
def hexByte (n : ℕ) : List Char := [hexDigit (n / 16), hexDigit (n % 16)]

theorem toDigit_hexDigit {n : ℕ} (hn : n < 16) : toDigit 16 (hexDigit n) = some n := by
  have h : ∀ n : Fin 16, toDigit 16 (hexDigit n) = some n.val := by decide
  exact h ⟨n, hn⟩

/-- The digits of a byte stand for it. -/
theorem denotes_hexByte {n : ℕ} (hn : n < 256) : Denotes 16 (hexByte n) n := by
  have hhigh : toDigit 16 (hexDigit (n / 16)) = some (n / 16) := toDigit_hexDigit (by omega)
  have hlow : toDigit 16 (hexDigit (n % 16)) = some (n % 16) := toDigit_hexDigit (by omega)
  refine ⟨by simp [hexByte], [n / 16, n % 16], ?_, ?_⟩
  · simp only [hexByte, List.map_cons, List.map_nil, hhigh, hlow]
  · simp only [value, List.foldl_cons, List.foldl_nil]
    omega

end Radix
