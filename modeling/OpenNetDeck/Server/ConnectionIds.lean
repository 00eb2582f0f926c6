import Mathlib.Tactic

/-!
# Connection ids

`DockState::next_connection_id`, called by any number of clients at once. An id is drawn
with an atomic `fetch_add` on a byte that wraps, and a call that draws 0 draws once more.

## Main definitions

- `IdCounter.draw` — one `fetch_add` of a caller
- `IdCounter.run` — an interleaving of the calls

## Main results

- `connection_ids_in_range_iff` — the ids stay below 255 for 254 draws, and no longer
-/

namespace OpenNetDeck

/-- The counter of a dock, the callers that drew 0 and draw once more, and the ids that
calls returned. -/
structure IdCounter (Caller : Type) where
  connCounter : UInt8
  again : Caller → Bool
  returned : List UInt8

namespace IdCounter

variable {Caller : Type}

def new : IdCounter Caller where
  connCounter := 1
  again := fun _ => false
  returned := []

variable [DecidableEq Caller]

/-- The next `fetch_add` of a caller, the first of its call or the second. -/
def draw (self : IdCounter Caller) (caller : Caller) : IdCounter Caller :=
  let id := self.connCounter
  let connCounter := id + 1
  if self.again caller then
    -- what the second draw finds is not looked at
    { connCounter
      again := Function.update self.again caller false
      returned := self.returned ++ [id] }
  else if id = 0 then
    { self with connCounter, again := Function.update self.again caller true }
  else { self with connCounter, returned := self.returned ++ [id] }

/-- The counter after the draws of an interleaving, each by the caller in the list. -/
def run (callers : List Caller) : IdCounter Caller := callers.foldl draw new

theorem run_concat (callers : List Caller) (caller : Caller) :
    run (callers ++ [caller]) = (run callers).draw caller := by
  rw [run, List.foldl_concat, run]

/-- A draw keeps what was returned before. -/
theorem returned_prefix_draw (self : IdCounter Caller) (caller : Caller) :
    self.returned <+: (self.draw caller).returned := by
  rw [draw]
  split_ifs
  · exact List.prefix_append _ _
  · exact List.prefix_rfl
  · exact List.prefix_append _ _

/-- And so do the draws that follow a prefix of an interleaving. -/
theorem returned_prefix_run (pre post : List Caller) :
    (run pre).returned <+: (run (pre ++ post)).returned := by
  induction post using List.reverseRecOn with
  | nil => rw [List.append_nil]
  | append_singleton post caller ih =>
    rw [← List.append_assoc, run_concat]
    exact ih.trans (returned_prefix_draw _ caller)

/-- A draw that finds an id other than 0, with no call that draws again. -/
theorem draw_of_ne_zero {self : IdCounter Caller} {caller : Caller} (hzero : self.connCounter ≠ 0)
    (hagain : self.again caller = false) :
    self.draw caller =
      { self with
        connCounter := self.connCounter + 1
        returned := self.returned ++ [self.connCounter] } := by
  rw [draw, hagain]
  exact if_neg hzero

/-- Up to the 255th draw each call draws once, and they return 1, 2, 3 and so on. -/
theorem run_of_le {callers : List Caller} (h : callers.length ≤ 255) :
    run callers =
      { connCounter := UInt8.ofNat (callers.length + 1)
        again := fun _ => false
        returned := (List.range callers.length).map fun i => UInt8.ofNat (i + 1) } := by
  induction callers using List.reverseRecOn with
  | nil => rfl
  | append_singleton callers caller ih =>
    rw [List.length_append, List.length_singleton] at h
    have hbound : callers.length + 1 < 2 ^ 8 := by omega
    have hzero : UInt8.ofNat (callers.length + 1) ≠ 0 := by
      rw [← UInt8.toNat_inj.ne, UInt8.toNat_ofNat_of_lt' hbound]
      exact Nat.succ_ne_zero _
    rw [run_concat, ih (by omega), draw_of_ne_zero hzero rfl, List.length_append,
      List.length_singleton, List.range_succ, List.map_append, List.map_singleton,
      UInt8.ofNat_add (callers.length + 1) 1]
    rfl

end IdCounter

open IdCounter

/-- **Range of the connection ids**: in every interleaving all ids that were returned lie
between 1 and 254 if and only if there were at most 254 draws. -/
theorem connection_ids_in_range_iff {Caller : Type} [DecidableEq Caller] (callers : List Caller) :
    (∀ id ∈ (run callers).returned, 1 ≤ id ∧ id ≤ 254) ↔ callers.length ≤ 254 := by
  constructor
  · intro hrange
    by_contra hlong
    have hsize : (callers.take 255).length = 255 := List.length_take_of_le (by omega)
    have hlast : (255 : UInt8) ∈ (run (callers.take 255)).returned := by
      rw [run_of_le hsize.le, hsize]
      exact List.mem_map.mpr ⟨254, List.mem_range.mpr (by decide), rfl⟩
    have hmem := (returned_prefix_run (callers.take 255) (callers.drop 255)).subset hlast
    rw [List.take_append_drop] at hmem
    exact absurd (hrange 255 hmem).2 (by decide)
  · intro hshort id hid
    rw [run_of_le (by omega)] at hid
    obtain ⟨i, hi, rfl⟩ := List.mem_map.mp hid
    have hi := List.mem_range.mp hi
    have hbound : i + 1 < 2 ^ 8 := by omega
    rw [UInt8.le_iff_toNat_le, UInt8.le_iff_toNat_le, UInt8.toNat_ofNat_of_lt' hbound]
    exact ⟨Nat.succ_pos i, show i + 1 ≤ 254 by omega⟩

/-- One client after the other: the 255th gets 255. -/
theorem connection_id_255 :
    ¬ ∀ id ∈ (run (List.range 255)).returned, 1 ≤ id ∧ id ≤ 254 := by
  intro hrange
  have hlast : (255 : UInt8) ∈ (run (List.range 255)).returned := by
    rw [run_of_le (List.length_range).le, List.length_range]
    exact List.mem_map.mpr ⟨254, List.mem_range.mpr (by decide), rfl⟩
  exact absurd (hrange 255 hlast).2 (by decide)

end OpenNetDeck
