import Mathlib.Algebra.Group.Nat.Defs
import Mathlib.Tactic.Common

/-!
# Unsigned 32-bit words as natural numbers

Minimum and maximum of words, and transfer lemmas from `UInt32` to `Nat`, where
the decision procedures work.
-/

namespace SelfWriter.Lib.Word32

/-- The smaller of two words. -/
def cmpMin (left right : UInt32) : UInt32 :=
  if left ≤ right then left else right

/-- The larger of two words. -/
def cmpMax (left right : UInt32) : UInt32 :=
  if left ≤ right then right else left

theorem toNat_cmpMin (left right : UInt32) :
    (cmpMin left right).toNat = min left.toNat right.toNat := by
  unfold cmpMin
  by_cases order : left ≤ right
  · rw [if_pos order, Nat.min_eq_left (UInt32.le_iff_toNat_le.1 order)]
  · have natural : right.toNat ≤ left.toNat := by
      have := mt UInt32.le_iff_toNat_le.2 order
      omega
    rw [if_neg order, Nat.min_eq_right natural]

theorem toNat_cmpMax (left right : UInt32) :
    (cmpMax left right).toNat = max left.toNat right.toNat := by
  unfold cmpMax
  by_cases order : left ≤ right
  · rw [if_pos order, Nat.max_eq_right (UInt32.le_iff_toNat_le.1 order)]
  · have natural : right.toNat ≤ left.toNat := by
      have := mt UInt32.le_iff_toNat_le.2 order
      omega
    rw [if_neg order, Nat.max_eq_left natural]

theorem toNat_add_of_lt {left right : UInt32}
    (small : left.toNat + right.toNat < 2 ^ 32) :
    (left + right).toNat = left.toNat + right.toNat := by
  rw [UInt32.toNat_add]
  exact Nat.mod_eq_of_lt small

theorem eq_iff_toNat {left right : UInt32} :
    left = right ↔ left.toNat = right.toNat :=
  UInt32.toNat_inj.symm

theorem eq_zero_iff_toNat {word : UInt32} : word = 0 ↔ word.toNat = 0 :=
  eq_iff_toNat

/-! ## Halves of a word -/

theorem toNat_shiftLeft16 (word : UInt32) :
    (word <<< 16).toNat = (word.toNat % 2 ^ 16) <<< 16 := by
  rw [UInt32.toNat_shiftLeft, Nat.shiftLeft_eq, Nat.shiftLeft_eq]
  change word.toNat * 2 ^ 16 % 2 ^ 32 = _
  omega

theorem toNat_or_shiftLeft16 {low : UInt32} (small : low.toNat < 2 ^ 16)
    (high : UInt32) :
    (low ||| (high <<< 16)).toNat =
      high.toNat % 2 ^ 16 * 2 ^ 16 + low.toNat := by
  rw [UInt32.toNat_or, toNat_shiftLeft16, Nat.or_comm,
    ← Nat.shiftLeft_add_eq_or_of_lt small, Nat.shiftLeft_eq]

/-- The uppermost bit. -/
def topBit : UInt32 := (1 : UInt32) <<< (31 : UInt32)

theorem and_not_topBit {low : UInt32} (small : low.toNat < 2 ^ 31) :
    low &&& ~~~topBit = low := by
  have isMask : (~~~topBit).toNat = 2 ^ 31 - 1 := by decide
  rw [eq_iff_toNat, UInt32.toNat_and, isMask, Nat.and_two_pow_sub_one_eq_mod]
  exact Nat.mod_eq_of_lt small

theorem or_and_topBit (low : UInt32) : (low ||| topBit) &&& topBit = topBit := by
  rw [eq_iff_toNat, UInt32.toNat_and, UInt32.toNat_or]
  apply Nat.eq_of_testBit_eq
  intro bit
  rw [Nat.testBit_and, Nat.testBit_or]
  cases Nat.testBit topBit.toNat bit with
  | false => rw [Bool.and_false]
  | true => rw [Bool.or_true, Bool.and_true]

end SelfWriter.Lib.Word32
