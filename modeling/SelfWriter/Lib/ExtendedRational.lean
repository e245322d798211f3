import Mathlib.Data.Rat.Floor
import Mathlib.Algebra.Order.Field.Basic
import Mathlib.Tactic.FieldSimp
import Mathlib.Tactic.Linarith

/-!
# Rationals with infinities

Floating point arithmetic without its rounding: exact rationals, the two
infinities and the value that is not a number.  Zero has no sign here, and
counts as positive where a sign is asked for.

The cast to an unsigned 32-bit word drops the fraction and saturates.
-/

namespace SelfWriter.Lib

inductive ExtendedRational where
  | finite (value : ℚ)
  | infinite (negative : Bool)
  | nan
  deriving DecidableEq, Repr

namespace ExtendedRational

def negative (value : ℚ) : Bool :=
  value < 0

def mul : ExtendedRational → ExtendedRational → ExtendedRational
  | finite left, finite right => finite (left * right)
  | infinite sign, finite value =>
      if value = 0 then nan else infinite (sign ^^ negative value)
  | finite value, infinite sign =>
      if value = 0 then nan else infinite (negative value ^^ sign)
  | infinite left, infinite right => infinite (left ^^ right)
  | nan, _ => nan
  | _, nan => nan

def div : ExtendedRational → ExtendedRational → ExtendedRational
  | finite left, finite right =>
      if right = 0 then
        (if left = 0 then nan else infinite (negative left))
      else
        finite (left / right)
  | infinite sign, finite value => infinite (sign ^^ negative value)
  | finite _, infinite _ => finite 0
  | infinite _, infinite _ => nan
  | nan, _ => nan
  | _, nan => nan

/-- Not a number is cast to zero. -/
def toUInt32 : ExtendedRational → UInt32
  | finite value => UInt32.ofNat (min ⌊value⌋₊ 4294967295)
  | infinite false => 4294967295
  | infinite true => 0
  | nan => 0

instance : Mul ExtendedRational := ⟨mul⟩

instance : Div ExtendedRational := ⟨div⟩

section Operations

variable {left right value : ℚ}

@[simp]
theorem finite_mul_finite : finite left * finite right = finite (left * right) :=
  rfl

theorem finite_div_finite (nonzero : right ≠ 0) :
    finite left / finite right = finite (left / right) :=
  if_neg nonzero

@[simp]
theorem zero_div_zero : finite 0 / finite 0 = nan :=
  rfl

theorem finite_div_zero (nonzero : left ≠ 0) :
    finite left / finite 0 = infinite (negative left) := by
  change div (finite left) (finite 0) = _
  rw [div, if_pos rfl, if_neg nonzero]

theorem pos_div_zero (positive : 0 < left) :
    finite left / finite 0 = infinite false := by
  rw [finite_div_zero positive.ne', negative, decide_eq_false positive.not_gt]

theorem neg_div_zero (isNegative : left < 0) :
    finite left / finite 0 = infinite true := by
  rw [finite_div_zero isNegative.ne, negative, decide_eq_true isNegative]

theorem infinite_mul_pos (sign : Bool) (positive : 0 < value) :
    infinite sign * finite value = infinite sign := by
  change (if value = 0 then nan else infinite (sign ^^ negative value)) = _
  rw [if_neg positive.ne', negative, decide_eq_false positive.not_gt,
    Bool.xor_false]

theorem infinite_div_pos (sign : Bool) (positive : 0 < value) :
    infinite sign / finite value = infinite sign := by
  change infinite (sign ^^ negative value) = _
  rw [negative, decide_eq_false positive.not_gt, Bool.xor_false]

@[simp]
theorem nan_mul (number : ExtendedRational) : nan * number = nan := by
  cases number <;> rfl

@[simp]
theorem nan_div (number : ExtendedRational) : nan / number = nan := by
  cases number <;> rfl

end Operations

/-! ## The cast -/

theorem toNat_toUInt32_finite (value : ℚ) :
    (finite value).toUInt32.toNat = min ⌊value⌋₊ 4294967295 := by
  rw [toUInt32, UInt32.toNat_ofNat']
  exact Nat.mod_eq_of_lt (Nat.lt_of_le_of_lt (Nat.min_le_right _ _) (by decide))

theorem le_toUInt32_finite_iff {bound : ℕ} (positive : 0 < bound)
    (word : bound ≤ 4294967295) {value : ℚ} :
    bound ≤ (finite value).toUInt32.toNat ↔ (bound : ℚ) ≤ value := by
  rw [toNat_toUInt32_finite, le_min_iff, Nat.le_floor_iff' positive.ne']
  exact and_iff_left word

/-- A quotient, scaled by a positive ratio and cast, reaches a positive bound:
either the exact ratio does, or the divisor is zero and the dividend positive. -/
theorem le_toUInt32_quotient_iff {bound : ℕ} (positive : 0 < bound)
    (word : bound ≤ 4294967295) {dividend divisor factor unit : ℚ}
    (nonneg : 0 ≤ divisor) (factorPos : 0 < factor) (unitPos : 0 < unit) :
    bound ≤ (finite dividend / finite divisor * finite factor /
        finite unit).toUInt32.toNat ↔
      0 < dividend ∧ bound * unit * divisor ≤ dividend * factor := by
  have boundPos : (0 : ℚ) < bound := by exact_mod_cast positive
  rcases nonneg.eq_or_lt with zero | divisorPos
  · subst zero
    rcases lt_trichotomy dividend 0 with isNegative | isZero | isPositive
    · rw [neg_div_zero isNegative, infinite_mul_pos true factorPos,
        infinite_div_pos true unitPos]
      exact iff_of_false (Nat.not_le.mpr positive) (fun both => both.1.not_gt isNegative)
    · subst isZero
      rw [zero_div_zero, nan_mul, nan_div]
      exact iff_of_false (Nat.not_le.mpr positive) (fun both => both.1.ne rfl)
    · rw [pos_div_zero isPositive, infinite_mul_pos false factorPos,
        infinite_div_pos false unitPos, mul_zero]
      exact iff_of_true word ⟨isPositive, (mul_pos isPositive factorPos).le⟩
  · rw [finite_div_finite divisorPos.ne', finite_mul_finite,
      finite_div_finite unitPos.ne', le_toUInt32_finite_iff positive word,
      le_div_iff₀ unitPos, div_mul_eq_mul_div, le_div_iff₀ divisorPos]
    constructor
    · intro reached
      have product : 0 < dividend * factor :=
        lt_of_lt_of_le (mul_pos (mul_pos boundPos unitPos) divisorPos) reached
      exact ⟨(mul_pos_iff_of_pos_right factorPos).mp product, reached⟩
    · exact fun both => both.2

end ExtendedRational

end SelfWriter.Lib
