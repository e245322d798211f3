import Mathlib
import SelfWriter.Lib.Binary32

/-!
# Numbers as limits

Taken as a limit, a value that is not a number limits nothing.  Limits are
ordered where the numbers, compared with the program's `<`, are not.
-/

namespace SelfWriter.Lib.Binary32

/-- What limits from below: everything is above a value that is not a number. -/
def lower (x : Binary32) : WithBot (WithTop Int) :=
  if x.isNaN then ⊥ else ((x.key : WithTop Int) : WithBot (WithTop Int))

/-- What limits from above. -/
def upper (x : Binary32) : WithBot (WithTop Int) :=
  if x.isNaN then ⊤ else ((x.key : WithTop Int) : WithBot (WithTop Int))

theorem lt_eq_false_iff {x y : Binary32} (number : x.isNaN = false)
    (number' : y.isNaN = false) : x.lt y = false ↔ y.key ≤ x.key := by
  simp only [lt, number, number', Bool.not_false, Bool.true_and,
    decide_eq_false_iff_not, not_lt]

theorem lt_of_isNaN_left {x y : Binary32} (unlimited : x.isNaN = true) :
    x.lt y = false := by
  simp only [lt, unlimited, Bool.not_true, Bool.false_and]

theorem lt_of_isNaN_right {x y : Binary32} (unlimited : y.isNaN = true) :
    x.lt y = false := by
  simp only [lt, unlimited, Bool.not_true, Bool.and_false, Bool.false_and]

/-- A lower limit is above an upper one only where `<` says so. -/
theorem lower_le_upper_iff {x y : Binary32} :
    x.lower ≤ y.upper ↔ y.lt x = false := by
  cases first : x.isNaN with
  | true => simp [lower, first, lt_of_isNaN_right first]
  | false =>
      cases second : y.isNaN with
      | true => simp [upper, second, lt_of_isNaN_left second]
      | false =>
          rw [lt_eq_false_iff second first]
          simp [lower, upper, first, second]

/-- An upper limit that is not a number is above all numbers, which `<` does
not say. -/
theorem upper_le_upper_iff {x y : Binary32} :
    x.upper ≤ y.upper ↔
      y.lt x = false ∧ (x.isNaN = true → y.isNaN = true) := by
  cases first : x.isNaN with
  | true =>
      cases second : y.isNaN with
      | true => simp [upper, first, second, lt_of_isNaN_left second]
      | false => simp [upper, first, second]
  | false =>
      cases second : y.isNaN with
      | true => simp [upper, second, lt_of_isNaN_left second]
      | false =>
          rw [lt_eq_false_iff second first]
          simp [upper, first, second]

end SelfWriter.Lib.Binary32
