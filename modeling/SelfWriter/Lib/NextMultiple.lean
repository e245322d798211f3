import Mathlib.Data.Nat.ModEq
import Mathlib.Tactic.Common

/-!
# Distance to the next multiple of a period

A periodic event falls on the instants `0, period, 2 * period, …`.  This file
studies `untilMultiple period now`, the time left until the next such instant,
which is zero exactly on the instants themselves.
-/

namespace SelfWriter.Lib

/-- Time left from `now` to the next multiple of `period`. -/
def untilMultiple (period now : Nat) : Nat :=
  if now % period = 0 then 0 else period - now % period

theorem untilMultiple_lt {period : Nat} (positive : 1 ≤ period) (now : Nat) :
    untilMultiple period now < period := by
  unfold untilMultiple
  split <;> omega

theorem untilMultiple_eq_zero_iff {period : Nat} (positive : 1 ≤ period)
    (now : Nat) :
    untilMultiple period now = 0 ↔ now % period = 0 := by
  have small : now % period < period := Nat.mod_lt now positive
  unfold untilMultiple
  split <;> omega

/-- The distance is the unique `ahead < period` reaching a multiple. -/
theorem untilMultiple_eq_iff {period : Nat} (positive : 1 ≤ period)
    (now ahead : Nat) (short : ahead < period) :
    untilMultiple period now = ahead ↔ (now + ahead) % period = 0 := by
  have small : now % period < period := Nat.mod_lt now positive
  have split : (now + ahead) % period = (now % period + ahead) % period := by
    rw [Nat.mod_add_mod]
  rw [split]
  by_cases below : now % period + ahead < period
  · rw [Nat.mod_eq_of_lt below]
    unfold untilMultiple
    split <;> omega
  · have reduced : (now % period + ahead) % period = now % period + ahead - period := by
      rw [Nat.mod_eq_sub_mod (by omega), Nat.mod_eq_of_lt (by omega)]
    rw [reduced]
    unfold untilMultiple
    split <;> omega

theorem add_untilMultiple_mod {period : Nat} (positive : 1 ≤ period)
    (now : Nat) :
    (now + untilMultiple period now) % period = 0 :=
  (untilMultiple_eq_iff positive now _ (untilMultiple_lt positive now)).1 rfl

/-- Waiting no longer than the distance shortens it by the time waited. -/
theorem untilMultiple_add {period : Nat} (positive : 1 ≤ period)
    {now waited : Nat} (within : waited ≤ untilMultiple period now) :
    untilMultiple period (now + waited) = untilMultiple period now - waited := by
  have bound := untilMultiple_lt positive now
  apply (untilMultiple_eq_iff positive _ _ (by omega)).2
  have reach : now + waited + (untilMultiple period now - waited) =
      now + untilMultiple period now := by omega
  rw [reach]
  exact add_untilMultiple_mod positive now

/-- One step after a multiple the next one is a whole period, less that step,
away. -/
theorem untilMultiple_succ_of_zero {period : Nat} (positive : 1 ≤ period)
    {now : Nat} (onMultiple : untilMultiple period now = 0) :
    untilMultiple period (now + 1) = period - 1 := by
  apply (untilMultiple_eq_iff positive _ _ (by omega)).2
  have reach : now + 1 + (period - 1) = now + period := by omega
  rw [reach, Nat.add_mod_right]
  exact (untilMultiple_eq_zero_iff positive now).1 onMultiple

end SelfWriter.Lib
