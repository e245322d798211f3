import SelfWriter.Lib.NextFree

/-!
# The least divisor with a small quotient

A value is divided by the least divisor that keeps the quotient below a bound.
By minimality the value cannot be much smaller than the divisor allows.
-/

namespace SelfWriter.Lib.LeastDivisor

open NextFree

variable {value bound limit divisor : Nat}

/-- The least divisor, from one on and below `limit`, that keeps the quotient
below `bound`. -/
def IsLeastDivisor (value bound limit divisor : Nat) : Prop :=
  IsNext (fun divisor => value / divisor < bound) limit 1 divisor

theorem IsLeastDivisor.le {other : Nat}
    (isLeast : IsLeastDivisor value bound limit divisor) (positive : 1 ≤ other)
    (small : value / other < bound) : divisor ≤ other := by
  apply Nat.le_of_not_lt
  intro before
  exact isLeast.least other positive before small

/-- The divisor before the least one is too small. -/
theorem IsLeastDivisor.le_value
    (isLeast : IsLeastDivisor value bound limit divisor)
    (several : 1 < divisor) : bound * (divisor - 1) ≤ value := by
  have before : 1 ≤ divisor - 1 := by omega
  have large : ¬ value / (divisor - 1) < bound :=
    isLeast.least (divisor - 1) before (by omega)
  have quotient : bound ≤ value / (divisor - 1) := Nat.le_of_not_lt large
  exact (Nat.le_div_iff_mul_le before).mp quotient

/-- The quotient of a positive value is positive. -/
theorem IsLeastDivisor.quotient_pos
    (isLeast : IsLeastDivisor value bound limit divisor)
    (positive : 1 ≤ value) (wide : 2 ≤ bound) : 1 ≤ value / divisor := by
  have reached : 1 ≤ divisor := isLeast.reached
  apply (Nat.le_div_iff_mul_le reached).mpr
  rcases Nat.eq_or_lt_of_le reached with one | several
  · omega
  · have large := isLeast.le_value several
    have doubled : 2 * (divisor - 1) ≤ bound * (divisor - 1) :=
      Nat.mul_le_mul_right _ wide
    omega

/-- Some divisor below the limit is large enough. -/
theorem exists_isLeastDivisor (inside : 1 ≤ limit)
    (small : value < bound * limit) :
    ∃ divisor, IsLeastDivisor value bound (limit + 1) divisor := by
  rcases isNext_or_exhausted (fun divisor => value / divisor < bound)
      (limit + 1) 1 with found | exhausted
  · exact found
  · have enough : value / limit < bound := (Nat.div_lt_iff_lt_mul inside).mpr small
    exact absurd enough (exhausted limit inside (Nat.lt_succ_self limit))

/-! ## Closed form -/

theorem quotient_lt_iff (positive : 0 < bound) {other : Nat} (reached : 1 ≤ other) :
    value / other < bound ↔ value / bound + 1 ≤ other := by
  rw [Nat.div_lt_iff_lt_mul reached, Nat.succ_le_iff,
    Nat.div_lt_iff_lt_mul positive, Nat.mul_comm]

theorem isLeastDivisor_iff (positive : 0 < bound) :
    IsLeastDivisor value bound limit divisor ↔
      divisor = value / bound + 1 ∧ divisor < limit := by
  constructor
  · intro isLeast
    have enough := (quotient_lt_iff positive isLeast.reached).mp isLeast.isFree
    have first : 1 ≤ value / bound + 1 := Nat.le_add_left 1 _
    have order := isLeast.le first ((quotient_lt_iff positive first).mpr (Nat.le_refl _))
    exact ⟨Nat.le_antisymm order enough, isLeast.inside⟩
  · rintro ⟨rfl, inside⟩
    have first : 1 ≤ value / bound + 1 := Nat.le_add_left 1 _
    refine ⟨first, inside, (quotient_lt_iff positive first).mpr (Nat.le_refl _), ?_⟩
    intro other reached before small
    have enough := (quotient_lt_iff positive reached).mp small
    omega

/-! ## Dividing the rounded value again

What the division kept is `value - value % divisor`.  Its own least divisor may
be smaller by one, as the value was rounded below a multiple of the bound. -/

theorem divisor_of_rounded_iff (positive : 0 < bound)
    (isLeast : divisor = value / bound + 1) :
    (value - value % divisor) / bound + 1 = divisor ↔
      value % divisor ≤ value % bound := by
  have parts := Nat.div_add_mod value bound
  have order : (value - value % divisor) / bound ≤ value / bound :=
    Nat.div_le_div_right (Nat.sub_le _ _)
  have kept : value / bound ≤ (value - value % divisor) / bound ↔
      value / bound * bound ≤ value - value % divisor :=
    Nat.le_div_iff_mul_le positive
  rw [Nat.mul_comm] at kept
  have remainder : value % divisor ≤ value := Nat.mod_le _ _
  omega

/-- Where the divisor is not kept, the one before it divides the rounded value,
with the greatest quotient that is allowed. -/
theorem divisor_of_rounded (positive : 0 < bound) (narrow : divisor ≤ bound)
    (isLeast : divisor = value / bound + 1)
    (lost : value % bound < value % divisor) :
    (value - value % divisor) / bound + 1 = divisor - 1 ∧
      (value - value % divisor) / (divisor - 1) = bound - 1 := by
  have parts := Nat.div_add_mod value bound
  obtain ⟨before, quotient⟩ : ∃ before, value / bound = before := ⟨_, rfl⟩
  rw [quotient] at isLeast parts
  obtain ⟨last, top⟩ : ∃ last, bound = last + 1 := ⟨bound - 1, by omega⟩
  have remainder : value % divisor < divisor :=
    Nat.mod_lt _ (by rw [isLeast]; exact Nat.succ_pos _)
  have part : value % divisor ≤ value := Nat.mod_le _ _
  have below : value - value % divisor < bound * before := by omega
  have above : last * before ≤ value - value % divisor := by
    have product : bound * before = last * before + before := by
      rw [top, Nat.add_mul, Nat.one_mul]
    omega
  have several : 1 ≤ before := by omega
  have previous : bound * (before - 1) ≤ value - value % divisor := by
    have product : bound * (before - 1) + bound = bound * before := by
      rw [← Nat.mul_succ, Nat.succ_eq_add_one, Nat.sub_add_cancel several]
    omega
  constructor
  · have known : (value - value % divisor) / bound = before - 1 := by
      apply Nat.div_eq_of_lt_le
      · rw [Nat.mul_comm]
        exact previous
      · rw [Nat.sub_add_cancel several, Nat.mul_comm]
        exact below
    omega
  · have known : (value - value % divisor) / before = last := by
      apply Nat.div_eq_of_lt_le
      · exact above
      · rw [← top]
        exact below
    have pred : divisor - 1 = before := by omega
    rw [pred, known]
    omega

end SelfWriter.Lib.LeastDivisor
