import SelfWriter.Lib.LeastDivisor
import SelfWriter.Lib.Word32
import SelfWriter.Sensors.FreqmeterController

/-!
# Decomposition of a target

`transform_target32` (`sensors/freqmeter/hw_in_counters/in_counters_l433.rs`)
splits a target into the values of a 16-bit prescaler and a 16-bit reload
register; the counter needs one edge more than it is told, which
`as_target32` adds again.
-/

namespace SelfWriter.Sensors

open SelfWriter.Lib.LeastDivisor SelfWriter.Lib.NextFree SelfWriter.Lib.Word32

private theorem toNat_pred {word : UInt32} (positive : 1 ≤ word.toNat) :
    (word - 1).toNat = word.toNat - 1 := by
  apply UInt32.toNat_sub_of_le
  rw [UInt32.le_iff_toNat_le]
  exact positive

/-- One round of the search. -/
theorem toNat_reload (target : UInt32) {prescaler : Nat}
    (inside : prescaler < 65535) :
    (target / UInt32.ofNat prescaler).toNat = target.toNat / prescaler := by
  rw [UInt32.toNat_div, UInt32.toNat_ofNat', Nat.mod_eq_of_lt (by omega)]

/-- The search for a prescaler ends at the least one that fits. -/
theorem transformTarget32_eq {target : UInt32} (several : 2 ≤ target.toNat)
    {prescaler : Nat}
    (isLeast : IsLeastDivisor (target.toNat - 1) 65535 65535 prescaler) :
    transformTarget32 target =
      some (UInt32.ofNat prescaler - 1, (target - 1) / UInt32.ofNat prescaler) := by
  have notSmall : ¬ target < 2 := by
    rw [UInt32.lt_iff_toNat_lt]
    exact Nat.not_lt.mpr several
  have less := toNat_pred (Nat.le_of_succ_le several)
  have fits (other : Nat) (inside : other < 65535) :
      (target - 1) / UInt32.ofNat other < 65535 ↔
        (target.toNat - 1) / other < 65535 := by
    rw [UInt32.lt_iff_toNat_lt, toNat_reload _ inside, less]
    rfl
  rw [transformTarget32, if_neg notSmall]
  apply findSome?_range'_of_isNext isLeast
  · intro other _ inside large
    exact if_neg (mt (fits other inside).mp large)
  · exact if_pos ((fits prescaler isLeast.inside).mpr isLeast.isFree)

theorem toNat_asTarget32 {psc reload : UInt32}
    (small : (psc.toNat + 1) * reload.toNat + 1 < 2 ^ 32) (positive : 1 ≤ reload.toNat) :
    (asTarget32 psc reload).toNat = (psc.toNat + 1) * reload.toNat + 1 := by
  have product : psc.toNat + 1 ≤ (psc.toNat + 1) * reload.toNat :=
    Nat.le_mul_of_pos_right _ positive
  have one : (1 : UInt32).toNat = 1 := rfl
  have next : (psc + 1).toNat = psc.toNat + 1 :=
    toNat_add_of_lt (by rw [one]; omega)
  have multiplied : ((psc + 1) * reload).toNat = (psc.toNat + 1) * reload.toNat := by
    rw [UInt32.toNat_mul, next]
    exact Nat.mod_eq_of_lt (by omega)
  rw [asTarget32, toNat_add_of_lt (by rw [multiplied, one]; exact small),
    multiplied, one]

/-- Every target from two up to the greatest one is split without a panic: the
values fit their registers, the reload value is not zero, the prescaler is the
least that fits, and the counter's own target misses the given one by less than
the prescaler's ratio, and not at all while the registers need no prescaler. -/
theorem target_decomposed {target : UInt32} (several : 2 ≤ target.toNat)
    (fits : target.toNat ≤ 4294770690) :
    ∃ psc reload, transformTarget32 target = some (psc, reload) ∧
      psc.toNat ≤ 65533 ∧ 1 ≤ reload.toNat ∧ reload.toNat ≤ 65534 ∧
      (target.toNat - 1) / (psc.toNat + 1) < 65535 ∧
      (∀ other, (target.toNat - 1) / (other + 1) < 65535 → psc.toNat ≤ other) ∧
      (asTarget32 psc reload).toNat = (psc.toNat + 1) * reload.toNat + 1 ∧
      target.toNat < (asTarget32 psc reload).toNat + (psc.toNat + 1) ∧
      (asTarget32 psc reload).toNat ≤ target.toNat ∧
      (target.toNat ≤ 65535 → asTarget32 psc reload = target) := by
  have found : ∃ prescaler,
      IsLeastDivisor (target.toNat - 1) 65535 65535 prescaler :=
    exists_isLeastDivisor (by decide) (by omega)
  obtain ⟨prescaler, isLeast⟩ := found
  have reached : 1 ≤ prescaler := isLeast.reached
  have inside : prescaler < 65535 := isLeast.inside
  have small : (target.toNat - 1) / prescaler < 65535 := isLeast.isFree
  have positive : 1 ≤ (target.toNat - 1) / prescaler :=
    isLeast.quotient_pos (by omega) (by decide)
  have psc : (UInt32.ofNat prescaler - 1).toNat + 1 = prescaler := by
    have wide : (UInt32.ofNat prescaler).toNat = prescaler := by
      rw [UInt32.toNat_ofNat']
      exact Nat.mod_eq_of_lt (by omega)
    rw [toNat_pred (by rw [wide]; exact reached), wide]
    exact Nat.sub_add_cancel reached
  have less := toNat_pred (Nat.le_of_succ_le several)
  have reload : ((target - 1) / UInt32.ofNat prescaler).toNat =
      (target.toNat - 1) / prescaler := by
    rw [toNat_reload _ inside, less]
  have rounded := Nat.div_add_mod (target.toNat - 1) prescaler
  have remainder : (target.toNat - 1) % prescaler < prescaler :=
    Nat.mod_lt _ reached
  have counted :
      (asTarget32 (UInt32.ofNat prescaler - 1)
        ((target - 1) / UInt32.ofNat prescaler)).toNat =
          prescaler * ((target.toNat - 1) / prescaler) + 1 := by
    rw [toNat_asTarget32, psc, reload]
    · rw [psc, reload]
      omega
    · rw [reload]
      exact positive
  refine ⟨_, _, transformTarget32_eq several isLeast, ?_⟩
  rw [psc, reload, counted]
  refine ⟨by omega, positive, by omega, small, ?_, rfl, by omega, by omega, ?_⟩
  · intro other fitsToo
    have order := isLeast.le (Nat.le_add_left 1 other) fitsToo
    omega
  · intro short
    have one : prescaler = 1 := by
      have order := isLeast.le (Nat.le_refl 1) (by rw [Nat.div_one]; omega)
      omega
    rw [eq_iff_toNat, counted, one, Nat.div_one]
    omega

/-- The greatest target. -/
theorem target_decomposed_max :
    ∃ psc reload, transformTarget32 4294770690 = some (psc, reload) ∧
      psc.toNat ≤ 65533 ∧ 1 ≤ reload.toNat ∧ reload.toNat ≤ 65534 ∧
      (4294770690 - 1) / (psc.toNat + 1) < 65535 ∧
      (∀ other, (4294770690 - 1) / (other + 1) < 65535 → psc.toNat ≤ other) ∧
      (asTarget32 psc reload).toNat = (psc.toNat + 1) * reload.toNat + 1 ∧
      4294770690 < (asTarget32 psc reload).toNat + (psc.toNat + 1) ∧
      (asTarget32 psc reload).toNat ≤ 4294770690 ∧
      (4294770690 ≤ 65535 → asTarget32 psc reload = 4294770690) :=
  @target_decomposed 4294770690 (by decide) (by decide)

/-! ## What the search finds -/

/-- The number that is split: one edge less than the target, and two for the
targets that are too small. -/
def edges (target : UInt32) : Nat :=
  if target.toNat < 2 then 2 else target.toNat - 1

theorem edges_of_several {target : UInt32} (several : 2 ≤ target.toNat) :
    edges target = target.toNat - 1 :=
  if_neg (Nat.not_lt.mpr several)

theorem edges_pos (target : UInt32) : 1 ≤ edges target := by
  unfold edges
  split <;> omega

/-- The targets that are too small are split as three is. -/
theorem transformTarget32_of_small {target : UInt32} (small : target.toNat < 2) :
    transformTarget32 target = transformTarget32 3 := by
  have isSmall : target < 2 := UInt32.lt_iff_toNat_lt.mpr small
  have notSmall : ¬ (3 : UInt32) < 2 := by decide
  rw [transformTarget32, transformTarget32, if_pos isSmall, if_neg notSmall]
  rfl

/-- Both cases of the source, over the number that is split. -/
theorem transformTarget32_cases (target : UInt32) :
    ∃ given : UInt32, 2 ≤ given.toNat ∧ edges target = given.toNat - 1 ∧
      transformTarget32 target = transformTarget32 given := by
  by_cases small : target.toNat < 2
  · exact ⟨3, by decide, if_pos small, transformTarget32_of_small small⟩
  · exact ⟨target, Nat.not_lt.mp small, if_neg small, rfl⟩

private theorem transformTarget32_eq_none {target : UInt32}
    (exceeded : 65535 ≤ edges target / 65535 + 1) :
    transformTarget32 target = none := by
  obtain ⟨given, several, same, split⟩ := transformTarget32_cases target
  have less := toNat_pred (Nat.le_of_succ_le several)
  have exhausted : Exhausted
      (fun prescaler => edges target / prescaler < 65535) 65535 1 := by
    intro other reached inside small
    have enough := (quotient_lt_iff (by decide) reached).mp small
    omega
  have notSmall : ¬ given < 2 := by
    rw [UInt32.lt_iff_toNat_lt]
    exact Nat.not_lt.mpr several
  rw [split, transformTarget32, if_neg notSmall]
  apply findSome?_range'_of_exhausted exhausted
  intro other _ inside large
  apply if_neg
  rw [UInt32.lt_iff_toNat_lt, toNat_reload _ inside, less, ← same]
  exact large

/-- What is found: the values of the two registers. -/
theorem transformTarget32_eq_some {target : UInt32}
    (found : edges target / 65535 + 1 < 65535) :
    ∃ psc reload, transformTarget32 target = some (psc, reload) ∧
      psc.toNat = edges target / 65535 ∧
      reload.toNat = edges target / (edges target / 65535 + 1) := by
  obtain ⟨given, several, same, split⟩ := transformTarget32_cases target
  have less := toNat_pred (Nat.le_of_succ_le several)
  have isLeast : IsLeastDivisor (given.toNat - 1) 65535 65535
      (edges target / 65535 + 1) :=
    (isLeastDivisor_iff (by decide)).mpr ⟨by rw [same], found⟩
  refine ⟨_, _, split.trans (transformTarget32_eq several isLeast), ?_, ?_⟩
  · have wide : (UInt32.ofNat (edges target / 65535 + 1)).toNat =
        edges target / 65535 + 1 := by
      rw [UInt32.toNat_ofNat']
      exact Nat.mod_eq_of_lt (by omega)
    rw [toNat_pred (by rw [wide]; exact Nat.le_add_left 1 _), wide,
      Nat.add_sub_cancel]
  · rw [toNat_reload _ found, less, ← same]

theorem transformTarget32_eq_some_iff {target psc reload : UInt32} :
    transformTarget32 target = some (psc, reload) ↔
      edges target / 65535 + 1 < 65535 ∧
        psc.toNat = edges target / 65535 ∧
          reload.toNat = edges target / (edges target / 65535 + 1) := by
  constructor
  · intro accepted
    by_cases found : edges target / 65535 + 1 < 65535
    · obtain ⟨psc', reload', split, pscFound, reloadFound⟩ :=
        transformTarget32_eq_some found
      rw [accepted] at split
      cases split
      exact ⟨found, pscFound, reloadFound⟩
    · rw [transformTarget32_eq_none (Nat.not_lt.mp found)] at accepted
      cases accepted
  · rintro ⟨found, pscFound, reloadFound⟩
    obtain ⟨psc', reload', split, pscFound', reloadFound'⟩ :=
      transformTarget32_eq_some found
    have samePsc : psc' = psc := eq_iff_toNat.mpr (pscFound'.trans pscFound.symm)
    have sameReload : reload' = reload :=
      eq_iff_toNat.mpr (reloadFound'.trans reloadFound.symm)
    rw [split, samePsc, sameReload]

theorem transformTarget32_isSome_iff (target : UInt32) :
    (transformTarget32 target).isSome = true ↔ target.toNat ≤ 4294770690 := by
  have enough : edges target / 65535 + 1 < 65535 ↔ target.toNat ≤ 4294770690 := by
    unfold edges
    split <;> omega
  rw [← enough]
  constructor
  · intro accepted
    by_contra exceeded
    rw [transformTarget32_eq_none (Nat.not_lt.mp exceeded)] at accepted
    cases accepted
  · intro found
    obtain ⟨psc, reload, split, _⟩ := transformTarget32_eq_some found
    rw [split]
    rfl

end SelfWriter.Sensors
