import Mathlib.Tactic.Common

/-!
# Consecutive ranges of keys

Ranges laid one after the other without gaps, and the search for the range that
holds a key.  A search may begin at any range, as long as it goes towards the
key: it finds what a search through all of them finds.
-/

namespace SelfWriter.Lib

/-! ## Searching an array -/

/-- The greatest index from `start` down that passes the test. -/
def searchDown (test : Nat → Bool) : Nat → Option Nat
  | 0 => if test 0 then some 0 else none
  | start + 1 =>
      if test (start + 1) then some (start + 1) else searchDown test start

/-- The least of the `count` indices from `start` up that passes the test. -/
def searchUp (test : Nat → Bool) : Nat → Nat → Option Nat
  | 0, _ => none
  | count + 1, start =>
      if test start then some start else searchUp test count (start + 1)

section Search

variable {test : Nat → Bool} {found : Nat}

theorem searchDown_eq_some {start : Nat}
    (finds : searchDown test start = some found) :
    found ≤ start ∧ test found = true := by
  induction start with
  | zero =>
      rw [searchDown] at finds
      split at finds
      · cases finds
        exact ⟨Nat.le_refl 0, by assumption⟩
      · cases finds
  | succ start inductionHypothesis =>
      rw [searchDown] at finds
      split at finds
      · cases finds
        exact ⟨Nat.le_refl _, by assumption⟩
      · have below := inductionHypothesis finds
        exact ⟨Nat.le_succ_of_le below.1, below.2⟩

theorem searchDown_eq_none {start : Nat}
    (misses : searchDown test start = none) :
    ∀ index ≤ start, test index = false := by
  induction start with
  | zero =>
      intro index bound
      have isZero : index = 0 := Nat.le_zero.1 bound
      subst isZero
      by_cases passes : test 0 = true
      · simp [searchDown, passes] at misses
      · simpa using passes
  | succ start inductionHypothesis =>
      intro index bound
      rw [searchDown] at misses
      split at misses
      · cases misses
      · rename_i fails
        rcases Nat.lt_or_eq_of_le bound with below | same
        · exact inductionHypothesis misses index (Nat.le_of_lt_succ below)
        · subst same
          simpa using fails

theorem searchUp_eq_some {count start : Nat}
    (finds : searchUp test count start = some found) :
    start ≤ found ∧ found < start + count ∧ test found = true := by
  induction count generalizing start with
  | zero => cases finds
  | succ count inductionHypothesis =>
      rw [searchUp] at finds
      split at finds
      · cases finds
        exact ⟨Nat.le_refl _, by omega, by assumption⟩
      · obtain ⟨reached, inside, passes⟩ := inductionHypothesis finds
        exact ⟨by omega, by omega, passes⟩

theorem searchUp_eq_none {count start : Nat}
    (misses : searchUp test count start = none) :
    ∀ index, start ≤ index → index < start + count → test index = false := by
  induction count generalizing start with
  | zero =>
      intro index reached inside
      omega
  | succ count inductionHypothesis =>
      intro index reached inside
      rw [searchUp] at misses
      split at misses
      · cases misses
      · rename_i fails
        rcases Nat.lt_or_eq_of_le reached with above | same
        · exact inductionHypothesis misses index above (by omega)
        · subst same
          simpa using fails

/-- A search only asks the entries on its way. -/
theorem searchDown_congr {test test' : Nat → Bool} {start : Nat}
    (same : ∀ index ≤ start, test index = test' index) :
    searchDown test start = searchDown test' start := by
  induction start with
  | zero => rw [searchDown, searchDown, same 0 (Nat.le_refl 0)]
  | succ start inductionHypothesis =>
      rw [searchDown, searchDown, same (start + 1) (Nat.le_refl _),
        inductionHypothesis fun index bound => same index (Nat.le_succ_of_le bound)]

theorem searchUp_congr {test test' : Nat → Bool} {count start : Nat}
    (same : ∀ index, index < start + count → test index = test' index) :
    searchUp test count start = searchUp test' count start := by
  induction count generalizing start with
  | zero => rfl
  | succ count inductionHypothesis =>
      rw [searchUp, searchUp, same start (by omega), inductionHypothesis]
      intro index bound
      exact same index (by omega)

end Search

/-! ## Ranges -/

/-- `count` ranges, each with at least one key. -/
structure ConsecutiveRanges where
  count : Nat
  first : Nat → Nat
  last : Nat → Nat
  nonempty : ∀ index < count, first index ≤ last index
  adjacent : ∀ index, index + 1 < count → first (index + 1) = last index + 1

namespace ConsecutiveRanges

variable {ranges : ConsecutiveRanges} {index other key : Nat}

def Owns (ranges : ConsecutiveRanges) (index key : Nat) : Prop :=
  index < ranges.count ∧ ranges.first index ≤ key ∧ key ≤ ranges.last index

instance (ranges : ConsecutiveRanges) (index key : Nat) :
    Decidable (ranges.Owns index key) :=
  inferInstanceAs (Decidable (_ ∧ _))

/-- A later range begins behind the end of an earlier one. -/
theorem last_lt_first (before : index < other) (inside : other < ranges.count) :
    ranges.last index < ranges.first other := by
  induction other with
  | zero => cases before
  | succ other inductionHypothesis =>
      rw [ranges.adjacent other inside]
      rcases Nat.lt_or_eq_of_le (Nat.le_of_lt_succ before) with earlier | same
      · have step := inductionHypothesis earlier (by omega)
        have grows := ranges.nonempty other (by omega)
        omega
      · subst same
        exact Nat.lt_succ_self _

theorem Owns.unique (first : ranges.Owns index key)
    (second : ranges.Owns other key) : index = other := by
  rcases Nat.lt_trichotomy index other with before | same | behind
  · have apart := last_lt_first before second.1
    have := first.2.2
    have := second.2.1
    omega
  · exact same
  · have apart := last_lt_first behind first.1
    have := second.2.2
    have := first.2.1
    omega

/-- The ranges together are one range. -/
theorem exists_owns (reached : ranges.first 0 ≤ key)
    (inside : index < ranges.count) (bound : key ≤ ranges.last index) :
    ∃ owner ≤ index, ranges.Owns owner key := by
  induction index with
  | zero => exact ⟨0, Nat.le_refl 0, inside, reached, bound⟩
  | succ index inductionHypothesis =>
      by_cases earlier : key ≤ ranges.last index
      · obtain ⟨owner, below, owns⟩ := inductionHypothesis (by omega) earlier
        exact ⟨owner, Nat.le_succ_of_le below, owns⟩
      · refine ⟨index + 1, Nat.le_refl _, inside, ?_, bound⟩
        rw [ranges.adjacent index inside]
        omega

theorem exists_owns_iff (positive : 0 < ranges.count) :
    (∃ owner, ranges.Owns owner key) ↔
      ranges.first 0 ≤ key ∧ key ≤ ranges.last (ranges.count - 1) := by
  constructor
  · rintro ⟨owner, inside, reached, bound⟩
    constructor
    · rcases Nat.eq_zero_or_pos owner with zero | later
      · rwa [zero] at reached
      · have grows := ranges.nonempty 0 positive
        have apart := last_lt_first later inside
        omega
    · rcases Nat.lt_or_eq_of_le (Nat.le_sub_one_of_lt inside) with
        before | same
      · have apart := last_lt_first before (Nat.sub_lt positive Nat.one_pos)
        have grows :=
          ranges.nonempty (ranges.count - 1) (Nat.sub_lt positive Nat.one_pos)
        omega
      · rwa [← same]
  · rintro ⟨reached, bound⟩
    obtain ⟨owner, _, owns⟩ :=
      exists_owns reached (Nat.sub_lt positive Nat.one_pos) bound
    exact ⟨owner, owns⟩

/-- The test of a search: only the bounds of the range are looked at. -/
def holds (ranges : ConsecutiveRanges) (key index : Nat) : Bool :=
  decide (ranges.first index ≤ key ∧ key ≤ ranges.last index)

theorem owns_iff : ranges.Owns index key ↔
    index < ranges.count ∧ ranges.holds key index = true := by
  simp [Owns, holds]

/-- A search towards the key from some range. -/
def searchFrom (ranges : ConsecutiveRanges) (key start : Nat) : Option Nat :=
  if key < ranges.first start then
    searchDown (ranges.holds key) start
  else
    searchUp (ranges.holds key) (ranges.count - start) start

/-- Wherever the search begins, it finds the range that holds the key. -/
theorem searchFrom_eq_some_iff {start : Nat} (inside : start < ranges.count) :
    ranges.searchFrom key start = some index ↔ ranges.Owns index key := by
  unfold searchFrom
  by_cases behind : key < ranges.first start
  · rw [if_pos behind]
    constructor
    · intro finds
      obtain ⟨below, passes⟩ := searchDown_eq_some finds
      exact owns_iff.2 ⟨by omega, passes⟩
    · intro owns
      have below : index ≤ start := by
        by_contra above
        have apart := last_lt_first (Nat.lt_of_not_le above) owns.1
        have grows := ranges.nonempty start inside
        have reached := owns.2.1
        omega
      cases finds : searchDown (ranges.holds key) start with
      | none =>
          have fails := searchDown_eq_none finds index below
          rw [(owns_iff.1 owns).2] at fails
          cases fails
      | some found =>
          obtain ⟨foundBelow, passes⟩ := searchDown_eq_some finds
          have found_owns : ranges.Owns found key :=
            owns_iff.2 ⟨by omega, passes⟩
          rw [found_owns.unique owns]
  · rw [if_neg behind]
    constructor
    · intro finds
      obtain ⟨_, below, passes⟩ := searchUp_eq_some finds
      exact owns_iff.2 ⟨by omega, passes⟩
    · intro owns
      have above : start ≤ index := by
        by_contra below
        have apart := last_lt_first (Nat.lt_of_not_le below) inside
        have bound := owns.2.2
        omega
      cases finds : searchUp (ranges.holds key) (ranges.count - start) start with
      | none =>
          have indexInside := owns.1
          have fails := searchUp_eq_none finds index above (by omega)
          rw [(owns_iff.1 owns).2] at fails
          cases fails
      | some found =>
          obtain ⟨_, foundBelow, passes⟩ := searchUp_eq_some finds
          have found_owns : ranges.Owns found key :=
            owns_iff.2 ⟨by omega, passes⟩
          rw [found_owns.unique owns]

theorem searchFrom_eq {start start' : Nat} (inside : start < ranges.count)
    (inside' : start' < ranges.count) :
    ranges.searchFrom key start = ranges.searchFrom key start' := by
  apply Option.ext
  intro index
  rw [searchFrom_eq_some_iff inside, searchFrom_eq_some_iff inside']

end ConsecutiveRanges

end SelfWriter.Lib
