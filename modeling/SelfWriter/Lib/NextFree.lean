import Mathlib.Tactic.Common

/-!
# The next free slot

Slots below a bound, some of them free.  The next free slot from a start is the
least free one at or above it.
-/

namespace SelfWriter.Lib.NextFree

variable {free : Nat → Prop} {bound start later slot : Nat}

/-- The least free slot at or above `start`. -/
structure IsNext (free : Nat → Prop) (bound start slot : Nat) : Prop where
  reached : start ≤ slot
  inside : slot < bound
  isFree : free slot
  least : ∀ other, start ≤ other → other < slot → ¬ free other

/-- No slot at or above `start` is free. -/
def Exhausted (free : Nat → Prop) (bound start : Nat) : Prop :=
  ∀ other, start ≤ other → other < bound → ¬ free other

theorem IsNext.unique {other : Nat} (first : IsNext free bound start slot)
    (second : IsNext free bound start other) : slot = other := by
  rcases Nat.lt_trichotomy slot other with before | same | behind
  · exact absurd first.isFree (second.least slot first.reached before)
  · exact same
  · exact absurd second.isFree (first.least other second.reached behind)

theorem IsNext.advance (next : IsNext free bound start slot)
    (forward : start ≤ later) (within : later ≤ slot) :
    IsNext free bound later slot where
  reached := within
  inside := next.inside
  isFree := next.isFree
  least := fun other reached => next.least other (Nat.le_trans forward reached)

/-- A search that starts later, but not behind the slot it is to find, finds the
same. -/
theorem IsNext.advance_iff {other : Nat} (next : IsNext free bound start slot)
    (forward : start ≤ later) (within : later ≤ slot) :
    IsNext free bound start other ↔ IsNext free bound later other := by
  constructor
  · intro same
    rw [same.unique next]
    exact next.advance forward within
  · intro same
    rw [same.unique (next.advance forward within)]
    exact next

theorem Exhausted.advance (exhausted : Exhausted free bound start)
    (forward : start ≤ later) : Exhausted free bound later :=
  fun other reached => exhausted other (Nat.le_trans forward reached)

theorem IsNext.not_exhausted (next : IsNext free bound start slot) :
    ¬ Exhausted free bound start :=
  fun exhausted => exhausted slot next.reached next.inside next.isFree

/-- The first free slot is behind a taken one exactly when no free slot is before
that one. -/
theorem IsNext.lt_iff {taken : Nat} (next : IsNext free bound 0 slot)
    (isTaken : ¬ free taken) :
    taken < slot ↔ ∀ other, other < taken → ¬ free other := by
  constructor
  · intro before other earlier
    exact next.least other (Nat.zero_le _) (Nat.lt_trans earlier before)
  · intro noneBefore
    rcases Nat.lt_trichotomy taken slot with before | same | behind
    · exact before
    · exact absurd next.isFree (same ▸ isTaken)
    · exact absurd next.isFree (noneBefore slot behind)

/-- Only the slots from the start on matter. -/
theorem IsNext.congr {free' : Nat → Prop}
    (same : ∀ other, start ≤ other → (free other ↔ free' other))
    (next : IsNext free bound start slot) : IsNext free' bound start slot where
  reached := next.reached
  inside := next.inside
  isFree := (same slot next.reached).1 next.isFree
  least := fun other reached before taken =>
    next.least other reached before ((same other reached).2 taken)

theorem Exhausted.congr {free' : Nat → Prop}
    (same : ∀ other, start ≤ other → (free other ↔ free' other))
    (exhausted : Exhausted free bound start) : Exhausted free' bound start :=
  fun other reached inside taken =>
    exhausted other reached inside ((same other reached).2 taken)

/-- A search through the slots finds the next free one. -/
theorem find?_range'_isNext {search : Nat → Bool}
    (decides : ∀ other, search other = true ↔ free other)
    (found : (List.range' start (bound - start)).find? search = some slot) :
    IsNext free bound start slot := by
  obtain ⟨hit, member, before⟩ := List.find?_range'_eq_some.1 found
  have range := List.mem_range'_1.1 member
  refine ⟨range.1, by omega, (decides slot).1 hit, ?_⟩
  intro other reached earlier taken
  have missed := before other reached earlier
  rw [(decides other).2 taken] at missed
  cases missed

theorem find?_range'_exhausted {search : Nat → Bool}
    (decides : ∀ other, search other = true ↔ free other)
    (missing : (List.range' start (bound - start)).find? search = none) :
    Exhausted free bound start := by
  intro other reached inside taken
  have missed := List.find?_range'_eq_none.1 missing other reached (by omega)
  rw [(decides other).2 taken] at missed
  cases missed

/-- A search that answers at the free slots only answers at the next one. -/
theorem findSome?_range'_of_isNext {β : Type} {search : Nat → Option β}
    (next : IsNext free bound start slot)
    (misses : ∀ other, start ≤ other → other < bound → ¬ free other →
      search other = none) {answer : β}
    (hits : search slot = some answer) :
    (List.range' start (bound - start)).findSome? search = some answer := by
  have reached := next.reached
  have inside := next.inside
  rw [List.findSome?_eq_some_iff]
  refine ⟨List.range' start (slot - start), slot,
    List.range' (slot + 1) (bound - (slot + 1)), ?_, hits, ?_⟩
  · have here : start + (slot - start) = slot := by omega
    have count : bound - start = (slot - start) + (bound - (slot + 1) + 1) := by
      omega
    rw [← List.range'_succ, count, ← List.range'_append_1, here]
  · intro other member
    obtain ⟨after, before⟩ := List.mem_range'_1.1 member
    exact misses other after (by omega) (next.least other after (by omega))

theorem findSome?_range'_of_exhausted {β : Type} {search : Nat → Option β}
    (exhausted : Exhausted free bound start)
    (misses : ∀ other, start ≤ other → other < bound → ¬ free other →
      search other = none) :
    (List.range' start (bound - start)).findSome? search = none := by
  rw [List.findSome?_eq_none_iff]
  intro other member
  have range := List.mem_range'_1.1 member
  have inside : other < bound := by omega
  exact misses other range.1 inside (exhausted other range.1 inside)

/-- There is a next free slot, or there is none left. -/
theorem isNext_or_exhausted (free : Nat → Prop) [DecidablePred free]
    (bound start : Nat) :
    (∃ slot, IsNext free bound start slot) ∨ Exhausted free bound start := by
  have decides : ∀ other, decide (free other) = true ↔ free other :=
    fun _ => decide_eq_true_iff
  cases outcome : (List.range' start (bound - start)).find?
      (fun other => decide (free other)) with
  | some slot => exact .inl ⟨slot, find?_range'_isNext decides outcome⟩
  | none => exact .inr (find?_range'_exhausted decides outcome)

end SelfWriter.Lib.NextFree
