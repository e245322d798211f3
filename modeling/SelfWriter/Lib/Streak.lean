import Mathlib.Data.List.DropRight

/-!
# The streak at the end of a list

How many of the last elements meet a condition, one after the other, and what a
counter knows of it that stops at a bound.
-/

namespace SelfWriter.Lib.Streak

variable {α : Type} (meets : α → Bool)

def streak (items : List α) : Nat :=
  (items.rtakeWhile meets).length

@[simp]
theorem streak_nil : streak meets [] = 0 := by
  simp [streak]

theorem streak_concat_of_meets {items : List α} {item : α}
    (isMet : meets item = true) :
    streak meets (items ++ [item]) = streak meets items + 1 := by
  rw [streak, streak, List.rtakeWhile_concat_pos _ _ _ isMet, List.length_append,
    List.length_singleton]

theorem streak_concat_of_not {items : List α} {item : α}
    (missed : meets item = false) : streak meets (items ++ [item]) = 0 := by
  rw [streak, List.rtakeWhile_concat_neg, List.length_nil]
  simp [missed]

theorem streak_of_never {items : List α} (never : ∀ item, meets item = false) :
    streak meets items = 0 := by
  rw [streak, List.length_eq_zero_iff, List.rtakeWhile_eq_nil_iff]
  intro nonempty
  simp [never]

/-- An end of the list whose elements all meet the condition is within the
streak. -/
theorem length_le_streak {earlier last : List α}
    (allMeet : ∀ item ∈ last, meets item = true) :
    last.length ≤ streak meets (earlier ++ last) := by
  induction last using List.reverseRecOn with
  | nil => exact Nat.zero_le _
  | append_singleton last item inductionHypothesis =>
      have isMet : meets item = true := allMeet item (by simp)
      have shorter := inductionHypothesis
        (fun other member => allMeet other (List.mem_append_left _ member))
      rw [← List.append_assoc, streak_concat_of_meets meets isMet,
        List.length_append, List.length_singleton]
      exact Nat.succ_le_succ shorter

/-- The streak is at least so long exactly when the list ends that way. -/
theorem le_streak_iff {bound : Nat} {items : List α} :
    bound ≤ streak meets items ↔
      ∃ earlier last, items = earlier ++ last ∧ last.length = bound ∧
        ∀ item ∈ last, meets item = true := by
  constructor
  · intro long
    have parts : items.rdropWhile meets ++ items.rtakeWhile meets = items :=
      List.rdropWhile_append_rtakeWhile
    refine ⟨items.rdropWhile meets ++
        (items.rtakeWhile meets).take (streak meets items - bound),
      (items.rtakeWhile meets).drop (streak meets items - bound), ?_, ?_, ?_⟩
    · rw [List.append_assoc, List.take_append_drop, parts]
    · rw [List.length_drop]
      change streak meets items - (streak meets items - bound) = bound
      omega
    · intro item member
      exact List.mem_rtakeWhile_imp (List.mem_of_mem_drop member)
  · rintro ⟨earlier, last, rfl, rfl, allMeet⟩
    exact length_le_streak meets allMeet

end SelfWriter.Lib.Streak
