import Mathlib.Logic.Function.Basic
import Mathlib.Tactic.Common

/-!
# Linked lists of indices

The cells of an array linked to one another by index: `next` is the link of a
cell, a missing link ends the list.
-/

namespace SelfWriter.Lib.IndexList

variable {next next' : Nat → Option Nat} {start : Option Nat}
variable {items : List Nat} {last fresh : Nat}

/-- The links lead from `start` through exactly these cells. -/
def Links (next : Nat → Option Nat) : Option Nat → List Nat → Prop
  | start, [] => start = none
  | start, item :: items => start = some item ∧ Links next (next item) items

/-- The cells on the way, at most `fuel` of them. -/
def follow (next : Nat → Option Nat) : Nat → Option Nat → List Nat
  | 0, _ => []
  | _ + 1, none => []
  | fuel + 1, some item => item :: follow next fuel (next item)

/-- The link reached after a number of steps. -/
def skip (next : Nat → Option Nat) : Nat → Option Nat → Option Nat
  | 0, start => start
  | _ + 1, none => none
  | count + 1, some item => skip next count (next item)

theorem links_singleton (ends : next last = none) :
    Links next (some last) [last] :=
  ⟨rfl, ends⟩

/-- Links of other cells do not matter. -/
theorem Links.congr (links : Links next start items)
    (same : ∀ item ∈ items, next' item = next item) :
    Links next' start items := by
  induction items generalizing start with
  | nil => exact links
  | cons item items inductionHypothesis =>
      obtain ⟨starts, rest⟩ := links
      refine ⟨starts, ?_⟩
      rw [same item List.mem_cons_self]
      exact inductionHypothesis rest
        (fun other member => same other (List.mem_cons_of_mem _ member))

/-- The last cell of a list is linked to a fresh one. -/
theorem Links.append_fresh (links : Links next start (items ++ [last]))
    (nodup : (items ++ [last]).Nodup) (unlinked : next fresh = none)
    (isFresh : fresh ≠ last) :
    Links (Function.update next last (some fresh)) start
      (items ++ [last] ++ [fresh]) := by
  induction items generalizing start with
  | nil =>
      refine ⟨links.1, ?_, ?_⟩
      · exact Function.update_self last (some fresh) next
      · change Function.update next last (some fresh) fresh = none
        rw [Function.update_of_ne isFresh]
        exact unlinked
  | cons item items inductionHypothesis =>
      obtain ⟨starts, rest⟩ := links
      have restNodup := (List.nodup_cons.1 nodup).2
      have different : item ≠ last := by
        intro same
        apply (List.nodup_cons.1 nodup).1
        rw [same]
        exact List.mem_append_right _ List.mem_cons_self
      refine ⟨starts, ?_⟩
      rw [Function.update_of_ne different]
      exact inductionHypothesis rest restNodup

theorem Links.skip (links : Links next start items) (count : Nat) :
    Links next (skip next count start) (items.drop count) := by
  induction count generalizing start items with
  | zero => exact links
  | succ count inductionHypothesis =>
      cases items with
      | nil =>
          have ended : start = none := links
          subst ended
          exact rfl
      | cons item items =>
          obtain ⟨starts, rest⟩ := links
          subst starts
          exact inductionHypothesis rest

/-- With fuel for at least as many cells, the list is followed to its end. -/
theorem Links.follow_eq (links : Links next start items) (fuel : Nat) :
    follow next fuel start = items.take fuel := by
  induction fuel generalizing start items with
  | zero => rfl
  | succ fuel inductionHypothesis =>
      cases items with
      | nil =>
          have ended : start = none := links
          subst ended
          rfl
      | cons item items =>
          obtain ⟨starts, rest⟩ := links
          subst starts
          rw [follow, List.take_succ_cons, inductionHypothesis rest]

end SelfWriter.Lib.IndexList
