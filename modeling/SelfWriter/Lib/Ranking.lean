import SelfWriter.Lib.Machine

/-!
# Ranking functions

A rank that the counted labels lower and no other label raises bounds how often
counted labels can occur in a run that avoids its goal.
-/

namespace SelfWriter.Lib.Machine

universe u v

variable {σ : Type u} {Label : Type v}

/-- `rank` on the runs of a machine that meet `allowed`, as long as no label of
`goal` occurs. -/
structure Ranking (machine : Machine σ Label) (allowed : σ → Label → Prop)
    (I : σ → Prop) (goal counted : Label → Bool) (rank : σ → Nat) : Prop where
  kept : ∀ state label after, I state → allowed state label →
    machine.step state label = some after → goal label = false → I after
  lowers : ∀ state label after, I state → allowed state label →
    machine.step state label = some after → goal label = false →
    counted label = true → rank after < rank state
  raises : ∀ state label after, I state → allowed state label →
    machine.step state label = some after → goal label = false →
    counted label = false → rank after ≤ rank state

section Run

variable {machine : Machine σ Label} {allowed : σ → Label → Prop}
  [∀ state label, Decidable (allowed state label)]
variable {I : σ → Prop} {goal counted : Label → Bool} {rank : σ → Nat}

/-- One step of a restricted run. -/
theorem runWithin_cons {state after : σ} {label : Label} {labels : List Label}
    (runs : machine.runWithin allowed state (label :: labels) = some after) :
    allowed state label ∧ ∃ next, machine.step state label = some next ∧
      machine.runWithin allowed next labels = some after := by
  rw [Machine.runWithin] at runs
  split at runs
  · rename_i meets
    obtain ⟨next, steps, rest⟩ := Option.bind_eq_some_iff.1 runs
    exact ⟨meets, next, steps, rest⟩
  · cases runs

/-- Without a label of the goal, what the ranking rests on is kept. -/
theorem Ranking.holds (ranking : machine.Ranking allowed I goal counted rank)
    (labels : List Label) :
    ∀ {state after : σ}, I state →
      machine.runWithin allowed state labels = some after →
      (∀ label ∈ labels, goal label = false) → I after := by
  induction labels with
  | nil =>
      intro state after holds runs _
      cases runs
      exact holds
  | cons label labels inductionHypothesis =>
      intro state after holds runs avoids
      obtain ⟨meets, next, steps, rest⟩ := runWithin_cons runs
      have avoided := avoids label List.mem_cons_self
      exact inductionHypothesis (ranking.kept state label next holds meets steps avoided)
        rest (fun other member => avoids other (List.mem_cons_of_mem _ member))

/-- Without a label of the goal, a run has at most as many counted labels as the
rank it begins with. -/
theorem Ranking.countP_le (ranking : machine.Ranking allowed I goal counted rank)
    (labels : List Label) :
    ∀ {state after : σ}, I state →
      machine.runWithin allowed state labels = some after →
      (∀ label ∈ labels, goal label = false) →
      labels.countP counted ≤ rank state := by
  induction labels with
  | nil =>
      intro state after _ _ _
      exact Nat.zero_le _
  | cons label labels inductionHypothesis =>
      intro state after holds runs avoids
      obtain ⟨meets, next, steps, rest⟩ := runWithin_cons runs
      have avoided := avoids label List.mem_cons_self
      have bound := inductionHypothesis
        (ranking.kept state label next holds meets steps avoided) rest
        (fun other member => avoids other (List.mem_cons_of_mem _ member))
      cases isCounted : counted label with
      | true =>
          have lower := ranking.lowers state label next holds meets steps avoided
            isCounted
          rw [List.countP_cons_of_pos isCounted]
          omega
      | false =>
          have notHigher := ranking.raises state label next holds meets steps avoided
            isCounted
          rw [List.countP_cons_of_neg (by rw [isCounted]; exact Bool.false_ne_true)]
          omega

end Run

end SelfWriter.Lib.Machine
