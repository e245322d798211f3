import Mathlib.Tactic.Common

/-!
# Machines with labelled steps

A machine takes a step for a label, or none where the label is not enabled.  A
run may be restricted to steps that meet a condition; an invariant only has to
be kept by such steps.
-/

namespace SelfWriter.Lib

universe u v

structure Machine (σ : Type u) (Label : Type v) where
  start : σ
  step : σ → Label → Option σ

namespace Machine

variable {σ : Type u} {Label : Type v} (machine : Machine σ Label)

/-- The states of the runs whose steps all meet the condition. -/
inductive Reaches (allowed : σ → Label → Prop) : σ → Prop where
  | start : Reaches allowed machine.start
  | step {state after : σ} (label : Label)
      (before : Reaches allowed state) (meets : allowed state label)
      (steps : machine.step state label = some after) : Reaches allowed after

/-- Every run. -/
abbrev Reachable : σ → Prop := machine.Reaches (fun _ _ => True)

variable {machine}

/-- What holds at the start and is kept by every allowed step holds in all
states of the allowed runs. -/
theorem Reaches.invariant {allowed : σ → Label → Prop} {I : σ → Prop}
    (initially : I machine.start)
    (kept : ∀ state label after, I state → allowed state label →
      machine.step state label = some after → I after) :
    ∀ {state}, machine.Reaches allowed state → I state := by
  intro state reaches
  induction reaches with
  | start => exact initially
  | step _ _ meets steps inductionHypothesis =>
      exact kept _ _ _ inductionHypothesis meets steps

/-- A run under a condition is one under any weaker condition. -/
theorem Reaches.mono {allowed weaker : σ → Label → Prop}
    (implies : ∀ state label, allowed state label → weaker state label) :
    ∀ {state}, machine.Reaches allowed state → machine.Reaches weaker state := by
  intro state reaches
  induction reaches with
  | start => exact .start
  | step label _ meets steps inductionHypothesis =>
      exact .step label inductionHypothesis (implies _ _ meets) steps

variable (machine)

/-- The state after the labels, one step each. -/
def run : σ → List Label → Option σ
  | state, [] => some state
  | state, label :: labels =>
      (machine.step state label).bind (fun after => run after labels)

variable {machine}

/-- A run from a reachable state stays reachable. -/
theorem Reaches.run (labels : List Label) :
    ∀ {state after : σ}, machine.Reachable state →
      machine.run state labels = some after → machine.Reachable after := by
  induction labels with
  | nil =>
      intro state after reaches runs
      cases runs
      exact reaches
  | cons label labels inductionHypothesis =>
      intro state after reaches runs
      cases steps : machine.step state label with
      | none => simp [Machine.run, steps] at runs
      | some next =>
          rw [Machine.run, steps] at runs
          exact inductionHypothesis (.step label reaches trivial steps) runs

section RunWithin

variable (machine) (allowed : σ → Label → Prop)
  [∀ state label, Decidable (allowed state label)]

/-- The state after the labels, as long as the steps meet the condition. -/
def runWithin : σ → List Label → Option σ
  | state, [] => some state
  | state, label :: labels =>
      if allowed state label then
        (machine.step state label).bind (fun after => runWithin after labels)
      else
        none

variable {machine} {allowed}

theorem Reaches.runWithin (labels : List Label) :
    ∀ {state after : σ}, machine.Reaches allowed state →
      machine.runWithin allowed state labels = some after →
      machine.Reaches allowed after := by
  induction labels with
  | nil =>
      intro state after reaches runs
      cases runs
      exact reaches
  | cons label labels inductionHypothesis =>
      intro state after reaches runs
      rw [Machine.runWithin] at runs
      split at runs
      · rename_i meets
        obtain ⟨next, steps, runs⟩ := Option.bind_eq_some_iff.mp runs
        exact inductionHypothesis (.step label reaches meets steps) runs
      · cases runs

/-- What every allowed step keeps holds at the end of a run from a state in which
it held. -/
theorem runWithin_keeps {I : σ → Prop}
    (kept : ∀ state label after, I state → allowed state label →
      machine.step state label = some after → I after) (labels : List Label) :
    ∀ {state after : σ}, I state →
      machine.runWithin allowed state labels = some after → I after := by
  induction labels with
  | nil =>
      intro state after holds runs
      cases runs
      exact holds
  | cons label labels inductionHypothesis =>
      intro state after holds runs
      rw [Machine.runWithin] at runs
      split at runs
      · rename_i meets
        obtain ⟨next, steps, runs⟩ := Option.bind_eq_some_iff.mp runs
        exact inductionHypothesis (kept _ _ _ holds meets steps) runs
      · cases runs

end RunWithin

end Machine

end SelfWriter.Lib
