import SelfWriter.Lib.Machine

/-!
# Simulations between machines

A step of the concrete machine is matched by one step of the abstract machine, or
by none.  What holds of all permitted runs of the abstract machine holds of the
allowed runs of the concrete one.  Where the step that matches is known from the
concrete one, so is the whole abstract run.
-/

namespace SelfWriter.Lib.Machine

universe u v w x

variable {σ : Type u} {Label : Type v} {τ : Type w} {Call : Type x}

structure Simulation (concrete : Machine σ Label) (allowed : σ → Label → Prop)
    (abstract : Machine τ Call) (permitted : τ → Call → Prop) (R : σ → τ → Prop) :
    Prop where
  start : R concrete.start abstract.start
  step : ∀ {state after : σ} {image : τ} {label : Label},
    R state image → allowed state label → concrete.step state label = some after →
      R after image ∨ ∃ call next,
        permitted image call ∧ abstract.step image call = some next ∧ R after next

variable {concrete : Machine σ Label} {allowed : σ → Label → Prop}
variable {abstract : Machine τ Call} {permitted : τ → Call → Prop} {R : σ → τ → Prop}

theorem Simulation.reaches
    (simulation : concrete.Simulation allowed abstract permitted R) {state : σ}
    (reaches : concrete.Reaches allowed state) :
    ∃ image, abstract.Reaches permitted image ∧ R state image := by
  induction reaches with
  | start => exact ⟨abstract.start, .start, simulation.start⟩
  | step label _ meets steps inductionHypothesis =>
      obtain ⟨image, reached, related⟩ := inductionHypothesis
      rcases simulation.step related meets steps with
        still | ⟨call, next, may, calls, related⟩
      · exact ⟨image, reached, still⟩
      · exact ⟨next, .step call reached may calls, related⟩

/-! ## Runs that are followed step by step -/

/-- The abstract machine takes the step that a concrete one is said to be. -/
structure Tracks (concrete : Machine σ Label) (abstract : Machine τ Call)
    (call : σ → Label → Option Call) (R : σ → τ → Prop) : Prop where
  start : R concrete.start abstract.start
  silent : ∀ {state after : σ} {image : τ} {label : Label}, R state image →
    concrete.step state label = some after → call state label = none → R after image
  step : ∀ {state after : σ} {image : τ} {label : Label} {isCall : Call},
    R state image → concrete.step state label = some after →
      call state label = some isCall →
        ∃ next, abstract.step image isCall = some next ∧ R after next

/-- The abstract steps of a run. -/
def calls (concrete : Machine σ Label) (call : σ → Label → Option Call) :
    σ → List Label → List Call
  | _, [] => []
  | state, label :: labels =>
      (call state label).toList ++
        match concrete.step state label with
        | some after => calls concrete call after labels
        | none => []

variable {call : σ → Label → Option Call}

/-- What the concrete machine runs, the abstract one runs. -/
theorem Tracks.run (tracks : concrete.Tracks abstract call R) (labels : List Label) :
    ∀ {state after : σ} {image : τ}, R state image →
      concrete.run state labels = some after →
        ∃ last, abstract.run image (concrete.calls call state labels) = some last ∧
          R after last := by
  induction labels with
  | nil =>
      intro state after image related runs
      cases runs
      exact ⟨image, rfl, related⟩
  | cons label labels inductionHypothesis =>
      intro state after image related runs
      obtain ⟨next, steps, runs⟩ := Option.bind_eq_some_iff.1 runs
      rw [calls, steps]
      cases isCall : call state label with
      | none => exact inductionHypothesis (tracks.silent related steps isCall) runs
      | some abstractLabel =>
          obtain ⟨image', calls, related⟩ := tracks.step related steps isCall
          obtain ⟨last, isRun, related⟩ := inductionHypothesis related runs
          refine ⟨last, ?_, related⟩
          change (abstract.step image abstractLabel).bind _ = some last
          rw [calls]
          exact isRun

theorem Tracks.simulation (tracks : concrete.Tracks abstract call R)
    (may : ∀ {state image label isCall}, R state image → allowed state label →
      call state label = some isCall → permitted image isCall) :
    concrete.Simulation allowed abstract permitted R where
  start := tracks.start
  step := by
    intro state after image label related meets steps
    cases isCall : call state label with
    | none => exact .inl (tracks.silent related steps isCall)
    | some abstractLabel =>
        obtain ⟨next, calls, again⟩ := tracks.step related steps isCall
        exact .inr ⟨abstractLabel, next, may related meets isCall, calls, again⟩

end SelfWriter.Lib.Machine
