import Mathlib.Tactic.Common

/-!
# Pre- and postconditions of fallible stateful computations

Partial failure is part of the meaning: a computation in `EStateM` keeps the
state it had reached when it failed, so a triple has one postcondition for the
answer and one for the error.
-/

namespace SelfWriter.Lib.Hoare

variable {ε σ α β : Type}

/-- Started in a state with `pre`, the computation answers in `post` or fails
in `fails`. -/
def Triple (pre : σ → Prop) (computation : EStateM ε σ α)
    (post : α → σ → Prop) (fails : ε → σ → Prop) : Prop :=
  ∀ state, pre state →
    match computation state with
    | .ok value after => post value after
    | .error error after => fails error after

/-- A sequence that answers is two computations that answer. -/
theorem ok_of_bind {first : EStateM ε σ α} {next : α → EStateM ε σ β}
    {start final : σ} {result : β}
    (answers : (first >>= next) start = .ok result final) :
    ∃ value middle, first start = .ok value middle ∧
      next value middle = .ok result final := by
  change EStateM.bind first next start = _ at answers
  rw [EStateM.bind] at answers
  cases outcome : first start with
  | ok value middle =>
      rw [outcome] at answers
      exact ⟨value, middle, rfl, answers⟩
  | error error middle =>
      rw [outcome] at answers
      cases answers

theorem bind_of_ok {first : EStateM ε σ α} (next : α → EStateM ε σ β)
    {start middle : σ} {value : α}
    (answers : first start = .ok value middle) :
    (first >>= next) start = next value middle := by
  change EStateM.bind first next start = _
  rw [EStateM.bind, answers]

theorem bind_of_error {first : EStateM ε σ α} (next : α → EStateM ε σ β)
    {start middle : σ} {error : ε}
    (fails : first start = .error error middle) :
    (first >>= next) start = .error error middle := by
  change EStateM.bind first next start = _
  rw [EStateM.bind, fails]

namespace Triple

variable {pre pre' : σ → Prop} {post post' : α → σ → Prop}
variable {fails fails' : ε → σ → Prop} {computation : EStateM ε σ α}

theorem weaken (triple : Triple pre computation post fails)
    (stronger : ∀ state, pre' state → pre state)
    (answer : ∀ value state, post value state → post' value state)
    (failure : ∀ error state, fails error state → fails' error state) :
    Triple pre' computation post' fails' := by
  intro state holds
  have reached := triple state (stronger state holds)
  cases outcome : computation state with
  | ok value after =>
      rw [outcome] at reached
      exact answer value after reached
  | error error after =>
      rw [outcome] at reached
      exact failure error after reached

/-- Two triples about one computation hold together. -/
theorem both {Q Q' : α → σ → Prop}
    (first : Triple pre computation Q fails)
    (second : Triple pre' computation Q' fails') :
    Triple (fun state => pre state ∧ pre' state) computation
      (fun value state => Q value state ∧ Q' value state)
      (fun error state => fails error state ∧ fails' error state) := by
  intro state holds
  have left := first state holds.1
  have right := second state holds.2
  cases outcome : computation state with
  | ok value after =>
      rw [outcome] at left right
      exact ⟨left, right⟩
  | error error after =>
      rw [outcome] at left right
      exact ⟨left, right⟩

/-- The state in which the computation starts may be fixed. -/
theorem fixed
    (each : ∀ start, pre start →
      Triple (fun state => state = start) computation post fails) :
    Triple pre computation post fails :=
  fun start holds => each start holds start rfl

/-- A computation that cannot fail has a result. -/
theorem answers {post : α → σ → Prop} {start : σ}
    (triple : Triple (fun state => state = start) computation post
      (fun _ _ => False)) :
    ∃ value after, computation start = .ok value after ∧ post value after := by
  have reached := triple start rfl
  cases outcome : computation start with
  | ok value after =>
      rw [outcome] at reached
      exact ⟨value, after, rfl, reached⟩
  | error error after =>
      rw [outcome] at reached
      exact reached.elim

theorem answer {value : α} (holds : ∀ state, pre state → post value state) :
    Triple pre (pure value : EStateM ε σ α) post fails :=
  holds

theorem raise {error : ε} (holds : ∀ state, pre state → fails error state) :
    Triple pre (throw error : EStateM ε σ α) post fails :=
  holds

theorem read {Q : σ → σ → Prop}
    (holds : ∀ state, pre state → Q state state) :
    Triple pre (get : EStateM ε σ σ) Q fails :=
  holds

theorem change {update : σ → σ} {post : Unit → σ → Prop}
    (holds : ∀ state, pre state → post () (update state)) :
    Triple pre (modify update : EStateM ε σ Unit) post fails :=
  holds

theorem bind {next : α → EStateM ε σ β} {R : α → σ → Prop}
    {post : β → σ → Prop}
    (first : Triple pre computation R fails)
    (second : ∀ value, Triple (R value) (next value) post fails) :
    Triple pre (computation >>= next) post fails := by
  intro state holds
  have reached := first state holds
  show match EStateM.bind computation next state with
    | .ok value after => post value after
    | .error error after => fails error after
  unfold EStateM.bind
  cases outcome : computation state with
  | ok value after =>
      rw [outcome] at reached
      exact second value after reached
  | error error after =>
      rw [outcome] at reached
      exact reached

theorem ite {condition : Prop} [Decidable condition]
    {whenTrue whenFalse : EStateM ε σ α}
    (positive : condition → Triple pre whenTrue post fails)
    (negative : ¬ condition → Triple pre whenFalse post fails) :
    Triple pre (if condition then whenTrue else whenFalse) post fails := by
  by_cases holds : condition
  · rw [if_pos holds]
    exact positive holds
  · rw [if_neg holds]
    exact negative holds

/-- A counted loop: the invariant is indexed by the rounds that are done. -/
theorem forRange {I : Nat → σ → Prop} {body : Nat → EStateM ε σ Unit} :
    ∀ count : Nat,
      (∀ round, round < count →
        Triple (I round) (body round) (fun _ => I (round + 1)) fails) →
      Triple (I 0) (forM (List.range count) body) (fun _ => I count)
        fails := by
  intro count
  induction count with
  | zero =>
      intro _
      exact Triple.answer (fun _ holds => holds)
  | succ count inductionHypothesis =>
      intro each
      have rounds := inductionHypothesis
        (fun round before => each round (Nat.lt_succ_of_lt before))
      rw [List.range_succ, List.forM_append]
      apply rounds.bind
      intro _
      apply (each count (Nat.lt_succ_self count)).bind
      intro _
      exact Triple.answer (fun _ holds => holds)

end Triple

end SelfWriter.Lib.Hoare
