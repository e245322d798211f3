import Mathlib.Algebra.Group.Basic
import Mathlib.Logic.Function.Basic

/-!
# Difference coding of several channels

Values of several channels share one stream.  Of each value only the difference
to the last one of its channel is put on the stream; a missing value puts zero
there.  A decoder that knows the order of the channels adds the differences up,
each channel for itself.
-/

namespace SelfWriter.Lib.DifferenceCoding

variable {Channel Value : Type} [DecidableEq Channel] [AddCommGroup Value]

/-! ## The coder -/

def difference (prevs : Channel → Value) (result : Option Value)
    (channel : Channel) : Value :=
  match result with
  | some value => value - prevs channel
  | none => 0

def remember (prevs : Channel → Value) (result : Option Value)
    (channel : Channel) : Channel → Value :=
  match result with
  | some value => Function.update prevs channel value
  | none => prevs

def code (prevs : Channel → Value) : List (Option Value × Channel) → List Value
  | [] => []
  | (result, channel) :: calls =>
      difference prevs result channel :: code (remember prevs result channel) calls

/-- The last values behind the calls. -/
def remembered (prevs : Channel → Value) (calls : List (Option Value × Channel)) :
    Channel → Value :=
  calls.foldl (fun prevs (result, channel) => remember prevs result channel) prevs

/-! ## The decoder -/

def decode (sums : Channel → Value) : List Channel → List Value →
    List (Channel × Value)
  | channel :: channels, value :: stream =>
      (channel, sums channel + value) ::
        decode (Function.update sums channel (sums channel + value)) channels stream
  | _, _ => []

/-- What is to be recovered: a value itself, and in the place of a missing one
the last value of its channel. -/
def expected (prevs : Channel → Value) : List (Option Value × Channel) →
    List (Channel × Value)
  | [] => []
  | (result, channel) :: calls =>
      (channel, result.getD (prevs channel)) ::
        expected (remember prevs result channel) calls

omit [DecidableEq Channel] in
/-- The decoder's sum is the value, and its sums stay those of the coder. -/
theorem sum_difference (prevs : Channel → Value) (result : Option Value)
    (channel : Channel) :
    prevs channel + difference prevs result channel =
      result.getD (prevs channel) := by
  cases result with
  | none => exact add_zero _
  | some value => exact add_sub_cancel _ _

omit [AddCommGroup Value] in
theorem update_getD (prevs : Channel → Value) (result : Option Value)
    (channel : Channel) :
    Function.update prevs channel (result.getD (prevs channel)) =
      remember prevs result channel := by
  cases result with
  | none => exact Function.update_eq_self channel prevs
  | some value => rfl

theorem decode_code (calls : List (Option Value × Channel)) :
    ∀ prevs : Channel → Value,
      decode prevs (calls.map Prod.snd) (code prevs calls) = expected prevs calls := by
  induction calls with
  | nil => intro prevs; rfl
  | cons call calls inductionHypothesis =>
      intro prevs
      obtain ⟨result, channel⟩ := call
      simp only [List.map_cons, code, decode, expected]
      rw [sum_difference, update_getD, inductionHypothesis]

/-! ## The calls one by one -/

theorem code_concat (calls : List (Option Value × Channel)) (result : Option Value)
    (channel : Channel) :
    ∀ prevs : Channel → Value,
      code prevs (calls ++ [(result, channel)]) =
        code prevs calls ++ [difference (remembered prevs calls) result channel] := by
  induction calls with
  | nil => intro prevs; rfl
  | cons call calls inductionHypothesis =>
      intro prevs
      rw [List.cons_append, code, code, List.cons_append, inductionHypothesis]
      rfl

omit [AddCommGroup Value] in
theorem remembered_concat (prevs : Channel → Value)
    (calls : List (Option Value × Channel)) (result : Option Value) (channel : Channel) :
    remembered prevs (calls ++ [(result, channel)]) =
      remember (remembered prevs calls) result channel := by
  rw [remembered, List.foldl_append]
  rfl

@[simp]
theorem length_code (calls : List (Option Value × Channel)) :
    ∀ prevs : Channel → Value, (code prevs calls).length = calls.length := by
  induction calls with
  | nil => intro prevs; rfl
  | cons call calls inductionHypothesis =>
      intro prevs
      rw [code, List.length_cons, inductionHypothesis, List.length_cons]

omit [AddCommGroup Value] in
@[simp]
theorem length_expected (calls : List (Option Value × Channel)) :
    ∀ prevs : Channel → Value, (expected prevs calls).length = calls.length := by
  induction calls with
  | nil => intro prevs; rfl
  | cons call calls inductionHypothesis =>
      intro prevs
      rw [expected, List.length_cons, inductionHypothesis, List.length_cons]

omit [AddCommGroup Value] in
theorem expected_append (before calls : List (Option Value × Channel)) :
    ∀ prevs : Channel → Value,
      expected prevs (before ++ calls) =
        expected prevs before ++ expected (remembered prevs before) calls := by
  induction before with
  | nil => intro prevs; rfl
  | cons call before inductionHypothesis =>
      intro prevs
      rw [List.cons_append, expected, expected, List.cons_append, inductionHypothesis]
      rfl

/-- The last recovered value of a channel, or the value at the start. -/
def lastRecovered (channel : Channel) (start : Value)
    (recovered : List (Channel × Value)) : Value :=
  recovered.foldl (fun last pair => if pair.1 = channel then pair.2 else last) start

omit [AddCommGroup Value] in
theorem remembered_eq_lastRecovered (channel : Channel)
    (calls : List (Option Value × Channel)) :
    ∀ prevs : Channel → Value,
      remembered prevs calls channel =
        lastRecovered channel (prevs channel) (expected prevs calls) := by
  induction calls with
  | nil => intro prevs; rfl
  | cons call calls inductionHypothesis =>
      intro prevs
      obtain ⟨result, other⟩ := call
      have first : remember prevs result other channel =
          if other = channel then result.getD (prevs other) else prevs channel := by
        rw [← update_getD, Function.update_apply]
        simp only [eq_comm]
      have step := inductionHypothesis (remember prevs result other)
      rw [first] at step
      exact step

omit [AddCommGroup Value] in
/-- What is recovered for one call: its value, or the last recovered one. -/
theorem expected_getElem? (before later : List (Option Value × Channel))
    (result : Option Value) (channel : Channel) (prevs : Channel → Value) :
    (expected prevs (before ++ (result, channel) :: later))[before.length]? =
      some (channel, result.getD (lastRecovered channel (prevs channel)
        ((expected prevs (before ++ (result, channel) :: later)).take
          before.length))) := by
  have length : (expected prevs before).length = before.length :=
    length_expected before prevs
  rw [expected_append, List.getElem?_append_right (Nat.le_of_eq length), length, Nat.sub_self,
    List.take_left' length, ← remembered_eq_lastRecovered]
  rfl

end SelfWriter.Lib.DifferenceCoding
