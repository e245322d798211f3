import Mathlib.Logic.Function.Basic
import Mathlib.Order.Lattice
import SelfWriter.Lib.Binary32
import SelfWriter.Lib.Streak
import SelfWriter.Lib.Word32
import SelfWriter.Settings.AppSettings

/-!
# Over-limit alarms

`ConditionMonitor::check` (`workmodes/processing/common.rs`) counts the samples
in a row that are beyond a limit.  Four quantities are monitored, each by a
counter of its own, which outlives everything but a reboot; the alarm is a flag
in the settings, kept until `reset_monitoring_flags`
(`protobuf/monitoring_over_conditions.rs`), and saved when it is raised.
-/

namespace SelfWriter.Processing

open SelfWriter.Lib SelfWriter.Lib.Streak SelfWriter.Lib.Word32
open SelfWriter.Settings (Monitoring)

/-! ## The monitor -/

/-- Numbers that are compared, some of which may be none. -/
class Comparable (Sample : Type) where
  isNaN : Sample → Bool
  lt : Sample → Sample → Bool

open Comparable

instance : Comparable Binary32 where
  isNaN := Binary32.isNaN
  lt := Binary32.lt

/-- A total order, and a value that is not a number. -/
instance {α : Type} [LinearOrder α] : Comparable (Option α) where
  isNaN := Option.isNone
  lt left right := left.any (fun left => right.any (fun right => left < right))

inductive Ordering where
  | greater
  | less
  deriving DecidableEq, Repr

structure ConditionMonitor where
  counter : UInt32
  deriving DecidableEq, Repr

section Samples

variable {Sample : Type} [Comparable Sample]

def ConditionMonitor.check (order : Ordering) (self : ConditionMonitor)
    (current limit : Sample) : ConditionMonitor × Bool :=
  if isNaN limit then
    (self, false)
  else
    let cmp :=
      match order with
      | .greater => lt limit current
      | .less => lt current limit
    if cmp then
      if self.counter < Config.overLimitCount then
        ({ counter := self.counter + 1 }, false)
      else
        (self, true)
    else
      ({ counter := 0 }, false)

/-- Nothing exceeds a limit that is not a number. -/
def exceeds (limit current : Sample) : Bool :=
  !isNaN limit && lt limit current

end Samples

section Samples

variable {Sample : Type} [Comparable Sample]

/-- The check for values that are too great. -/
theorem ConditionMonitor.check_greater (self : ConditionMonitor)
    (current limit : Sample) :
    self.check .greater current limit =
      if exceeds limit current then
        (if self.counter < Config.overLimitCount then
          ({ counter := self.counter + 1 }, false)
        else
          (self, true))
      else
        (if isNaN limit then (self, false) else ({ counter := 0 }, false)) := by
  unfold ConditionMonitor.check exceeds
  cases isNaN limit with
  | true => rfl
  | false => rfl

/-- A counter that knows the streak up to the bound answers whether the streak
was that long already, and knows the new one. -/
theorem ConditionMonitor.check_streak {self : ConditionMonitor} {limit : Sample}
    {earlier : List Sample}
    (knows : self.counter.toNat = min 5 (streak (exceeds limit) earlier))
    (current : Sample) :
    (self.check .greater current limit).1.counter.toNat =
        min 5 (streak (exceeds limit) (earlier ++ [current])) ∧
      (self.check .greater current limit).2 =
        (exceeds limit current &&
          decide (5 ≤ streak (exceeds limit) earlier)) := by
  rw [ConditionMonitor.check_greater]
  cases beyond : exceeds limit current with
  | false =>
      rw [if_neg Bool.false_ne_true, streak_concat_of_not _ beyond]
      cases none : isNaN limit with
      | true =>
          have never (other : Sample) : exceeds limit other = false := by
            rw [exceeds, none, Bool.not_true, Bool.false_and]
          rw [streak_of_never _ never] at knows
          exact ⟨knows, rfl⟩
      | false => exact ⟨rfl, rfl⟩
  | true =>
      have bound : Config.overLimitCount.toNat = 5 := rfl
      rw [if_pos rfl, streak_concat_of_meets _ beyond]
      by_cases below : self.counter < Config.overLimitCount
      · have few : self.counter.toNat < 5 := UInt32.lt_iff_toNat_lt.mp below
        have one : (1 : UInt32).toNat = 1 := rfl
        rw [if_pos below]
        refine ⟨?_, ?_⟩
        · rw [toNat_add_of_lt (by rw [one]; omega), one]
          omega
        · rw [Bool.true_and, eq_comm, decide_eq_false_iff_not]
          omega
      · have many : 5 ≤ self.counter.toNat := by
          rw [← bound]
          exact Nat.not_lt.mp (mt UInt32.lt_iff_toNat_lt.mpr below)
        rw [if_neg below]
        refine ⟨?_, ?_⟩
        · change self.counter.toNat = _
          omega
        · rw [Bool.true_and, eq_comm, decide_eq_true_iff]
          omega

end Samples

/-! ## The quantities -/

inductive Quantity where
  | pressure
  | temperature
  | cpuTemperature
  | batteryVoltage
  deriving DecidableEq, Repr

def flag : Quantity → Monitoring → Bool
  | .pressure, monitoring => monitoring.ovarpress
  | .temperature, monitoring => monitoring.ovarheat
  | .cpuTemperature, monitoring => monitoring.cpuOvarheat
  | .batteryVoltage, monitoring => monitoring.overPower

def raise : Quantity → Monitoring → Monitoring
  | .pressure, monitoring => { monitoring with ovarpress := true }
  | .temperature, monitoring => { monitoring with ovarheat := true }
  | .cpuTemperature, monitoring => { monitoring with cpuOvarheat := true }
  | .batteryVoltage, monitoring => { monitoring with overPower := true }

@[simp]
theorem flag_default (quantity : Quantity) : flag quantity .default = false := by
  cases quantity <;> rfl

private theorem flag_raise (quantity other : Quantity) (monitoring : Monitoring) :
    flag quantity (raise other monitoring) =
      (decide (quantity = other) || flag quantity monitoring) := by
  cases quantity <;> cases other <;> rfl

/-- What the monitoring keeps: the static monitors, the flags in the settings,
and the calls of `start_writing_settings(true)`, each with the quantity that
made it. -/
structure Watch where
  monitors : Quantity → ConditionMonitor
  monitoring : Monitoring
  saves : List Quantity

namespace Watch

def initial (monitoring : Monitoring) : Watch where
  monitors _ := { counter := 0 }
  monitoring := monitoring
  saves := []

inductive Event (Sample : Type) where
  | sample (quantity : Quantity) (current : Sample)
  /-- A reset may find the settings locked. -/
  | reset (granted : Bool)

section Events

variable {Sample : Type} {quantity : Quantity}

/-- The samples of one quantity. -/
def samples (quantity : Quantity) (events : List (Event Sample)) : List Sample :=
  events.filterMap (fun event =>
    match event with
    | .sample other current => if other = quantity then some current else none
    | .reset _ => none)

private theorem samples_concat (events : List (Event Sample)) (event : Event Sample) :
    samples quantity (events ++ [event]) =
      samples quantity events ++ samples quantity [event] :=
  List.filterMap_append

@[simp]
theorem samples_reset (granted : Bool) :
    samples quantity [(.reset granted : Event Sample)] = [] :=
  rfl

private theorem samples_own (current : Sample) :
    samples quantity [.sample quantity current] = [current] := by
  simp [samples]

private theorem samples_other {other : Quantity} (different : other ≠ quantity)
    (current : Sample) : samples quantity [.sample other current] = [] := by
  simp [samples, different]

end Events

section Samples

variable {Sample : Type} [Comparable Sample]

/-- What the four quantities do with a sample, each with its own monitor, limit
and flag. -/
def sampled (limit : Sample) (quantity : Quantity) (current : Sample)
    (watch : Watch) : Watch :=
  let (monitor, beyond) := (watch.monitors quantity).check .greater current limit
  let rised := beyond && !flag quantity watch.monitoring
  { monitors := Function.update watch.monitors quantity monitor
    monitoring :=
      if beyond then raise quantity watch.monitoring else watch.monitoring
    saves := if rised then watch.saves ++ [quantity] else watch.saves }

def after (limits : Quantity → Sample) (watch : Watch) : Event Sample → Watch
  | .sample quantity current => watch.sampled (limits quantity) quantity current
  | .reset true => { watch with monitoring := .default }
  | .reset false => watch

/-- A run from a start with some flags, which were saved earlier. -/
def run (limits : Quantity → Sample) (monitoring : Monitoring)
    (events : List (Event Sample)) : Watch :=
  events.foldl (after limits) (initial monitoring)

/-- The flag of a quantity in a run. -/
def flagAfter (limits : Quantity → Sample) (monitoring : Monitoring)
    (quantity : Quantity) (events : List (Event Sample)) : Bool :=
  flag quantity (run limits monitoring events).monitoring

/-- How often the quantity asked for the settings to be saved. -/
def savesAfter (limits : Quantity → Sample) (monitoring : Monitoring)
    (quantity : Quantity) (events : List (Event Sample)) : Nat :=
  (run limits monitoring events).saves.count quantity

/-! ## Runs -/

variable (limits : Quantity → Sample) (monitoring : Monitoring)
  {quantity : Quantity}

theorem run_concat (events : List (Event Sample)) (event : Event Sample) :
    run limits monitoring (events ++ [event]) =
      (run limits monitoring events).after limits event := by
  rw [run, List.foldl_append]
  rfl

/-- Each monitor knows the streak of its quantity, whatever is reset between the
samples. -/
theorem counter_run (events : List (Event Sample)) :
    ((run limits monitoring events).monitors quantity).counter.toNat =
      min 5 (streak (exceeds (limits quantity)) (samples quantity events)) := by
  induction events using List.reverseRecOn with
  | nil => rfl
  | append_singleton events event inductionHypothesis =>
      rw [run_concat, samples_concat]
      cases event with
      | reset granted =>
          rw [samples_reset, List.append_nil, ← inductionHypothesis]
          cases granted <;> rfl
      | sample other current =>
          by_cases own : other = quantity
          · subst own
            rw [samples_own]
            simp only [after, sampled, Function.update_self]
            exact (ConditionMonitor.check_streak inductionHypothesis current).1
          · rw [samples_other own, List.append_nil, ← inductionHypothesis]
            simp only [after, sampled, Function.update_of_ne (Ne.symm own)]

/-- Whether a sample is the sixth in a row beyond the limit. -/
def SixthOver (limit : Sample) (earlier : List Sample) (current : Sample) : Prop :=
  ∃ before last, earlier = before ++ last ∧ last.length = 5 ∧
    ∀ value ∈ last ++ [current], exceeds limit value = true

theorem check_run (events : List (Event Sample)) (current : Sample) :
    (((run limits monitoring events).monitors quantity).check .greater current
        (limits quantity)).2 = true ↔
      SixthOver (limits quantity) (samples quantity events) current := by
  rw [(ConditionMonitor.check_streak (counter_run limits monitoring events) current).2,
    Bool.and_eq_true, decide_eq_true_iff, le_streak_iff]
  constructor
  · rintro ⟨beyond, before, last, split, length, allBeyond⟩
    refine ⟨before, last, split, length, ?_⟩
    intro value member
    rcases List.mem_append.mp member with inLast | isCurrent
    · exact allBeyond value inLast
    · rw [List.mem_singleton.mp isCurrent]
      exact beyond
  · rintro ⟨before, last, split, length, allBeyond⟩
    exact ⟨allBeyond current (by simp), before, last, split, length,
      fun value member => allBeyond value (List.mem_append_left _ member)⟩

private theorem not_sixthOver_of_isNaN {limit : Sample} (none : isNaN limit = true)
    (earlier : List Sample) (current : Sample) : ¬ SixthOver limit earlier current := by
  rintro ⟨before, last, split, length, allBeyond⟩
  have beyond := allBeyond current (by simp)
  rw [exceeds, none, Bool.not_true, Bool.false_and] at beyond
  cases beyond

/-! ## The flag and the save requests -/

private theorem flagAfter_reset_granted (events : List (Event Sample)) :
    flagAfter limits monitoring quantity (events ++ [.reset true]) = false := by
  rw [flagAfter, run_concat]
  exact flag_default quantity

private theorem flagAfter_reset_refused (events : List (Event Sample)) :
    flagAfter limits monitoring quantity (events ++ [.reset false]) =
      flagAfter limits monitoring quantity events := by
  rw [flagAfter, run_concat]
  rfl

/-- A sample of another quantity. -/
theorem flagAfter_other {other : Quantity} (different : other ≠ quantity)
    (events : List (Event Sample)) (current : Sample) :
    flagAfter limits monitoring quantity (events ++ [.sample other current]) =
      flagAfter limits monitoring quantity events := by
  rw [flagAfter, flagAfter, run_concat]
  simp only [after, sampled]
  split
  · rw [flag_raise, decide_eq_false (Ne.symm different), Bool.false_or]
  · rfl

/-- A sample of the quantity itself. -/
theorem flagAfter_own_iff (events : List (Event Sample)) (current : Sample) :
    flagAfter limits monitoring quantity (events ++ [.sample quantity current]) = true ↔
      SixthOver (limits quantity) (samples quantity events) current ∨
        flagAfter limits monitoring quantity events = true := by
  rw [← check_run limits monitoring, flagAfter, flagAfter, run_concat]
  simp only [after, sampled]
  split
  · rename_i beyond
    rw [flag_raise, decide_eq_true rfl, Bool.true_or]
    exact iff_of_true rfl (Or.inl beyond)
  · rename_i notOver
    exact (or_iff_right notOver).symm

private theorem savesAfter_reset (events : List (Event Sample)) (granted : Bool) :
    savesAfter limits monitoring quantity (events ++ [.reset granted]) =
      savesAfter limits monitoring quantity events := by
  rw [savesAfter, run_concat]
  cases granted <;> rfl

private theorem savesAfter_other {other : Quantity} (different : other ≠ quantity)
    (events : List (Event Sample)) (current : Sample) :
    savesAfter limits monitoring quantity (events ++ [.sample other current]) =
      savesAfter limits monitoring quantity events := by
  rw [savesAfter, savesAfter, run_concat]
  simp only [after, sampled]
  split
  · rw [List.count_append, List.count_singleton, beq_false_of_ne different]
    rfl
  · rfl

private theorem rises_iff (events : List (Event Sample)) (current : Sample) :
    (flagAfter limits monitoring quantity events = false ∧
      flagAfter limits monitoring quantity (events ++ [.sample quantity current]) = true) ↔
    ((((run limits monitoring events).monitors quantity).check .greater current
        (limits quantity)).2 &&
      !flag quantity (run limits monitoring events).monitoring) = true := by
  rw [flagAfter_own_iff, ← check_run limits monitoring, flagAfter, Bool.and_eq_true,
    Bool.not_eq_true']
  constructor
  · rintro ⟨clear, beyond | set⟩
    · exact ⟨beyond, clear⟩
    · rw [clear] at set
      cases set
  · rintro ⟨beyond, clear⟩
    exact ⟨clear, Or.inl beyond⟩

/-- The settings are saved for a sample exactly when it raises the flag. -/
theorem savesAfter_own (events : List (Event Sample)) (current : Sample) :
    savesAfter limits monitoring quantity (events ++ [.sample quantity current]) =
      savesAfter limits monitoring quantity events +
        (if flagAfter limits monitoring quantity events = false ∧
            flagAfter limits monitoring quantity
              (events ++ [.sample quantity current]) = true then 1 else 0) := by
  simp only [rises_iff]
  rw [savesAfter, savesAfter, run_concat]
  simp only [after, sampled]
  split
  · rw [List.count_append, List.count_singleton_self]
  · rfl

/-! ## Every step of every run -/

/-- The flag goes up at an event. -/
abbrev Rises (quantity : Quantity) (events : List (Event Sample)) (event : Event Sample) :
    Prop :=
  flagAfter limits monitoring quantity events = false ∧
    flagAfter limits monitoring quantity (events ++ [event]) = true

private theorem rises_sample_iff (events : List (Event Sample)) (event : Event Sample) :
    Rises limits monitoring quantity events event ↔
      ∃ current, event = .sample quantity current ∧
        flagAfter limits monitoring quantity events = false ∧
          SixthOver (limits quantity) (samples quantity events) current := by
  constructor
  · rintro ⟨clear, set⟩
    cases event with
    | reset granted =>
        cases granted with
        | true =>
            rw [flagAfter_reset_granted] at set
            cases set
        | false =>
            rw [flagAfter_reset_refused, clear] at set
            cases set
    | sample other current =>
        by_cases own : other = quantity
        · subst own
          rcases (flagAfter_own_iff limits monitoring events current).mp set with
            sixth | before
          · exact ⟨current, rfl, clear, sixth⟩
          · rw [clear] at before
            cases before
        · rw [flagAfter_other limits monitoring own, clear] at set
          cases set
  · rintro ⟨current, rfl, clear, sixth⟩
    exact ⟨clear, (flagAfter_own_iff limits monitoring events current).mpr (Or.inl sixth)⟩

private theorem flagAfter_stays {events : List (Event Sample)}
    (set : flagAfter limits monitoring quantity events = true) {event : Event Sample}
    (noReset : event ≠ .reset true) :
    flagAfter limits monitoring quantity (events ++ [event]) = true := by
  cases event with
  | reset granted =>
      cases granted with
      | true => exact absurd rfl noReset
      | false => exact (flagAfter_reset_refused limits monitoring events).trans set
  | sample other current =>
      by_cases own : other = quantity
      · subst own
        exact (flagAfter_own_iff limits monitoring events current).mpr (Or.inr set)
      · exact (flagAfter_other limits monitoring own events current).trans set

private theorem savesAfter_concat (events : List (Event Sample)) (event : Event Sample) :
    savesAfter limits monitoring quantity (events ++ [event]) =
      savesAfter limits monitoring quantity events +
        (if Rises limits monitoring quantity events event then 1 else 0) := by
  cases event with
  | reset granted =>
      have notRises :
          ¬ Rises limits monitoring quantity events (.reset granted) := by
        rw [rises_sample_iff]
        rintro ⟨current, isSample, _⟩
        cases isSample
      rw [savesAfter_reset, if_neg notRises, Nat.add_zero]
  | sample other current =>
      by_cases own : other = quantity
      · subst own
        exact savesAfter_own limits monitoring events current
      · have notRises :
            ¬ Rises limits monitoring quantity events (.sample other current) := by
          rw [rises_sample_iff]
          rintro ⟨_, isSample, _⟩
          cases isSample
          exact own rfl
        rw [savesAfter_other limits monitoring own, if_neg notRises, Nat.add_zero]

/-- How often the flag went up in a run. -/
def rises (quantity : Quantity) (events : List (Event Sample)) : Nat :=
  (List.range events.length).countP (fun index =>
    !flagAfter limits monitoring quantity (events.take index) &&
      flagAfter limits monitoring quantity (events.take (index + 1)))

private theorem rises_concat (events : List (Event Sample)) (event : Event Sample) :
    rises limits monitoring quantity (events ++ [event]) =
      rises limits monitoring quantity events +
        (if Rises limits monitoring quantity events event then 1 else 0) := by
  have last : (events ++ [event]).length = events.length + 1 := List.length_append
  rw [rises, last, List.range_succ, List.countP_append, List.countP_singleton]
  congr 1
  · apply List.countP_congr
    intro index member
    have inside : index < events.length := List.mem_range.mp member
    rw [List.take_append_of_le_length inside.le, List.take_append_of_le_length inside]
  · have whole : (events ++ [event]).take (events.length + 1) = events ++ [event] :=
      List.take_of_length_le last.le
    rw [List.take_left', whole]
    · simp only [Bool.and_eq_true, Bool.not_eq_true']
    · rfl

theorem savesAfter_eq_rises (events : List (Event Sample)) :
    savesAfter limits monitoring quantity events =
      rises limits monitoring quantity events := by
  induction events using List.reverseRecOn with
  | nil => rfl
  | append_singleton events event inductionHypothesis =>
      rw [savesAfter_concat, rises_concat, inductionHypothesis]

/-- Over-limit alarms.  At any event of any run, the flag of a quantity goes up
exactly when the event is a sample of it, the flag was clear, and the sample is
the sixth in a row beyond the limit; a flag that is up stays up at everything
but a granted reset; nothing is beyond a limit that is not a number; and the
settings were saved for the quantity once for every time that its flag went
up. -/
theorem overLimit_alarm (quantity : Quantity) (events : List (Event Sample))
    (event : Event Sample) :
    ((flagAfter limits monitoring quantity events = false ∧
        flagAfter limits monitoring quantity (events ++ [event]) = true) ↔
      ∃ current, event = .sample quantity current ∧
        flagAfter limits monitoring quantity events = false ∧
          SixthOver (limits quantity) (samples quantity events) current) ∧
    (flagAfter limits monitoring quantity events = true → event ≠ .reset true →
      flagAfter limits monitoring quantity (events ++ [event]) = true) ∧
    (isNaN (limits quantity) = true →
      ¬ (flagAfter limits monitoring quantity events = false ∧
        flagAfter limits monitoring quantity (events ++ [event]) = true)) ∧
    savesAfter limits monitoring quantity (events ++ [event]) =
      savesAfter limits monitoring quantity events +
        (if flagAfter limits monitoring quantity events = false ∧
            flagAfter limits monitoring quantity (events ++ [event]) = true
          then 1 else 0) ∧
    savesAfter limits monitoring quantity events =
      rises limits monitoring quantity events := by
  have raised :=
    @rises_sample_iff Sample _ limits monitoring quantity events event
  refine ⟨raised, ?_, ?_, savesAfter_concat limits monitoring events event,
    savesAfter_eq_rises limits monitoring events⟩
  · intro set noReset
    exact flagAfter_stays limits monitoring set noReset
  · intro none rise
    obtain ⟨current, _, _, sixth⟩ := raised.mp rise
    exact not_sixthOver_of_isNaN none _ _ sixth

end Samples

end Watch

end SelfWriter.Processing
