import SelfWriter.Processing.Processors
import SelfWriter.Sensors.WriteBack

/-!
# Adaptation of the targets

Both processors compute a new target from the frequency of a channel, such that
a measurement takes the time in the settings.  The counter accepts no target
beyond a greatest one and panics; the recorder's processor does not look at the
result that it divides by, and neither of them at the target that it gets.
-/

namespace SelfWriter.Processing

open SelfWriter.Lib SelfWriter.Lib.Word32 SelfWriter.Lib.ExtendedRational
open SelfWriter.Lib.LeastDivisor
open SelfWriter.Sensors (Answer InCounter FreqmeterController transformTarget32 asTarget32 edges
  transformTarget32_isSome_iff transformTarget32_eq_some_iff
  toNat_asTarget32_of_accepted)
open SelfWriter.Settings (AppSettings)

/-! ## The new target -/

/-- The edges of the input in one second, but for the division by the ticks that
were counted. -/
def dividend (frefMultiplier : ℚ) (target : UInt32) (ws : AppSettings) : ℚ :=
  frefMultiplier * ws.fref.toNat * target.toNat

private theorem calcFreq_eq (frefMultiplier : ℚ) (target diff : UInt32) (ws : AppSettings) :
    calcFreq frefMultiplier target diff ws =
      finite (dividend frefMultiplier target ws) / finite diff.toNat :=
  rfl

section NewTarget

variable {frefMultiplier : ℚ} {ch : FChannel} {target result sysclk : UInt32}
  {ws : AppSettings}

/-- The lower bound of the new target matters to small ones only. -/
theorem le_calcNewTarget_iff {bound : ℕ} (several : 2 ≤ bound) (f : ExtendedRational) :
    bound ≤ (calcNewTarget ch f sysclk ws).1.toNat ↔
      bound ≤ (f * ofWord (mtGetter ch ws) / finite 1000).toUInt32.toNat := by
  rw [calcNewTarget]
  dsimp only
  split
  · rename_i isZero
    have none := UInt32.lt_iff_toNat_lt.mp isZero
    have one : (1 : UInt32).toNat = 1 := rfl
    rw [one] at none ⊢
    omega
  · exact Iff.rfl

/-- The counter accepts the new target when the exact one is small enough, or
nothing was to be divided. -/
theorem calcNewTarget_accepted_iff (timed : 20 ≤ (mtGetter ch ws).toNat) :
    (transformTarget32 (calcNewTarget ch
        (calcFreq frefMultiplier target result ws) sysclk ws).1).isSome = true ↔
      dividend frefMultiplier target ws ≤ 0 ∨
        dividend frefMultiplier target ws * (mtGetter ch ws).toNat <
          4294770691 * 1000 * result.toNat := by
  have mtPos : (0 : ℚ) < (mtGetter ch ws).toNat := by
    exact_mod_cast Nat.lt_of_lt_of_le (by decide : 0 < 20) timed
  have nonneg : (0 : ℚ) ≤ result.toNat := by positivity
  have exceeded := @le_calcNewTarget_iff ch sysclk ws 4294770691 (by decide)
    (calcFreq frefMultiplier target result ws)
  rw [calcFreq_eq, ofWord, le_toUInt32_quotient_iff (by decide) (by decide) nonneg
    mtPos (by norm_num)] at exceeded
  rw [transformTarget32_isSome_iff, calcFreq_eq, ← not_lt, ← not_lt (a := (0 : ℚ)),
    ← not_le (b := dividend frefMultiplier target ws * _), ← not_and_or]
  exact not_congr exceeded

end NewTarget

/-! ## What is read back -/

/-- The counter holds a target that it accepted, and was asked for it. -/
def ReadBack (target : UInt32) : Prop :=
  ∃ programmed psc reload, transformTarget32 programmed = some (psc, reload) ∧
    target = asTarget32 psc reload

/-- Neither register is full. -/
theorem ReadBack.le {target : UInt32} (readBack : ReadBack target) :
    target.toNat ≤ 65534 * 65534 + 1 := by
  obtain ⟨programmed, psc, reload, accepted, rfl⟩ := readBack
  have found := (transformTarget32_eq_some_iff.mp accepted).1
  have quotient : edges programmed / (edges programmed / 65535 + 1) < 65535 :=
    (quotient_lt_iff (by decide) (Nat.le_add_left 1 _)).mpr (Nat.le_refl _)
  have parts := Nat.div_add_mod (edges programmed) (edges programmed / 65535 + 1)
  have product :
      (edges programmed / 65535 + 1) *
          (edges programmed / (edges programmed / 65535 + 1)) ≤ 65534 * 65534 :=
    Nat.mul_le_mul (by omega) (by omega)
  rw [toNat_asTarget32_of_accepted accepted]
  omega

/-- A new target that is not accepted is far from the one that was read. -/
theorem far_of_not_accepted {target newTarget : UInt32} (readBack : ReadBack target)
    (refused : ¬ (transformTarget32 newTarget).isSome = true) :
    target ≠ newTarget ∧
      absDifference newTarget target > Config.minimumAdaptationInterval := by
  have small := readBack.le
  have large := mt (transformTarget32_isSome_iff newTarget).mpr refused
  have order : target.toNat < newTarget.toNat := by omega
  have notLess : ¬ newTarget < target := by
    rw [UInt32.lt_iff_toNat_lt]
    omega
  constructor
  · intro same
    rw [same] at order
    exact Nat.lt_irrefl _ order
  · have interval : Config.minimumAdaptationInterval.toNat = 50 := rfl
    rw [absDifference, if_neg notLess, gt_iff_lt, UInt32.lt_iff_toNat_lt, interval,
      UInt32.toNat_sub_of_le _ _ (UInt32.le_iff_toNat_le.mpr order.le)]
    omega

/-! ## The processors -/

/-- Whatever target comes with an answer is accepted by the counter. -/
def Accepted (answer : Answer) : Prop :=
  ∀ newTarget guardTicks, answer.newTarget = some (newTarget, guardTicks) →
    (transformTarget32 newTarget).isSome = true

private theorem accepted_of_none {answer : Answer} (none : answer.newTarget = none) :
    Accepted answer := by
  intro newTarget guardTicks isSome
  rw [none] at isSome
  cases isSome

private theorem accepted_some_iff {answer : Answer} {newTarget guardTicks : UInt32}
    (isSome : answer.newTarget = some (newTarget, guardTicks)) :
    Accepted answer ↔ (transformTarget32 newTarget).isSome = true := by
  constructor
  · intro accepted
    exact accepted newTarget guardTicks isSome
  · intro accepted other ticks same
    rw [isSome] at same
    cases same
    exact accepted

section Processors

variable {ch : FChannel} {target result : UInt32} {station : Station}

/-- Outside adaptation there is no new target. -/
theorem recorder_accepted_of_settled {self : RecorderProcessor}
    (settled : self.adaptateF = false) :
    Accepted (self.processFResult ch target result station).2 := by
  apply accepted_of_none
  simp [RecorderProcessor.processFResult, settled]

/-- During adaptation, the answer is accepted when the computed target is: one
that is not accepted is never the one that was read. -/
theorem recorder_accepted_iff {self : RecorderProcessor}
    (adapts : self.adaptateF = true) (readBack : ReadBack target) :
    Accepted (self.processFResult ch target result station).2 ↔
      (transformTarget32 (calcNewTarget ch
        (calcFreq self.frefMultiplier target result station.ws) self.sysclk
          station.ws).1).isSome = true := by
  by_cases same : target = (calcNewTarget ch
      (calcFreq self.frefMultiplier target result station.ws) self.sysclk station.ws).1
  · have none :
        (self.processFResult ch target result station).2.newTarget = none := by
      rw [RecorderProcessor.processFResult, if_pos adapts]
      dsimp only
      rw [if_neg (not_not_intro same)]
    refine iff_of_true (accepted_of_none none) ?_
    by_contra refused
    exact (far_of_not_accepted readBack refused).1 same
  · apply accepted_some_iff
    rw [RecorderProcessor.processFResult, if_pos adapts]
    dsimp only
    rw [if_pos same]

theorem recorder_safe_iff (self : RecorderProcessor) (readBack : ReadBack target)
    (timed : 20 ≤ (mtGetter ch station.ws).toNat) :
    Accepted (self.processFResult ch target result station).2 ↔
      self.adaptateF = false ∨ dividend self.frefMultiplier target station.ws ≤ 0 ∨
        dividend self.frefMultiplier target station.ws *
            (mtGetter ch station.ws).toNat <
          4294770691 * 1000 * result.toNat := by
  cases adapts : self.adaptateF with
  | false => exact iff_of_true (recorder_accepted_of_settled adapts) (Or.inl rfl)
  | true =>
      rw [recorder_accepted_iff adapts readBack, calcNewTarget_accepted_iff timed]
      simp

/-! ## High performance -/

section HighPerformance

variable (arithmetic : Arithmetic)

/-- Calculating a value changes nothing that the new target depends on. -/
theorem mtGetter_checkOver (quantity : Quantity) (current : Binary32) :
    mtGetter ch (checkOver quantity current station).ws = mtGetter ch station.ws := by
  cases ch <;> rfl

/-- The value is calculated, unless the pressure has no units. -/
theorem calcValue_cases (f : ExtendedRational) :
    ((ch = .pressure ∧ station.ws.pressureMeassureUnits = .invalidZero) ∧
      HighPerformanceProcessor.calcValue arithmetic ch f station = none) ∨
    (¬ (ch = .pressure ∧ station.ws.pressureMeassureUnits = .invalidZero) ∧
      ∃ after, HighPerformanceProcessor.calcValue arithmetic ch f station = some after ∧
        mtGetter ch after.ws = mtGetter ch station.ws) := by
  cases ch with
  | temperature =>
      have otherChannel : ¬ (FChannel.temperature = .pressure ∧
          station.ws.pressureMeassureUnits = .invalidZero) :=
        fun both => FChannel.noConfusion both.1
      exact Or.inr ⟨otherChannel, _, rfl, mtGetter_checkOver _ _⟩
  | pressure =>
      by_cases noUnits : station.ws.pressureMeassureUnits = .invalidZero
      · refine Or.inl ⟨⟨rfl, noUnits⟩, ?_⟩
        simp [HighPerformanceProcessor.calcValue, calcPressure, wrapMu, checkOver,
          Station.withWatch, noUnits]
      · refine Or.inr ⟨fun both => noUnits both.2, ?_⟩
        simp [HighPerformanceProcessor.calcValue, calcPressure, wrapMu, checkOver,
          Station.withWatch, noUnits, mtGetter]

private theorem calcNewTarget_congr {other : AppSettings}
    (same : mtGetter ch other = mtGetter ch station.ws) (f : ExtendedRational)
    (sysclk : UInt32) :
    calcNewTarget ch f sysclk other = calcNewTarget ch f sysclk station.ws := by
  rw [calcNewTarget, calcNewTarget, same]

/-- What is answered to a result that is measured and has a value. -/
theorem highPerformance_processFResult {self : HighPerformanceProcessor}
    (measured : (channelEnabled ch station.ws && decide (0 < result)) = true)
    (hasUnits : ¬ (ch = .pressure ∧ station.ws.pressureMeassureUnits = .invalidZero)) :
    ∃ after, self.processFResult arithmetic ch target result station =
      some (after,
        { continueWork := true
          newTarget :=
            if absDifference (calcNewTarget ch
                (calcFreq self.frefMultiplier target result station.ws) self.sysclk
                  station.ws).1 target > Config.minimumAdaptationInterval then
              some (calcNewTarget ch
                (calcFreq self.frefMultiplier target result station.ws) self.sysclk
                  station.ws)
            else
              none }) := by
  rw [HighPerformanceProcessor.processFResult, if_pos measured]
  dsimp only
  generalize stored : { station with
    output :=
      { station.output with
        targets := Function.update station.output.targets ch target
        results := Function.update station.output.results ch (some result)
        frequencys := Function.update station.output.frequencys ch
          (some (calcFreq self.frefMultiplier target result station.ws)) } } = storedStation
  have sameSettings : storedStation.ws = station.ws := by rw [← stored]
  rcases @calcValue_cases ch storedStation arithmetic
      (calcFreq self.frefMultiplier target result station.ws) with
    ⟨noUnits, _⟩ | ⟨_, after, calculated, same⟩
  · rw [sameSettings] at noUnits
    exact absurd noUnits hasUnits
  · rw [sameSettings] at same
    refine ⟨after, ?_⟩
    rw [calculated, Option.map_some, calcNewTarget_congr same]

/-- A result that is not measured sets no target. -/
theorem highPerformance_accepted_of_unmeasured {self : HighPerformanceProcessor}
    (unmeasured : ¬ (channelEnabled ch station.ws && decide (0 < result)) = true)
    {after : Station} {answer : Answer}
    (answered : self.processFResult arithmetic ch target result station =
      some (after, answer)) : Accepted answer := by
  rw [HighPerformanceProcessor.processFResult, if_neg unmeasured] at answered
  cases answered
  exact accepted_of_none rfl

/-- Without units, there is a panic before a target is computed. -/
theorem highPerformance_none {self : HighPerformanceProcessor}
    (measured : (channelEnabled ch station.ws && decide (0 < result)) = true)
    (noUnits : ch = .pressure ∧ station.ws.pressureMeassureUnits = .invalidZero) :
    self.processFResult arithmetic ch target result station = none := by
  obtain ⟨isPressure, noUnits⟩ := noUnits
  subst isPressure
  rw [HighPerformanceProcessor.processFResult, if_pos measured]
  simp [HighPerformanceProcessor.calcValue, calcPressure, wrapMu, checkOver,
    Station.withWatch, noUnits]

/-- A measured result is answered by an accepted target exactly when the
computed one is accepted: one that is not accepted is far enough from the one
that was read. -/
theorem highPerformance_accepted_iff {self : HighPerformanceProcessor}
    (measured : (channelEnabled ch station.ws && decide (0 < result)) = true)
    (hasUnits : ¬ (ch = .pressure ∧ station.ws.pressureMeassureUnits = .invalidZero))
    (readBack : ReadBack target) :
    (∀ after answer, self.processFResult arithmetic ch target result station =
        some (after, answer) → Accepted answer) ↔
      (transformTarget32 (calcNewTarget ch
        (calcFreq self.frefMultiplier target result station.ws) self.sysclk
          station.ws).1).isSome = true := by
  obtain ⟨final, answered⟩ := @highPerformance_processFResult ch target result station
    arithmetic self measured hasUnits
  have only : (∀ after answer,
      self.processFResult arithmetic ch target result station =
        some (after, answer) → Accepted answer) ↔ Accepted _ :=
    ⟨fun all => all _ _ answered, fun accepted after answer same => by
      rw [answered] at same
      cases same
      exact accepted⟩
  rw [only]
  by_cases far : absDifference (calcNewTarget ch
      (calcFreq self.frefMultiplier target result station.ws) self.sysclk
        station.ws).1 target > Config.minimumAdaptationInterval
  · exact accepted_some_iff (if_pos far)
  · refine iff_of_true (accepted_of_none (if_neg far)) ?_
    by_contra refused
    exact far (far_of_not_accepted readBack refused).2

theorem highPerformance_safe_iff (self : HighPerformanceProcessor)
    (readBack : ReadBack target) (timed : 20 ≤ (mtGetter ch station.ws).toNat) :
    (∀ after answer, self.processFResult arithmetic ch target result station =
        some (after, answer) → Accepted answer) ↔
      channelEnabled ch station.ws = false ∨ result = 0 ∨
        (ch = .pressure ∧ station.ws.pressureMeassureUnits = .invalidZero) ∨
        dividend self.frefMultiplier target station.ws *
            (mtGetter ch station.ws).toNat <
          4294770691 * 1000 * result.toNat := by
  by_cases measured : (channelEnabled ch station.ws && decide (0 < result)) = true
  · obtain ⟨isEnabled, isPositive⟩ := Bool.and_eq_true_iff.mp measured
    have positive : 0 < result := of_decide_eq_true isPositive
    have nonzero : result ≠ 0 := by
      intro zero
      rw [zero] at positive
      exact absurd positive (by decide)
    rw [isEnabled]
    by_cases noUnits :
        ch = .pressure ∧ station.ws.pressureMeassureUnits = .invalidZero
    · refine iff_of_true ?_ (Or.inr (Or.inr (Or.inl noUnits)))
      intro after answer answered
      rw [highPerformance_none arithmetic measured noUnits] at answered
      cases answered
    · have nothing : dividend self.frefMultiplier target station.ws ≤ 0 →
          dividend self.frefMultiplier target station.ws *
              (mtGetter ch station.ws).toNat <
            4294770691 * 1000 * result.toNat := by
        intro nonpos
        have ticks : (0 : ℚ) < result.toNat := by
          exact_mod_cast UInt32.lt_iff_toNat_lt.mp positive
        have product : dividend self.frefMultiplier target station.ws *
            (mtGetter ch station.ws).toNat ≤ 0 :=
          mul_nonpos_of_nonpos_of_nonneg nonpos (by positivity)
        exact product.trans_lt (by positivity)
      rw [highPerformance_accepted_iff arithmetic measured noUnits readBack,
        calcNewTarget_accepted_iff timed, or_iff_right_of_imp nothing]
      simp [nonzero, noUnits]
  · refine iff_of_true ?_ ?_
    · intro after answer answered
      exact highPerformance_accepted_of_unmeasured arithmetic measured answered
    · rw [Bool.and_eq_true_iff, not_and_or, Bool.not_eq_true, decide_eq_true_iff,
        UInt32.not_lt] at measured
      rcases measured with disabled | small
      · exact Or.inl disabled
      · exact Or.inr (Or.inl (UInt32.le_antisymm small (UInt32.zero_le)))

end HighPerformance

end Processors

/-- When the answer to a result sets a target that the counter accepts.  The
recorder's processor needs, during adaptation, a result that is not too small
for the frequency: with no ticks at all, an infinite one.  The other processor
is safe from that one only, and where it stops before the target. -/
theorem adaptation_accepted_iff (recorder : RecorderProcessor)
    (highPerformance : HighPerformanceProcessor) (arithmetic : Arithmetic)
    {ch : FChannel} {target : UInt32} (result : UInt32) {station : Station}
    (readBack : ReadBack target) (timed : 20 ≤ (mtGetter ch station.ws).toNat) :
    (Accepted (recorder.processFResult ch target result station).2 ↔
      recorder.adaptateF = false ∨
        dividend recorder.frefMultiplier target station.ws ≤ 0 ∨
        dividend recorder.frefMultiplier target station.ws *
            (mtGetter ch station.ws).toNat <
          4294770691 * 1000 * result.toNat) ∧
    ((∀ after answer,
      highPerformance.processFResult arithmetic ch target result station =
        some (after, answer) → Accepted answer) ↔
      channelEnabled ch station.ws = false ∨ result = 0 ∨
        (ch = .pressure ∧ station.ws.pressureMeassureUnits = .invalidZero) ∨
        dividend highPerformance.frefMultiplier target station.ws *
            (mtGetter ch station.ws).toNat <
          4294770691 * 1000 * result.toNat) :=
  ⟨recorder_safe_iff recorder readBack timed,
    highPerformance_safe_iff arithmetic highPerformance readBack timed⟩

/-! ## Fresh settings -/

/-- The settings of a device that was never configured. -/
def freshStation : Station where
  ws := Settings.defaultSettings { day := 18, month := 11, year := 2025 }
  monitors _ := { counter := 0 }
  vbatUnderMonitor := { counter := 0 }
  saves := []
  output :=
    { targets := fun _ => Config.initialFreqmeterTarget
      results := fun _ => none
      frequencys := fun _ => none
      values := fun _ => none
      tCpu := .zero
      tCpuAdc := 0
      vbat := .zero
      vbatAdc := 0 }

/-- With the default coefficients a value is its frequency; 160000 is the only
one that is converted below. -/
def freshArithmetic : Arithmetic where
  calcP fp _ _ _ := fp
  calcT f _ := f
  convertUnits p _ := p
  addCorrection value _ := value
  asF32 _ := ⟨0x481C4000⟩
  dividedVoltage _ := .zero

/-- The clocks of the two modes, as multiples of the reference. -/
def adaptingRecorder : RecorderProcessor where
  frefMultiplier := 1 / 8
  sysclk := 3000000
  adaptateF := true

def freshHighPerformance : HighPerformanceProcessor where
  frefMultiplier := 10 / 3
  sysclk := 80000000

/-- The initial target is read back as three. -/
theorem readBack_initial : ReadBack 3 :=
  ⟨Config.initialFreqmeterTarget, 0, 2,
    transformTarget32_eq_some_iff.mpr (by decide), by decide⟩

theorem adaptation_accepted_fresh :
    (Accepted (adaptingRecorder.processFResult .pressure 3 1500 freshStation).2 ↔
      adaptingRecorder.adaptateF = false ∨
        dividend adaptingRecorder.frefMultiplier 3 freshStation.ws ≤ 0 ∨
        dividend adaptingRecorder.frefMultiplier 3 freshStation.ws *
            (mtGetter .pressure freshStation.ws).toNat <
          4294770691 * 1000 * (1500 : UInt32).toNat) ∧
    ((∀ after answer,
      freshHighPerformance.processFResult freshArithmetic .pressure 3 1500
        freshStation = some (after, answer) → Accepted answer) ↔
      channelEnabled .pressure freshStation.ws = false ∨ (1500 : UInt32) = 0 ∨
        (FChannel.pressure = .pressure ∧
          freshStation.ws.pressureMeassureUnits = .invalidZero) ∨
        dividend freshHighPerformance.frefMultiplier 3 freshStation.ws *
            (mtGetter .pressure freshStation.ws).toNat <
          4294770691 * 1000 * (1500 : UInt32).toNat) :=
  adaptation_accepted_iff adaptingRecorder freshHighPerformance freshArithmetic 1500
    readBack_initial (by decide)

private theorem dividend_fresh (frefMultiplier : ℚ) (target : UInt32) :
    dividend frefMultiplier target freshStation.ws =
      frefMultiplier * 24000000 * target.toNat := by
  have fref : freshStation.ws.fref.toNat = 24000000 := rfl
  rw [dividend, fref]
  norm_num

/-- Two captures at the same tick during adaptation of the recorder, and one
tick between them at a target of 3001 in the other mode, ask for a target that
no prescaler fits. -/
theorem adaptation_panics :
    ReadBack 3 ∧ ReadBack 3001 ∧
      ¬ Accepted (adaptingRecorder.processFResult .pressure 3 0 freshStation).2 ∧
      ¬ ∀ after answer, freshHighPerformance.processFResult freshArithmetic
        .temperature 3001 1 freshStation = some (after, answer) → Accepted answer := by
  have readBack : ReadBack 3001 :=
    ⟨3001, 0, 3000, transformTarget32_eq_some_iff.mpr (by decide), by decide⟩
  have pressureTime : (mtGetter .pressure freshStation.ws).toNat = 20 := rfl
  have temperatureTime : (mtGetter .temperature freshStation.ws).toNat = 20 := rfl
  have target : (3001 : UInt32).toNat = 3001 := rfl
  have initial : (3 : UInt32).toNat = 3 := rfl
  have noTicks : (0 : UInt32).toNat = 0 := rfl
  have oneTick : (1 : UInt32).toNat = 1 := rfl
  have isEnabled : channelEnabled .temperature freshStation.ws = true := rfl
  refine ⟨readBack_initial, readBack, ?_, ?_⟩
  · rw [recorder_safe_iff _ readBack_initial (by decide), dividend_fresh, pressureTime,
      initial, noTicks]
    norm_num [adaptingRecorder]
  · rw [highPerformance_safe_iff _ _ readBack (by decide), dividend_fresh,
      temperatureTime, target, oneTick, isEnabled]
    norm_num [freshHighPerformance]
    exact ⟨by decide, fun other => FChannel.noConfusion other⟩

end SelfWriter.Processing
