import SelfWriter.Lib.Limits
import SelfWriter.Protobuf.UpdateSettings

/-!
# The order of the work ranges

`WorkRange::validate` (`protobuf/messages.rs`) compares the bounds that one
request carries; `update_settings` then stores them one by one, over bounds that
earlier requests have left.
-/

namespace SelfWriter.Protobuf

open SelfWriter.Lib SelfWriter.Settings
open SelfWriter.Protobuf.Messages (WriteSettingsReq)

/-! ## Ordered ranges -/

/-- A work range whose bounds are in order; a bound that is not a number limits
nothing. -/
structure Ordered (range : WorkRange) : Prop where
  minimumMaximum : range.minimum.lower ≤ range.maximum.upper
  maximumAbsoluteMaximum : range.absoluteMaximum.isNaN = false →
    range.maximum.upper ≤ range.absoluteMaximum.upper
  minimumAbsoluteMaximum : range.absoluteMaximum.isNaN = false →
    range.minimum.lower ≤ range.absoluteMaximum.upper

structure RangesOrdered (ws : AppSettings) : Prop where
  p : Ordered ws.pWorkRange
  t : Ordered ws.tWorkRange
  tcpu : Ordered ws.tcpuWorkRange
  vbat : Ordered ws.vbatWorkRange

/-- What the program's `<` can say of a range. -/
structure Compared (range : WorkRange) : Prop where
  minimumMaximum : range.maximum.lt range.minimum = false
  maximumAbsoluteMaximum : range.absoluteMaximum.lt range.maximum = false
  minimumAbsoluteMaximum : range.absoluteMaximum.lt range.minimum = false

/-- It does not see an unlimited maximum under an absolute one. -/
theorem ordered_iff {range : WorkRange} :
    Ordered range ↔
      Compared range ∧
        (range.maximum.isNaN = true → range.absoluteMaximum.isNaN = true) := by
  constructor
  · rintro ⟨minimumMaximum, maximumAbsolute, minimumAbsolute⟩
    have order := Binary32.lower_le_upper_iff.mp minimumMaximum
    cases limit : range.absoluteMaximum.isNaN with
    | true =>
        exact ⟨⟨order, Binary32.lt_of_isNaN_left limit,
          Binary32.lt_of_isNaN_left limit⟩, fun _ => rfl⟩
    | false =>
        have above := Binary32.lower_le_upper_iff.mp (minimumAbsolute limit)
        obtain ⟨below, unlimited⟩ :=
          Binary32.upper_le_upper_iff.mp (maximumAbsolute limit)
        rw [limit] at unlimited
        exact ⟨⟨order, below, above⟩, unlimited⟩
  · rintro ⟨compared, unlimited⟩
    have order : range.minimum.lower ≤ range.maximum.upper :=
      Binary32.lower_le_upper_iff.mpr compared.minimumMaximum
    have atMost : range.maximum.upper ≤ range.absoluteMaximum.upper :=
      Binary32.upper_le_upper_iff.mpr
        ⟨compared.maximumAbsoluteMaximum, unlimited⟩
    have atLeast : range.minimum.lower ≤ range.absoluteMaximum.upper :=
      Binary32.lower_le_upper_iff.mpr compared.minimumAbsoluteMaximum
    exact ⟨order, fun _ => atMost, fun _ => atLeast⟩

private theorem rangesOrdered_default (build : CalibrationDate) :
    RangesOrdered (defaultSettings build) := by
  have p : Ordered ⟨.zero, ⟨0x42C80000⟩, ⟨0x7FC00000⟩⟩ :=
    ordered_iff.mpr ⟨⟨by decide, by decide, by decide⟩, by decide⟩
  have t : Ordered ⟨⟨0xC2480000⟩, ⟨0x42F00000⟩, ⟨0x7FC00000⟩⟩ :=
    ordered_iff.mpr ⟨⟨by decide, by decide, by decide⟩, by decide⟩
  have vbat : Ordered ⟨⟨0x400CCCCD⟩, ⟨0x40B00000⟩, ⟨0x40C00000⟩⟩ :=
    ordered_iff.mpr ⟨⟨by decide, by decide, by decide⟩, by decide⟩
  exact ⟨p, t, t, vbat⟩

/-! ## What the check sees -/

/-- Where both bounds are set, the one is not below the other. -/
def NotBelow (above below : Option Binary32) : Prop :=
  ∀ x y, above = some x → below = some y → x.lt y = false

/-- The bounds that a message carries are in order. -/
structure Checked (range : Messages.WorkRange) : Prop where
  minimumMaximum : NotBelow range.maximum range.minimum
  maximumAbsoluteMaximum : NotBelow range.absoluteMaximum range.maximum
  minimumAbsoluteMaximum : NotBelow range.absoluteMaximum range.minimum

private theorem notBelow_none {below : Option Binary32} : NotBelow none below := by
  intro x y set
  cases set

/-- The condition as the source writes it. -/
theorem notBelow_iff {above below : Option Binary32} :
    NotBelow above below ↔
      (above.isSome && below.isSome &&
        (above.getD .zero).lt (below.getD .zero)) = false := by
  cases above with
  | none => exact ⟨fun _ => rfl, fun _ => notBelow_none⟩
  | some x =>
      cases below with
      | none => exact ⟨fun _ => rfl, fun _ _ _ _ set => (by cases set)⟩
      | some y =>
          constructor
          · intro notBelow
            exact notBelow x y rfl rfl
          · intro inOrder _ _ set set'
            cases set
            cases set'
            exact inOrder

private theorem checked_iff {range : Messages.WorkRange} :
    Checked range ↔
      NotBelow range.absoluteMaximum range.maximum ∧
        NotBelow range.absoluteMaximum range.minimum ∧
        NotBelow range.maximum range.minimum := by
  constructor
  · intro checked
    exact ⟨checked.maximumAbsoluteMaximum, checked.minimumAbsoluteMaximum,
      checked.minimumMaximum⟩
  · rintro ⟨atMost, atLeast, order⟩
    exact ⟨order, atMost, atLeast⟩

/-- The check sees exactly the bounds of the message itself. -/
theorem validate_ok_iff {range : Messages.WorkRange} :
    range.validate = .ok () ↔ Checked range := by
  obtain ⟨minimum, maximum, absoluteMaximum⟩ := range
  rw [checked_iff, notBelow_iff, notBelow_iff, notBelow_iff,
    Messages.WorkRange.validate]
  cases absoluteMaximum with
  | none =>
      cases crossed : maximum.isSome && minimum.isSome &&
        (maximum.getD .zero).lt (minimum.getD .zero) <;> simp
  | some limit =>
      simp only [Option.isSome_some, Bool.true_and, Option.getD_some]
      cases above : maximum.isSome && limit.lt (maximum.getD .zero) with
      | true => simp
      | false =>
          cases above' : minimum.isSome && limit.lt (minimum.getD .zero) with
          | true => simp
          | false =>
              cases crossed : maximum.isSome && minimum.isSome &&
                (maximum.getD .zero).lt (minimum.getD .zero) <;> simp

private theorem checked_of_verifyWorkRange {passwordInvalid : Bool}
    {denied invalid : String} {range : Messages.WorkRange}
    (verified :
      verifyWorkRange passwordInvalid denied invalid (some range) = .ok ()) :
    Checked range := by
  cases carried : hasBound range with
  | true =>
      rw [verifyWorkRange, if_pos carried] at verified
      obtain ⟨_, valid⟩ := check_seq verified
      cases result : range.validate with
      | ok _ => exact validate_ok_iff.mp result
      | error error => simp [result] at valid
  | false =>
      obtain ⟨minimum, maximum, absoluteMaximum⟩ := range
      simp only [hasBound, Bool.or_eq_false_iff, Option.isSome_eq_false_iff,
        Option.isNone_iff_eq_none] at carried
      obtain ⟨⟨rfl, rfl⟩, rfl⟩ := carried
      exact ⟨notBelow_none, notBelow_none, notBelow_none⟩

/-! ## What the stored bounds add -/

/-- A bound that is set, against the stored value of the one that is not. -/
structure Fits (above below : Option Binary32) (oldAbove oldBelow : Binary32) :
    Prop where
  aboveSet : ∀ x, above = some x → below = none → x.lt oldBelow = false
  belowSet : ∀ y, below = some y → above = none → oldAbove.lt y = false

/-- The bounds that a message sets are in order with the stored bounds that it
leaves out, and it leaves no unlimited maximum under an absolute one. -/
structure RangeFits (request : Messages.WorkRange) (old : WorkRange) : Prop where
  minimumMaximum :
    Fits request.maximum request.minimum old.maximum old.minimum
  maximumAbsoluteMaximum :
    Fits request.absoluteMaximum request.maximum old.absoluteMaximum old.maximum
  minimumAbsoluteMaximum :
    Fits request.absoluteMaximum request.minimum old.absoluteMaximum old.minimum
  unlimitedMaximum : ∀ x, request.maximum = some x → x.isNaN = true →
    (request.absoluteMaximum.getD old.absoluteMaximum).isNaN = true
  limitSet : ∀ x, request.absoluteMaximum = some x → request.maximum = none →
    old.maximum.isNaN = true → x.isNaN = true

structure RangesFit (w : WriteSettingsReq) (ws : AppSettings) : Prop where
  p : ∀ range, w.setPWorkRange = some range → RangeFits range ws.pWorkRange
  t : ∀ range, w.setTWorkRange = some range → RangeFits range ws.tWorkRange
  tcpu : ∀ range, w.setTcpuWorkRange = some range →
    RangeFits range ws.tcpuWorkRange
  vbat : ∀ range, w.setBatWorkRange = some range →
    RangeFits range ws.vbatWorkRange

/-- Bounds that were both set or both left out are in order by the check and by
the order before; the rest is to fit. -/
theorem merged_iff {above below : Option Binary32} {oldAbove oldBelow : Binary32}
    (checked : NotBelow above below) (stored : oldAbove.lt oldBelow = false) :
    (above.getD oldAbove).lt (below.getD oldBelow) = false ↔
      Fits above below oldAbove oldBelow := by
  constructor
  · intro merged
    constructor
    · rintro x rfl rfl
      exact merged
    · rintro y rfl rfl
      exact merged
  · rintro ⟨fitsAbove, fitsBelow⟩
    cases above with
    | none =>
        cases below with
        | none => exact stored
        | some y => exact fitsBelow y rfl rfl
    | some x =>
        cases below with
        | none => exact fitsAbove x rfl rfl
        | some y => exact checked x y rfl rfl

private theorem fits_of_none {oldAbove oldBelow : Binary32} :
    Fits none none oldAbove oldBelow where
  aboveSet x set _ := by cases set
  belowSet y set _ := by cases set

private theorem fits_below_iff {y oldAbove oldBelow : Binary32} :
    Fits none (some y) oldAbove oldBelow ↔ oldAbove.lt y = false := by
  constructor
  · intro fits
    exact fits.belowSet y rfl rfl
  · intro below
    constructor
    · intro x set _
      cases set
    · intro y' set _
      cases set
      exact below

/-- A minimum alone is compared with both stored maxima. -/
theorem rangeFits_minimum_iff {y : Binary32} {old : WorkRange} :
    RangeFits { minimum := some y, maximum := none, absoluteMaximum := none }
        old ↔
      old.maximum.lt y = false ∧ old.absoluteMaximum.lt y = false := by
  constructor
  · intro fits
    exact ⟨fits_below_iff.mp fits.minimumMaximum,
      fits_below_iff.mp fits.minimumAbsoluteMaximum⟩
  · rintro ⟨atMost, atMostAbsolute⟩
    refine ⟨fits_below_iff.mpr atMost, fits_of_none,
      fits_below_iff.mpr atMostAbsolute, ?_, ?_⟩
    · intro x set
      cases set
    · intro x set
      cases set

private theorem unlimited_iff (request : Messages.WorkRange) {old : WorkRange}
    (stored : old.maximum.isNaN = true → old.absoluteMaximum.isNaN = true) :
    ((request.maximum.getD old.maximum).isNaN = true →
        (request.absoluteMaximum.getD old.absoluteMaximum).isNaN = true) ↔
      (∀ x, request.maximum = some x → x.isNaN = true →
        (request.absoluteMaximum.getD old.absoluteMaximum).isNaN = true) ∧
      ∀ x, request.absoluteMaximum = some x → request.maximum = none →
        old.maximum.isNaN = true → x.isNaN = true := by
  obtain ⟨minimum, maximum, absoluteMaximum⟩ := request
  constructor
  · intro merged
    constructor
    · rintro x rfl
      exact merged
    · rintro x rfl rfl
      exact merged
  · rintro ⟨unlimitedMaximum, limitSet⟩
    cases maximum with
    | some x => exact unlimitedMaximum x rfl
    | none =>
        cases absoluteMaximum with
        | none => exact stored
        | some x => exact limitSet x rfl rfl

private theorem overWorkRange_ordered_iff {request : Messages.WorkRange}
    {old : WorkRange} (checked : Checked request) (ordered : Ordered old) :
    Ordered (overWorkRange request old) ↔ RangeFits request old := by
  obtain ⟨compared, stored⟩ := ordered_iff.mp ordered
  have order := merged_iff checked.minimumMaximum compared.minimumMaximum
  have atMost := merged_iff checked.maximumAbsoluteMaximum
    compared.maximumAbsoluteMaximum
  have atLeast := merged_iff checked.minimumAbsoluteMaximum
    compared.minimumAbsoluteMaximum
  have unlimited := unlimited_iff request stored
  rw [ordered_iff]
  constructor
  · rintro ⟨⟨minimumMaximum, maximumAbsolute, minimumAbsolute⟩, limits⟩
    obtain ⟨unlimitedMaximum, limitSet⟩ := unlimited.mp limits
    exact ⟨order.mp minimumMaximum, atMost.mp maximumAbsolute,
      atLeast.mp minimumAbsolute, unlimitedMaximum, limitSet⟩
  · rintro ⟨minimumMaximum, maximumAbsolute, minimumAbsolute,
      unlimitedMaximum, limitSet⟩
    exact ⟨⟨order.mpr minimumMaximum, atMost.mpr maximumAbsolute,
      atLeast.mpr minimumAbsolute⟩, unlimited.mpr ⟨unlimitedMaximum, limitSet⟩⟩

/-- The four ranges differ in the texts of their checks only. -/
theorem stored_ordered_iff {passwordInvalid : Bool} {denied invalid : String}
    {request : Option Messages.WorkRange} {old : WorkRange}
    (verified : verifyWorkRange passwordInvalid denied invalid request = .ok ())
    (ordered : Ordered old) :
    Ordered (overOld overWorkRange request old) ↔
      ∀ range, request = some range → RangeFits range old := by
  cases request with
  | none => exact ⟨fun _ _ set => (by cases set), fun _ => ordered⟩
  | some range =>
      have checked := checked_of_verifyWorkRange verified
      have merged := overWorkRange_ordered_iff checked ordered
      constructor
      · rintro after _ ⟨⟩
        exact merged.mp after
      · intro fits
        exact merged.mpr (fits range rfl)

private theorem requested_ordered_iff {build : CalibrationDate} {passwordInvalid : Bool}
    {w : WriteSettingsReq} {ws : AppSettings}
    (verified : Verified build passwordInvalid w) (ordered : RangesOrdered ws) :
    RangesOrdered (requested w ws) ↔ RangesFit w ws := by
  have p := stored_ordered_iff verified.pWorkRange ordered.p
  have t := stored_ordered_iff verified.tWorkRange ordered.t
  have tcpu := stored_ordered_iff verified.tcpuWorkRange ordered.tcpu
  have vbat := stored_ordered_iff verified.batWorkRange ordered.vbat
  constructor
  · intro after
    exact ⟨p.mp after.p, t.mp after.t, tcpu.mp after.tcpu, vbat.mp after.vbat⟩
  · intro fits
    exact ⟨p.mpr fits.p, t.mpr fits.t, tcpu.mpr fits.tcpu, vbat.mpr fits.vbat⟩

/-! ## Runs of requests -/

/-- The settings before and after an accepted request, whatever the session. -/
def Accepted (build : CalibrationDate) (w : WriteSettingsReq)
    (ws ws' : AppSettings) : Prop :=
  ∃ world after ts ts' needWrite, world.settings = some (ws, ts) ∧
    updateSettings build w world = .ok needWrite after ∧
    after.settings = some (ws', ts')

theorem Accepted.requested {build : CalibrationDate} {w : WriteSettingsReq}
    {ws ws' : AppSettings} (accepted : Accepted build w ws ws') :
    (∃ passwordInvalid, Verified build passwordInvalid w) ∧
      ws' = Protobuf.requested w ws := by
  obtain ⟨world, after, ts, ts', needWrite, settings, runs, stored⟩ := accepted
  obtain ⟨ws₀, ts₀, settings₀, verified, stored₀, _⟩ := updateSettings_ok runs
  rw [settings] at settings₀
  cases settings₀
  rw [stored] at stored₀
  cases stored₀
  exact ⟨⟨_, verified_of_verifyFields verified⟩, rfl⟩

/-- The settings that accepted requests lead to from the defaults when each of
them fits the ranges it finds. -/
inductive FittingRun (build : CalibrationDate) : AppSettings → Prop where
  | default : FittingRun build (defaultSettings build)
  | update {w : WriteSettingsReq} {ws ws' : AppSettings}
      (before : FittingRun build ws) (accepted : Accepted build w ws ws')
      (fits : RangesFit w ws) : FittingRun build ws'

/-- One accepted request keeps the order exactly when it fits. -/
theorem Accepted.ordered_iff {build : CalibrationDate} {w : WriteSettingsReq}
    {ws ws' : AppSettings} (accepted : Accepted build w ws ws')
    (ordered : RangesOrdered ws) : RangesOrdered ws' ↔ RangesFit w ws := by
  obtain ⟨⟨_, verified⟩, rfl⟩ := accepted.requested
  exact requested_ordered_iff verified ordered

theorem FittingRun.ordered {build : CalibrationDate} {ws : AppSettings}
    (run : FittingRun build ws) : RangesOrdered ws := by
  induction run with
  | default => exact rangesOrdered_default build
  | update _ accepted fits inductionHypothesis =>
      exact (accepted.ordered_iff inductionHypothesis).mpr fits

/-- The stored ranges are in order throughout every run of accepted requests
that fit, and the first request that does not fit ends that. -/
theorem work_ranges_ordered_while_fitting (build : CalibrationDate)
    {ws : AppSettings} (run : FittingRun build ws) :
    RangesOrdered ws ∧
      ∀ w ws', Accepted build w ws ws' →
        (RangesOrdered ws' ↔ RangesFit w ws) := by
  have ordered := run.ordered
  refine ⟨ordered, ?_⟩
  intro w ws' accepted
  exact accepted.ordered_iff ordered

/-- Sets nothing but the lowest pressure. -/
def minimumRequest (minimum : Binary32) : WriteSettingsReq :=
  { Messages.emptyRequest with
    setPWorkRange := some
      { minimum := some minimum, maximum := none, absoluteMaximum := none } }

private theorem rangesFit_minimumRequest {minimum : Binary32} {ws : AppSettings}
    (fits : RangeFits
      { minimum := some minimum, maximum := none, absoluteMaximum := none }
      ws.pWorkRange) : RangesFit (minimumRequest minimum) ws := by
  constructor
  · intro range set
    cases set
    exact fits
  · intro range set
    cases set
  · intro range set
    cases set
  · intro range set
    cases set

/-- The lowest pressure raised to 10.0. -/
theorem work_ranges_ordered_while_fitting_raised :
    ∃ ws, FittingRun sampleBuild ws ∧
      ws.pWorkRange.minimum = ⟨0x41200000⟩ ∧ RangesOrdered ws := by
  have accepted : Accepted sampleBuild (minimumRequest ⟨0x41200000⟩)
      (defaultSettings sampleBuild)
      (requested (minimumRequest ⟨0x41200000⟩) (defaultSettings sampleBuild)) :=
    ⟨unlockedWorld, _, _, _, true, rfl, rfl, rfl⟩
  have range : RangeFits
      { minimum := some ⟨0x41200000⟩, maximum := none, absoluteMaximum := none }
      (defaultSettings sampleBuild).pWorkRange :=
    rangeFits_minimum_iff.mpr ⟨by decide, by decide⟩
  have fits := rangesFit_minimumRequest range
  have run : FittingRun sampleBuild _ := .update .default accepted fits
  exact ⟨_, run, rfl, (work_ranges_ordered_while_fitting sampleBuild run).1⟩

/-- The lowest pressure raised to 200.0, where the highest is 100.0. -/
theorem minimum_stored_above_maximum :
    ∃ after ws ts,
      updateSettings sampleBuild (minimumRequest ⟨0x43480000⟩) unlockedWorld =
        .ok true after ∧
      after.settings = some (ws, ts) ∧ Configured sampleBuild ws ∧
      ws.pWorkRange.maximum.lt ws.pWorkRange.minimum = true ∧
      ¬ RangesOrdered ws := by
  obtain ⟨after, accepted⟩ :
      ∃ after,
        updateSettings sampleBuild (minimumRequest ⟨0x43480000⟩) unlockedWorld =
          .ok true after :=
    ⟨_, rfl⟩
  obtain ⟨ws, ts, settings, _, stored, _⟩ := updateSettings_ok accepted
  cases settings
  refine ⟨after, _, _, accepted, stored,
    .update .default rfl accepted stored, by decide, ?_⟩
  intro ordered
  have compared := (ordered_iff.mp ordered.p).1.minimumMaximum
  exact absurd compared (by decide)

end SelfWriter.Protobuf
