import Mathlib.Data.Prod.Lex
import SelfWriter.Protobuf.UpdateSettings

/-!
# Calibration dates before the build

`CalibrationDate::validate` (`protobuf/messages.rs`) refuses dates before the
build of the firmware as past.  It asks for a later day within the year even
where the year is a later one.
-/

namespace SelfWriter.Protobuf

open SelfWriter.Lib.Hoare SelfWriter.Settings
open SelfWriter.Protobuf.Messages (WriteSettingsReq)

/-! ## Both components, or the first that differs -/

section Order

variable {α β : Type} [LinearOrder α] [LinearOrder β]

/-- Where the first component grows, the lexicographic order does not ask for
the second. -/
theorem both_le_iff_lex_le_iff (a a' : α) (b b' : β) :
    (a ≤ a' ∧ b ≤ b' ↔ toLex (a, b) ≤ toLex (a', b')) ↔ a' ≤ a ∨ b ≤ b' := by
  rw [Prod.Lex.toLex_le_toLex]
  constructor
  · intro same
    by_contra neither
    rw [not_or, not_le, not_le] at neither
    obtain ⟨later, earlier⟩ := neither
    exact not_le.mpr earlier (same.mpr (Or.inl later)).2
  · rintro (notLater | inOrder)
    · constructor
      · rintro ⟨first, second⟩
        exact Or.inr ⟨le_antisymm first notLater, second⟩
      · rintro (later | ⟨same, second⟩)
        · exact absurd later (not_lt.mpr notLater)
        · exact ⟨same.le, second⟩
    · constructor
      · rintro ⟨first, _⟩
        rcases first.lt_or_eq with later | same
        · exact Or.inl later
        · exact Or.inr ⟨same, inOrder⟩
      · rintro (later | ⟨same, second⟩)
        · exact ⟨later.le, inOrder⟩
        · exact ⟨same.le, second⟩

end Order

/-! ## Calendar order -/

def dayOfYear (date : CalibrationDate) : Nat ×ₗ Nat :=
  toLex (date.month.toNat, date.day.toNat)

def calendar (date : CalibrationDate) : Nat ×ₗ Nat ×ₗ Nat :=
  toLex (date.year.toNat, dayOfYear date)

private theorem dayOfYear_lt_iff {date date' : CalibrationDate} :
    dayOfYear date < dayOfYear date' ↔
      date.month < date'.month ∨
        date.month = date'.month ∧ date.day < date'.day := by
  rw [dayOfYear, dayOfYear, Prod.Lex.toLex_lt_toLex, UInt32.toNat_inj]
  rfl

/-- A day from 1 to 31 of a month from 1 to 12. -/
structure InYear (date : CalibrationDate) : Prop where
  dayPositive : 1 ≤ date.day
  dayBounded : date.day ≤ 31
  monthPositive : 1 ≤ date.month
  monthBounded : date.month ≤ 12

/-! ## What the check asks for -/

/-- The comparisons for a date that has all three fields. -/
theorem validate_from_eq (build date : CalibrationDate) :
    (Messages.CalibrationDate.from date).validate build =
      if decide (date.day > 31) then .error .day
      else if date.month > 12 || date.month < 1 then .error .month
      else if date.year < build.year then .error .past
      else if date.month < build.month then .error .past
      else if date.month = build.month && date.day < build.day then .error .past
      else .ok () :=
  rfl

/-- The last two comparisons are one, of the days within the year. -/
theorem withinYear_eq (build date : CalibrationDate) :
    (if date.month < build.month then .error .past
      else if date.month = build.month && date.day < build.day then .error .past
      else .ok () : Except Messages.DateField Unit) =
      if dayOfYear date < dayOfYear build then .error .past else .ok () := by
  have onDay : (decide (date.month = build.month) &&
      decide (date.day < build.day)) = true ↔
        date.month = build.month ∧ date.day < build.day := by
    rw [Bool.and_eq_true, decide_eq_true_eq, decide_eq_true_eq]
  by_cases past : dayOfYear date < dayOfYear build
  · rw [if_pos past]
    rcases dayOfYear_lt_iff.mp past with monthPast | dayPast
    · rw [if_pos monthPast]
    · have notBefore : ¬ date.month < build.month := by
        rw [dayPast.1]
        exact UInt32.lt_irrefl _
      rw [if_neg notBefore, if_pos (onDay.mpr dayPast)]
  · rw [if_neg past]
    rw [dayOfYear_lt_iff, not_or] at past
    obtain ⟨monthPast, dayPast⟩ := past
    rw [if_neg monthPast, if_neg (fun both => dayPast (onDay.mp both))]

/-- A date of a later year is asked for a later day within the year too. -/
theorem validate_from {build date : CalibrationDate} (inYear : InYear date) :
    (Messages.CalibrationDate.from date).validate build =
      if build.year ≤ date.year ∧ dayOfYear build ≤ dayOfYear date then
        .ok ()
      else
        .error .past := by
  have day : decide (date.day > 31) = false :=
    decide_eq_false (UInt32.not_lt.mpr inYear.dayBounded)
  have month : (decide (date.month > 12) || decide (date.month < 1)) = false := by
    rw [decide_eq_false (UInt32.not_lt.mpr inYear.monthBounded),
      decide_eq_false (UInt32.not_lt.mpr inYear.monthPositive), Bool.or_self]
  rw [validate_from_eq, day, month, if_neg Bool.false_ne_true,
    if_neg Bool.false_ne_true, withinYear_eq]
  by_cases yearPast : date.year < build.year
  · rw [if_pos yearPast, if_neg]
    rintro ⟨notPast, _⟩
    exact UInt32.not_le.mpr yearPast notPast
  · have year := UInt32.not_lt.mp yearPast
    rw [if_neg yearPast]
    by_cases past : dayOfYear date < dayOfYear build
    · rw [if_pos past, if_neg]
      rintro ⟨_, notPast⟩
      exact not_le.mpr past notPast
    · rw [if_neg past, if_pos ⟨year, not_lt.mp past⟩]

/-! ## Requests with a date -/

/-- `verify_parameters` lets the request through. -/
def Accepts (build : CalibrationDate) (w : WriteSettingsReq) (world : World) :
    Prop :=
  ∃ after, verifyParameters build w world = .ok () after

private theorem verifyFields_date_iff {build : CalibrationDate} {passwordInvalid : Bool}
    {w : WriteSettingsReq} (date : Option Messages.CalibrationDate) :
    verifyFields build passwordInvalid { w with setCalibrationDate := date } =
        .ok () ↔
      verifyFields build passwordInvalid { w with setCalibrationDate := none } =
          .ok () ∧
        verifyCalibrationDate build date = .ok () := by
  constructor
  · intro passes
    have verified := verified_of_verifyFields passes
    exact ⟨verifyFields_of_verified { verified with calibrationDate := rfl },
      verified.calibrationDate⟩
  · rintro ⟨passes, dateVerified⟩
    have verified := verified_of_verifyFields passes
    exact verifyFields_of_verified { verified with calibrationDate := dateVerified }

private theorem accepts_iff_of_read {build : CalibrationDate} {w : WriteSettingsReq}
    {world between : World} {passwordInvalid : Bool}
    (reads : settingsAction (do
        let work ← get
        pure (decide (work.ws.password ≠ work.ts.currentPassword))) world =
      (.ok passwordInvalid between :
        EStateM.Result (SettingActionError String) World Bool)) :
    Accepts build w world ↔ verifyFields build passwordInvalid w = .ok () := by
  rw [Accepts, verifyParameters, bind_of_ok _ reads]
  cases fields : verifyFields build passwordInvalid w with
  | ok _ => exact ⟨fun _ => rfl, fun _ => ⟨between, rfl⟩⟩
  | error error =>
      constructor
      · rintro ⟨after, accepted⟩
        cases accepted
      · intro passes
        cases passes

/-- When the rest of the request passes, the date decides. -/
theorem accepts_date_iff {build : CalibrationDate} {w : WriteSettingsReq}
    {world : World} (date : Option Messages.CalibrationDate)
    (rest : Accepts build { w with setCalibrationDate := none } world) :
    Accepts build { w with setCalibrationDate := date } world ↔
      verifyCalibrationDate build date = .ok () := by
  have passes := rest
  obtain ⟨_, passes⟩ := passes
  obtain ⟨passwordInvalid, between, reads, _⟩ := ok_of_bind passes
  have others := (accepts_iff_of_read reads).mp rest
  rw [accepts_iff_of_read reads, verifyFields_date_iff date]
  exact ⟨And.right, fun verified => ⟨others, verified⟩⟩

private theorem verifyCalibrationDate_from_iff {build date : CalibrationDate}
    (inYear : InYear date) :
    verifyCalibrationDate build (some (.from date)) = .ok () ↔
      build.year ≤ date.year ∧ dayOfYear build ≤ dayOfYear date := by
  rw [verifyCalibrationDate, validate_from inYear]
  by_cases within : build.year ≤ date.year ∧ dayOfYear build ≤ dayOfYear date
  · rw [if_pos within]
    exact ⟨fun _ => within, fun _ => rfl⟩
  · rw [if_neg within]
    constructor
    · intro passes
      cases passes
    · intro both
      exact absurd both within

/-- A complete date is accepted in calendar order exactly when it is of no later
year than the build or of no earlier day within the year. -/
theorem calibration_date_in_order_iff (build : CalibrationDate)
    {date : CalibrationDate} (inYear : InYear date) {w : WriteSettingsReq}
    {world : World}
    (rest : Accepts build { w with setCalibrationDate := none } world) :
    (Accepts build { w with setCalibrationDate := some (.from date) } world ↔
        calendar build ≤ calendar date) ↔
      date.year ≤ build.year ∨ dayOfYear build ≤ dayOfYear date := by
  rw [accepts_date_iff _ rest, verifyCalibrationDate_from_iff inYear]
  exact both_le_iff_lex_le_iff build.year.toNat date.year.toNat _ _

theorem calibration_date_in_order_same_year :
    (Accepts sampleBuild
          { Messages.emptyRequest with
            setCalibrationDate :=
              some (.from { day := 31, month := 12, year := 2025 }) }
          unlockedWorld ↔
        calendar sampleBuild ≤
          calendar { day := 31, month := 12, year := 2025 }) :=
  (@calibration_date_in_order_iff sampleBuild
    { day := 31, month := 12, year := 2025 }
    ⟨by decide, by decide, by decide, by decide⟩
    Messages.emptyRequest unlockedWorld ⟨_, rfl⟩).mpr (Or.inl (by decide))

/-- New Year's Day after the build. -/
theorem calibration_date_refused_as_past :
    verifyCalibrationDate sampleBuild
        (some (.from { day := 1, month := 1, year := 2026 })) =
      .error "Calibration date field Past invalid" ∧
    ¬ (Accepts sampleBuild
          { Messages.emptyRequest with
            setCalibrationDate :=
              some (.from { day := 1, month := 1, year := 2026 }) }
          unlockedWorld ↔
        calendar sampleBuild ≤
          calendar { day := 1, month := 1, year := 2026 }) := by
  refine ⟨by decide, ?_⟩
  intro inOrder
  obtain ⟨after, accepted⟩ := inOrder.mpr (by decide)
  cases accepted

end SelfWriter.Protobuf
