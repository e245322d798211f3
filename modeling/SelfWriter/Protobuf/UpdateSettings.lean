import SelfWriter.Protobuf.ProcessSettings
import SelfWriter.Lib.Hoare
import SelfWriter.Settings.Fields

/-!
# Storing a request

The second half of `update_settings` (`protobuf/process_settings.rs`): every
value that the request carries is stored, one `store_coeff!` after the other.
-/

namespace SelfWriter.Protobuf

open SelfWriter.Lib SelfWriter.Lib.Hoare SelfWriter.Settings
open SelfWriter.Protobuf.Messages (PCoefficients T5Coefficients
  WriteSettingsReq)

/-- The settings so far, and whether something was stored. -/
abbrev Stored := AppSettings × Bool

/-- `store_coeff!`. -/
def storeCoeff {α : Type} (field : Lens AppSettings α) (value : Option α)
    (stored : Stored) : Stored :=
  match value with
  | some v => (field.set stored.1 v, true)
  | none => stored

def storeMesureSettings (w : WriteSettingsReq) (stored : Stored) : Stored :=
  stored
    |> storeCoeff AppSettings.serialField w.setSerial
    |> storeCoeff AppSettings.pMesureTimeMsField w.setPMesureTimeMs
    |> storeCoeff AppSettings.tMesureTimeMsField w.setTMesureTimeMs
    |> storeCoeff AppSettings.frefField w.setFref

def storeEnables (w : WriteSettingsReq) (stored : Stored) : Stored :=
  stored
    |> storeCoeff AppSettings.pEnabledField w.setPEnabled
    |> storeCoeff AppSettings.tEnabledField w.setTEnabled
    |> storeCoeff AppSettings.tcpuEnabledField w.setTcpuEnabled
    |> storeCoeff AppSettings.vBatEnabledField w.setVBatEnable

/-- The commands for the channels that the request switches on.  The generated
accessor of an absent flag answers `false`. -/
def enableCommands (ws : AppSettings) (w : WriteSettingsReq) : List Command :=
  (if !ws.pEnabled && w.setPEnabled.getD false then
    [.start (.fChannel .pressure) 0] else []) ++
  (if !ws.tEnabled && w.setTEnabled.getD false then
    [.start (.fChannel .temperature) 0] else []) ++
  (if !ws.tcpuEnabled && w.setTcpuEnabled.getD false then
    [.start (.aChannel .tcpu) 0] else []) ++
  (if !ws.vBatEnabled && w.setVBatEnable.getD false then
    [.start (.aChannel .vbat) 0] else [])

section Nested

open AppSettings

def storePCoefficients (request : Option PCoefficients) (stored : Stored) :
    Stored :=
  match request with
  | none => stored
  | some coefficients =>
      stored
        |> storeCoeff (pCoefficientsField.andThen P16Coeffs.fp0Field)
            coefficients.fp0
        |> storeCoeff (pCoefficientsField.andThen P16Coeffs.ft0Field)
            coefficients.ft0
        |> storeCoeff (pCoefficientsField.andThen (P16Coeffs.aField (aIndex 0)))
            coefficients.a0
        |> storeCoeff (pCoefficientsField.andThen (P16Coeffs.aField (aIndex 1)))
            coefficients.a1
        |> storeCoeff (pCoefficientsField.andThen (P16Coeffs.aField (aIndex 2)))
            coefficients.a2
        |> storeCoeff (pCoefficientsField.andThen (P16Coeffs.aField (aIndex 3)))
            coefficients.a3
        |> storeCoeff (pCoefficientsField.andThen (P16Coeffs.aField (aIndex 4)))
            coefficients.a4
        |> storeCoeff (pCoefficientsField.andThen (P16Coeffs.aField (aIndex 5)))
            coefficients.a5
        |> storeCoeff (pCoefficientsField.andThen (P16Coeffs.aField (aIndex 6)))
            coefficients.a6
        |> storeCoeff (pCoefficientsField.andThen (P16Coeffs.aField (aIndex 7)))
            coefficients.a7
        |> storeCoeff (pCoefficientsField.andThen (P16Coeffs.aField (aIndex 8)))
            coefficients.a8
        |> storeCoeff (pCoefficientsField.andThen (P16Coeffs.aField (aIndex 9)))
            coefficients.a9
        |> storeCoeff (pCoefficientsField.andThen (P16Coeffs.aField (aIndex 10)))
            coefficients.a10
        |> storeCoeff (pCoefficientsField.andThen (P16Coeffs.aField (aIndex 11)))
            coefficients.a11
        |> storeCoeff (pCoefficientsField.andThen (P16Coeffs.aField (aIndex 12)))
            coefficients.a12
        |> storeCoeff (pCoefficientsField.andThen (P16Coeffs.aField (aIndex 13)))
            coefficients.a13
        |> storeCoeff (pCoefficientsField.andThen (P16Coeffs.aField (aIndex 14)))
            coefficients.a14
        |> storeCoeff (pCoefficientsField.andThen (P16Coeffs.aField (aIndex 15)))
            coefficients.a15

def storeTCoefficients (request : Option T5Coefficients) (stored : Stored) :
    Stored :=
  match request with
  | none => stored
  | some coefficients =>
      stored
        |> storeCoeff (tCoefficientsField.andThen T5Coeffs.f0Field)
            coefficients.f0
        |> storeCoeff (tCoefficientsField.andThen (T5Coeffs.cField (cIndex 0)))
            coefficients.c1
        |> storeCoeff (tCoefficientsField.andThen (T5Coeffs.cField (cIndex 1)))
            coefficients.c2
        |> storeCoeff (tCoefficientsField.andThen (T5Coeffs.cField (cIndex 2)))
            coefficients.c3
        |> storeCoeff (tCoefficientsField.andThen (T5Coeffs.cField (cIndex 3)))
            coefficients.c4
        |> storeCoeff (tCoefficientsField.andThen (T5Coeffs.cField (cIndex 4)))
            coefficients.c5
        |> storeCoeff (tCoefficientsField.andThen T5Coeffs.t0Field)
            coefficients.t0

/-- The four work ranges differ in the field only. -/
def storeWorkRange (field : Lens AppSettings WorkRange)
    (request : Option Messages.WorkRange) (stored : Stored) : Stored :=
  match request with
  | none => stored
  | some range =>
      stored
        |> storeCoeff (field.andThen WorkRange.minimumField) range.minimum
        |> storeCoeff (field.andThen WorkRange.maximumField) range.maximum
        |> storeCoeff (field.andThen WorkRange.absoluteMaximumField)
            range.absoluteMaximum

def storePWorkRange : Option Messages.WorkRange → Stored → Stored :=
  storeWorkRange pWorkRangeField

def storeTWorkRange : Option Messages.WorkRange → Stored → Stored :=
  storeWorkRange tWorkRangeField

def storeTcpuWorkRange : Option Messages.WorkRange → Stored → Stored :=
  storeWorkRange tcpuWorkRangeField

def storeBatWorkRange : Option Messages.WorkRange → Stored → Stored :=
  storeWorkRange vbatWorkRangeField

def storeCalibrationDate (request : Option Messages.CalibrationDate)
    (stored : Stored) : Stored :=
  match request with
  | none => stored
  | some date =>
      stored
        |> storeCoeff (calibrationDateField.andThen CalibrationDate.dayField)
            date.day
        |> storeCoeff (calibrationDateField.andThen CalibrationDate.monthField)
            date.month
        |> storeCoeff (calibrationDateField.andThen CalibrationDate.yearField)
            date.year

def storeWriteConfig (request : Option Messages.WriteConfig)
    (stored : Stored) : Stored :=
  match request with
  | none => stored
  | some config =>
      stored
        |> storeCoeff (writeConfigField.andThen WriteConfig.baseIntervalMsField)
            config.baseIntervalMs
        |> storeCoeff (writeConfigField.andThen WriteConfig.pWriteDeviderField)
            config.pWriteDevider
        |> storeCoeff (writeConfigField.andThen WriteConfig.tWriteDeviderField)
            config.tWriteDevider

end Nested

/-- Everything from the enable flags to the start delay. -/
def storeConfiguration (w : WriteSettingsReq) (stored : Stored) : Stored :=
  stored
    |> storeEnables w
    |> storePCoefficients w.setPCoefficients
    |> storeTCoefficients w.setTCoefficients
    |> storePWorkRange w.setPWorkRange
    |> storeTWorkRange w.setTWorkRange
    |> storeTcpuWorkRange w.setTcpuWorkRange
    |> storeBatWorkRange w.setBatWorkRange
    |> storeCalibrationDate w.setCalibrationDate
    |> storeCoeff AppSettings.pZeroCorrectionField w.setPZeroCorrection
    |> storeCoeff AppSettings.tZeroCorrectionField w.setTZeroCorrection
    |> storeWriteConfig w.setWriteConfig
    |> storeCoeff AppSettings.startDelayField w.setStartDelay

/-- `none` for a code that names no unit. -/
def storePressureMeassureUnits (request : Option Int32) (stored : Stored) :
    Option Stored :=
  match request with
  | none => some stored
  | some code =>
      match PressureMeassureUnits.fromI32 code with
      | some unit =>
          some (AppSettings.pressureMeassureUnitsField.set stored.1 unit, true)
      | none => none

/-- The first bytes of the text, the rest filled with zeros. -/
def paddedPassword (text : Utf8.Text) : Password :=
  Vector.ofFn (fun index => text.bytes.getD index 0)

def storePassword (setPassword : Option Utf8.Text) (ts : NonStoreSettings) :
    NonStoreSettings :=
  match setPassword with
  | none => ts
  | some text => { currentPassword := paddedPassword text }

/-- What `update_settings` does under the lock. -/
def storeRequest (w : WriteSettingsReq) : SettingsAction String Bool := fun work =>
  let stored := storeMesureSettings w (work.ws, false)
  let cq := work.cq ++ enableCommands stored.1 w
  let stored := storeConfiguration w stored
  match storePressureMeassureUnits w.setPressureMeassureUnits stored with
  | none =>
      .error "Invalid measure unit" { ws := stored.1, ts := work.ts, cq := cq }
  | some (ws, needWrite) =>
      .ok needWrite
        { ws := ws, ts := storePassword w.setPassword work.ts, cq := cq }

/-- The answer says whether something is to be saved. -/
def updateSettings (build : CalibrationDate) (w : WriteSettingsReq) :
    SettingsM String Bool := do
  verifyParameters build w
  settingsAction (storeRequest w)

/-! ## What is stored -/

private theorem storeCoeff_fst {α : Type} (field : Lens AppSettings α)
    (value : Option α) (stored : Stored) :
    (storeCoeff field value stored).1 = field.write stored.1 value := by
  cases value with
  | none => exact (field.write_none stored.1).symm
  | some v => rfl

/-! The values that a part of a request carries, over the old ones. -/

def overPCoefficients (request : PCoefficients) (old : P16Coeffs) :
    P16Coeffs where
  fp0 := request.fp0.getD old.fp0
  ft0 := request.ft0.getD old.ft0
  a := #v[request.a0.getD (old.a.get (aIndex 0)), request.a1.getD (old.a.get (aIndex 1)),
    request.a2.getD (old.a.get (aIndex 2)), request.a3.getD (old.a.get (aIndex 3)),
    request.a4.getD (old.a.get (aIndex 4)), request.a5.getD (old.a.get (aIndex 5)),
    request.a6.getD (old.a.get (aIndex 6)), request.a7.getD (old.a.get (aIndex 7)),
    request.a8.getD (old.a.get (aIndex 8)), request.a9.getD (old.a.get (aIndex 9)),
    request.a10.getD (old.a.get (aIndex 10)), request.a11.getD (old.a.get (aIndex 11)),
    request.a12.getD (old.a.get (aIndex 12)), request.a13.getD (old.a.get (aIndex 13)),
    request.a14.getD (old.a.get (aIndex 14)), request.a15.getD (old.a.get (aIndex 15))]

def overTCoefficients (request : T5Coefficients) (old : T5Coeffs) :
    T5Coeffs where
  f0 := request.f0.getD old.f0
  t0 := request.t0.getD old.t0
  c := #v[request.c1.getD (old.c.get (cIndex 0)), request.c2.getD (old.c.get (cIndex 1)),
    request.c3.getD (old.c.get (cIndex 2)), request.c4.getD (old.c.get (cIndex 3)),
    request.c5.getD (old.c.get (cIndex 4))]

def overWorkRange (request : Messages.WorkRange) (old : WorkRange) :
    WorkRange where
  minimum := request.minimum.getD old.minimum
  maximum := request.maximum.getD old.maximum
  absoluteMaximum := request.absoluteMaximum.getD old.absoluteMaximum

def overCalibrationDate (request : Messages.CalibrationDate)
    (old : CalibrationDate) : CalibrationDate where
  day := request.day.getD old.day
  month := request.month.getD old.month
  year := request.year.getD old.year

def overWriteConfig (request : Messages.WriteConfig) (old : WriteConfig) :
    WriteConfig where
  baseIntervalMs := request.baseIntervalMs.getD old.baseIntervalMs
  pWriteDevider := request.pWriteDevider.getD old.pWriteDevider
  tWriteDevider := request.tWriteDevider.getD old.tWriteDevider

/-- An absent part leaves the old value. -/
def overOld {Part α : Type} (merge : Part → α → α) (request : Option Part)
    (old : α) : α :=
  request.elim old (fun part => merge part old)

/-- The settings that a request asks for: its values, and the old ones for what
it leaves out. -/
def requested (w : WriteSettingsReq) (ws : AppSettings) : AppSettings where
  serial := w.setSerial.getD ws.serial
  pMesureTimeMs := w.setPMesureTimeMs.getD ws.pMesureTimeMs
  tMesureTimeMs := w.setTMesureTimeMs.getD ws.tMesureTimeMs
  fref := w.setFref.getD ws.fref
  pEnabled := w.setPEnabled.getD ws.pEnabled
  tEnabled := w.setTEnabled.getD ws.tEnabled
  tcpuEnabled := w.setTcpuEnabled.getD ws.tcpuEnabled
  vBatEnabled := w.setVBatEnable.getD ws.vBatEnabled
  pCoefficients := overOld overPCoefficients w.setPCoefficients ws.pCoefficients
  tCoefficients := overOld overTCoefficients w.setTCoefficients ws.tCoefficients
  pWorkRange := overOld overWorkRange w.setPWorkRange ws.pWorkRange
  tWorkRange := overOld overWorkRange w.setTWorkRange ws.tWorkRange
  tcpuWorkRange := overOld overWorkRange w.setTcpuWorkRange ws.tcpuWorkRange
  vbatWorkRange := overOld overWorkRange w.setBatWorkRange ws.vbatWorkRange
  pZeroCorrection := w.setPZeroCorrection.getD ws.pZeroCorrection
  tZeroCorrection := w.setTZeroCorrection.getD ws.tZeroCorrection
  calibrationDate :=
    overOld overCalibrationDate w.setCalibrationDate ws.calibrationDate
  writeConfig := overOld overWriteConfig w.setWriteConfig ws.writeConfig
  startDelay := w.setStartDelay.getD ws.startDelay
  pressureMeassureUnits :=
    (w.setPressureMeassureUnits.bind PressureMeassureUnits.fromI32).getD
      ws.pressureMeassureUnits
  password := ws.password
  monitoring := ws.monitoring

theorem storePCoefficients_fst (request : Option PCoefficients)
    (stored : Stored) :
    (storePCoefficients request stored).1 =
      AppSettings.pCoefficientsField.set stored.1
        (overOld overPCoefficients request stored.1.pCoefficients) := by
  cases request with
  | none => rfl
  | some coefficients =>
      simp only [storePCoefficients, storeCoeff_fst, Lens.write_andThen,
        Lens.get_set, Lens.set_set, P16Coeffs.aField]
      apply congrArg (AppSettings.pCoefficientsField.set stored.1)
      apply P16Coeffs.ext
      · rfl
      · rfl
      · apply Vector.ext
        intro place bound
        simp only [P16Coeffs.aVector, Lens.getElem_write_entry, overOld, Option.elim_some,
          overPCoefficients]
        rcases place with _ | _ | _ | _ | _ | _ | _ | _ | _ | _ | _ | _ | _ | _ | _ | _ | place
        all_goals first | rfl | omega

theorem storeTCoefficients_fst (request : Option T5Coefficients)
    (stored : Stored) :
    (storeTCoefficients request stored).1 =
      AppSettings.tCoefficientsField.set stored.1
        (overOld overTCoefficients request stored.1.tCoefficients) := by
  cases request with
  | none => rfl
  | some coefficients =>
      simp only [storeTCoefficients, storeCoeff_fst, Lens.write_andThen,
        Lens.get_set, Lens.set_set, T5Coeffs.cField]
      apply congrArg (AppSettings.tCoefficientsField.set stored.1)
      apply T5Coeffs.ext
      · rfl
      · rfl
      · apply Vector.ext
        intro place bound
        simp only [T5Coeffs.t0Field_write_c, T5Coeffs.cVector,
          Lens.getElem_write_entry, overOld, Option.elim_some,
          overTCoefficients]
        rcases place with _ | _ | _ | _ | _ | place
        all_goals first | rfl | omega

private theorem storeWorkRange_fst (field : Lens AppSettings WorkRange)
    (request : Option Messages.WorkRange) (stored : Stored) :
    (storeWorkRange field request stored).1 =
      field.set stored.1 (overOld overWorkRange request (field.get stored.1)) := by
  cases request with
  | none => exact (field.set_get stored.1).symm
  | some range =>
      simp only [storeWorkRange, storeCoeff_fst, Lens.write_andThen,
        Lens.get_set, Lens.set_set]
      rfl

private theorem storeCalibrationDate_fst (request : Option Messages.CalibrationDate)
    (stored : Stored) :
    (storeCalibrationDate request stored).1 =
      AppSettings.calibrationDateField.set stored.1
        (overOld overCalibrationDate request stored.1.calibrationDate) := by
  cases request with
  | none => rfl
  | some date =>
      simp only [storeCalibrationDate, storeCoeff_fst, Lens.write_andThen,
        Lens.get_set, Lens.set_set]
      rfl

private theorem storeWriteConfig_fst (request : Option Messages.WriteConfig)
    (stored : Stored) :
    (storeWriteConfig request stored).1 =
      AppSettings.writeConfigField.set stored.1
        (overOld overWriteConfig request stored.1.writeConfig) := by
  cases request with
  | none => rfl
  | some config =>
      simp only [storeWriteConfig, storeCoeff_fst, Lens.write_andThen,
        Lens.get_set, Lens.set_set]
      rfl

private theorem storeMesureSettings_fst (w : WriteSettingsReq) (stored : Stored) :
    (storeMesureSettings w stored).1 =
      { stored.1 with
        serial := w.setSerial.getD stored.1.serial
        pMesureTimeMs := w.setPMesureTimeMs.getD stored.1.pMesureTimeMs
        tMesureTimeMs := w.setTMesureTimeMs.getD stored.1.tMesureTimeMs
        fref := w.setFref.getD stored.1.fref } := by
  simp only [storeMesureSettings, storeCoeff_fst]
  rfl

private theorem storeConfiguration_fst (w : WriteSettingsReq) (stored : Stored) :
    (storeConfiguration w stored).1 =
      { requested w stored.1 with
        serial := stored.1.serial
        pMesureTimeMs := stored.1.pMesureTimeMs
        tMesureTimeMs := stored.1.tMesureTimeMs
        fref := stored.1.fref
        pressureMeassureUnits := stored.1.pressureMeassureUnits } := by
  simp only [storeConfiguration, storeEnables, storePWorkRange, storeTWorkRange,
    storeTcpuWorkRange, storeBatWorkRange, storeCoeff_fst,
    storePCoefficients_fst, storeTCoefficients_fst, storeWorkRange_fst,
    storeCalibrationDate_fst, storeWriteConfig_fst, Lens.write, requested,
    AppSettings.pEnabledField, AppSettings.tEnabledField,
    AppSettings.tcpuEnabledField, AppSettings.vBatEnabledField,
    AppSettings.pCoefficientsField, AppSettings.tCoefficientsField,
    AppSettings.pWorkRangeField, AppSettings.tWorkRangeField,
    AppSettings.tcpuWorkRangeField, AppSettings.vbatWorkRangeField,
    AppSettings.calibrationDateField, AppSettings.pZeroCorrectionField,
    AppSettings.tZeroCorrectionField, AppSettings.writeConfigField,
    AppSettings.startDelayField]

private theorem storePressureMeassureUnits_some {request : Option Int32}
    {stored result : Stored}
    (known : storePressureMeassureUnits request stored = some result) :
    result.1 =
      { stored.1 with
        pressureMeassureUnits :=
          (request.bind PressureMeassureUnits.fromI32).getD
            stored.1.pressureMeassureUnits } := by
  cases request with
  | none =>
      cases known
      rfl
  | some code =>
      cases unit : PressureMeassureUnits.fromI32 code with
      | none => simp [storePressureMeassureUnits, unit] at known
      | some found =>
          simp only [storePressureMeassureUnits, unit, Option.some.injEq] at known
          rw [← known, Option.bind_some, unit]
          rfl

/-- A request that is stored leaves exactly the settings it asks for. -/
theorem storeRequest_ok {w : WriteSettingsReq} {work after : Work}
    {needWrite : Bool} (stores : storeRequest w work = .ok needWrite after) :
    after.ws = requested w work.ws ∧
      after.ts = storePassword w.setPassword work.ts ∧
      after.cq = work.cq ++ enableCommands work.ws w := by
  have mesure := storeMesureSettings_fst w (work.ws, false)
  have configuration :=
    storeConfiguration_fst w (storeMesureSettings w (work.ws, false))
  rw [storeRequest] at stores
  cases units : storePressureMeassureUnits w.setPressureMeassureUnits
      (storeConfiguration w (storeMesureSettings w (work.ws, false))) with
  | none => simp [units] at stores
  | some result =>
      simp only [units, EStateM.Result.ok.injEq] at stores
      obtain ⟨_, rfl⟩ := stores
      have last := storePressureMeassureUnits_some units
      rw [configuration, mesure] at last
      refine ⟨last, rfl, ?_⟩
      rw [mesure]
      rfl

theorem updateSettings_ok {build : CalibrationDate} {w : WriteSettingsReq}
    {world after : World} {needWrite : Bool}
    (accepted : updateSettings build w world = .ok needWrite after) :
    ∃ ws ts, world.settings = some (ws, ts) ∧
      verifyFields build (decide (ws.password ≠ ts.currentPassword)) w =
        .ok () ∧
      after.settings = some (requested w ws, storePassword w.setPassword ts) ∧
      after.cq = world.cq ++ enableCommands ws w := by
  obtain ⟨_, verified, checks, stores⟩ := ok_of_bind accepted
  obtain ⟨invalid, compared, reads, verdict⟩ := ok_of_bind checks
  obtain ⟨ws, ts, _, settings, compare, unchanged, sent⟩ :=
    settingsAction_ok reads
  cases compare
  cases fields : verifyFields build (decide (ws.password ≠ ts.currentPassword)) w with
  | error error =>
      rw [fields] at verdict
      cases verdict
  | ok _ =>
      rw [fields] at verdict
      cases verdict
      obtain ⟨ws', ts', work, settings', action, final, sentAfter⟩ :=
        settingsAction_ok stores
      rw [unchanged] at settings'
      cases settings'
      obtain ⟨storedSettings, storedSession, storedCommands⟩ :=
        storeRequest_ok action
      rw [sent] at storedCommands
      refine ⟨ws, ts, settings, fields, ?_, ?_⟩
      · rw [final, storedSettings, storedSession]
      · rw [sentAfter, storedCommands]

/-! ## Runs of requests -/

/-- The settings that accepted requests lead to from the defaults, whatever the
session was in between. -/
inductive Configured (build : CalibrationDate) : AppSettings → Prop where
  | default : Configured build (defaultSettings build)
  | update {w : WriteSettingsReq} {world after : World} {ws ws' : AppSettings}
      {ts ts' : NonStoreSettings} {needWrite : Bool}
      (before : Configured build ws) (settings : world.settings = some (ws, ts))
      (accepted : updateSettings build w world = .ok needWrite after)
      (stored : after.settings = some (ws', ts')) : Configured build ws'

/-- A build date to run requests against. -/
def sampleBuild : CalibrationDate := { day := 18, month := 11, year := 2025 }

/-- The settings and the session of a host that has given the password. -/
def unlockedWorld : World where
  settings := some (defaultSettings sampleBuild,
    { currentPassword := (defaultSettings sampleBuild).password })
  cq := []
  timeouts := []

/-- What holds of the defaults and is kept by every verified request holds of
all settings that requests lead to. -/
theorem Configured.invariant {build : CalibrationDate} {I : AppSettings → Prop}
    (initially : I (defaultSettings build))
    (kept : ∀ w ws invalid, Verified build invalid w → I ws →
      I (requested w ws)) :
    ∀ {ws}, Configured build ws → I ws := by
  intro ws configured
  induction configured with
  | default => exact initially
  | update _ settings accepted stored inductionHypothesis =>
      obtain ⟨ws', ts', settings', verified, stored', _⟩ :=
        updateSettings_ok accepted
      rw [settings] at settings'
      cases settings'
      rw [stored'] at stored
      cases stored
      exact kept _ _ _ (verified_of_verifyFields verified) inductionHypothesis

end SelfWriter.Protobuf
