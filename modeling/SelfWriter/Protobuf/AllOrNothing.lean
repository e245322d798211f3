import SelfWriter.Protobuf.SaveRequested

/-!
# An update is stored as a whole or not at all

`update_settings` (`protobuf/process_settings.rs`) stores the values and sends
the commands before its last check, which may still fail.  The verification has
refused whatever that check would refuse, so nothing is left half stored.
-/

namespace SelfWriter.Protobuf

open SelfWriter.Lib SelfWriter.Lib.Hoare SelfWriter.Settings
open SelfWriter.Protobuf.Messages (PCoefficients T5Coefficients
  WriteSettingsReq)

/-! ## What a request carries -/

def hasCalibrationDate (date : Messages.CalibrationDate) : Bool :=
  date.day.isSome || date.month.isSome || date.year.isSome

def hasWriteConfig (config : Messages.WriteConfig) : Bool :=
  config.baseIntervalMs.isSome || config.pWriteDevider.isSome ||
    config.tWriteDevider.isSome

/-- The request carries a value that is kept over a reset.  The session password
is not kept, and a part of the request may be present without a value. -/
def carriesPersisted (w : WriteSettingsReq) : Bool :=
  w.setSerial.isSome || w.setPMesureTimeMs.isSome ||
    w.setTMesureTimeMs.isSome || w.setFref.isSome || w.setPEnabled.isSome ||
    w.setTEnabled.isSome || w.setTcpuEnabled.isSome ||
    w.setVBatEnable.isSome || w.setPCoefficients.any hasPCoefficient ||
    w.setTCoefficients.any hasTCoefficient || w.setPWorkRange.any hasBound ||
    w.setTWorkRange.any hasBound || w.setTcpuWorkRange.any hasBound ||
    w.setBatWorkRange.any hasBound ||
    w.setCalibrationDate.any hasCalibrationDate ||
    w.setPZeroCorrection.isSome || w.setTZeroCorrection.isSome ||
    w.setWriteConfig.any hasWriteConfig || w.setStartDelay.isSome ||
    w.setPressureMeassureUnits.isSome

/-- A start command for every channel that is off before and on after. -/
def switchedOn (before after : AppSettings) : List Command :=
  (if !before.pEnabled && after.pEnabled then
    [.start (.fChannel .pressure) 0] else []) ++
  (if !before.tEnabled && after.tEnabled then
    [.start (.fChannel .temperature) 0] else []) ++
  (if !before.tcpuEnabled && after.tcpuEnabled then
    [.start (.aChannel .tcpu) 0] else []) ++
  (if !before.vBatEnabled && after.vBatEnabled then
    [.start (.aChannel .vbat) 0] else [])

/-! ## What is marked as stored -/

private theorem storeCoeff_snd {α : Type} (field : Lens AppSettings α)
    (value : Option α) (stored : Stored) :
    (storeCoeff field value stored).2 = (stored.2 || value.isSome) := by
  cases value with
  | none => exact (Bool.or_false _).symm
  | some v => exact (Bool.or_true _).symm

private theorem storeMesureSettings_snd (w : WriteSettingsReq) (stored : Stored) :
    (storeMesureSettings w stored).2 =
      (stored.2 || (w.setSerial.isSome || w.setPMesureTimeMs.isSome ||
        w.setTMesureTimeMs.isSome || w.setFref.isSome)) := by
  simp only [storeMesureSettings, storeCoeff_snd, Bool.or_assoc]

private theorem storeEnables_snd (w : WriteSettingsReq) (stored : Stored) :
    (storeEnables w stored).2 =
      (stored.2 || (w.setPEnabled.isSome || w.setTEnabled.isSome ||
        w.setTcpuEnabled.isSome || w.setVBatEnable.isSome)) := by
  simp only [storeEnables, storeCoeff_snd, Bool.or_assoc]

theorem storePCoefficients_snd (request : Option PCoefficients)
    (stored : Stored) :
    (storePCoefficients request stored).2 =
      (stored.2 || request.any hasPCoefficient) := by
  cases request with
  | none => exact (Bool.or_false _).symm
  | some coefficients =>
      simp only [storePCoefficients, storeCoeff_snd, Option.any_some,
        hasPCoefficient]
      ac_rfl

theorem storeTCoefficients_snd (request : Option T5Coefficients)
    (stored : Stored) :
    (storeTCoefficients request stored).2 =
      (stored.2 || request.any hasTCoefficient) := by
  cases request with
  | none => exact (Bool.or_false _).symm
  | some coefficients =>
      simp only [storeTCoefficients, storeCoeff_snd, Option.any_some,
        hasTCoefficient]
      ac_rfl

private theorem storeWorkRange_snd (field : Lens AppSettings WorkRange)
    (request : Option Messages.WorkRange) (stored : Stored) :
    (storeWorkRange field request stored).2 =
      (stored.2 || request.any hasBound) := by
  cases request with
  | none => exact (Bool.or_false _).symm
  | some range =>
      simp only [storeWorkRange, storeCoeff_snd, Option.any_some, hasBound,
        Bool.or_assoc]

private theorem storeCalibrationDate_snd (request : Option Messages.CalibrationDate)
    (stored : Stored) :
    (storeCalibrationDate request stored).2 =
      (stored.2 || request.any hasCalibrationDate) := by
  cases request with
  | none => exact (Bool.or_false _).symm
  | some date =>
      simp only [storeCalibrationDate, storeCoeff_snd, Option.any_some,
        hasCalibrationDate, Bool.or_assoc]

private theorem storeWriteConfig_snd (request : Option Messages.WriteConfig)
    (stored : Stored) :
    (storeWriteConfig request stored).2 =
      (stored.2 || request.any hasWriteConfig) := by
  cases request with
  | none => exact (Bool.or_false _).symm
  | some config =>
      simp only [storeWriteConfig, storeCoeff_snd, Option.any_some,
        hasWriteConfig, Bool.or_assoc]

private theorem storePressureMeassureUnits_snd {request : Option Int32}
    {stored result : Stored}
    (known : storePressureMeassureUnits request stored = some result) :
    result.2 = (stored.2 || request.isSome) := by
  cases request with
  | none =>
      cases known
      exact (Bool.or_false _).symm
  | some code =>
      cases unit : PressureMeassureUnits.fromI32 code with
      | none => simp [storePressureMeassureUnits, unit] at known
      | some found =>
          simp only [storePressureMeassureUnits, unit, Option.some.injEq] at known
          rw [← known]
          exact (Bool.or_true _).symm

/-- Something is to be saved when the request carries something that is. -/
theorem storeRequest_needWrite {w : WriteSettingsReq} {work after : Work}
    {needWrite : Bool} (stores : storeRequest w work = .ok needWrite after) :
    needWrite = carriesPersisted w := by
  rw [storeRequest] at stores
  cases units : storePressureMeassureUnits w.setPressureMeassureUnits
      (storeConfiguration w (storeMesureSettings w (work.ws, false))) with
  | none => simp [units] at stores
  | some result =>
      simp only [units, EStateM.Result.ok.injEq] at stores
      rw [← stores.1, storePressureMeassureUnits_snd units]
      simp only [storeConfiguration, storePWorkRange, storeTWorkRange,
        storeTcpuWorkRange, storeBatWorkRange, storeCoeff_snd, storeEnables_snd,
        storePCoefficients_snd, storeTCoefficients_snd, storeWorkRange_snd,
        storeCalibrationDate_snd, storeWriteConfig_snd,
        storeMesureSettings_snd, Bool.false_or, Bool.or_assoc,
        carriesPersisted]

private theorem enableCommands_requested (ws : AppSettings) (w : WriteSettingsReq) :
    enableCommands ws w = switchedOn ws (requested w ws) := by
  have flag : ∀ (old : Bool) (new : Option Bool),
      (!old && new.getD false) = (!old && new.getD old) := by
    intro old new
    cases old <;> rfl
  rw [enableCommands, flag, flag, flag, flag]
  rfl

/-! ## What an error leaves -/

/-- Nothing but attempts to take the lock has been used up. -/
structure Unchanged (before after : World) : Prop where
  settings : after.settings = before.settings
  cq : after.cq = before.cq

theorem Unchanged.refl (world : World) : Unchanged world world :=
  ⟨rfl, rfl⟩

theorem settingsAction_unchanged {T R : Type} (read : Work → R)
    (before : World) :
    Triple (Unchanged before)
      (settingsAction (do
        let work ← get
        pure (read work)) : SettingsM T R)
      (fun _ => Unchanged before) (fun _ => Unchanged before) := by
  intro world unchanged
  cases outcome : (settingsAction (do
      let work ← get
      pure (read work)) : SettingsM T R) world with
  | ok result after =>
      obtain ⟨ws, ts, work, settings, action, same, sent⟩ :=
        settingsAction_ok outcome
      cases action
      exact ⟨same.trans (settings.symm.trans unchanged.settings),
        sent.trans unchanged.cq⟩
  | error error after =>
      rcases settingsAction_error outcome with
        ⟨same, sent⟩ | ⟨ws, ts, _, work, settings, action, same, sent⟩
      · exact ⟨same.trans unchanged.settings, sent.trans unchanged.cq⟩
      · cases action

theorem fillSettings_unchanged (before : World) :
    Triple (Unchanged before) fillSettings (fun _ => Unchanged before)
      (fun _ => Unchanged before) :=
  settingsAction_unchanged (fun work => responseOf work.ws work.ts) before

private theorem verifyParameters_unchanged (build : CalibrationDate)
    (w : WriteSettingsReq) (before : World) :
    Triple (Unchanged before) (verifyParameters build w)
      (fun _ after => Unchanged before after ∧
        verifyPressureMeassureUnits w.setPressureMeassureUnits = .ok ())
      (fun _ => Unchanged before) := by
  apply (settingsAction_unchanged
    (fun work => decide (work.ws.password ≠ work.ts.currentPassword))
    before).bind
  intro passwordInvalid
  cases verdict : verifyFields build passwordInvalid w with
  | error error => exact .raise (fun _ same => same)
  | ok _ =>
      have verified := verified_of_verifyFields verdict
      exact .answer (fun _ same => ⟨same, verified.pressureMeassureUnits⟩)

private theorem storeRequest_answers {w : WriteSettingsReq} {work after : Work}
    {error : String}
    (verified :
      verifyPressureMeassureUnits w.setPressureMeassureUnits = .ok ()) :
    storeRequest w work ≠ .error error after := by
  intro fails
  rw [storeRequest] at fails
  cases units : storePressureMeassureUnits w.setPressureMeassureUnits
      (storeConfiguration w (storeMesureSettings w (work.ws, false))) with
  | none => exact verifyPressureMeassureUnits_known verified _ units
  | some result => simp [units] at fails

theorem updateSettings_error {build : CalibrationDate} {w : WriteSettingsReq}
    {world after : World} {error : SettingActionError String}
    (refused : updateSettings build w world = .error error after) :
    Unchanged world after := by
  have stored : Triple (Unchanged world) (updateSettings build w)
      (fun _ _ => True) (fun _ => Unchanged world) := by
    apply (verifyParameters_unchanged build w world).bind
    rintro _ middle ⟨unchanged, verified⟩
    cases outcome : settingsAction (storeRequest w) middle with
    | ok needWrite after => trivial
    | error error after =>
        rcases settingsAction_error outcome with
          ⟨same, sent⟩ | ⟨ws, ts, _, work, _, action, _⟩
        · exact ⟨same.trans unchanged.settings, sent.trans unchanged.cq⟩
        · exact absurd action (storeRequest_answers verified)
  have reached := stored world (.refl world)
  rw [refused] at reached
  exact reached

/-! ## The update -/

private theorem updateSettings_needWrite {build : CalibrationDate}
    {w : WriteSettingsReq} {world after : World} {needWrite : Bool}
    (accepted : updateSettings build w world = .ok needWrite after) :
    needWrite = carriesPersisted w := by
  obtain ⟨_, verified, _, stores⟩ := ok_of_bind accepted
  obtain ⟨_, _, _, _, action, _⟩ := settingsAction_ok stores
  exact storeRequest_needWrite action

/-- A verified code is the code of the unit that is stored. -/
theorem requested_toI32 {w : WriteSettingsReq} {ws : AppSettings} {code : Int32}
    (verified :
      verifyPressureMeassureUnits w.setPressureMeassureUnits = .ok ())
    (carried : w.setPressureMeassureUnits = some code) :
    (requested w ws).pressureMeassureUnits.toI32 = code := by
  rw [carried, verifyPressureMeassureUnits] at verified
  cases known : PressureMeassureUnits.fromI32 code with
  | none =>
      rw [known] at verified
      cases verified
  | some unit =>
      rw [requested, carried]
      simp only [Option.bind_some, known, Option.getD_some]
      exact PressureMeassureUnits.toI32_of_fromI32 known

/-- An update that is refused changes nothing.  One that is accepted leaves the
requested values over the old ones, says whether any of them is to be saved, and
starts the channels that it has switched on. -/
theorem update_all_or_nothing (build : CalibrationDate) (w : WriteSettingsReq)
    (world : World) :
    match updateSettings build w world with
    | .error _ after =>
        after.settings = world.settings ∧ after.cq = world.cq
    | .ok needWrite after =>
        ∃ ws ts ts', world.settings = some (ws, ts) ∧
          after.settings = some (requested w ws, ts') ∧
          (∀ code, w.setPressureMeassureUnits = some code →
            (requested w ws).pressureMeassureUnits.toI32 = code) ∧
          (needWrite = true ↔ carriesPersisted w = true) ∧
          (ts' ≠ ts → w.setPassword.isSome = true) ∧
          after.cq = world.cq ++ switchedOn ws (requested w ws) := by
  cases outcome : updateSettings build w world with
  | error error after =>
      have unchanged := updateSettings_error outcome
      exact ⟨unchanged.settings, unchanged.cq⟩
  | ok needWrite after =>
      obtain ⟨ws, ts, settings, verified, stored, sent⟩ :=
        updateSettings_ok outcome
      rw [enableCommands_requested] at sent
      have units := (verified_of_verifyFields verified).pressureMeassureUnits
      refine ⟨ws, ts, _, settings, stored,
        fun code => requested_toI32 units, ?_, ?_, sent⟩
      · rw [updateSettings_needWrite outcome]
      · intro changed
        cases password : w.setPassword with
        | none =>
            rw [password] at changed
            exact absurd rfl changed
        | some text => rfl

end SelfWriter.Protobuf
