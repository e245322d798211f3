import SelfWriter.Command
import SelfWriter.Lib.Binary32

/-!
# The settings and access to them

`AppSettings` and the session data next to it (`settings/app_settings.rs`), the
defaults and `settings_action` (`settings/mod.rs`).

The build day, month and year come from the build; they are parameters.
-/

namespace SelfWriter.Settings

open SelfWriter.Lib

def maxMt : UInt32 := 5000
def minMt : UInt32 := 20

/-- Places of the coefficient arrays. -/
def aIndex (index : Nat) : Fin 16 := Fin.ofNat 16 index

def cIndex (index : Nat) : Fin 5 := Fin.ofNat 5 index

@[ext]
structure P16Coeffs where
  fp0 : Binary32
  ft0 : Binary32
  a : Vector Binary32 16
  deriving DecidableEq, Repr

@[ext]
structure T5Coeffs where
  f0 : Binary32
  t0 : Binary32
  c : Vector Binary32 5
  deriving DecidableEq, Repr

structure WorkRange where
  minimum : Binary32
  maximum : Binary32
  absoluteMaximum : Binary32
  deriving DecidableEq, Repr

structure CalibrationDate where
  day : UInt32
  month : UInt32
  year : UInt32
  deriving DecidableEq, Repr

structure WriteConfig where
  baseIntervalMs : UInt32
  pWriteDevider : UInt32
  tWriteDevider : UInt32
  deriving DecidableEq, Repr

structure Monitoring where
  ovarpress : Bool
  ovarheat : Bool
  cpuOvarheat : Bool
  overPower : Bool
  deriving DecidableEq, Repr

def Monitoring.default : Monitoring where
  ovarpress := false
  ovarheat := false
  cpuOvarheat := false
  overPower := false

def Monitoring.isSet (monitoring : Monitoring) : Bool :=
  monitoring.ovarpress || monitoring.ovarheat || monitoring.cpuOvarheat ||
    monitoring.overPower

inductive PressureMeassureUnits where
  | invalidZero
  | Pa
  | Bar
  | At
  | mmH20
  | mHg
  | Atm
  | PSI
  deriving DecidableEq, Repr

namespace PressureMeassureUnits

/-- The discriminant: `as i32`. -/
def toI32 : PressureMeassureUnits → Int32
  | invalidZero => 0
  | Pa => 0x00220000
  | Bar => 0x004E0000
  | At => 0x00A10000
  | mmH20 => 0x00A20000
  | mHg => 0x00A30000
  | Atm => 0x00A40000
  | PSI => 0x00AB0000

/-- The derived `FromPrimitive::from_i32`. -/
def fromI32 (code : Int32) : Option PressureMeassureUnits :=
  if code = 0 then some invalidZero
  else if code = 0x00220000 then some Pa
  else if code = 0x004E0000 then some Bar
  else if code = 0x00A10000 then some At
  else if code = 0x00A20000 then some mmH20
  else if code = 0x00A30000 then some mHg
  else if code = 0x00A40000 then some Atm
  else if code = 0x00AB0000 then some PSI
  else none

theorem fromI32_toI32 (unit : PressureMeassureUnits) :
    fromI32 unit.toI32 = some unit := by
  cases unit <;> decide

theorem toI32_of_fromI32 {code : Int32} {unit : PressureMeassureUnits}
    (known : fromI32 code = some unit) : unit.toI32 = code := by
  simp only [fromI32] at known
  repeat' split at known
  all_goals
    cases known
  all_goals
    simp only [toI32, *]

end PressureMeassureUnits

/-- A password as it is kept: ten bytes, padded with zeros. -/
abbrev Password := Vector UInt8 10

structure AppSettings where
  serial : UInt32
  pMesureTimeMs : UInt32
  tMesureTimeMs : UInt32
  fref : UInt32
  pEnabled : Bool
  tEnabled : Bool
  tcpuEnabled : Bool
  vBatEnabled : Bool
  pCoefficients : P16Coeffs
  tCoefficients : T5Coeffs
  pWorkRange : WorkRange
  tWorkRange : WorkRange
  tcpuWorkRange : WorkRange
  vbatWorkRange : WorkRange
  pZeroCorrection : Binary32
  tZeroCorrection : Binary32
  calibrationDate : CalibrationDate
  writeConfig : WriteConfig
  startDelay : UInt32
  pressureMeassureUnits : PressureMeassureUnits
  password : Password
  monitoring : Monitoring
  deriving DecidableEq, Repr

/-- What is forgotten at a reset. -/
structure NonStoreSettings where
  currentPassword : Password
  deriving DecidableEq, Repr

/-! ## Defaults -/

def defaultSettings (build : CalibrationDate) : AppSettings where
  serial := 0
  pMesureTimeMs := 20
  tMesureTimeMs := 20
  fref := Config.xtalFreq
  pEnabled := true
  tEnabled := true
  tcpuEnabled := true
  vBatEnabled := true
  pCoefficients :=
    { fp0 := .zero
      ft0 := .zero
      a := #v[.zero, .zero, .zero, ⟨0x3F800000⟩, .zero, .zero, .zero, .zero,
        .zero, .zero, .zero, .zero, .zero, .zero, .zero, .zero] }
  tCoefficients :=
    { f0 := .zero
      t0 := .zero
      c := #v[⟨0x3F800000⟩, .zero, .zero, .zero, .zero] }
  -- 0.0, 100.0, NaN
  pWorkRange :=
    { minimum := .zero
      maximum := ⟨0x42C80000⟩
      absoluteMaximum := ⟨0x7FC00000⟩ }
  -- -50.0, 120.0, NaN
  tWorkRange :=
    { minimum := ⟨0xC2480000⟩
      maximum := ⟨0x42F00000⟩
      absoluteMaximum := ⟨0x7FC00000⟩ }
  tcpuWorkRange :=
    { minimum := ⟨0xC2480000⟩
      maximum := ⟨0x42F00000⟩
      absoluteMaximum := ⟨0x7FC00000⟩ }
  -- 2.2, 5.5, 6.0
  vbatWorkRange :=
    { minimum := ⟨0x400CCCCD⟩
      maximum := ⟨0x40B00000⟩
      absoluteMaximum := ⟨0x40C00000⟩ }
  calibrationDate := build
  pZeroCorrection := .zero
  tZeroCorrection := .zero
  writeConfig :=
    { baseIntervalMs := 20
      pWriteDevider := 1
      tWriteDevider := 1 }
  startDelay := 0
  pressureMeassureUnits := .Bar
  -- `_PASSWORD_`
  password := #v[0x5F, 0x50, 0x41, 0x53, 0x53, 0x57, 0x4F, 0x52, 0x44, 0x5F]
  monitoring :=
    { ovarpress := false
      ovarheat := false
      cpuOvarheat := false
      overPower := false }

/-- The session data that `init` starts with. -/
def initialSession : NonStoreSettings where
  currentPassword := Vector.replicate 10 0

/-! ## Access under the lock -/

inductive FreeRtosError where
  | mutexTimeout
  | outOfMemory
  deriving DecidableEq, Repr

inductive SettingActionError (T : Type) where
  | accessError (error : FreeRtosError)
  | actionError (error : T)
  deriving DecidableEq, Repr

/-- What an action works on: the settings, the session data, and the command
queue that it was given. -/
structure Work where
  ws : AppSettings
  ts : NonStoreSettings
  cq : List Command
  deriving DecidableEq, Repr

/-- Before `init` there are no settings behind the lock.  `timeouts` says of
every later attempt to take the lock whether it times out; without an entry it
does not. -/
structure World where
  settings : Option (AppSettings × NonStoreSettings)
  cq : List Command
  timeouts : List Bool
  deriving DecidableEq, Repr

def World.appSettings (world : World) : Option AppSettings :=
  world.settings.map Prod.fst

/-- An action may fail after it has changed something. -/
abbrev SettingsAction (T R : Type) := EStateM T Work R

abbrev SettingsM (T : Type) := EStateM (SettingActionError T) World

def settingsAction {T R : Type} (action : SettingsAction T R) : SettingsM T R :=
  fun world =>
    let locked := { world with timeouts := world.timeouts.tail }
    if world.timeouts.headD false then
      .error (.accessError .mutexTimeout) locked
    else
      match world.settings with
      | none => .error (.accessError .outOfMemory) locked
      | some (ws, ts) =>
          match action { ws := ws, ts := ts, cq := world.cq } with
          | .ok result after =>
              .ok result
                { locked with settings := some (after.ws, after.ts), cq := after.cq }
          | .error error after =>
              .error (.actionError error)
                { locked with settings := some (after.ws, after.ts), cq := after.cq }

theorem settingsAction_timesOut {T R : Type} (action : SettingsAction T R)
    {world : World} (timesOut : world.timeouts.headD false = true) :
    settingsAction action world =
      .error (.accessError .mutexTimeout)
        { world with timeouts := world.timeouts.tail } := by
  rw [settingsAction, if_pos timesOut]

theorem settingsAction_uninitialised {T R : Type} (action : SettingsAction T R)
    {world : World} (inTime : world.timeouts.headD false = false)
    (settings : world.settings = none) :
    settingsAction action world =
      .error (.accessError .outOfMemory)
        { world with timeouts := world.timeouts.tail } := by
  rw [settingsAction, if_neg (Bool.eq_false_iff.mp inTime), settings]

theorem settingsAction_locked {T R : Type} (action : SettingsAction T R)
    {world : World} {ws : AppSettings} {ts : NonStoreSettings}
    (inTime : world.timeouts.headD false = false)
    (settings : world.settings = some (ws, ts)) :
    settingsAction action world =
      match action { ws := ws, ts := ts, cq := world.cq } with
      | .ok result after =>
          .ok result
            { settings := some (after.ws, after.ts)
              cq := after.cq
              timeouts := world.timeouts.tail }
      | .error error after =>
          .error (.actionError error)
            { settings := some (after.ws, after.ts)
              cq := after.cq
              timeouts := world.timeouts.tail } := by
  rw [settingsAction, if_neg (Bool.eq_false_iff.mp inTime), settings]

/-- An action that only reads leaves what is behind the lock. -/
theorem settingsAction_read {T R : Type} (read : Work → R) {world : World}
    {ws : AppSettings} {ts : NonStoreSettings}
    (inTime : world.timeouts.headD false = false)
    (settings : world.settings = some (ws, ts)) :
    (settingsAction (do
        let work ← get
        pure (read work)) : SettingsM T R) world =
      .ok (read { ws := ws, ts := ts, cq := world.cq })
        { world with timeouts := world.timeouts.tail } := by
  rw [settingsAction_locked _ inTime settings, settings]
  rfl

/-- An action that answers has run, on the settings behind the lock. -/
theorem settingsAction_ok {T R : Type} {action : SettingsAction T R}
    {world after : World} {result : R}
    (answers : settingsAction action world = .ok result after) :
    ∃ ws ts work, world.settings = some (ws, ts) ∧
      action { ws := ws, ts := ts, cq := world.cq } = .ok result work ∧
      after.settings = some (work.ws, work.ts) ∧ after.cq = work.cq := by
  rw [settingsAction] at answers
  split at answers
  · cases answers
  · cases settings : world.settings with
    | none =>
        rw [settings] at answers
        cases answers
    | some pair =>
        obtain ⟨ws, ts⟩ := pair
        rw [settings] at answers
        cases outcome : action { ws := ws, ts := ts, cq := world.cq } with
        | ok value work =>
            simp only [outcome, EStateM.Result.ok.injEq] at answers
            obtain ⟨rfl, rfl⟩ := answers
            exact ⟨ws, ts, work, rfl, outcome, rfl, rfl⟩
        | error error work =>
            simp only [outcome] at answers
            cases answers

/-- An attempt that fails has not reached the settings, or its action has
failed on them. -/
theorem settingsAction_error {T R : Type} {action : SettingsAction T R}
    {world after : World} {error : SettingActionError T}
    (fails : settingsAction action world = .error error after) :
    (after.settings = world.settings ∧ after.cq = world.cq) ∨
      ∃ ws ts actionError work, world.settings = some (ws, ts) ∧
        action { ws := ws, ts := ts, cq := world.cq } =
          .error actionError work ∧
        after.settings = some (work.ws, work.ts) ∧ after.cq = work.cq := by
  rw [settingsAction] at fails
  split at fails
  · cases fails
    exact .inl ⟨rfl, rfl⟩
  · cases settings : world.settings with
    | none =>
        rw [settings] at fails
        cases fails
        exact .inl ⟨rfl, rfl⟩
    | some pair =>
        obtain ⟨ws, ts⟩ := pair
        rw [settings] at fails
        cases outcome : action { ws := ws, ts := ts, cq := world.cq } with
        | ok value work =>
            simp only [outcome] at fails
            cases fails
        | error error work =>
            simp only [outcome] at fails
            cases fails
            exact .inr ⟨ws, ts, error, work, rfl, outcome, rfl, rfl⟩

end SelfWriter.Settings
