import SelfWriter.Lib.Lens
import SelfWriter.Protobuf.Messages

/-!
# Reading and writing the settings

`fill_settings`, `verify_parameters` and `update_settings`
(`protobuf/process_settings.rs`).
-/

namespace SelfWriter.Protobuf

open SelfWriter.Lib SelfWriter.Settings
open SelfWriter.Protobuf.Messages (PCoefficients T5Coefficients
  WriteSettingsReq SettingsResponse)

def passwordSize : Nat := 10
def fRefDelta : UInt32 := 500

/-! ## The response -/

def strlenn (str : List UInt8) (max : Nat) : Nat :=
  ((str.take max).findIdx? (· == 0)).getD max

def responseOf (ws : AppSettings) (ts : NonStoreSettings) : SettingsResponse where
  serial := ws.serial
  pMesureTimeMs := ws.pMesureTimeMs
  tMesureTimeMs := ws.tMesureTimeMs
  fref := ws.fref
  pEnabled := ws.pEnabled
  tEnabled := ws.tEnabled
  tcpuEnabled := ws.tcpuEnabled
  vBatEnable := ws.vBatEnabled
  pCoefficients := .from ws.pCoefficients
  tCoefficients := .from ws.tCoefficients
  pWorkRange := .from ws.pWorkRange
  tWorkRange := .from ws.tWorkRange
  tcpuWorkRange := .from ws.tcpuWorkRange
  batWorkRange := .from ws.vbatWorkRange
  calibrationDate := .from ws.calibrationDate
  pZeroCorrection := ws.pZeroCorrection
  tZeroCorrection := ws.tZeroCorrection
  writeConfig := .from ws.writeConfig
  startDelay := ws.startDelay
  pressureMeassureUnits := ws.pressureMeassureUnits.toI32
  password := Utf8.fromUtf8Lossy
    (ts.currentPassword.toList.take
      (strlenn ts.currentPassword.toList passwordSize))

def fillSettings : SettingsM Unit SettingsResponse :=
  settingsAction (do
    let work ← get
    pure (responseOf work.ws work.ts))

/-! ## Verification -/

section Verification

variable (passwordInvalid : Bool)

def denyIfPasswordInvalid (parameter : String) : Except String Unit :=
  if passwordInvalid then
    .error s!"Change {parameter}, invalid password"
  else
    .ok ()

def verifySerial (setSerial : Option UInt32) : Except String Unit :=
  if setSerial.isSome then
    denyIfPasswordInvalid passwordInvalid "Serial"
  else
    .ok ()

/-- Pressure and temperature measure times differ in the text only. -/
def verifyMesureTime (quantity : String) :
    Option UInt32 → Except String Unit
  | none => .ok ()
  | some time =>
      if time > maxMt ∨ time < minMt then
        .error
          s!"{quantity} measure time {time} is out of range {minMt} - {maxMt}"
      else
        .ok ()

def verifyFref : Option UInt32 → Except String Unit
  | none => .ok ()
  | some fref => do
      denyIfPasswordInvalid passwordInvalid "Fref"
      if fref > Config.xtalFreq + fRefDelta ∨
          fref < Config.xtalFreq - fRefDelta then
        .error s!"Reference frequency {fref} is too different from base {Config.xtalFreq} +/- {fRefDelta}"
      else
        .ok ()

def hasPCoefficient (coefficients : PCoefficients) : Bool :=
  coefficients.a0.isSome || coefficients.a1.isSome || coefficients.a2.isSome ||
    coefficients.a3.isSome || coefficients.a4.isSome ||
    coefficients.a5.isSome || coefficients.a6.isSome ||
    coefficients.a7.isSome || coefficients.a8.isSome ||
    coefficients.a9.isSome || coefficients.a10.isSome ||
    coefficients.a11.isSome || coefficients.a12.isSome ||
    coefficients.a13.isSome || coefficients.a14.isSome ||
    coefficients.a15.isSome || coefficients.ft0.isSome ||
    coefficients.fp0.isSome

def hasTCoefficient (coefficients : T5Coefficients) : Bool :=
  coefficients.t0.isSome || coefficients.c1.isSome || coefficients.c2.isSome ||
    coefficients.c3.isSome || coefficients.c4.isSome ||
    coefficients.c5.isSome || coefficients.f0.isSome

def verifyPCoefficients : Option PCoefficients → Except String Unit
  | none => .ok ()
  | some coefficients =>
      if hasPCoefficient coefficients then
        denyIfPasswordInvalid passwordInvalid "PCoefficients"
      else
        .ok ()

def verifyTCoefficients : Option T5Coefficients → Except String Unit
  | none => .ok ()
  | some coefficients =>
      if hasTCoefficient coefficients then
        denyIfPasswordInvalid passwordInvalid "TCoefficients"
      else
        .ok ()

def hasBound (range : Messages.WorkRange) : Bool :=
  range.minimum.isSome || range.maximum.isSome || range.absoluteMaximum.isSome

/-- The four work ranges differ in the name of the parameter that is denied
and in the name of the range that is invalid. -/
def verifyWorkRange (denied invalid : String) :
    Option Messages.WorkRange → Except String Unit
  | none => .ok ()
  | some range =>
      if hasBound range then do
        denyIfPasswordInvalid passwordInvalid denied
        match range.validate with
        | .ok () => .ok ()
        | .error error => .error s!"{invalid} invalid: {error.text}"
      else
        .ok ()

def verifyPWorkRange : Option Messages.WorkRange → Except String Unit :=
  verifyWorkRange passwordInvalid "PWorkRange" "PWorkRange"

def verifyTWorkRange : Option Messages.WorkRange → Except String Unit :=
  verifyWorkRange passwordInvalid "TWorkRange" "TWorkRange"

def verifyTcpuWorkRange : Option Messages.WorkRange → Except String Unit :=
  verifyWorkRange passwordInvalid "TWorkRange" "TCPUWorkRange"

def verifyBatWorkRange : Option Messages.WorkRange → Except String Unit :=
  verifyWorkRange passwordInvalid "TWorkRange" "BatWorkRange"

end Verification

def verifyCalibrationDate (build : CalibrationDate) :
    Option Messages.CalibrationDate → Except String Unit
  | none => .ok ()
  | some date =>
      match date.validate build with
      | .ok () => .ok ()
      | .error field => .error s!"Calibration date field {field.text} invalid"

def verifyDevider (text : String) : Option UInt32 → Except String Unit
  | none => .ok ()
  | some devider => if devider = 0 then .error text else .ok ()

def verifyBaseInterval : Option UInt32 → Except String Unit
  | none => .ok ()
  | some baseIntervalMs =>
      if baseIntervalMs < minMt then
        .error s!"Write base period {baseIntervalMs} too small, min= {minMt}"
      else
        .ok ()

def verifyWriteConfig : Option Messages.WriteConfig → Except String Unit
  | none => .ok ()
  | some config => do
      verifyBaseInterval config.baseIntervalMs
      verifyDevider "P write devider == 0" config.pWriteDevider
      verifyDevider "T write devider == 0" config.tWriteDevider

def verifyPressureMeassureUnits : Option Int32 → Except String Unit
  | none => .ok ()
  | some code =>
      match PressureMeassureUnits.fromI32 code with
      | none | some .invalidZero =>
          .error s!"Value {code} is not a valid pressure measure unit code."
      | some _ => .ok ()

/-- The checks in their order; the first that fails decides. -/
def verifyFields (build : CalibrationDate) (passwordInvalid : Bool)
    (ws : WriteSettingsReq) : Except String Unit := do
  verifySerial passwordInvalid ws.setSerial
  verifyMesureTime "Pressure" ws.setPMesureTimeMs
  verifyMesureTime "Temperature" ws.setTMesureTimeMs
  verifyFref passwordInvalid ws.setFref
  verifyPCoefficients passwordInvalid ws.setPCoefficients
  verifyTCoefficients passwordInvalid ws.setTCoefficients
  verifyPWorkRange passwordInvalid ws.setPWorkRange
  verifyTWorkRange passwordInvalid ws.setTWorkRange
  verifyTcpuWorkRange passwordInvalid ws.setTcpuWorkRange
  verifyBatWorkRange passwordInvalid ws.setBatWorkRange
  verifyCalibrationDate build ws.setCalibrationDate
  verifyWriteConfig ws.setWriteConfig
  verifyPressureMeassureUnits ws.setPressureMeassureUnits

/-- Every check passes. -/
structure Verified (build : CalibrationDate) (passwordInvalid : Bool)
    (ws : WriteSettingsReq) : Prop where
  serial : verifySerial passwordInvalid ws.setSerial = .ok ()
  pMesureTime : verifyMesureTime "Pressure" ws.setPMesureTimeMs = .ok ()
  tMesureTime : verifyMesureTime "Temperature" ws.setTMesureTimeMs = .ok ()
  fref : verifyFref passwordInvalid ws.setFref = .ok ()
  pCoefficients :
    verifyPCoefficients passwordInvalid ws.setPCoefficients = .ok ()
  tCoefficients :
    verifyTCoefficients passwordInvalid ws.setTCoefficients = .ok ()
  pWorkRange : verifyPWorkRange passwordInvalid ws.setPWorkRange = .ok ()
  tWorkRange : verifyTWorkRange passwordInvalid ws.setTWorkRange = .ok ()
  tcpuWorkRange :
    verifyTcpuWorkRange passwordInvalid ws.setTcpuWorkRange = .ok ()
  batWorkRange : verifyBatWorkRange passwordInvalid ws.setBatWorkRange = .ok ()
  calibrationDate : verifyCalibrationDate build ws.setCalibrationDate = .ok ()
  writeConfig : verifyWriteConfig ws.setWriteConfig = .ok ()
  pressureMeassureUnits :
    verifyPressureMeassureUnits ws.setPressureMeassureUnits = .ok ()

/-- A sequence of checks passes when each of them does. -/
theorem check_seq {first : Except String Unit}
    {next : Unit → Except String Unit}
    (passes : (first >>= next) = .ok ()) : first = .ok () ∧ next () = .ok () := by
  cases first with
  | error error => cases passes
  | ok _ => exact ⟨rfl, passes⟩

theorem verified_of_verifyFields {build : CalibrationDate}
    {passwordInvalid : Bool} {ws : WriteSettingsReq}
    (passes : verifyFields build passwordInvalid ws = .ok ()) :
    Verified build passwordInvalid ws := by
  obtain ⟨serial, passes⟩ := check_seq passes
  obtain ⟨pMesureTime, passes⟩ := check_seq passes
  obtain ⟨tMesureTime, passes⟩ := check_seq passes
  obtain ⟨fref, passes⟩ := check_seq passes
  obtain ⟨pCoefficients, passes⟩ := check_seq passes
  obtain ⟨tCoefficients, passes⟩ := check_seq passes
  obtain ⟨pWorkRange, passes⟩ := check_seq passes
  obtain ⟨tWorkRange, passes⟩ := check_seq passes
  obtain ⟨tcpuWorkRange, passes⟩ := check_seq passes
  obtain ⟨batWorkRange, passes⟩ := check_seq passes
  obtain ⟨calibrationDate, passes⟩ := check_seq passes
  obtain ⟨writeConfig, pressureMeassureUnits⟩ := check_seq passes
  constructor <;> assumption

theorem verifyFields_of_verified {build : CalibrationDate}
    {passwordInvalid : Bool} {ws : WriteSettingsReq}
    (verified : Verified build passwordInvalid ws) :
    verifyFields build passwordInvalid ws = .ok () := by
  rw [verifyFields, verified.serial, verified.pMesureTime, verified.tMesureTime,
    verified.fref, verified.pCoefficients, verified.tCoefficients,
    verified.pWorkRange, verified.tWorkRange, verified.tcpuWorkRange,
    verified.batWorkRange, verified.calibrationDate, verified.writeConfig,
    verified.pressureMeassureUnits]
  rfl

def verifyParameters (build : CalibrationDate) (ws : WriteSettingsReq) :
    SettingsM String Unit := do
  let passwordInvalid ← settingsAction (do
    let work ← get
    pure (decide (work.ws.password ≠ work.ts.currentPassword)))
  match verifyFields build passwordInvalid ws with
  | .ok () => pure ()
  | .error error => throw (.actionError error)

end SelfWriter.Protobuf
