import SelfWriter.Lib.Utf8
import SelfWriter.Settings.AppSettings

/-!
# Messages about the settings

The parts of the protocol that read and write the settings
(`protobuf/messages.rs`): every field of a request is optional; the parts of a
response are built from the settings.
-/

namespace SelfWriter.Protobuf.Messages

open SelfWriter.Lib
open SelfWriter.Settings (aIndex cIndex)

@[ext]
structure PCoefficients where
  fp0 : Option Binary32
  ft0 : Option Binary32
  a0 : Option Binary32
  a1 : Option Binary32
  a2 : Option Binary32
  a3 : Option Binary32
  a4 : Option Binary32
  a5 : Option Binary32
  a6 : Option Binary32
  a7 : Option Binary32
  a8 : Option Binary32
  a9 : Option Binary32
  a10 : Option Binary32
  a11 : Option Binary32
  a12 : Option Binary32
  a13 : Option Binary32
  a14 : Option Binary32
  a15 : Option Binary32
  deriving DecidableEq, Repr

def PCoefficients.from (pCoeffs : Settings.P16Coeffs) : PCoefficients where
  ft0 := some pCoeffs.fp0
  fp0 := some pCoeffs.ft0
  a0 := some (pCoeffs.a.get (aIndex 0))
  a1 := some (pCoeffs.a.get (aIndex 1))
  a2 := some (pCoeffs.a.get (aIndex 2))
  a3 := some (pCoeffs.a.get (aIndex 3))
  a4 := some (pCoeffs.a.get (aIndex 4))
  a5 := some (pCoeffs.a.get (aIndex 5))
  a6 := some (pCoeffs.a.get (aIndex 6))
  a7 := some (pCoeffs.a.get (aIndex 7))
  a8 := some (pCoeffs.a.get (aIndex 8))
  a9 := some (pCoeffs.a.get (aIndex 9))
  a10 := some (pCoeffs.a.get (aIndex 10))
  a11 := some (pCoeffs.a.get (aIndex 11))
  a12 := some (pCoeffs.a.get (aIndex 12))
  a13 := some (pCoeffs.a.get (aIndex 13))
  a14 := some (pCoeffs.a.get (aIndex 14))
  a15 := some (pCoeffs.a.get (aIndex 15))

structure T5Coefficients where
  t0 : Option Binary32
  f0 : Option Binary32
  c1 : Option Binary32
  c2 : Option Binary32
  c3 : Option Binary32
  c4 : Option Binary32
  c5 : Option Binary32
  deriving DecidableEq, Repr

def T5Coefficients.from (tCoeffs : Settings.T5Coeffs) : T5Coefficients where
  t0 := some tCoeffs.t0
  f0 := some tCoeffs.f0
  c1 := some (tCoeffs.c.get (cIndex 0))
  c2 := some (tCoeffs.c.get (cIndex 1))
  c3 := some (tCoeffs.c.get (cIndex 2))
  c4 := some (tCoeffs.c.get (cIndex 3))
  c5 := some (tCoeffs.c.get (cIndex 4))

inductive WorkRangeError where
  | minimumAboveMaximum
  | minimumAboveAbsoluteMaximum
  | maximumAboveAbasoluteMaximum
  deriving DecidableEq, Repr

/-- The derived debug text. -/
def WorkRangeError.text : WorkRangeError → String
  | minimumAboveMaximum => "MinimumAboveMaximum"
  | minimumAboveAbsoluteMaximum => "MinimumAboveAbsoluteMaximum"
  | maximumAboveAbasoluteMaximum => "MaximumAboveAbasoluteMaximum"

structure WorkRange where
  minimum : Option Binary32
  maximum : Option Binary32
  absoluteMaximum : Option Binary32
  deriving DecidableEq, Repr

namespace WorkRange

def «from» (wr : Settings.WorkRange) : WorkRange where
  minimum := some wr.minimum
  maximum := some wr.maximum
  absoluteMaximum := some wr.absoluteMaximum

/-- Only the bounds that the message itself carries are compared. -/
def validate (range : WorkRange) : Except WorkRangeError Unit :=
  let order : Except WorkRangeError Unit :=
    if range.maximum.isSome && range.minimum.isSome &&
        (range.maximum.getD .zero).lt (range.minimum.getD .zero) then
      .error .minimumAboveMaximum
    else
      .ok ()
  match range.absoluteMaximum with
  | some absoluteMaximum =>
      if range.maximum.isSome &&
          absoluteMaximum.lt (range.maximum.getD .zero) then
        .error .maximumAboveAbasoluteMaximum
      else if range.minimum.isSome &&
          absoluteMaximum.lt (range.minimum.getD .zero) then
        .error .minimumAboveAbsoluteMaximum
      else
        order
  | none => order

end WorkRange

inductive DateField where
  | day
  | month
  | past
  deriving DecidableEq, Repr

/-- The derived debug text. -/
def DateField.text : DateField → String
  | day => "Day"
  | month => "Month"
  | past => "Past"

structure CalibrationDate where
  day : Option UInt32
  month : Option UInt32
  year : Option UInt32
  deriving DecidableEq, Repr

namespace CalibrationDate

def «from» (cd : Settings.CalibrationDate) : CalibrationDate where
  day := some cd.day
  month := some cd.month
  year := some cd.year

def validate (build : Settings.CalibrationDate) (date : CalibrationDate) :
    Except DateField Unit :=
  if date.day.any (fun day => day > 31) then
    .error .day
  else if date.month.any (fun month => month > 12 || month < 1) then
    .error .month
  else
    match date.year with
    | none => .ok ()
    | some year =>
        if year < build.year then
          .error .past
        else if date.day.isSome && date.month.isSome then
          if date.month.getD 0 < build.month then
            .error .past
          else if date.month.getD 0 = build.month &&
              date.day.getD 0 < build.day then
            .error .past
          else
            .ok ()
        else
          .ok ()

end CalibrationDate

structure WriteConfig where
  baseIntervalMs : Option UInt32
  pWriteDevider : Option UInt32
  tWriteDevider : Option UInt32
  deriving DecidableEq, Repr

def WriteConfig.from (wc : Settings.WriteConfig) : WriteConfig where
  baseIntervalMs := some wc.baseIntervalMs
  pWriteDevider := some wc.pWriteDevider
  tWriteDevider := some wc.tWriteDevider

structure WriteSettingsReq where
  setSerial : Option UInt32
  setPMesureTimeMs : Option UInt32
  setTMesureTimeMs : Option UInt32
  setFref : Option UInt32
  setPEnabled : Option Bool
  setTEnabled : Option Bool
  setTcpuEnabled : Option Bool
  setVBatEnable : Option Bool
  setPCoefficients : Option PCoefficients
  setTCoefficients : Option T5Coefficients
  setPWorkRange : Option WorkRange
  setTWorkRange : Option WorkRange
  setTcpuWorkRange : Option WorkRange
  setBatWorkRange : Option WorkRange
  setCalibrationDate : Option CalibrationDate
  setPZeroCorrection : Option Binary32
  setTZeroCorrection : Option Binary32
  setWriteConfig : Option WriteConfig
  setStartDelay : Option UInt32
  setPressureMeassureUnits : Option Int32
  setPassword : Option Utf8.Text

/-- The request without any field. -/
def emptyRequest : WriteSettingsReq where
  setSerial := none
  setPMesureTimeMs := none
  setTMesureTimeMs := none
  setFref := none
  setPEnabled := none
  setTEnabled := none
  setTcpuEnabled := none
  setVBatEnable := none
  setPCoefficients := none
  setTCoefficients := none
  setPWorkRange := none
  setTWorkRange := none
  setTcpuWorkRange := none
  setBatWorkRange := none
  setCalibrationDate := none
  setPZeroCorrection := none
  setTZeroCorrection := none
  setWriteConfig := none
  setStartDelay := none
  setPressureMeassureUnits := none
  setPassword := none

@[ext]
structure SettingsResponse where
  serial : UInt32
  pMesureTimeMs : UInt32
  tMesureTimeMs : UInt32
  fref : UInt32
  pEnabled : Bool
  tEnabled : Bool
  tcpuEnabled : Bool
  vBatEnable : Bool
  pCoefficients : PCoefficients
  tCoefficients : T5Coefficients
  pWorkRange : WorkRange
  tWorkRange : WorkRange
  tcpuWorkRange : WorkRange
  batWorkRange : WorkRange
  calibrationDate : CalibrationDate
  pZeroCorrection : Binary32
  tZeroCorrection : Binary32
  writeConfig : WriteConfig
  startDelay : UInt32
  pressureMeassureUnits : Int32
  password : Utf8.Text

end SelfWriter.Protobuf.Messages
