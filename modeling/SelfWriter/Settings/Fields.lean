import SelfWriter.Lib.Lens
import SelfWriter.Settings.AppSettings

/-!
# The fields of the settings as lenses

One lens for every place that `update_settings` stores a value to.
-/

namespace SelfWriter.Settings

open SelfWriter.Lib

namespace P16Coeffs

def fp0Field : Lens P16Coeffs Binary32 where
  get coeffs := coeffs.fp0
  set coeffs value := { coeffs with fp0 := value }

def ft0Field : Lens P16Coeffs Binary32 where
  get coeffs := coeffs.ft0
  set coeffs value := { coeffs with ft0 := value }

def aVector : Lens P16Coeffs (Vector Binary32 16) where
  get coeffs := coeffs.a
  set coeffs value := { coeffs with a := value }

def aField (index : Fin 16) : Lens P16Coeffs Binary32 :=
  aVector.andThen (.entry index)

end P16Coeffs

namespace T5Coeffs

def f0Field : Lens T5Coeffs Binary32 where
  get coeffs := coeffs.f0
  set coeffs value := { coeffs with f0 := value }

def t0Field : Lens T5Coeffs Binary32 where
  get coeffs := coeffs.t0
  set coeffs value := { coeffs with t0 := value }

theorem t0Field_write_c (coeffs : T5Coeffs) (value : Option Binary32) :
    (t0Field.write coeffs value).c = coeffs.c :=
  rfl

def cVector : Lens T5Coeffs (Vector Binary32 5) where
  get coeffs := coeffs.c
  set coeffs value := { coeffs with c := value }

def cField (index : Fin 5) : Lens T5Coeffs Binary32 :=
  cVector.andThen (.entry index)

end T5Coeffs

namespace WorkRange

def minimumField : Lens WorkRange Binary32 where
  get range := range.minimum
  set range value := { range with minimum := value }

def maximumField : Lens WorkRange Binary32 where
  get range := range.maximum
  set range value := { range with maximum := value }

def absoluteMaximumField : Lens WorkRange Binary32 where
  get range := range.absoluteMaximum
  set range value := { range with absoluteMaximum := value }

end WorkRange

namespace CalibrationDate

def dayField : Lens CalibrationDate UInt32 where
  get date := date.day
  set date value := { date with day := value }

def monthField : Lens CalibrationDate UInt32 where
  get date := date.month
  set date value := { date with month := value }

def yearField : Lens CalibrationDate UInt32 where
  get date := date.year
  set date value := { date with year := value }

end CalibrationDate

namespace WriteConfig

def baseIntervalMsField : Lens WriteConfig UInt32 where
  get config := config.baseIntervalMs
  set config value := { config with baseIntervalMs := value }

def pWriteDeviderField : Lens WriteConfig UInt32 where
  get config := config.pWriteDevider
  set config value := { config with pWriteDevider := value }

def tWriteDeviderField : Lens WriteConfig UInt32 where
  get config := config.tWriteDevider
  set config value := { config with tWriteDevider := value }

end WriteConfig

namespace AppSettings

def serialField : Lens AppSettings UInt32 where
  get ws := ws.serial
  set ws value := { ws with serial := value }

def pMesureTimeMsField : Lens AppSettings UInt32 where
  get ws := ws.pMesureTimeMs
  set ws value := { ws with pMesureTimeMs := value }

def tMesureTimeMsField : Lens AppSettings UInt32 where
  get ws := ws.tMesureTimeMs
  set ws value := { ws with tMesureTimeMs := value }

def frefField : Lens AppSettings UInt32 where
  get ws := ws.fref
  set ws value := { ws with fref := value }

def pEnabledField : Lens AppSettings Bool where
  get ws := ws.pEnabled
  set ws value := { ws with pEnabled := value }

def tEnabledField : Lens AppSettings Bool where
  get ws := ws.tEnabled
  set ws value := { ws with tEnabled := value }

def tcpuEnabledField : Lens AppSettings Bool where
  get ws := ws.tcpuEnabled
  set ws value := { ws with tcpuEnabled := value }

def vBatEnabledField : Lens AppSettings Bool where
  get ws := ws.vBatEnabled
  set ws value := { ws with vBatEnabled := value }

def pCoefficientsField : Lens AppSettings P16Coeffs where
  get ws := ws.pCoefficients
  set ws value := { ws with pCoefficients := value }

def tCoefficientsField : Lens AppSettings T5Coeffs where
  get ws := ws.tCoefficients
  set ws value := { ws with tCoefficients := value }

def pWorkRangeField : Lens AppSettings WorkRange where
  get ws := ws.pWorkRange
  set ws value := { ws with pWorkRange := value }

def tWorkRangeField : Lens AppSettings WorkRange where
  get ws := ws.tWorkRange
  set ws value := { ws with tWorkRange := value }

def tcpuWorkRangeField : Lens AppSettings WorkRange where
  get ws := ws.tcpuWorkRange
  set ws value := { ws with tcpuWorkRange := value }

def vbatWorkRangeField : Lens AppSettings WorkRange where
  get ws := ws.vbatWorkRange
  set ws value := { ws with vbatWorkRange := value }

def calibrationDateField : Lens AppSettings CalibrationDate where
  get ws := ws.calibrationDate
  set ws value := { ws with calibrationDate := value }

def pZeroCorrectionField : Lens AppSettings Binary32 where
  get ws := ws.pZeroCorrection
  set ws value := { ws with pZeroCorrection := value }

def tZeroCorrectionField : Lens AppSettings Binary32 where
  get ws := ws.tZeroCorrection
  set ws value := { ws with tZeroCorrection := value }

def writeConfigField : Lens AppSettings WriteConfig where
  get ws := ws.writeConfig
  set ws value := { ws with writeConfig := value }

def startDelayField : Lens AppSettings UInt32 where
  get ws := ws.startDelay
  set ws value := { ws with startDelay := value }

def pressureMeassureUnitsField : Lens AppSettings PressureMeassureUnits where
  get ws := ws.pressureMeassureUnits
  set ws value := { ws with pressureMeassureUnits := value }

end AppSettings

end SelfWriter.Settings
