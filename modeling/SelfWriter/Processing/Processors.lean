import SelfWriter.Lib.ExtendedRational
import SelfWriter.Processing.Monitoring
import SelfWriter.Protobuf.ProcessRequest
import SelfWriter.Recorder.Configuration
import SelfWriter.Sensors.SensorProcessor

/-!
# The processors of results

What is done with a result and with a lost signal, by the two implementations
of `RawValueProcessor` (`workmodes/processing/recorder_processor.rs` and
`high_performance.rs`), with the calculations of `workmodes/processing/common.rs`.

Frequencies and targets are computed exactly.  The polynomials of the sensors
and the conversions between the formats of numbers decide no branch and are
left open.
-/

namespace SelfWriter.Processing

open SelfWriter.Lib SelfWriter.Lib.Word32 SelfWriter.Lib.ExtendedRational
open SelfWriter.Recorder (toRealPeriod)
open SelfWriter.Sensors (Answer)
open SelfWriter.Settings (AppSettings NonStoreSettings Monitoring P16Coeffs T5Coeffs
  PressureMeassureUnits World)

/-! ## The state -/

structure OutputStorage where
  targets : FChannel → UInt32
  results : FChannel → Option UInt32
  frequencys : FChannel → Option ExtendedRational
  values : FChannel → Option ExtendedRational
  tCpu : Binary32
  tCpuAdc : UInt16
  vbat : Binary32
  vbatAdc : UInt16

/-- Arithmetic on the measured values.  In the place of the frequency of the
temperature channel, `calcP` is given the value of that channel, if there is
one. -/
structure Arithmetic where
  calcP : ExtendedRational → Option ExtendedRational → P16Coeffs → Bool →
    ExtendedRational
  calcT : ExtendedRational → T5Coeffs → ExtendedRational
  convertUnits : ExtendedRational → PressureMeassureUnits → ExtendedRational
  addCorrection : ExtendedRational → Binary32 → ExtendedRational
  asF32 : ExtendedRational → Binary32
  dividedVoltage : UInt16 → Binary32

/-- What the sensor task reads and writes: the settings, the static monitors,
the requests to save the settings, and the shared output. -/
structure Station where
  ws : AppSettings
  monitors : Quantity → ConditionMonitor
  vbatUnderMonitor : ConditionMonitor
  saves : List Quantity
  output : OutputStorage

namespace Station

def watch (station : Station) : Watch where
  monitors := station.monitors
  monitoring := station.ws.monitoring
  saves := station.saves

def withWatch (watch : Watch) (station : Station) : Station :=
  { station with
    ws := { station.ws with monitoring := watch.monitoring }
    monitors := watch.monitors
    saves := watch.saves }

end Station

/-! ## Monitored values -/

/-- The limits of the settings. -/
def limits (ws : AppSettings) : Quantity → Binary32
  | .pressure => ws.pWorkRange.absoluteMaximum
  | .temperature => ws.tWorkRange.absoluteMaximum
  | .cpuTemperature => ws.tcpuWorkRange.absoluteMaximum
  | .batteryVoltage => ws.vbatWorkRange.absoluteMaximum

/-- A sample under the settings lock, and the request to save behind it. -/
def checkOver (quantity : Quantity) (current : Binary32) (station : Station) :
    Station :=
  station.withWatch
    (station.watch.sampled (limits station.ws quantity) quantity current)

section Calculations

variable (arithmetic : Arithmetic)

def pressureOf (fp : ExtendedRational) (station : Station) : ExtendedRational :=
  arithmetic.calcP fp (station.output.values .temperature)
    station.ws.pCoefficients station.ws.tEnabled

/-- `none` is the panic on units that are none. -/
def wrapMu (p : ExtendedRational) (mu : PressureMeassureUnits) :
    Option ExtendedRational :=
  if mu = .invalidZero then none else some (arithmetic.convertUnits p mu)

def calcPressure (fp : ExtendedRational) (station : Station) : Option Station :=
  let pressure := pressureOf arithmetic fp station
  let station := checkOver .pressure (arithmetic.asF32 pressure) station
  (wrapMu arithmetic pressure station.ws.pressureMeassureUnits).map (fun wrapped =>
    let t := arithmetic.addCorrection wrapped station.ws.pZeroCorrection
    { station with
      output :=
        { station.output with
          values := Function.update station.output.values .pressure (some t) } })

def calcTemperature (f : ExtendedRational) (station : Station) : Station :=
  let temperature := arithmetic.calcT f station.ws.tCoefficients
  let station := checkOver .temperature (arithmetic.asF32 temperature) station
  let t := arithmetic.addCorrection temperature station.ws.tZeroCorrection
  { station with
    output :=
      { station.output with
        values := Function.update station.output.values .temperature (some t) } }

def analogPeriod (currentT t sysClk : UInt32) : Option UInt32 :=
  let newPeriodTicks := toRealPeriod t sysClk
  if newPeriodTicks ≠ currentT then some newPeriodTicks else none

def processTCpu (currentPeriodTicks : UInt32) (celsiusDegree : Binary32)
    (raw : UInt16) (sysClk : UInt32) (station : Station) :
    Station × Bool × Option UInt32 :=
  let station := checkOver .cpuTemperature celsiusDegree station
  let continueWork := station.ws.tcpuEnabled
  ({ station with
      output :=
        { station.output with
          tCpu := if continueWork then celsiusDegree else .zero
          tCpuAdc := if continueWork then raw else 0 } },
    continueWork, analogPeriod currentPeriodTicks station.ws.tMesureTimeMs sysClk)

/-- A battery that is not measured counts as empty, for the monitors too. -/
def vBat (vbatInputMv : UInt16) (station : Station) : Binary32 :=
  if station.ws.vBatEnabled then arithmetic.dividedVoltage vbatInputMv else .zero

def processVbat (currentPeriodTicks : UInt32) (vbatInputMv raw : UInt16)
    (sysClk : UInt32) (station : Station) :
    Station × Bool × Bool × Option UInt32 :=
  let vbat := vBat arithmetic vbatInputMv station
  let station := checkOver .batteryVoltage vbat station
  let (under, undervoltage) :=
    station.vbatUnderMonitor.check .less vbat station.ws.vbatWorkRange.minimum
  let vbatEnabled := station.ws.vBatEnabled
  ({ station with
      vbatUnderMonitor := under
      output :=
        { station.output with
          vbat := vbat
          vbatAdc := if vbatEnabled then raw else 0 } },
    vbatEnabled, undervoltage,
    analogPeriod currentPeriodTicks
      (cmpMin station.ws.pMesureTimeMs station.ws.tMesureTimeMs) sysClk)

end Calculations

/-! ## Frequencies and targets -/

def mtGetter (ch : FChannel) (ws : AppSettings) : UInt32 :=
  match ch with
  | .pressure => ws.pMesureTimeMs
  | .temperature => ws.tMesureTimeMs

def channelEnabled (ch : FChannel) (ws : AppSettings) : Bool :=
  match ch with
  | .pressure => ws.pEnabled
  | .temperature => ws.tEnabled

/-- A word as a floating point number. -/
def ofWord (word : UInt32) : ExtendedRational :=
  finite word.toNat

def calcFreq (frefMultiplier : ℚ) (target diff : UInt32) (ws : AppSettings) :
    ExtendedRational :=
  let fref := finite frefMultiplier * ofWord ws.fref
  fref * ofWord target / ofWord diff

def measureTimeToGuardMultiplier : ℚ := 3 / 2

/-- Measure times are whole, so they are compared as words. -/
def mt2guardTicks (mt sysclk : UInt32) : UInt32 :=
  let mt := if mt < Config.minGuardTime then Config.minGuardTime else mt
  (ofWord (toRealPeriod mt sysclk) * finite measureTimeToGuardMultiplier).toUInt32

def guardTicks (ch : FChannel) (sysclk : UInt32) (ws : AppSettings) : UInt32 :=
  mt2guardTicks (mtGetter ch ws) sysclk

def calcNewTarget (ch : FChannel) (f : ExtendedRational) (sysclk : UInt32)
    (ws : AppSettings) : UInt32 × UInt32 :=
  let mt := mtGetter ch ws
  let newTarget := (f * ofWord mt / finite 1000).toUInt32
  (if newTarget < 1 then 1 else newTarget, mt2guardTicks mt sysclk)

def absDifference (x y : UInt32) : UInt32 :=
  if x < y then y - x else x - y

/-! ## The recorder -/

structure RecorderProcessor where
  frefMultiplier : ℚ
  sysclk : UInt32
  adaptateF : Bool

namespace RecorderProcessor

variable (self : RecorderProcessor)

def processFResult (ch : FChannel) (target result : UInt32) (station : Station) :
    Station × Answer :=
  let station :=
    { station with
      output :=
        { station.output with
          targets := Function.update station.output.targets ch target
          results := Function.update station.output.results ch (some result) } }
  if self.adaptateF then
    let f := calcFreq self.frefMultiplier target result station.ws
    let (newTarget, newGuard) := calcNewTarget ch f self.sysclk station.ws
    if target ≠ newTarget then
      (station, { continueWork := true, newTarget := some (newTarget, newGuard) })
    else
      (station, { continueWork := true, newTarget := none })
  else
    (station, { continueWork := true, newTarget := none })

end RecorderProcessor

/-- Nothing was measured with this target. -/
def OutputStorage.forget (ch : FChannel) (target : UInt32) (output : OutputStorage) :
    OutputStorage :=
  { output with
    targets := Function.update output.targets ch target
    results := Function.update output.results ch none
    frequencys := Function.update output.frequencys ch none
    values := Function.update output.values ch none }

/-- Outside adaptation, the current target is set again. -/
def RecorderProcessor.processFSignalLost (self : RecorderProcessor) (ch : FChannel)
    (target : UInt32) (station : Station) : Station × Answer :=
  let guardTicks := guardTicks ch self.sysclk station.ws
  ({ station with output := station.output.forget ch target },
    { continueWork := true
      newTarget :=
        if self.adaptateF then some (Config.initialFreqmeterTarget, guardTicks)
        else some (target, guardTicks) })

/-! ## High performance -/

structure HighPerformanceProcessor where
  frefMultiplier : ℚ
  sysclk : UInt32

namespace HighPerformanceProcessor

variable (arithmetic : Arithmetic) (self : HighPerformanceProcessor)

/-- The value of a channel, from its frequency. -/
def calcValue (ch : FChannel) (f : ExtendedRational) (station : Station) :
    Option Station :=
  match ch with
  | .pressure => calcPressure arithmetic f station
  | .temperature => some (calcTemperature arithmetic f station)

/-- `none` is the panic of `wrap_mu`. -/
def processFResult (ch : FChannel) (target result : UInt32) (station : Station) :
    Option (Station × Answer) :=
  if channelEnabled ch station.ws && 0 < result then
    let f := calcFreq self.frefMultiplier target result station.ws
    let station :=
      { station with
        output :=
          { station.output with
            targets := Function.update station.output.targets ch target
            results := Function.update station.output.results ch (some result)
            frequencys := Function.update station.output.frequencys ch (some f) } }
    (calcValue arithmetic ch f station).map (fun station =>
      let (newTarget, guardTicks) := calcNewTarget ch f self.sysclk station.ws
      (station,
        { continueWork := true
          newTarget :=
            if absDifference newTarget target > Config.minimumAdaptationInterval then
              some (newTarget, guardTicks)
            else
              none }))
  else
    some ({ station with output := station.output.forget ch target },
      { continueWork := false, newTarget := none })

def processFSignalLost (ch : FChannel) (target : UInt32) (station : Station) :
    Station × Answer :=
  ({ station with output := station.output.forget ch target },
    { continueWork := channelEnabled ch station.ws
      newTarget :=
        some (Config.initialFreqmeterTarget, guardTicks ch self.sysclk station.ws) })

end HighPerformanceProcessor

end SelfWriter.Processing
