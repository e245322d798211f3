import SelfWriter.Lib.Simulation
import SelfWriter.Processing.Processors

/-!
# The alarms of a station

The functions of the four monitored quantities and `reset_monitoring_flags` as
the steps of a machine, from power-on.  Whatever else they do, to the monitors,
the flags and the save requests each of them is one event of `Watch`.
-/

namespace SelfWriter.Processing

open SelfWriter.Lib
open SelfWriter.Settings (AppSettings Monitoring NonStoreSettings World)

/-! ## Steps -/

/-- A reset that waits for the lock may time out. -/
def resetMonitoringFlags (ts : NonStoreSettings) (timesOut : Bool)
    (station : Station) : Station :=
  let world : World :=
    { settings := some (station.ws, ts), cq := [], timeouts := [timesOut] }
  match Protobuf.resetMonitoringFlags world with
  | .ok _ after | .error _ after =>
      { station with ws := after.appSettings.getD station.ws }

private theorem resetMonitoringFlags_granted (ts : NonStoreSettings) (station : Station) :
    resetMonitoringFlags ts false station =
      { station with ws := { station.ws with monitoring := .default } } :=
  rfl

private theorem resetMonitoringFlags_refused (ts : NonStoreSettings) (station : Station) :
    resetMonitoringFlags ts true station = station :=
  rfl

inductive Step where
  | calcPressure (fp : ExtendedRational)
  | calcTemperature (f : ExtendedRational)
  | processTCpu (currentPeriodTicks : UInt32) (celsiusDegree : Binary32)
      (raw : UInt16)
  | processVbat (currentPeriodTicks : UInt32) (vbatInputMv raw : UInt16)
  | resetMonitoringFlags (ts : NonStoreSettings) (timesOut : Bool)

section Machine

variable (arithmetic : Arithmetic) (sysClk : UInt32)

/-- `none` is a panic. -/
def takeStep (station : Station) : Step → Option Station
  | .calcPressure fp => calcPressure arithmetic fp station
  | .calcTemperature f => some (calcTemperature arithmetic f station)
  | .processTCpu currentPeriodTicks celsiusDegree raw =>
      some (processTCpu currentPeriodTicks celsiusDegree raw sysClk station).1
  | .processVbat currentPeriodTicks vbatInputMv raw =>
      some (processVbat arithmetic currentPeriodTicks vbatInputMv raw sysClk station).1
  | .resetMonitoringFlags ts timesOut =>
      some (resetMonitoringFlags ts timesOut station)

/-- Before the first sample the static monitors are zero; the flags are those
that were saved. -/
def powerOn (ws : AppSettings) (output : OutputStorage) : Station where
  ws := ws
  monitors _ := { counter := 0 }
  vbatUnderMonitor := { counter := 0 }
  saves := []
  output := output

def sensorStation (ws : AppSettings) (output : OutputStorage) : Machine Station Step where
  start := powerOn ws output
  step := takeStep arithmetic sysClk

/-! ## Every step is an event -/

/-- What a step is to the monitoring. -/
def Step.event (station : Station) : Step → Watch.Event Binary32
  | .calcPressure fp =>
      .sample .pressure (arithmetic.asF32 (pressureOf arithmetic fp station))
  | .calcTemperature f =>
      .sample .temperature
        (arithmetic.asF32 (arithmetic.calcT f station.ws.tCoefficients))
  | .processTCpu _ celsiusDegree _ => .sample .cpuTemperature celsiusDegree
  | .processVbat _ vbatInputMv _ =>
      .sample .batteryVoltage (vBat arithmetic vbatInputMv station)
  | .resetMonitoringFlags _ timesOut => .reset (!timesOut)

private theorem limits_checkOver (quantity : Quantity) (current : Binary32)
    (station : Station) :
    limits (checkOver quantity current station).ws = limits station.ws := by
  funext other
  cases other <;> rfl

private theorem watch_checkOver (quantity : Quantity) (current : Binary32)
    (station : Station) :
    (checkOver quantity current station).watch =
      station.watch.after (limits station.ws) (.sample quantity current) :=
  rfl

variable {arithmetic sysClk}

private theorem takeStep_event {station after : Station} {step : Step}
    (steps : takeStep arithmetic sysClk station step = some after) :
    after.watch = station.watch.after (limits station.ws) (step.event arithmetic station) ∧
      limits after.ws = limits station.ws := by
  cases step with
  | calcPressure fp =>
      obtain ⟨wrapped, _, rfl⟩ := Option.map_eq_some_iff.mp steps
      exact ⟨watch_checkOver _ _ station, limits_checkOver _ _ station⟩
  | calcTemperature f =>
      cases steps
      exact ⟨watch_checkOver _ _ station, limits_checkOver _ _ station⟩
  | processTCpu currentPeriodTicks celsiusDegree raw =>
      cases steps
      exact ⟨watch_checkOver _ _ station, limits_checkOver _ _ station⟩
  | processVbat currentPeriodTicks vbatInputMv raw =>
      cases steps
      exact ⟨watch_checkOver _ _ station, limits_checkOver _ _ station⟩
  | resetMonitoringFlags ts timesOut =>
      cases steps
      cases timesOut with
      | true =>
          rw [resetMonitoringFlags_refused]
          exact ⟨rfl, rfl⟩
      | false =>
          rw [resetMonitoringFlags_granted]
          refine ⟨rfl, ?_⟩
          funext quantity
          cases quantity <;> rfl

/-- The monitoring on its own, as a machine. -/
def watching (limits : Quantity → Binary32) (monitoring : Monitoring) :
    Machine Watch (Watch.Event Binary32) where
  start := .initial monitoring
  step watch event := some (watch.after limits event)

theorem run_watching (limits : Quantity → Binary32) (monitoring : Monitoring)
    (events : List (Watch.Event Binary32)) :
    ∀ watch : Watch, (watching limits monitoring).run watch events =
      some (events.foldl (Watch.after limits) watch) := by
  induction events with
  | nil => exact fun _ => rfl
  | cons event events inductionHypothesis =>
      exact fun watch => inductionHypothesis (watch.after limits event)

private theorem sensorStation_tracks (ws : AppSettings) (output : OutputStorage) :
    (sensorStation arithmetic sysClk ws output).Tracks
      (watching (limits ws) ws.monitoring)
      (fun station step => some (step.event arithmetic station))
      (fun station watch => station.watch = watch ∧ limits station.ws = limits ws) where
  start := ⟨rfl, rfl⟩
  silent := by
    intro _ _ _ _ _ _ noEvent
    cases noEvent
  step := by
    rintro before after _ step _ ⟨rfl, same⟩ steps ⟨⟩
    obtain ⟨watched, sameAfter⟩ := takeStep_event steps
    refine ⟨_, rfl, ?_, sameAfter.trans same⟩
    rw [watched, same]

variable (arithmetic sysClk)

/-- The events of the steps taken from power-on. -/
def eventsOf (ws : AppSettings) (output : OutputStorage) (steps : List Step) :
    List (Watch.Event Binary32) :=
  (sensorStation arithmetic sysClk ws output).calls
    (fun station step => some (step.event arithmetic station))
    (sensorStation arithmetic sysClk ws output).start steps

variable {arithmetic sysClk}

/-- A station has watched the events of the steps it took, with the limits that it
started with. -/
theorem run_watch {ws : AppSettings} {output : OutputStorage} {steps : List Step}
    {station : Station}
    (runs : (sensorStation arithmetic sysClk ws output).run
      (sensorStation arithmetic sysClk ws output).start steps = some station) :
    station.watch =
        Watch.run (limits ws) ws.monitoring (eventsOf arithmetic sysClk ws output steps) ∧
      limits station.ws = limits ws := by
  have tracks := @sensorStation_tracks arithmetic sysClk ws output
  obtain ⟨watch, watched, same, limited⟩ := tracks.run steps tracks.start runs
  rw [run_watching] at watched
  cases watched
  exact ⟨same, limited⟩

/-- The settings were saved for a quantity once for every time that its flag went up
in the run. -/
theorem run_saves {ws : AppSettings} {output : OutputStorage} {steps : List Step}
    {station : Station}
    (runs : (sensorStation arithmetic sysClk ws output).run
      (sensorStation arithmetic sysClk ws output).start steps = some station)
    (quantity : Quantity) :
    station.saves.count quantity =
      Watch.rises (limits ws) ws.monitoring quantity
        (eventsOf arithmetic sysClk ws output steps) := by
  obtain ⟨watched, _⟩ := run_watch runs
  rw [← Watch.savesAfter_eq_rises, Watch.savesAfter, ← watched]
  rfl

end Machine

end SelfWriter.Processing
