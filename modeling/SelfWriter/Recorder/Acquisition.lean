import SelfWriter.Command
import SelfWriter.Lib.Word32

/-!
# The acquisition loop of the recorder

The page acquisition loop of `RecorderProcessor::controller`
(`workmodes/processing/recorder_processor.rs`).  Two `ToWriteCounter`s, one
for each frequency channel, share one sleep; every iteration sleeps to the
nearest event, handles the pressure channel and then the temperature channel,
and accounts for the handling time.

`u32` values are `UInt32`, so that `tick` wraps as the release build does.
`counter % write_period_ms` panics in the source when the period is zero.
-/

namespace SelfWriter.Recorder

universe u

open SelfWriter.Lib.Word32

structure FChCfg where
  pPreheatTimeMs : UInt32
  tPreheatTimeMs : UInt32
  pWritePeriodMs : UInt32
  tWritePeriodMs : UInt32
  pEn : Bool
  tEn : Bool
  tcpuEn : Bool
  vbatEn : Bool
  deriving DecidableEq, Repr

/-- The part of the page buffer that the loop uses: store one value, answer
`true` when the page is full. -/
class DataPage (Page : Type u) where
  pushData : Page → Option UInt32 → FChannel → Page × Bool

inductive Event where
  | preheat
  | measure
  | measureAndSleep
  deriving DecidableEq, Repr

inductive CurrentChState where
  | ready
  | heating
  | sleeping
  deriving DecidableEq, Repr

inductive ToWriteCounterMode where
  | heatMeasureStop
  | measureOnly
  deriving DecidableEq, Repr

structure ToWriteCounter where
  writePeriodMs : UInt32
  preheatTimeMs : UInt32
  counter : UInt32
  mode : ToWriteCounterMode
  curState : CurrentChState
  chEnabled : Bool
  deriving DecidableEq, Repr

/-- An enabled channel has no write period: `to_write` panics. -/
def FChCfg.DividesByZero (cfg : FChCfg) : Prop :=
  (cfg.pEn = true ∧ cfg.pWritePeriodMs = 0) ∨
    (cfg.tEn = true ∧ cfg.tWritePeriodMs = 0)

instance (cfg : FChCfg) : Decidable cfg.DividesByZero :=
  inferInstanceAs (Decidable (_ ∨ _))

namespace ToWriteCounter

def channelHeated (writePeriodMs preheatTimeMs : UInt32) (enabled : Bool) :
    ToWriteCounter where
  writePeriodMs := writePeriodMs
  preheatTimeMs := preheatTimeMs
  counter := 0
  mode :=
    if preheatTimeMs < writePeriodMs then .heatMeasureStop else .measureOnly
  curState := .ready
  chEnabled := enabled

def acceptState (self : ToWriteCounter) (state : CurrentChState) :
    ToWriteCounter :=
  { self with curState := state }

def toWrite (self : ToWriteCounter) : UInt32 :=
  let odd := self.counter % self.writePeriodMs
  if odd = 0 then odd else self.writePeriodMs - odd

/-- Milliseconds that may be slept before the channel needs attention. -/
def toNextEvent (self : ToWriteCounter) : UInt32 :=
  if self.chEnabled then
    match self.mode, self.curState with
    | .heatMeasureStop, .ready => self.toWrite
    | .heatMeasureStop, .heating => self.toWrite
    | .heatMeasureStop, .sleeping =>
        if self.preheatTimeMs ≤ self.toWrite then
          self.toWrite - self.preheatTimeMs
        else
          self.toWrite
    | .measureOnly, _ => self.toWrite
  else
    0xFFFFFFFF

def tick (self : ToWriteCounter) (timeMs : UInt32) : ToWriteCounter :=
  { self with counter := self.counter + timeMs }

def isEvent (self : ToWriteCounter) : Option Event :=
  if self.chEnabled then
    match self.mode, self.curState with
    | .heatMeasureStop, .ready =>
        if self.toWrite = 0 then some .measureAndSleep else none
    | .heatMeasureStop, .heating =>
        if self.toWrite = 0 then some .measureAndSleep else none
    | .heatMeasureStop, .sleeping =>
        if self.toWrite = self.preheatTimeMs then
          some .preheat
        else if self.toWrite = 0 then
          some .measureAndSleep
        else
          none
    | .measureOnly, _ =>
        if self.toWrite = 0 then some .measure else none
  else
    none

end ToWriteCounter

/-- What the loop does to the rest of the system: a command for the sensor
task, or a value pushed into the page together with the page's answer. -/
inductive Action where
  | send (command : Command)
  | push (channel : FChannel) (result : Option UInt32) (full : Bool)
  deriving DecidableEq, Repr

def startCommand (channel : FChannel) : Command :=
  .start (.fChannel channel) 0

def stopCommand (channel : FChannel) : Command :=
  .stop (.fChannel channel)

/-- Outcome of `process_sensor_event`; `full` is its return value. -/
structure Handled (Page : Type u) where
  waiter : ToWriteCounter
  page : Page
  full : Bool
  actions : List Action

section Loop

variable {Page : Type u} [DataPage Page]

/-- The page is filled from `results`, the sensor task's latest results. -/
def processSensorEvent (results : FChannel → Option UInt32)
    (waiter : ToWriteCounter) (page : Page) (ch : FChannel) : Handled Page :=
  match waiter.isEvent with
  | some .preheat =>
      { waiter := waiter.acceptState .heating
        page := page
        full := false
        actions := [.send (startCommand ch)] }
  | some .measure =>
      let pushed := DataPage.pushData page (results ch) ch
      { waiter := if pushed.2 then waiter else waiter.acceptState .ready
        page := pushed.1
        full := pushed.2
        actions := [.push ch (results ch) pushed.2] }
  | some .measureAndSleep =>
      let pushed := DataPage.pushData page (results ch) ch
      if pushed.2 then
        -- a full page skips the sleep even when it is due
        { waiter := waiter.acceptState .ready
          page := pushed.1
          full := true
          actions := [.push ch (results ch) true] }
      else
        { waiter := waiter.acceptState .sleeping
          page := pushed.1
          full := false
          actions := [.push ch (results ch) false, .send (stopCommand ch)] }
  | none =>
      { waiter := waiter, page := page, full := false, actions := [] }

/-- `enable_p_channel` and `enable_t_channel`. -/
def enableChannel (channel : FChannel) (enabled : Bool) : List Action :=
  if enabled then [.send (startCommand channel)] else []

/-- What the loop cannot decide: the results present when the events of a
page time are handled, and the ticks that handling takes. -/
structure Environment where
  results : Nat → FChannel → Option UInt32
  processing : Nat → Nat

/-- State at the loop head.  `tickCount` is the scheduler's tick counter;
`pageTime` is the time the loop has accounted for since it began. -/
structure AcquisitionState (Page : Type u) where
  toPWrite : ToWriteCounter
  toTWrite : ToWriteCounter
  page : Page
  tickCount : UInt32
  pageTime : Nat

namespace AcquisitionState

def begin (cfg : FChCfg) (tickCount : UInt32) (page : Page) :
    AcquisitionState Page where
  toPWrite :=
    ToWriteCounter.channelHeated cfg.pWritePeriodMs cfg.pPreheatTimeMs cfg.pEn
  toTWrite :=
    ToWriteCounter.channelHeated cfg.tWritePeriodMs cfg.tPreheatTimeMs cfg.tEn
  page := page
  tickCount := tickCount
  pageTime := 0

/-- Sleep for `timeMs` and account for it in both counters. -/
def sleep (self : AcquisitionState Page) (timeMs : UInt32) :
    AcquisitionState Page :=
  { self with
    toPWrite := self.toPWrite.tick timeMs
    toTWrite := self.toTWrite.tick timeMs
    tickCount := self.tickCount + timeMs
    pageTime := self.pageTime + timeMs.toNat }

def toNextEvent (self : AcquisitionState Page) : UInt32 :=
  cmpMin self.toPWrite.toNextEvent self.toTWrite.toNextEvent

/-- The first half of an iteration: the state in which events are handled. -/
def atNextEvent (self : AcquisitionState Page) : AcquisitionState Page :=
  if 0 < self.toNextEvent then self.sleep self.toNextEvent else self

end AcquisitionState

/-- One iteration: either the page became full, or the loop goes on after
accounting `done` milliseconds for the handling. -/
inductive Iteration (Page : Type u) where
  | pageFull (state : AcquisitionState Page) (log : List (Nat × Action))
  | continues (state : AcquisitionState Page) (log : List (Nat × Action))
      (done : UInt32)

def Iteration.actions {Page : Type u} : Iteration Page → List Action
  | .pageFull _ log => log.map Prod.snd
  | .continues _ log _ => log.map Prod.snd

/-- `u32::abs_diff`. -/
def absDiff (left right : UInt32) : UInt32 :=
  if left < right then right - left else left - right

/-- Actions are logged with the page time at which they happen. -/
def stamp (time : Nat) (actions : List Action) : List (Nat × Action) :=
  actions.map (fun action => (time, action))

def iteration (cfg : FChCfg) (env : Environment)
    (head : AcquisitionState Page) : Iteration Page :=
  let state := head.atNextEvent
  let startMoment := state.tickCount
  let results := env.results state.pageTime
  let p := processSensorEvent results state.toPWrite state.page .pressure
  if p.full then
    .pageFull
      { state with toPWrite := p.waiter, page := p.page }
      (stamp state.pageTime
        (p.actions ++ enableChannel .temperature cfg.tEn))
  else
    let t := processSensorEvent results state.toTWrite p.page .temperature
    if t.full then
      .pageFull
        { state with toPWrite := p.waiter, toTWrite := t.waiter, page := t.page }
        (stamp state.pageTime
          (p.actions ++ t.actions ++ enableChannel .pressure cfg.pEn))
    else
      let endMoment :=
        startMoment + UInt32.ofNat (env.processing state.pageTime)
      let done := cmpMax (absDiff endMoment startMoment) 1
      let handled : AcquisitionState Page :=
        { state with
          toPWrite := p.waiter
          toTWrite := t.waiter
          page := t.page
          tickCount := endMoment }
      .continues (handled.sleep done)
        (stamp state.pageTime (p.actions ++ t.actions)) done

/-- The loop observed after some number of iterations. -/
structure Run (Page : Type u) where
  state : AcquisitionState Page
  full : Bool
  log : List (Nat × Action)
  dones : List UInt32

/-- At most the given number of iterations, fewer when the page fills up. -/
def run (cfg : FChCfg) (env : Environment) :
    Nat → AcquisitionState Page → Run Page
  | 0, state => { state := state, full := false, log := [], dones := [] }
  | iterations + 1, state =>
      match iteration cfg env state with
      | .pageFull state log =>
          { state := state, full := true, log := log, dones := [] }
      | .continues state log done =>
          let rest := run cfg env iterations state
          { rest with
            log := log ++ rest.log
            dones := done :: rest.dones }

/-- The acquisition loop of one page. -/
def acquire (cfg : FChCfg) (env : Environment) (tickCount : UInt32)
    (iterations : Nat) (page : Page) : Run Page :=
  run cfg env iterations (.begin cfg tickCount page)

end Loop

end SelfWriter.Recorder
