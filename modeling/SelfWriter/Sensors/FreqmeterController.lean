import SelfWriter.Command

/-!
# The frequency channel

The input counter (`sensors/freqmeter/hw_in_counters/in_counters_l433.rs`), the
no-signal guard, and the controller of one channel
(`sensors/freqmeter/freqmeter_controller.rs`).

The counter counts the edges of the input signal; when it reaches its target,
the value of the master counter is captured.  When that happens is up to the
signal, so the count itself is left out.  The guard is a one-shot timer of the
operating system: a call on it posts a command that the timer task obeys later.
-/

namespace SelfWriter.Sensors

/-! ## The input counter -/

def asTarget32 (prescaler reload : UInt32) : UInt32 :=
  (prescaler + 1) * reload + 1

/-- `none` is the panic when no prescaler fits. -/
def transformTarget32 (target : UInt32) : Option (UInt32 × UInt32) :=
  let target := if target < 2 then 2 else target - 1
  (List.range' 1 65534).findSome? (fun prescaler =>
    let reload := target / UInt32.ofNat prescaler
    if reload < 65535 then some (UInt32.ofNat prescaler - 1, reload) else none)

/-- The control bits and the target registers. -/
structure InCounter where
  cen : Bool
  opm : Bool
  prescaler : UInt32
  reload : UInt32
  deriving DecidableEq, Repr

namespace InCounter

def target32 (counter : InCounter) : UInt32 :=
  asTarget32 counter.prescaler counter.reload

/-- `none` is a panic: a running counter keeps its target. -/
def setTarget32 (counter : InCounter) (target : UInt32) : Option InCounter :=
  if counter.cen then
    none
  else
    (transformTarget32 target).map (fun (psc, reload) =>
      { counter with prescaler := psc, reload := reload })

def coldStart (counter : InCounter) : InCounter :=
  { counter with cen := true, opm := false }

def stop (counter : InCounter) : InCounter :=
  { counter with cen := false }

/-- A capture and its interrupt.  In one-pulse mode the counter has stopped
itself; with start and stop captures, the first capture of a cycle switches
that mode on. -/
def captured (startStop : Bool) (counter : InCounter) :
    InCounter × TimerEvent :=
  if counter.opm then
    ({ counter with cen := false }, .stop)
  else
    ({ counter with opm := startStop }, .start)

end InCounter

/-! ## The no-signal guard -/

inductive GuardCommand where
  | start
  | stop
  | changePeriod (ticks : UInt32)
  deriving DecidableEq, Repr

/-- A one-shot timer, and the commands that wait for the timer task. -/
structure Guard where
  armed : Bool
  period : UInt32
  pending : List GuardCommand
  deriving DecidableEq, Repr

/-- Whether the timer runs after a command; a changed period starts it. -/
def GuardCommand.arms : GuardCommand → Bool
  | start => true
  | stop => false
  | changePeriod _ => true

namespace Guard

def post (guard : Guard) (command : GuardCommand) : Guard :=
  { guard with pending := guard.pending ++ [command] }

/-- The timer task obeys the oldest command. -/
def obey (guard : Guard) : Option Guard :=
  match guard.pending with
  | [] => none
  | command :: rest =>
      some {
        armed := command.arms
        period :=
          match command with
          | .changePeriod ticks => ticks
          | _ => guard.period
        pending := rest }

def expire (guard : Guard) : Guard :=
  { guard with armed := false }

end Guard

/-! ## The controller -/

structure FreqmeterController where
  freqmeter : InCounter
  gpioPin : Bool
  prev : UInt32
  prevDiff : Option UInt32
  start : Bool
  noSignalGuard : Guard
  currentGuardTicks : UInt32
  deriving DecidableEq, Repr

namespace FreqmeterController

/-- The counter is configured with the initial target, the guard is created
with its period and told to stop. -/
def new (freqmeter : InCounter) (initialGuardTicks : UInt32) :
    FreqmeterController where
  freqmeter := freqmeter
  gpioPin := false
  prev := 0
  prevDiff := none
  start := false
  noSignalGuard :=
    { armed := false, period := initialGuardTicks, pending := [.stop] }
  currentGuardTicks := initialGuardTicks

def absDiff (x y : UInt32) : UInt32 :=
  if x < y then y - x else x - y

def detectWindow : UInt32 := 500
def masterSelfMaxValue : UInt32 := 65536

/-- A stop capture: the ticks since the last capture, corrected by one turn of
the 16-bit master counter when they differ from the ones before by about that
much. -/
def stopCaptured (self : FreqmeterController) (captured : UInt32) :
    FreqmeterController × UInt32 :=
  let diff :=
    if self.prev ≤ captured then captured - self.prev
    else 0xFFFFFFFF - self.prev + captured
  match self.prevDiff with
  | none => ({ self with prevDiff := some diff, prev := captured }, diff)
  | some pd =>
      let diff2prevDiff := absDiff pd diff
      if diff2prevDiff ≤ masterSelfMaxValue + detectWindow ∧
          masterSelfMaxValue - detectWindow ≤ diff2prevDiff then
        if diff < pd then
          ({ self with prevDiff := none, prev := captured + masterSelfMaxValue },
            diff + masterSelfMaxValue)
        else
          ({ self with prevDiff := none, prev := captured - masterSelfMaxValue },
            diff - masterSelfMaxValue)
      else
        ({ self with prevDiff := some diff, prev := captured }, diff)

def eventCaptured (self : FreqmeterController) (event : TimerEvent)
    (captured : UInt32) : FreqmeterController × Option UInt32 :=
  match event with
  | .start => ({ self with prev := captured }, none)
  | .stop =>
      let (after, diff) := self.stopCaptured captured
      (after, some diff)

/-- What a stop capture makes of its value, that of the start capture before it and
the result before, if that was not corrected. -/
def betweenCaptures (prevDiff : Option UInt32) (start stop : UInt32) : UInt32 :=
  let diff :=
    if start ≤ stop then stop - start else 0xFFFFFFFF - start + stop
  match prevDiff with
  | none => diff
  | some pd =>
      if absDiff pd diff ≤ masterSelfMaxValue + detectWindow ∧
          masterSelfMaxValue - detectWindow ≤ absDiff pd diff then
        if diff < pd then diff + masterSelfMaxValue else diff - masterSelfMaxValue
      else
        diff

theorem stopCaptured_result (self : FreqmeterController) (captured : UInt32) :
    (self.stopCaptured captured).2 =
      betweenCaptures self.prevDiff self.prev captured := by
  cases isPrev : self.prevDiff with
  | none => simp only [stopCaptured, betweenCaptures, isPrev]
  | some pd =>
      simp only [stopCaptured, betweenCaptures, isPrev, apply_ite Prod.snd]

/-- Without start and stop captures, the controller tells the first capture
from the later ones itself. -/
def inputCaptured (startStop : Bool) (self : FreqmeterController)
    (event : TimerEvent) (captured : UInt32) :
    FreqmeterController × Option UInt32 :=
  if startStop then
    self.eventCaptured event captured
  else if self.start then
    { self with start := false }.eventCaptured .start captured
  else
    self.eventCaptured .stop captured

end FreqmeterController

/-! ## The methods of the controller, step by step -/

inductive ChannelOp where
  | setLvl (enable : Bool)
  | markStart
  | guard (command : GuardCommand)
  | storeGuardTicks (ticks : UInt32)
  | stopCounter
  | setTarget32 (target : UInt32)
  | coldStart
  deriving DecidableEq, Repr

def ChannelOp.perform : ChannelOp → FreqmeterController →
    Option FreqmeterController
  | setLvl enable, controller => some { controller with gpioPin := enable }
  | markStart, controller => some { controller with start := true }
  | guard command, controller =>
      some { controller with
        noSignalGuard := controller.noSignalGuard.post command }
  | storeGuardTicks ticks, controller =>
      some { controller with currentGuardTicks := ticks }
  | stopCounter, controller =>
      some { controller with freqmeter := controller.freqmeter.stop }
  | setTarget32 target, controller =>
      (controller.freqmeter.setTarget32 target).map (fun freqmeter =>
        { controller with freqmeter := freqmeter })
  | coldStart, controller =>
      some { controller with freqmeter := controller.freqmeter.coldStart }

namespace FChProcessor

def powerOn : List ChannelOp := [.setLvl true]

def start : List ChannelOp := [.markStart, .coldStart, .guard .start]

def diasble : List ChannelOp := [.guard .stop, .stopCounter, .setLvl false]

def resetGuard : List ChannelOp := [.guard .stop, .guard .start]

def restart : List ChannelOp := .markStart :: (resetGuard ++ [.coldStart])

def setTarget (newTarget guardTicks : UInt32) : List ChannelOp :=
  [.guard .stop, .stopCounter, .storeGuardTicks guardTicks,
    .guard (.changePeriod guardTicks), .setTarget32 newTarget] ++ restart

end FChProcessor

end SelfWriter.Sensors
