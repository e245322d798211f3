import Mathlib.Logic.Function.Basic
import SelfWriter.Lib.Machine
import SelfWriter.Sensors.FreqmeterController

/-!
# The sensor task and those it runs against

`sensor_processor` (`threads/sensor_processor.rs`) takes one command after the
other from a bounded queue.  Between any two of its steps the capture
interrupts, the no-signal guards, the timers of the analog channels and the
tasks that send commands may run.  A message that is sent with zero wait or
from an interrupt is dropped when the queue is full; the other tasks wait for
room.

The analog channels are followed only as far as they use the queue.
-/

namespace SelfWriter.Sensors

open SelfWriter.Lib

/-! ## Messages -/

/-- Who sent a message; of a capture, also the cycle of the counter that it
belongs to, counted from its first cold start. -/
inductive Origin where
  | controller
  | sensorTask
  | capture (cycle : Nat)
  | noSignalGuard
  | analogTimer
  deriving DecidableEq, Repr

structure Posted where
  command : Command
  origin : Origin
  deriving DecidableEq, Repr

def Posted.cycle (posted : Posted) : Nat :=
  match posted.origin with
  | .capture cycle => cycle
  | _ => 0

/-- What the tasks that wait for room send: the controller of the recorder, and
the one that switches channels on. -/
inductive Request where
  | start (channel : Channel)
  | stop (channel : Channel)
  deriving DecidableEq, Repr

def Request.command : Request → Command
  | start channel => .start channel 0
  | stop channel => .stop channel

/-! ## The processor of results -/

structure Answer where
  continueWork : Bool
  newTarget : Option (UInt32 × UInt32)
  deriving DecidableEq, Repr

/-- The answers that `process_f_result` and `process_f_signal_lost` can give
for a channel and its target. -/
structure Processor where
  onResult : FChannel → UInt32 → Answer → Bool
  onSignalLost : FChannel → UInt32 → Answer → Bool

/-- `RecorderProcessor` never asks to stop; a lost signal always sets a target,
the current one or the initial one. -/
def recorderProcessor : Processor where
  onResult _ target answer :=
    answer.continueWork &&
      answer.newTarget.all (fun (newTarget, _) => newTarget ≠ target)
  onSignalLost _ target answer :=
    answer.continueWork && answer.newTarget.any (fun (newTarget, _) =>
      newTarget = target || newTarget = Config.initialFreqmeterTarget)

/-! ## States -/

/-- Steps of the sensor task.  `settled` marks the end of the handling of a
stop command and does nothing. -/
inductive TaskOp where
  | on (channel : FChannel) (op : ChannelOp)
  | post (command : Command)
  | settled (channel : FChannel)
  deriving DecidableEq, Repr

/-- What is known of a channel beyond what the program keeps: the number of
cold starts, and whether the start capture of the current cycle got into the
queue unwrapped. -/
structure Trace where
  cycle : Nat
  startKept : Bool
  deriving DecidableEq, Repr

structure ChannelState where
  controller : FreqmeterController
  trace : Trace
  deriving DecidableEq, Repr

/-- A capture of a counter: its cycle, the value of the master counter, and
whether the message about it got into the queue unwrapped. -/
structure Captured where
  channel : FChannel
  cycle : Nat
  event : TimerEvent
  value : UInt32
  kept : Bool
  deriving DecidableEq, Repr

/-- A result that was passed on, with the cycle and the value of the message it was
computed at, and the `prev_diff` that the controller had then. -/
structure Measured where
  channel : FChannel
  cycle : Nat
  captured : UInt32
  prevDiff : Option UInt32
  result : UInt32
  deriving DecidableEq, Repr

/-- The last four fields are not kept by the program: what the counters captured,
the results passed on, the channels that were started by a command and not disabled
since, and the channels that a stop command was processed for and no newer start was
sent. -/
structure State where
  queue : List Posted
  todo : List TaskOp
  channels : FChannel → ChannelState
  captures : List Captured
  results : List Measured
  enabled : FChannel → Bool
  halted : FChannel → Bool

structure Setup where
  capacity : Nat
  startStop : Bool
  processor : Processor
  initialGuardTicks : FChannel → UInt32

/-- The recorder, with the features of the default build. -/
def recorderSetup (initialGuardTicks : FChannel → UInt32) : Setup where
  capacity := 40
  startStop := true
  processor := recorderProcessor
  initialGuardTicks := initialGuardTicks

section Steps

variable (setup : Setup)

def State.hasRoom (state : State) : Bool :=
  state.queue.length < setup.capacity

/-- A message that is not waited for. -/
def State.offer (posted : Posted) (state : State) : State :=
  if state.hasRoom setup then
    { state with queue := state.queue ++ [posted] }
  else
    state

def State.setChannel (channel : FChannel) (after : ChannelState)
    (state : State) : State :=
  { state with channels := Function.update state.channels channel after }

/-! ## The sensor task -/

def onChannel (channel : FChannel) (ops : List ChannelOp) : List TaskOp :=
  ops.map (.on channel)

def setTargetOps (channel : FChannel) (newTarget : Option (UInt32 × UInt32)) :
    List TaskOp :=
  match newTarget with
  | some (nt, mt) => onChannel channel (FChProcessor.setTarget nt mt)
  | none => []

/-- After a result. -/
def resultOps (channel : FChannel) (answer : Answer) : List TaskOp :=
  setTargetOps channel answer.newTarget ++
    onChannel channel
      (if answer.continueWork then
        (if setup.startStop then FChProcessor.restart
          else FChProcessor.resetGuard)
      else
        FChProcessor.diasble)

/-- After a lost signal.  A channel is enabled once it was started, also by the
new target. -/
def signalLostOps (channel : FChannel) (started : Bool) (answer : Answer) :
    List TaskOp :=
  if answer.continueWork then
    setTargetOps channel answer.newTarget ++
      (if started || answer.newTarget.isSome then
        onChannel channel FChProcessor.restart
      else
        [.post (.start (.fChannel channel) 0)])
  else
    onChannel channel FChProcessor.diasble

def handleStart (channel : FChannel) (count : UInt32) (state : State) : State :=
  if count = Config.fChStartCount then
    { state with todo := onChannel channel FChProcessor.start }
  else
    { state with
      todo :=
        (if count = 0 then onChannel channel FChProcessor.powerOn else []) ++
          [.post (.start (.fChannel channel) (count + 1))]
      enabled :=
        if count = 0 then Function.update state.enabled channel true
        else state.enabled }

def handleStop (channel : FChannel) (state : State) : State :=
  { state with
    todo := onChannel channel FChProcessor.diasble ++ [.settled channel]
    enabled := Function.update state.enabled channel false }

/-- An answer without `continue` disables the channel. -/
def State.answered (channel : FChannel) (answer : Answer) (state : State) :
    State :=
  { state with
    enabled :=
      if answer.continueWork then state.enabled
      else Function.update state.enabled channel false }

/-- `none` for an answer that the processor cannot give. -/
def handleReady (channel : FChannel) (event : TimerEvent)
    (target captured : UInt32) (wraped : Bool) (cycle : Nat) (answer : Answer)
    (state : State) : Option State :=
  if wraped then
    some { state with todo := onChannel channel FChProcessor.restart }
  else
    let before := state.channels channel
    let (controller, result) :=
      before.controller.inputCaptured setup.startStop event captured
    match result with
    | none =>
        some (state.setChannel channel { before with controller := controller })
    | some result =>
        if setup.processor.onResult channel target answer then
          let measured : Measured :=
            { channel := channel
              cycle := cycle
              captured := captured
              prevDiff := before.controller.prevDiff
              result := result }
          let state := state.setChannel channel { before with controller := controller }
          some ({ state with
            todo := resultOps setup channel answer
            results := state.results ++ [measured] }.answered channel answer)
        else
          none

def handleTimeout (channel : FChannel) (answer : Answer) (state : State) :
    Option State :=
  let controller := (state.channels channel).controller
  if setup.processor.onSignalLost channel controller.freqmeter.target32 answer then
    some ({ state with
      todo := signalLostOps channel controller.start answer }.answered
        channel answer)
  else
    none

def handle (posted : Posted) (answer : Answer) (state : State) : Option State :=
  match posted.command with
  | .start (.fChannel channel) count => some (handleStart channel count state)
  | .start (.aChannel _) _ => some state
  | .stop (.fChannel channel) => some (handleStop channel state)
  | .stop (.aChannel _) => some state
  | .readyFChannel channel event target captured wraped =>
      handleReady setup channel event target captured wraped posted.cycle
        answer state
  | .readAChannel _ => some state
  | .timeoutFChannel channel _ => handleTimeout setup channel answer state

/-- Whether a newer start command than the stop command just processed waits in
the queue. -/
def Posted.startsAnew (channel : FChannel) (posted : Posted) : Bool :=
  posted = { command := .start (.fChannel channel) 0, origin := .controller }

def Trace.after (op : ChannelOp) (trace : Trace) : Trace :=
  match op with
  | .coldStart => { trace with cycle := trace.cycle + 1, startKept := false }
  | _ => trace

/-- `none` is a panic. -/
def performOp (op : TaskOp) (state : State) : Option State :=
  match op with
  | .on channel op =>
      let before := state.channels channel
      (op.perform before.controller).map (fun controller =>
        state.setChannel channel
          { controller := controller, trace := before.trace.after op })
  | .post command =>
      some (state.offer setup { command := command, origin := .sensorTask })
  | .settled channel =>
      some { state with
        halted := Function.update state.halted channel
          (!state.queue.any (·.startsAnew channel)) }

/-! ## Everything together -/

inductive Label where
  | receive (answer : Answer)
  | perform
  | capture (channel : FChannel) (captured : UInt32) (wraped : Bool)
  | guardObeys (channel : FChannel)
  | guardExpires (channel : FChannel)
  | send (request : Request)
  | analogReady (channel : AChannel)
  deriving DecidableEq, Repr

def receive (answer : Answer) (state : State) : Option State :=
  match state.todo, state.queue with
  | [], posted :: rest => handle setup posted answer { state with queue := rest }
  | _, _ => none

def perform (state : State) : Option State :=
  match state.todo with
  | [] => none
  | op :: rest => performOp setup op { state with todo := rest }

/-- `cycle_finished`, called by the capture interrupt. -/
def capture (channel : FChannel) (captured : UInt32) (wraped : Bool)
    (state : State) : Option State :=
  let before := state.channels channel
  let counter := before.controller.freqmeter
  if counter.cen then
    let (freqmeter, event) := counter.captured setup.startStop
    let startKept :=
      match event with
      | .start => !wraped && state.hasRoom setup
      | .stop => before.trace.startKept
    let kept : Captured :=
      { channel := channel
        cycle := before.trace.cycle
        event := event
        value := captured
        kept := !wraped && state.hasRoom setup }
    let state := state.setChannel channel
      { controller := { before.controller with freqmeter := freqmeter }
        trace := { before.trace with startKept := startKept } }
    some (({ state with captures := state.captures ++ [kept] } : State).offer setup
      { command := .readyFChannel channel event counter.target32 captured wraped
        origin := .capture before.trace.cycle })
  else
    none

def State.setGuard (channel : FChannel) (guard : Guard) (state : State) : State :=
  state.setChannel channel
    { state.channels channel with
      controller :=
        { (state.channels channel).controller with noSignalGuard := guard } }

def guardObeys (channel : FChannel) (state : State) : Option State :=
  (state.channels channel).controller.noSignalGuard.obey.map (fun guard =>
    state.setGuard channel guard)

def guardExpires (channel : FChannel) (state : State) : Option State :=
  let guard := (state.channels channel).controller.noSignalGuard
  if guard.armed then
    some ((state.setGuard channel guard.expire).offer setup
      { command := .timeoutFChannel channel guard.period
        origin := .noSignalGuard })
  else
    none

/-- A start takes back the stop commands before it. -/
def Request.haltedAfter (request : Request) (halted : FChannel → Bool) :
    FChannel → Bool :=
  match request with
  | .start (.fChannel channel) => Function.update halted channel false
  | _ => halted

def send (request : Request) (state : State) : Option State :=
  if state.hasRoom setup then
    some { state with
      queue := state.queue ++
        [{ command := request.command, origin := .controller }]
      halted := request.haltedAfter state.halted }
  else
    none

def step (state : State) : Label → Option State
  | .receive answer => receive setup answer state
  | .perform => perform setup state
  | .capture channel captured wraped =>
      capture setup channel captured wraped state
  | .guardObeys channel => guardObeys channel state
  | .guardExpires channel => guardExpires setup channel state
  | .send request => send setup request state
  | .analogReady channel =>
      some (state.offer setup
        { command := .readAChannel channel, origin := .analogTimer })

/-- Before the first command: the counters are configured and stand still. -/
def initialState : State where
  queue := []
  todo := []
  channels channel :=
    { controller := .new
        { cen := false, opm := false, prescaler := 0, reload := 2 }
        (setup.initialGuardTicks channel)
      trace := { cycle := 0, startKept := false } }
  captures := []
  results := []
  enabled _ := false
  halted _ := false

def sensorProcessor : Machine State Label where
  start := initialState setup
  step := step setup

end Steps

end SelfWriter.Sensors
