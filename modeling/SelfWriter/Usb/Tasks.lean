import Mathlib.Algebra.Group.Nat.Defs
import SelfWriter.Lib.Machine

/-!
# The tasks of the USB side

`usbd` and its interrupt (`threads/usbd.rs`) and the server behind the serial port
(`SerialStream` and `write_responce` in `threads/protobuf_server.rs`).  Both tasks
share the serial port under one mutex; the server holds it while it waits for a
notification, and `usbd` tries for one millisecond at a time.

The interrupt preempts the tasks, and `usbd` has the higher priority of the two:
the server runs only while `usbd` is blocked.
-/

namespace SelfWriter.Usb

open SelfWriter.Lib

/-! ## States -/

/-- Where `usbd` is in its loop. -/
inductive Usbd where
  /-- At `serial_container.lock` with its millisecond. -/
  | lock
  /-- In `usb_dev.poll`, with the serial port locked. -/
  | poll
  /-- At `protobuf_srv.notify`. -/
  | notify
  | unmask
  /-- At `take_notification`. -/
  | take
  | mask
  deriving DecidableEq, Repr

/-- Where the server is. -/
inductive Server where
  /-- At the lock of `SerialStream::read`. -/
  | lock
  /-- At `serial.read`, with the serial port locked. -/
  | read
  /-- In `block_thread`, with the serial port still locked. -/
  | block
  /-- Away from the serial port, with what was received. -/
  | work
  /-- At the lock of `write_responce`. -/
  | lockWrite
  /-- At `serial.write`, with the serial port locked. -/
  | write
  | delay
  deriving DecidableEq, Repr

structure UsbState where
  usbd : Usbd
  server : Server
  /-- Values of the two notifications. -/
  usbdNotified : Nat
  serverNotified : Nat
  /-- The interrupt is masked. -/
  masked : Bool
  /-- The peripheral asks for the interrupt. -/
  event : Bool
  /-- Bytes the serial port has for the server. -/
  received : Nat
  deriving DecidableEq, Repr

namespace UsbState

variable (state : UsbState)

/-- The server has the serial port locked. -/
def serverHolds : Bool :=
  match state.server with
  | .lock => false
  | .read => true
  | .block => true
  | .work => false
  | .lockWrite => false
  | .write => true
  | .delay => false

def usbdHolds : Bool :=
  state.usbd = .poll

def free : Bool :=
  !state.usbdHolds && !state.serverHolds

def interrupts : Bool :=
  state.event && !state.masked

def usbdReady : Bool :=
  match state.usbd with
  | .lock => state.free
  | .take => 0 < state.usbdNotified
  | .poll => true
  | .notify => true
  | .unmask => true
  | .mask => true

def serverReady : Bool :=
  match state.server with
  | .lock => state.free
  | .lockWrite => state.free
  | .block => 0 < state.serverNotified
  | .read => true
  | .work => true
  | .write => true
  | .delay => true

end UsbState

/-! ## Steps -/

/-- What a step of the server meets. -/
structure Outcome where
  /-- What `serial.read` returns at most: none into an empty buffer. -/
  count : Nat
  /-- The received bytes lead to a response. -/
  responds : Bool
  /-- `serial.write` takes all the bytes. -/
  complete : Bool
  deriving DecidableEq, Repr

inductive Label where
  /-- The host sends bytes, or causes another event. -/
  | host (bytes : Nat)
  | isr
  | usbd
  /-- `usb_dev.poll` answers; another event may have come. -/
  | poll (answer event : Bool)
  /-- The millisecond of `usbd` is over. -/
  | timeout
  | server (outcome : Outcome)
  deriving DecidableEq, Repr

/-- `TaskNotification::Increment` on a value of 32 bits. -/
def notify (value : Nat) : Nat :=
  (value + 1) % 2 ^ 32

namespace UsbState

/-- `USB_FS`. -/
def usbFs (state : UsbState) : UsbState :=
  { state with
    usbdNotified := notify state.usbdNotified
    masked := true }

def usbdStep (state : UsbState) : Option UsbState :=
  match state.usbd with
  | .lock => some { state with usbd := .poll }
  | .poll => none
  | .notify =>
      some { state with
        usbd := .lock
        serverNotified := notify state.serverNotified }
  | .unmask =>
      some { state with
        usbd := .take
        masked := false }
  | .take =>
      some { state with
        usbd := .mask
        usbdNotified := 0 }
  | .mask =>
      some { state with
        usbd := .lock
        masked := true }

def pollStep (state : UsbState) (answer event : Bool) : Option UsbState :=
  match state.usbd with
  | .poll =>
      some { state with
        usbd := if answer then .notify else .unmask
        event := event }
  | _ => none

def serverStep (state : UsbState) (outcome : Outcome) : UsbState :=
  match state.server with
  | .lock => { state with server := .read }
  | .read =>
      if min outcome.count state.received = 0 then
        { state with server := .block }
      else
        { state with
          server := .work
          received := state.received - min outcome.count state.received }
  | .block =>
      { state with
        server := .lock
        serverNotified := 0 }
  | .work => { state with server := if outcome.responds then .lockWrite else .lock }
  | .lockWrite => { state with server := .write }
  | .write => { state with server := if outcome.complete then .lock else .delay }
  | .delay => { state with server := .lockWrite }

def step (state : UsbState) : Label → Option UsbState
  | .host bytes =>
      some { state with
        event := true
        received := state.received + bytes }
  | .isr => if state.interrupts then some state.usbFs else none
  | .usbd =>
      if state.interrupts || !state.usbdReady then none else state.usbdStep
  | .poll answer event =>
      if state.interrupts then none else state.pollStep answer event
  | .timeout =>
      if state.interrupts || state.usbd ≠ .lock || state.free then
        none
      else
        some { state with usbd := .notify }
  | .server outcome =>
      if state.interrupts || state.usbdReady || !state.serverReady then
        none
      else
        some (state.serverStep outcome)

end UsbState

/-- Both tasks at the beginning of their loops; an event may be there already. -/
def usbTasks (event : Bool) : Machine UsbState Label where
  start :=
    { usbd := .lock
      server := .lock
      usbdNotified := 0
      serverNotified := 0
      masked := true
      event := event
      received := 0 }
  step := UsbState.step

end SelfWriter.Usb
