import Mathlib.Tactic.Common

/-!
# Channels and commands

The vocabulary shared by the controller task, the sensor task, the capture
interrupts and the request handler (`threads/sensor_processor.rs`), and the
constants of `config.rs` that several of them use.
-/

namespace SelfWriter

/-- The frequency channels. -/
inductive FChannel where
  | pressure
  | temperature
  deriving DecidableEq, Repr

/-- The analog channels. -/
inductive AChannel where
  | tcpu
  | vbat
  deriving DecidableEq, Repr

inductive Channel where
  | fChannel (channel : FChannel)
  | aChannel (channel : AChannel)
  deriving DecidableEq, Repr

/-- The two captures of one measuring cycle. -/
inductive TimerEvent where
  | start
  | stop
  deriving DecidableEq, Repr

/-- Messages of the sensor task's command queue. -/
inductive Command where
  | start (channel : Channel) (count : UInt32)
  | stop (channel : Channel)
  | readyFChannel (channel : FChannel) (event : TimerEvent)
      (target captured : UInt32) (wraped : Bool)
  | readAChannel (channel : AChannel)
  | timeoutFChannel (channel : FChannel) (guardTicks : UInt32)
  deriving DecidableEq, Repr

namespace Config

def freertosConfigFreq : UInt32 := 3000000
def xtalFreq : UInt32 := 24000000
def initialFreqmeterTarget : UInt32 := 1
def minimumAdaptationInterval : UInt32 := 50
def preheatMultiplier : UInt32 := 2
def fChStartCount : UInt32 := 2
def genColdStartupTimeMs : UInt32 := 200
def overLimitCount : UInt32 := 5
def minGuardTime : UInt32 := 100

end Config

end SelfWriter
