import SelfWriter.Protobuf.ProcessRequest

/-!
# The measured values in a response

`fill_output` (`protobuf/output.rs`) fills each group of values that is asked
for under a lock of its own, and goes on when a lock cannot be taken.
-/

namespace SelfWriter.Protobuf

open SelfWriter.Lib SelfWriter.Settings

/-- An IEEE 754 double, by its encoding. -/
structure Binary64 where
  bits : UInt64
  deriving DecidableEq, Repr

def Binary64.zero : Binary64 := ⟨0⟩

def Binary64.nan : Binary64 := ⟨0x7FF8000000000000⟩

def nan32 : Binary32 := ⟨0x7FC00000⟩

/-! ## Messages and values -/

structure OutputReq where
  getMainValues : Option Unit
  getF : Option Unit
  getRaw : Option Unit
  deriving DecidableEq, Repr

structure FreqmeterResult where
  target : UInt32
  result : UInt32
  deriving DecidableEq, Repr

structure OutputResponse where
  pressure : Option Binary32
  temperature : Option Binary32
  tcpu : Option Binary32
  vbat : Option Binary32
  fp : Option Binary32
  ft : Option Binary32
  pResult : Option FreqmeterResult
  tResult : Option FreqmeterResult
  adcTcpu : Option UInt32
  adcVbat : Option UInt32
  deriving DecidableEq, Repr

def OutputResponse.default : OutputResponse where
  pressure := none
  temperature := none
  tcpu := none
  vbat := none
  fp := none
  ft := none
  pResult := none
  tResult := none
  adcTcpu := none
  adcVbat := none

/-- The values of the two frequency channels are indexed by the channel. -/
structure OutputStorage where
  targets : FChannel → UInt32
  results : FChannel → Option UInt32
  frequencys : FChannel → Option Binary64
  values : FChannel → Option Binary64
  tCpu : Binary32
  tCpuAdc : UInt16
  vbat : Binary32
  vbatAdc : UInt16

inductive OutputGroup where
  | mainValues
  | f
  | raw
  deriving DecidableEq, Repr

def OutputReq.asks (get : OutputReq) : OutputGroup → Bool
  | .mainValues => get.getMainValues.isSome
  | .f => get.getF.isSome
  | .raw => get.getRaw.isSome

/-! ## Filling the response -/

/-- `asF32` is the conversion `as f32`; `lock` says of the attempt made for a
group what it finds, or how it fails. -/
def fillMainValues (asF32 : Binary64 → Binary32)
    (guard : Except FreeRtosError OutputStorage) (output : OutputResponse) :
    OutputResponse :=
  match guard with
  | .ok storage =>
      { output with
        pressure := some (asF32 ((storage.values .pressure).getD .nan))
        temperature := some (asF32 ((storage.values .temperature).getD .nan))
        tcpu := some storage.tCpu
        vbat := some storage.vbat }
  | .error _ =>
      { output with
        pressure := some nan32
        temperature := some nan32
        tcpu := some nan32
        vbat := some nan32 }

def fillF (asF32 : Binary64 → Binary32)
    (guard : Except FreeRtosError OutputStorage) (output : OutputResponse) :
    OutputResponse :=
  match guard with
  | .ok storage =>
      { output with
        fp := some (asF32 ((storage.frequencys .pressure).getD .zero))
        ft := some (asF32 ((storage.frequencys .temperature).getD .zero)) }
  | .error _ =>
      { output with
        fp := some nan32
        ft := some nan32 }

def fillRaw (guard : Except FreeRtosError OutputStorage)
    (output : OutputResponse) : OutputResponse :=
  match guard with
  | .ok storage =>
      { output with
        pResult :=
          some
            { target := storage.targets .pressure
              result := (storage.results .pressure).getD 0 }
        tResult :=
          some
            { target := storage.targets .temperature
              result := (storage.results .temperature).getD 0 }
        adcTcpu := some storage.tCpuAdc.toUInt32
        adcVbat := some storage.vbatAdc.toUInt32 }
  | .error _ =>
      { output with
        pResult := some { target := 0, result := 0 }
        tResult := some { target := 0, result := 0 }
        adcTcpu := some 0
        adcVbat := some 0 }

/-- The response so far, and the last error. -/
abbrev Filled := OutputResponse × Option FreeRtosError

/-- One group, if it is asked for. -/
def fillGroup (asked : Bool) (guard : Except FreeRtosError OutputStorage)
    (fill : Except FreeRtosError OutputStorage → OutputResponse →
      OutputResponse) (filled : Filled) : Filled :=
  if asked then
    (fill guard filled.1,
      match guard with
      | .ok _ => filled.2
      | .error error => some error)
  else
    filled

def fillOutput (asF32 : Binary64 → Binary32)
    (lock : OutputGroup → Except FreeRtosError OutputStorage)
    (get : OutputReq) : OutputResponse × Option FreeRtosError :=
  (OutputResponse.default, none)
    |> fillGroup (get.asks .mainValues) (lock .mainValues)
        (fillMainValues asF32)
    |> fillGroup (get.asks .f) (lock .f) (fillF asF32)
    |> fillGroup (get.asks .raw) (lock .raw) fillRaw

private theorem fillGroup_error_iff {asked : Bool}
    {guard : Except FreeRtosError OutputStorage}
    {fill : Except FreeRtosError OutputStorage → OutputResponse →
      OutputResponse} {filled : Filled} :
    (fillGroup asked guard fill filled).2 = none ↔
      filled.2 = none ∧ (asked = true → ∃ storage, guard = .ok storage) := by
  cases asked with
  | false => simp [fillGroup]
  | true =>
      cases guard with
      | ok storage => simp [fillGroup]
      | error error => simp [fillGroup]

/-- A later lock does not hide that an earlier one was not taken. -/
theorem fillOutput_error_iff (asF32 : Binary64 → Binary32)
    (lock : OutputGroup → Except FreeRtosError OutputStorage)
    (get : OutputReq) :
    (fillOutput asF32 lock get).2 = none ↔
      ∀ group, get.asks group = true → ∃ storage, lock group = .ok storage := by
  rw [fillOutput, fillGroup_error_iff, fillGroup_error_iff, fillGroup_error_iff]
  constructor
  · rintro ⟨⟨⟨_, main⟩, f⟩, raw⟩ group
    cases group with
    | mainValues => exact main
    | f => exact f
    | raw => exact raw
  · intro taken
    exact ⟨⟨⟨rfl, taken .mainValues⟩, taken .f⟩, taken .raw⟩

end SelfWriter.Protobuf
