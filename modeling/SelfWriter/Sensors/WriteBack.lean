import SelfWriter.Processing.Processors
import SelfWriter.Sensors.Target

/-!
# Writing back a target

The recorder answers a lost signal outside adaptation with the target that it
reads from the counter, and the sensor task programs that target again.  What
was read is the target as the registers hold it, rounded down to a multiple of
the prescaler's ratio; the search that splits it starts anew, and may end at a
smaller prescaler.
-/

namespace SelfWriter.Sensors

open SelfWriter.Lib.LeastDivisor SelfWriter.Lib.NextFree SelfWriter.Lib.Word32
open SelfWriter.Processing (RecorderProcessor Station guardTicks)

/-! ## What is read back -/

section Accepted

variable {target psc reload : UInt32}
  (accepted : transformTarget32 target = some (psc, reload))

include accepted

/-- The number of edges, rounded down to a multiple of the ratio. -/
theorem toNat_asTarget32_of_accepted :
    (asTarget32 psc reload).toNat =
      edges target - edges target % (edges target / 65535 + 1) + 1 := by
  obtain ⟨found, pscFound, reloadFound⟩ := transformTarget32_eq_some_iff.mp accepted
  have isLeast : IsLeastDivisor (edges target) 65535 65535 (edges target / 65535 + 1) :=
    (isLeastDivisor_iff (by decide)).mpr ⟨rfl, found⟩
  have positive := isLeast.quotient_pos (edges_pos target) (by decide)
  have parts := Nat.div_add_mod (edges target) (edges target / 65535 + 1)
  rw [toNat_asTarget32, pscFound, reloadFound]
  · omega
  · rw [pscFound, reloadFound]
    omega
  · rw [reloadFound]
    exact positive

private theorem edges_asTarget32 :
    edges (asTarget32 psc reload) =
      edges target - edges target % (edges target / 65535 + 1) := by
  have isLeast : IsLeastDivisor (edges target) 65535 65535 (edges target / 65535 + 1) :=
    (isLeastDivisor_iff (by decide)).mpr
      ⟨rfl, (transformTarget32_eq_some_iff.mp accepted).1⟩
  have positive := isLeast.quotient_pos (edges_pos target) (by decide)
  have reached := (Nat.le_div_iff_mul_le isLeast.reached).mp positive
  have parts := Nat.mod_add_div (edges target) (edges target / 65535 + 1)
  have product : edges target / 65535 + 1 ≤
      (edges target / 65535 + 1) * (edges target / (edges target / 65535 + 1)) :=
    Nat.le_mul_of_pos_right _ positive
  have value := toNat_asTarget32_of_accepted accepted
  rw [edges_of_several (by omega), value, Nat.add_sub_cancel]

/-- What was read is accepted again. -/
theorem writeBack_accepted :
    ∃ psc' reload', transformTarget32 (asTarget32 psc reload) = some (psc', reload') := by
  have found := (transformTarget32_eq_some_iff.mp accepted).1
  have order : edges (asTarget32 psc reload) / 65535 ≤ edges target / 65535 := by
    rw [edges_asTarget32 accepted]
    exact Nat.div_le_div_right (Nat.sub_le _ _)
  have foundAgain : edges (asTarget32 psc reload) / 65535 + 1 < 65535 := by omega
  obtain ⟨psc', reload', split, _⟩ := transformTarget32_eq_some foundAgain
  exact ⟨psc', reload', split⟩

/-- The registers are kept by what is written back exactly when rounding left
the edges in the range of the same prescaler. -/
theorem writeBack_registers_iff {psc' reload' : UInt32}
    (again : transformTarget32 (asTarget32 psc reload) = some (psc', reload')) :
    (psc' = psc ∧ reload' = reload) ↔
      edges target % (edges target / 65535 + 1) ≤ edges target % 65535 := by
  obtain ⟨_, pscFound, reloadFound⟩ := transformTarget32_eq_some_iff.mp accepted
  obtain ⟨_, pscFound', reloadFound'⟩ := transformTarget32_eq_some_iff.mp again
  rw [edges_asTarget32 accepted] at pscFound' reloadFound'
  have kept := divisor_of_rounded_iff (by decide : 0 < 65535)
    (rfl : edges target / 65535 + 1 = edges target / 65535 + 1)
  rw [← kept, eq_iff_toNat, eq_iff_toNat, pscFound, pscFound', reloadFound, reloadFound']
  constructor
  · rintro ⟨samePsc, _⟩
    rw [samePsc]
  · intro same
    refine ⟨Nat.succ.inj same, ?_⟩
    rw [same]
    have parts := Nat.div_add_mod (edges target) (edges target / 65535 + 1)
    have product : edges target - edges target % (edges target / 65535 + 1) =
        (edges target / 65535 + 1) * (edges target / (edges target / 65535 + 1)) := by
      omega
    rw [product]
    exact Nat.mul_div_cancel_left _ (Nat.succ_pos _)

/-- Where they are not kept, the ratio is smaller by one and the reload value is
the greatest one. -/
theorem writeBack_lost {psc' reload' : UInt32}
    (again : transformTarget32 (asTarget32 psc reload) = some (psc', reload'))
    (lost : edges target % 65535 < edges target % (edges target / 65535 + 1)) :
    (asTarget32 psc' reload').toNat = 65534 * (edges target / 65535) + 1 := by
  have found := (transformTarget32_eq_some_iff.mp accepted).1
  obtain ⟨divisor, quotient⟩ := divisor_of_rounded (by decide : 0 < 65535)
    (by omega) (rfl : edges target / 65535 + 1 = edges target / 65535 + 1) lost
  have value := toNat_asTarget32_of_accepted again
  rw [edges_asTarget32 accepted, divisor, Nat.add_sub_cancel] at value
  rw [Nat.add_sub_cancel] at quotient
  have parts := Nat.div_add_mod
    (edges target - edges target % (edges target / 65535 + 1)) (edges target / 65535)
  rw [quotient, Nat.mul_comm] at parts
  omega

private theorem writeBack_value_iff {psc' reload' : UInt32}
    (again : transformTarget32 (asTarget32 psc reload) = some (psc', reload')) :
    asTarget32 psc' reload' = asTarget32 psc reload ↔
      edges target % (edges target / 65535 + 1) ≤ edges target % 65535 ∨
        edges target - edges target % (edges target / 65535 + 1) =
          65534 * (edges target / 65535) := by
  have registers := writeBack_registers_iff accepted again
  by_cases kept :
      edges target % (edges target / 65535 + 1) ≤ edges target % 65535
  · obtain ⟨samePsc, sameReload⟩ := registers.mpr kept
    rw [samePsc, sameReload]
    exact iff_of_true rfl (Or.inl kept)
  · have lost := writeBack_lost accepted again (Nat.not_le.mp kept)
    have before := toNat_asTarget32_of_accepted accepted
    rw [eq_iff_toNat, lost, before]
    omega

/-- What happens to a target that is read from the counter and written back: it
is accepted, the registers are kept exactly when rounding down took no more
edges than there were above the last multiple of 65535, and the target that is
read next is the same one in that case, and when the rounded edges fill one
prescaler less. -/
theorem writeBack_unchanged_iff :
    ∃ psc' reload', transformTarget32 (asTarget32 psc reload) = some (psc', reload') ∧
      ((psc' = psc ∧ reload' = reload) ↔
        edges target % (edges target / 65535 + 1) ≤ edges target % 65535) ∧
      (asTarget32 psc' reload' = asTarget32 psc reload ↔
        edges target % (edges target / 65535 + 1) ≤ edges target % 65535 ∨
          edges target - edges target % (edges target / 65535 + 1) =
            65534 * (edges target / 65535)) := by
  obtain ⟨psc', reload', again⟩ := writeBack_accepted accepted
  exact ⟨psc', reload', again, writeBack_registers_iff accepted again,
    writeBack_value_iff accepted again⟩

end Accepted

/-- A target that is counted through a prescaler keeps its registers. -/
theorem writeBack_unchanged_hundredThousand :
    ∃ psc' reload', transformTarget32 (asTarget32 1 49999) = some (psc', reload') ∧
      ((psc' = 1 ∧ reload' = 49999) ↔
        edges 100000 % (edges 100000 / 65535 + 1) ≤ edges 100000 % 65535) ∧
      (asTarget32 psc' reload' = asTarget32 1 49999 ↔
        edges 100000 % (edges 100000 / 65535 + 1) ≤ edges 100000 % 65535 ∨
          edges 100000 - edges 100000 % (edges 100000 / 65535 + 1) =
            65534 * (edges 100000 / 65535)) :=
  writeBack_unchanged_iff (transformTarget32_eq_some_iff.mpr (by decide))

/-- Three edges are lost by 196606, one when it is programmed and two more when
what was read is written back. -/
theorem writeBack_drifts :
    transformTarget32 196606 = some (3, 49151) ∧ asTarget32 3 49151 = 196605 ∧
      transformTarget32 (asTarget32 3 49151) = some (2, 65534) ∧
        asTarget32 2 65534 = 196603 := by
  refine ⟨transformTarget32_eq_some_iff.mpr ?_, ?_,
    transformTarget32_eq_some_iff.mpr ?_, ?_⟩ <;> decide

/-! ## A lost signal -/

/-- The steps of the handling of a message at a controller; `none` is a panic. -/
def performAll (ops : List ChannelOp) (controller : FreqmeterController) :
    Option FreqmeterController :=
  ops.foldlM (fun controller op => op.perform controller) controller

/-- The counter is stopped before its target is set, so only the search for a
prescaler can panic. -/
theorem performAll_setTarget {controller : FreqmeterController}
    {newTarget guardTicks psc reload : UInt32}
    (accepted : transformTarget32 newTarget = some (psc, reload)) :
    ∃ after, performAll
        (FChProcessor.setTarget newTarget guardTicks ++ FChProcessor.restart)
        controller = some after ∧
      after.freqmeter.prescaler = psc ∧ after.freqmeter.reload = reload := by
  simp [performAll, FChProcessor.setTarget, FChProcessor.restart,
    FChProcessor.resetGuard, ChannelOp.perform, InCounter.setTarget32,
    InCounter.stop, InCounter.coldStart, accepted]

/-- A lost signal in recorder mode, outside adaptation: the registers of the
counter survive under the condition above. -/
theorem signalLost_registers_iff {self : RecorderProcessor}
    (settled : self.adaptateF = false) (ch : FChannel) (station : Station)
    {controller : FreqmeterController} {target : UInt32}
    (accepted : transformTarget32 target =
      some (controller.freqmeter.prescaler, controller.freqmeter.reload)) :
    ∃ after newTarget guardTicks,
      (self.processFSignalLost ch controller.freqmeter.target32 station).2.newTarget =
        some (newTarget, guardTicks) ∧
      performAll (FChProcessor.setTarget newTarget guardTicks ++ FChProcessor.restart)
        controller = some after ∧
      ((after.freqmeter.prescaler = controller.freqmeter.prescaler ∧
          after.freqmeter.reload = controller.freqmeter.reload) ↔
        edges target % (edges target / 65535 + 1) ≤ edges target % 65535) := by
  obtain ⟨psc', reload', again⟩ := writeBack_accepted accepted
  have answered :
      (self.processFSignalLost ch controller.freqmeter.target32 station).2.newTarget =
        some (controller.freqmeter.target32, guardTicks ch self.sysclk station.ws) := by
    simp [RecorderProcessor.processFSignalLost, settled]
  obtain ⟨after, performed, pscSet, reloadSet⟩ := @performAll_setTarget controller _
    (guardTicks ch self.sysclk station.ws) psc' reload' again
  refine ⟨after, _, _, answered, performed, ?_⟩
  rw [pscSet, reloadSet]
  exact writeBack_registers_iff accepted again

end SelfWriter.Sensors
