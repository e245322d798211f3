import SelfWriter.Qspi.Discipline

/-!
# Counting commands

An operation numbers its commands on from those sent before.  As long as every
one has got through, their number tells how far the operation is; a command that
has not ends the operation, and its number is known.
-/

namespace SelfWriter.Qspi

open SelfWriter.Lib.Hoare

/-- Every command since `before` gets through. -/
def AllTransferred (world : World) (before after : QSpiDriver) : Prop :=
  ∀ index, before.sent.length ≤ index → index < after.sent.length →
    world.transfers index = true

/-- Since `start`, `count` commands have been sent and have got through. -/
structure Counted (world : World) (start : QSpiDriver) (count : Nat)
    (driver : QSpiDriver) : Prop where
  awake : driver.chip.deepPowerDown = false
  length : driver.sent.length = start.sent.length + count
  through : AllTransferred world start driver

/-- One of the first `count` commands since `start` has not got through. -/
def Lost (world : World) (start : QSpiDriver) (count : Nat)
    (driver : QSpiDriver) : Prop :=
  ∃ index, start.sent.length ≤ index ∧ index < start.sent.length + count ∧
    index < driver.sent.length ∧ world.transfers index = false

/-- The driver after a status read. -/
def QSpiDriver.polled (driver : QSpiDriver) : QSpiDriver :=
  { driver.logged .readFlagStatus with
    chip := { driver.chip with busyPolls := driver.chip.busyPolls - 1 } }

section Counting

variable {world : World} {start : QSpiDriver} {count : Nat}

theorem AllTransferred.refl (driver : QSpiDriver) :
    AllTransferred world driver driver :=
  fun _ since before => absurd before (Nat.not_lt.mpr since)

theorem AllTransferred.trans {first second third : QSpiDriver}
    (before : AllTransferred world first second)
    (after : AllTransferred world second third) :
    AllTransferred world first third := by
  intro index since inLog
  rcases Nat.lt_or_ge index second.sent.length with earlier | later
  · exact before index since earlier
  · exact after index later inLog

/-- The command that is sent in `driver` gets through. -/
theorem AllTransferred.sent {driver after : QSpiDriver}
    (transferred : AllTransferred world start driver)
    (length : after.sent.length = driver.sent.length + 1)
    (through : world.transfers driver.sent.length = true) :
    AllTransferred world start after := by
  apply transferred.trans
  intro index since before
  rw [length] at before
  rw [Nat.le_antisymm (Nat.le_of_lt_succ before) since]
  exact through

theorem Counted.refl {driver : QSpiDriver}
    (awake : driver.chip.deepPowerDown = false) : Counted world driver 0 driver :=
  ⟨awake, rfl, .refl driver⟩

theorem Lost.mono {driver : QSpiDriver} {more : Nat}
    (lost : Lost world start count driver) (fewer : count ≤ more) :
    Lost world start more driver := by
  obtain ⟨index, since, before, inLog, failed⟩ := lost
  exact ⟨index, since, by omega, inLog, failed⟩

/-- A command that is sent next but does not get through. -/
theorem Counted.lose {driver : QSpiDriver}
    (counted : Counted world start count driver) {command : Command}
    (failed : ¬ world.transfers driver.sent.length = true) :
    Lost world start (count + 1) (driver.logged command) := by
  have length := counted.length
  refine ⟨driver.sent.length, by omega, by omega, Nat.lt_succ_self _, ?_⟩
  exact Bool.eq_false_iff.mpr failed

/-- One more command, before which `P` holds and after which `Q` does. -/
theorem send_counted {command : Command} {P Q : QSpiDriver → Prop}
    (stays : command ≠ .enterDeepSleep)
    (executed : ∀ driver, P driver →
      Q { driver.logged command with
          chip := driver.chip.executeAwake world driver.sent.length command }) :
    Triple (fun driver => Counted world start count driver ∧ P driver)
      (QSpiDriver.send world command)
      (fun _ driver => Counted world start (count + 1) driver ∧ Q driver)
      (fun _ => Lost world start (count + 1)) := by
  rintro driver ⟨counted, holds⟩
  rw [QSpiDriver.send]
  by_cases through : world.transfers driver.sent.length = true
  · rw [if_pos through]
    refine ⟨⟨?_, ?_, ?_⟩, ?_⟩
    · exact Chip.execute_awake counted.awake stays
    · exact congrArg (· + 1) counted.length
    · exact counted.through.sent rfl through
    · dsimp only
      rw [Chip.execute_of_awake counted.awake]
      exact executed driver holds
  · rw [if_neg through]
    exact counted.lose through

theorem writeEnable_counted {P : QSpiDriver → Prop}
    (kept : ∀ driver, P driver →
      P { driver.logged .writeEnable with
          chip := { driver.chip with writeEnableLatch := true } }) :
    Triple (fun driver => Counted world start count driver ∧ P driver)
      (QSpiDriver.writeEnable world)
      (fun _ driver => Counted world start (count + 1) driver ∧
        driver.chip.writeEnableLatch = true ∧ P driver)
      (fun _ => Lost world start (count + 1)) :=
  send_counted (by decide) (fun driver holds => ⟨rfl, kept driver holds⟩)

/-- A status read tells what the chip was like before it. -/
theorem readStatus_counted (P : QSpiDriver → Prop) :
    Triple (fun driver => Counted world start count driver ∧ P driver)
      (QSpiDriver.readStatus world)
      (fun status after => Counted world start (count + 1) after ∧
        ∃ driver, P driver ∧ after = driver.polled ∧
          status.programFailure = driver.chip.programFailure ∧
          status.progOrEraseCtrl = decide (driver.chip.busyPolls = 0))
      (fun _ => Lost world start (count + 1)) := by
  unfold QSpiDriver.readStatus
  apply Triple.bind (Triple.read (Q := fun seen driver => seen = driver ∧
    Counted world start count driver ∧ P driver) (fun _ holds => ⟨rfl, holds⟩))
  intro seen
  apply Triple.bind (R := fun _ after => Counted world start (count + 1) after ∧
    P seen ∧ after = seen.polled)
  · have sent := @send_counted world start count .readFlagStatus
      (fun driver => seen = driver ∧ P driver)
      (fun after => P seen ∧ after = seen.polled) (by decide)
    apply (sent ?_).weaken
    · exact fun _ holds => ⟨holds.2.1, holds.1, holds.2.2⟩
    · exact fun _ _ reached => reached
    · exact fun _ _ lost => lost
    · rintro driver ⟨rfl, holds⟩
      exact ⟨holds, rfl⟩
  · intro _
    apply Triple.answer
    rintro after ⟨counted, holds, polled⟩
    exact ⟨counted, seen, holds, polled, rfl, rfl⟩

/-! ## Waiting -/

section Waiting

variable {P : QSpiDriver → Prop}

theorem configIsBusy_counted (polled : ∀ driver, P driver → P driver.polled)
    {busy : Nat} :
    Triple
      (fun driver => Counted world start count driver ∧ P driver ∧
        driver.chip.busyPolls = busy)
      (QSpiDriver.configIsBusy world)
      (fun answer driver => answer = !decide (busy = 0) ∧
        Counted world start (count + 1) driver ∧ P driver ∧
        driver.chip.busyPolls = busy - 1)
      (fun _ => Lost world start (count + 1)) := by
  unfold QSpiDriver.configIsBusy
  apply (readStatus_counted (fun driver => P driver ∧
    driver.chip.busyPolls = busy)).bind
  intro status
  apply Triple.answer
  rintro _ ⟨counted, driver, ⟨holds, rfl⟩, rfl, _, ready⟩
  exact ⟨congrArg not ready, counted, polled driver holds, rfl⟩

theorem isBusy_counted (polled : ∀ driver, P driver → P driver.polled)
    (unmapped : ∀ driver, P driver → P { driver with memoryMapped := false })
    {busy : Nat} :
    Triple
      (fun driver => Counted world start count driver ∧ P driver ∧
        driver.chip.busyPolls = busy)
      (QSpiDriver.isBusy world)
      (fun answer driver => answer = !decide (busy = 0) ∧
        Counted world start (count + 1) driver ∧ P driver ∧
        driver.chip.busyPolls = busy - 1)
      (fun _ => Lost world start (count + 1)) := by
  unfold QSpiDriver.isBusy
  apply Triple.bind (R := fun _ driver => Counted world start count driver ∧
    P driver ∧ driver.chip.busyPolls = busy)
  · rintro driver ⟨counted, holds, polls⟩
    rw [cancelMemoryMapping_eq]
    exact ⟨⟨counted.awake, counted.length, counted.through⟩,
      unmapped driver holds, polls⟩
  · intro _
    exact configIsBusy_counted polled

/-- The wait reads the status once more than the chip is busy. -/
theorem pollWhileBusy_counted {poll : DriverM Bool}
    (each : ∀ count busy, Triple
      (fun driver => Counted world start count driver ∧ P driver ∧
        driver.chip.busyPolls = busy)
      poll
      (fun answer driver => answer = !decide (busy = 0) ∧
        Counted world start (count + 1) driver ∧ P driver ∧
        driver.chip.busyPolls = busy - 1)
      (fun _ => Lost world start (count + 1))) (busy : Nat) :
    ∀ {count}, Triple
      (fun driver => Counted world start count driver ∧ P driver ∧
        driver.chip.busyPolls = busy)
      (QSpiDriver.pollWhileBusy poll (busy + 1))
      (fun _ driver => Counted world start (count + (busy + 1)) driver ∧
        P driver ∧ driver.chip.busyPolls = 0)
      (fun _ => Lost world start (count + (busy + 1))) := by
  induction busy with
  | zero =>
      intro count
      unfold QSpiDriver.pollWhileBusy
      apply (each count 0).bind
      intro answer
      apply Triple.ite
      · rintro rfl
        rintro driver ⟨impossible, _⟩
        cases impossible
      · intro _
        exact Triple.answer (fun _ reached => reached.2)
  | succ busy inductionHypothesis =>
      intro count
      unfold QSpiDriver.pollWhileBusy
      apply Triple.bind ((each count (busy + 1)).weaken (fun _ holds => holds)
        (fun _ _ reached => reached)
        (fun _ _ lost => lost.mono (Nat.add_le_add_left (Nat.le_add_left _ _) _)))
      intro answer
      apply Triple.ite
      · intro _
        have rest := @inductionHypothesis (count + 1)
        rw [show count + 1 + (busy + 1) = count + (busy + 1 + 1) by omega] at rest
        exact rest.weaken (fun _ reached => reached.2)
          (fun _ _ reached => reached) (fun _ _ lost => lost)
      · intro ready
        rintro driver ⟨rfl, _⟩
        exact absurd rfl ready

theorem waitWhileBusy_counted {poll : DriverM Bool}
    (each : ∀ count busy, Triple
      (fun driver => Counted world start count driver ∧ P driver ∧
        driver.chip.busyPolls = busy)
      poll
      (fun answer driver => answer = !decide (busy = 0) ∧
        Counted world start (count + 1) driver ∧ P driver ∧
        driver.chip.busyPolls = busy - 1)
      (fun _ => Lost world start (count + 1))) (busy : Nat) :
    Triple
      (fun driver => Counted world start count driver ∧ P driver ∧
        driver.chip.busyPolls = busy)
      (QSpiDriver.waitWhileBusy poll)
      (fun _ driver => Counted world start (count + (busy + 1)) driver ∧
        P driver ∧ driver.chip.busyPolls = 0)
      (fun _ => Lost world start (count + (busy + 1))) := by
  unfold QSpiDriver.waitWhileBusy
  apply Triple.bind (Triple.read (Q := fun seen driver =>
    seen.chip.busyPolls = busy ∧ Counted world start count driver ∧
      P driver ∧ driver.chip.busyPolls = busy)
    (fun _ holds => ⟨holds.2.2, holds⟩))
  intro seen
  rintro driver ⟨rfl, holds⟩
  exact pollWhileBusy_counted each seen.chip.busyPolls driver holds

end Waiting

end Counting

end SelfWriter.Qspi
