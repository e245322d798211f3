import Mathlib.Order.Monotone.Basic
import SelfWriter.Qspi.Counted
import SelfWriter.Qspi.Synced

/-!
# A wake-up and the sleep that is asked for after it

`select_page` and `flash_erease` (`qspi_storage.rs`) wake the chip up first.
The accessor of a selected page asks for sleep when it is dropped, an erase when
it has come to its end; a command that is lost in between leaves through `?` and
nobody asks.
-/

namespace SelfWriter.Qspi

open SelfWriter.Lib.Hoare

/-- The chip sleeps, or will when the `FlashSleep` timer fires. -/
def QSpiDriver.Rested (driver : QSpiDriver) : Prop :=
  driver.sleepState = .slepping ∨
    driver.sleepState = .waiting ∧ driver.sleepTimerArmed = true

/-- The driver knows whether the chip is asleep, and waits with its timer armed
only. -/
structure Settled (driver : QSpiDriver) : Prop where
  asleep_iff : driver.sleepState = .slepping ↔ driver.chip.deepPowerDown = true
  armed : driver.sleepState = .waiting → driver.sleepTimerArmed = true

theorem Settled.rested {driver : QSpiDriver} (settled : Settled driver)
    (idle : driver.sleepState ≠ .working) : driver.Rested := by
  cases state : driver.sleepState with
  | slepping => exact .inl state
  | waiting => exact .inr ⟨state, settled.armed state⟩
  | working => exact absurd state idle

/-- An awake chip may wait for the timer. -/
theorem Settled.waiting {driver : QSpiDriver}
    (awake : driver.chip.deepPowerDown = false) :
    Settled
      { driver with sleepState := .waiting, sleepTimerArmed := true } := by
  refine ⟨?_, fun _ => rfl⟩
  change SleepState.waiting = .slepping ↔ driver.chip.deepPowerDown = true
  rw [awake]
  exact ⟨fun same => (by cases same), fun same => (by cases same)⟩

theorem Settled.awake {driver : QSpiDriver} (settled : Settled driver)
    (notSleeping : driver.sleepState ≠ .slepping) :
    driver.chip.deepPowerDown = false :=
  Bool.eq_false_iff.mpr (mt settled.asleep_iff.mpr notSleeping)

theorem QSpiDriver.Rested.not_working {driver : QSpiDriver}
    (rested : driver.Rested) : driver.sleepState ≠ .working := by
  intro working
  rcases rested with sleeping | ⟨waiting, _⟩
  · rw [working] at sleeping
    cases sleeping
  · rw [working] at waiting
    cases waiting

/-! ## The power mode between a wake-up and the next sleep -/

/-- Neither the driver nor the chip has changed its power mode since `start`. -/
structure SamePower (start driver : QSpiDriver) : Prop where
  sleepState : driver.sleepState = start.sleepState
  armed : driver.sleepTimerArmed = start.sleepTimerArmed
  deepPowerDown : driver.chip.deepPowerDown = start.chip.deepPowerDown

theorem SamePower.refl (driver : QSpiDriver) : SamePower driver driver :=
  ⟨rfl, rfl, rfl⟩

theorem SamePower.settled {start driver : QSpiDriver}
    (same : SamePower start driver) (settled : Settled start) :
    Settled driver := by
  refine ⟨?_, ?_⟩
  · rw [same.sleepState, same.deepPowerDown]
    exact settled.asleep_iff
  · rw [same.sleepState, same.armed]
    exact settled.armed

theorem Chip.execute_power {world : World} {index : Nat} {chip : Chip}
    {command : Command} (wakes : command ≠ .wakeUp)
    (sleeps : command ≠ .enterDeepSleep) :
    (chip.execute world index command).deepPowerDown = chip.deepPowerDown := by
  cases asleep : chip.deepPowerDown with
  | true =>
      rw [Chip.execute_of_asleep asleep, Chip.executeAsleep, if_neg wakes]
      exact asleep
  | false => exact Chip.execute_awake asleep sleeps

section SamePower

variable {world : World} {start : QSpiDriver}

private theorem send_samePower {command : Command} (wakes : command ≠ .wakeUp)
    (sleeps : command ≠ .enterDeepSleep) :
    Triple (SamePower start) (QSpiDriver.send world command)
      (fun _ => SamePower start) (fun _ => SamePower start) := by
  apply send_leaves
  · exact fun _ same => ⟨same.sleepState, same.armed, same.deepPowerDown⟩
  · intro driver same
    exact ⟨same.sleepState, same.armed,
      (Chip.execute_power wakes sleeps).trans same.deepPowerDown⟩

theorem samePower_stable (world : World) (start : QSpiDriver) :
    Stable world (SamePower start) (fun _ => SamePower start) where
  send command quiet := by
    apply send_samePower
    · rintro rfl
      exact quiet
    · rintro rfl
      exact quiet
  mapped _ _ same := ⟨same.sleepState, same.armed, same.deepPowerDown⟩

theorem writeBlock_samePower (startAddress : Nat) (data : List UInt8) :
    Triple (SamePower start) (QSpiDriver.writeBlock world startAddress data)
      (fun _ => SamePower start) (fun _ => SamePower start) := by
  have stable := samePower_stable world start
  unfold QSpiDriver.writeBlock
  apply stable.cancelMemoryMapping.bind
  intro _
  apply Triple.forRange (I := fun _ => SamePower start)
  intro round _
  unfold QSpiDriver.writeChunk
  apply (Stable.waitWhileBusy stable.isBusy).bind
  intro _
  apply stable.writeEnable.bind
  intro _
  apply (stable.checkWriteOk (fun _ _ _ _ after => after)).bind
  intro _
  exact send_samePower (by simp) (by simp)

private theorem setAddrExtender_samePower (value : UInt8) :
    Triple (SamePower start) (QSpiDriver.setAddrExtender world value)
      (fun _ => SamePower start) (fun _ => SamePower start) := by
  have stable := samePower_stable world start
  unfold QSpiDriver.setAddrExtender
  apply Triple.bind (Triple.read (fun _ same => same))
  intro driver
  apply Triple.ite
  · intro _
    apply stable.cancelMemoryMapping.bind
    intro _
    apply stable.writeEnable.bind
    intro _
    apply (send_samePower (by simp) (by simp)).bind
    intro _
    exact Triple.change (fun _ same =>
      ⟨same.sleepState, same.armed, same.deepPowerDown⟩)
  · intro _
    exact Triple.answer (fun _ same => same)

private theorem chipErase_samePower :
    Triple (SamePower start) (QSpiDriver.chipErase world)
      (fun _ => SamePower start) (fun _ => SamePower start) := by
  have stable := samePower_stable world start
  apply Triple.forRange (I := fun _ => SamePower start)
  intro die _
  unfold QSpiDriver.eraseDie
  apply stable.writeEnable.bind
  intro _
  apply (setAddrExtender_samePower _).bind
  intro _
  apply stable.writeEnable.bind
  intro _
  apply (send_samePower (by simp) (by simp)).bind
  intro _
  exact Stable.waitWhileBusy stable.configIsBusy

end SamePower

/-! ## The commands after a wake-up -/

/-- Commands that set the extender. -/
def extenderCommands (held value : UInt8) : Nat :=
  if held = value then 0 else 2

def dieExtender (die : Nat) : UInt8 :=
  UInt8.ofNat (die * mt25qu01gbbb8e12.dieSize / 2 ^ 24)

/-- The extender before each die of an erase. -/
def heldAt (held : UInt8) : Nat → UInt8
  | 0 => held
  | die + 1 => dieExtender die

section Commands

variable (world : World)

/-- Commands up to the end of the first dies, when the first one, the status
read, has the number `first`. -/
def dieCommands (held : UInt8) (first : Nat) : Nat → Nat
  | 0 => 1
  | die + 1 =>
      let erase := dieCommands held first die + 1 +
        extenderCommands (heldAt held die) (dieExtender die) + 1
      erase + 1 + (world.busyPolls (first + erase) + 1)

/-- The wake-up gets through, if one is sent at all. -/
def WakesUp (driver : QSpiDriver) : Prop :=
  driver.sleepState = .slepping → world.transfers driver.sent.length = true

/-- The number of the first command after the wake-up. -/
def awakeAt (driver : QSpiDriver) : Nat :=
  driver.sent.length + if driver.sleepState = .slepping then 1 else 0

def eraseCommands (driver : QSpiDriver) : Nat :=
  if driver.chip.busyPolls = 0 then
    dieCommands world driver.extenderValue (awakeAt driver)
      mt25qu01gbbb8e12.dieCount
  else
    1

/-- `count` commands from the number `first` on get through. -/
def Through (first count : Nat) : Prop :=
  ∀ index, index < first + count → first ≤ index →
    world.transfers index = true

/-- Once the chip is awake, the extender of the page is set. -/
def SelectPaired (page : Nat) (driver : QSpiDriver) : Prop :=
  WakesUp world driver →
    Through world (awakeAt driver)
      (extenderCommands driver.extenderValue (pageExtender page))

/-- Once the chip is awake, the erase comes to its end. -/
def ErasePaired (driver : QSpiDriver) : Prop :=
  WakesUp world driver →
    Through world (awakeAt driver) (eraseCommands world driver)

instance (driver : QSpiDriver) : Decidable (WakesUp world driver) :=
  inferInstanceAs (Decidable (_ → _))

instance (first count : Nat) : Decidable (Through world first count) :=
  inferInstanceAs (Decidable (∀ index, index < first + count →
    first ≤ index → world.transfers index = true))

instance (page : Nat) (driver : QSpiDriver) :
    Decidable (SelectPaired world page driver) :=
  inferInstanceAs (Decidable (_ → _))

instance (driver : QSpiDriver) : Decidable (ErasePaired world driver) :=
  inferInstanceAs (Decidable (_ → _))

end Commands

section Outcomes

variable {world : World} {start : QSpiDriver} {count : Nat}

private theorem dieCommands_mono (world : World) (held : UInt8) (first : Nat) :
    Monotone (dieCommands world held first) := by
  apply monotone_nat_of_le_succ
  intro die
  rw [dieCommands]
  omega

theorem Counted.all_through {driver : QSpiDriver}
    (counted : Counted world start count driver) :
    Through world start.sent.length count := by
  intro index before since
  apply counted.through index since
  rw [counted.length]
  exact before

theorem Lost.not_through {driver : QSpiDriver}
    (lost : Lost world start count driver) :
    ¬ Through world start.sent.length count := by
  obtain ⟨index, since, before, _, failed⟩ := lost
  intro through
  rw [through index before since] at failed
  cases failed

private theorem setAddrExtender_counted (held value : UInt8) :
    Triple
      (fun driver => Counted world start count driver ∧
        driver.extenderValue = held)
      (QSpiDriver.setAddrExtender world value)
      (fun _ driver =>
        Counted world start (count + extenderCommands held value) driver ∧
          driver.extenderValue = value)
      (fun _ => Lost world start (count + extenderCommands held value)) := by
  unfold QSpiDriver.setAddrExtender
  apply Triple.bind (Triple.read (Q := fun seen driver =>
    seen.extenderValue = held ∧ Counted world start count driver ∧
      driver.extenderValue = held) (fun _ holds => ⟨holds.2, holds⟩))
  intro seen
  by_cases equal : held = value
  · rw [extenderCommands, if_pos equal]
    apply Triple.ite
    · intro differs
      rintro driver ⟨same, _⟩
      exact absurd (same.trans equal) differs
    · intro _
      exact Triple.answer (fun _ holds => ⟨holds.2.1, holds.2.2.trans equal⟩)
  · rw [extenderCommands, if_neg equal]
    apply Triple.ite
    · intro _
      apply Triple.bind (R := fun _ driver => Counted world start count driver ∧
        True)
      · rintro driver ⟨_, counted, _⟩
        rw [cancelMemoryMapping_eq]
        exact ⟨⟨counted.awake, counted.length, counted.through⟩, trivial⟩
      · intro _
        apply Triple.bind ((writeEnable_counted (fun _ _ => trivial)).weaken
          (fun _ holds => holds) (fun _ _ reached => reached)
          (fun _ _ lost => lost.mono (Nat.le_succ _)))
        intro _
        apply (send_counted (Q := fun _ => True) (by simp)
          (fun _ _ => trivial)).bind
        intro _
        exact Triple.change (fun _ reached =>
          ⟨⟨reached.1.awake, reached.1.length, reached.1.through⟩, rfl⟩)
    · intro same
      rintro driver ⟨held', _⟩
      exact absurd (held'.symm.trans (not_not.mp same)) equal

/-- The latch is set, so the erase keeps the chip busy for as long as the world
says. -/
theorem dieErase_counted (address : Nat) (value : UInt8) :
    Triple
      (fun driver => Counted world start count driver ∧
        driver.chip.writeEnableLatch = true ∧ driver.extenderValue = value)
      (QSpiDriver.send world (.dieErase address))
      (fun _ driver => Counted world start (count + 1) driver ∧
        driver.extenderValue = value ∧
        driver.chip.busyPolls = world.busyPolls (start.sent.length + count))
      (fun _ => Lost world start (count + 1)) := by
  rintro driver ⟨counted, holds⟩
  have sent := @send_counted world start count (.dieErase address)
    (fun state => state.sent.length = start.sent.length + count ∧
      state.chip.writeEnableLatch = true ∧ state.extenderValue = value)
    (fun state => state.extenderValue = value ∧
      state.chip.busyPolls = world.busyPolls (start.sent.length + count))
    (by simp)
  refine sent ?_ driver ⟨counted, counted.length, holds⟩
  rintro state ⟨length, latched, same⟩
  refine ⟨same, ?_⟩
  dsimp only
  rw [Chip.executeAwake, if_pos latched, ← length]
  rfl

/-- The dies before are erased, the status read included. -/
structure Erased (world : World) (start : QSpiDriver) (die : Nat)
    (driver : QSpiDriver) : Prop where
  counted : Counted world start
    (dieCommands world start.extenderValue start.sent.length die) driver
  held : driver.extenderValue = heldAt start.extenderValue die

private theorem eraseDie_counted (die : Nat) :
    Triple (Erased world start die) (QSpiDriver.eraseDie world die)
      (fun _ => Erased world start (die + 1))
      (fun _ => Lost world start
        (dieCommands world start.extenderValue start.sent.length (die + 1))) := by
  have step : dieCommands world start.extenderValue start.sent.length (die + 1) =
      dieCommands world start.extenderValue start.sent.length die + 1 +
        extenderCommands (heldAt start.extenderValue die) (dieExtender die) +
        1 + 1 + (world.busyPolls (start.sent.length +
          (dieCommands world start.extenderValue start.sent.length die + 1 +
            extenderCommands (heldAt start.extenderValue die) (dieExtender die) +
            1)) + 1) := rfl
  have enables := @writeEnable_counted world start
    (dieCommands world start.extenderValue start.sent.length die)
    (fun driver => driver.extenderValue = heldAt start.extenderValue die)
    (fun _ held => held)
  unfold QSpiDriver.eraseDie
  apply Triple.bind (enables.weaken (fun _ erased => ⟨erased.counted, erased.held⟩)
    (fun _ _ reached => reached) (fun _ _ lost => lost.mono (by omega)))
  intro _
  apply Triple.bind ((setAddrExtender_counted
    (heldAt start.extenderValue die) (dieExtender die)).weaken
    (fun _ reached => ⟨reached.1, reached.2.2⟩) (fun _ _ reached => reached)
    (fun _ _ lost => lost.mono (by omega)))
  intro _
  apply Triple.bind ((writeEnable_counted (fun _ held => held)).weaken
    (fun _ reached => reached) (fun _ _ reached => reached)
    (fun _ _ lost => lost.mono (by omega)))
  intro _
  apply Triple.bind ((dieErase_counted _ (dieExtender die)).weaken
    (fun _ reached => reached) (fun _ _ reached => reached)
    (fun _ _ lost => lost.mono (by omega)))
  intro _
  have polls := fun count busy => @configIsBusy_counted world start count
    (fun driver => driver.extenderValue = dieExtender die) (fun _ held => held)
    busy
  exact (waitWhileBusy_counted polls _).weaken (fun _ reached => reached)
    (fun _ _ reached => ⟨reached.1, reached.2.1⟩) (fun _ _ lost => lost)

private theorem chipErase_counted :
    Triple (Erased world start 0) (QSpiDriver.chipErase world)
      (fun _ => Erased world start mt25qu01gbbb8e12.dieCount)
      (fun _ => Lost world start
        (dieCommands world start.extenderValue start.sent.length
          mt25qu01gbbb8e12.dieCount)) := by
  apply Triple.forRange
  intro die before
  apply (eraseDie_counted die).weaken (fun _ erased => erased)
    (fun _ _ erased => erased)
  intro _ driver lost
  exact lost.mono (dieCommands_mono world _ _ before)

/-! ## How the operations end -/

/-- The driver after a wake-up. -/
structure Woken (world : World) (driver after : QSpiDriver) : Prop where
  through : WakesUp world driver
  working : after.sleepState = .working
  awake : after.chip.deepPowerDown = false
  length : after.sent.length = awakeAt driver
  extenderValue : after.extenderValue = driver.extenderValue
  busyPolls : after.chip.busyPolls = driver.chip.busyPolls

theorem Woken.settled {driver after : QSpiDriver}
    (woken : Woken world driver after) : Settled after := by
  refine ⟨?_, ?_⟩
  · rw [woken.working, woken.awake]
    exact ⟨fun same => (by cases same), fun same => (by cases same)⟩
  · intro waiting
    rw [woken.working] at waiting
    cases waiting

private theorem wakeUp_woken {driver : QSpiDriver} (settled : Settled driver) :
    Triple (fun state => state = driver) (QSpiDriver.wakeUp world)
      (fun _ => Woken world driver)
      (fun _ after => ¬ WakesUp world driver ∧
        after.sleepState = .slepping ∧ Settled after) := by
  rintro state rfl
  have read : (get : DriverM QSpiDriver) state = .ok state state := rfl
  rw [QSpiDriver.wakeUp, bind_of_ok _ read]
  by_cases sleeping : state.sleepState = .slepping
  · rw [if_pos sleeping, bind_of_ok _ (cancelMemoryMapping_eq state)]
    have asleep := settled.asleep_iff.mp sleeping
    have number : awakeAt state = state.sent.length + 1 := by
      rw [awakeAt, if_pos sleeping]
    by_cases through : world.transfers state.sent.length = true
    · have sent : QSpiDriver.send world .wakeUp
          { state with memoryMapped := false } = _ := if_pos through
      rw [bind_of_ok _ sent]
      exact
        { through := fun _ => through
          working := rfl
          awake := by
            change (state.chip.execute _ _ _).deepPowerDown = false
            rw [Chip.execute_of_asleep asleep]
            rfl
          length := number.symm
          extenderValue := rfl
          busyPolls := by
            change (state.chip.execute _ _ _).busyPolls = _
            rw [Chip.execute_of_asleep asleep]
            rfl }
    · have lost : QSpiDriver.send world .wakeUp
          { state with memoryMapped := false } = _ := if_neg through
      rw [bind_of_error _ lost]
      refine ⟨fun wakes => through (wakes sleeping), sleeping, ?_⟩
      exact ⟨settled.asleep_iff, settled.armed⟩
  · rw [if_neg sleeping]
    have number : awakeAt state = state.sent.length := by
      rw [awakeAt, if_neg sleeping]
      rfl
    exact
      { through := fun sleeps => absurd sleeps sleeping
        working := rfl
        awake := settled.awake sleeping
        length := number.symm
        extenderValue := rfl
        busyPolls := rfl }

/-- An operation that ends in `after` has kept what the driver relies on, and
has left the flash rested exactly when it is `paired`. -/
structure Ends (paired : Prop) (after : QSpiDriver) : Prop where
  settled : Settled after
  rested_iff : after.Rested ↔ paired

/-- Without a wake-up the chip goes on sleeping. -/
theorem Ends.asleep {driver after : QSpiDriver} {paired : Prop}
    (lost : ¬ WakesUp world driver) (sleeping : after.sleepState = .slepping)
    (settled : Settled after) : Ends (WakesUp world driver → paired) after :=
  ⟨settled, iff_of_true (.inl sleeping) (fun wakes => absurd wakes lost)⟩

/-- A lost command after the wake-up leaves the driver working. -/
theorem Ends.leaked {driver woken after : QSpiDriver} {count : Nat}
    (awake : Woken world driver woken) (same : SamePower woken after)
    (lost : Lost world woken count after) :
    Ends (WakesUp world driver → Through world woken.sent.length count)
      after := by
  refine ⟨same.settled awake.settled, iff_of_false ?_ ?_⟩
  · intro rested
    exact rested.not_working (same.sleepState.trans awake.working)
  · exact fun paired => lost.not_through (paired awake.through)

/-- Sleep is asked for when all the commands have got through. -/
theorem wantSleep_ends {driver woken : QSpiDriver} {count : Nat}
    {fails : QspiError → QSpiDriver → Prop} (awake : Woken world driver woken) :
    Triple
      (fun state => Counted world woken count state ∧ SamePower woken state)
      QSpiDriver.wantSleep
      (fun _ => Ends
        (WakesUp world driver → Through world woken.sent.length count))
      fails := by
  apply Triple.change
  rintro state ⟨counted, same⟩
  rw [if_pos (same.sleepState.trans awake.working)]
  exact ⟨.waiting counted.awake,
    iff_of_true (.inr ⟨rfl, rfl⟩) (fun _ => counted.all_through)⟩

/-! ### An erase -/

private theorem status_woken {driver woken : QSpiDriver}
    (awake : Woken world driver woken) :
    Triple (fun state => state = woken) (QSpiDriver.configIsBusy world)
      (fun busy state => busy = !decide (driver.chip.busyPolls = 0) ∧
        Erased world woken 0 state ∧ SamePower woken state)
      (fun _ state => Lost world woken 1 state ∧ SamePower woken state) := by
  have polls := (@configIsBusy_counted world woken 0
    (fun state => state.extenderValue = woken.extenderValue)
    (fun _ held => held) driver.chip.busyPolls).both
    ((samePower_stable world woken).configIsBusy)
  apply polls.weaken
  · rintro state rfl
    exact ⟨⟨.refl awake.awake, rfl, awake.busyPolls⟩, .refl _⟩
  · rintro busy state ⟨⟨answer, counted, held, _⟩, same⟩
    exact ⟨answer, ⟨counted, held⟩, same⟩
  · exact fun _ _ stopped => stopped

private theorem chipErase_ends {driver woken : QSpiDriver}
    (awake : Woken world driver woken) :
    Triple (fun state => Erased world woken 0 state ∧ SamePower woken state)
      (do QSpiDriver.chipErase world; QSpiDriver.wantSleep)
      (fun _ => Ends (WakesUp world driver → Through world woken.sent.length
        (dieCommands world woken.extenderValue woken.sent.length
          mt25qu01gbbb8e12.dieCount)))
      (fun _ => Ends (WakesUp world driver → Through world woken.sent.length
        (dieCommands world woken.extenderValue woken.sent.length
          mt25qu01gbbb8e12.dieCount))) := by
  have erases := (@chipErase_counted world woken).both
    (@chipErase_samePower world woken)
  apply Triple.bind (erases.weaken (fun _ holds => holds)
    (fun _ _ reached => reached)
    (fun _ _ stopped => .leaked awake stopped.2 stopped.1))
  intro _
  exact (wantSleep_ends awake).weaken
    (fun _ reached => ⟨reached.1.counted, reached.2⟩)
    (fun _ _ ended => ended) (fun _ _ failure => failure)

theorem erase_ends {driver : QSpiDriver} (settled : Settled driver) :
    Triple (fun state => state = driver) (QSpiDriver.erase world)
      (fun _ => Ends (ErasePaired world driver))
      (fun _ => Ends (ErasePaired world driver)) := by
  have unmapped : Settled { driver with memoryMapped := false } :=
    ⟨settled.asleep_iff, settled.armed⟩
  have wakes : Triple (fun state => state = { driver with memoryMapped := false })
      (QSpiDriver.wakeUp world) (fun _ => Woken world driver)
      (fun _ => Ends (ErasePaired world driver)) := by
    apply (wakeUp_woken unmapped).weaken (fun _ same => same)
    · exact fun _ _ woken => ⟨woken.through, woken.working, woken.awake,
        woken.length, woken.extenderValue, woken.busyPolls⟩
    · exact fun _ _ stopped => .asleep stopped.1 stopped.2.1 stopped.2.2
  unfold QSpiDriver.erase
  apply Triple.bind (R := fun _ state =>
    state = { driver with memoryMapped := false })
  · rintro state rfl
    rw [cancelMemoryMapping_eq]
  · intro _
    apply wakes.bind
    intro _
    apply Triple.fixed
    intro woken awake
    have status := status_woken awake
    rw [ErasePaired, eraseCommands, ← awake.length, ← awake.extenderValue]
    by_cases ready : driver.chip.busyPolls = 0
    · rw [if_pos ready]
      have first : 1 ≤ dieCommands world woken.extenderValue woken.sent.length
          mt25qu01gbbb8e12.dieCount :=
        dieCommands_mono world _ _ (Nat.zero_le _)
      apply Triple.bind (status.weaken (fun _ same => same)
        (fun _ _ reached => reached)
        (fun _ _ stopped => .leaked awake stopped.2 (stopped.1.mono first)))
      intro busy
      apply Triple.ite
      · rintro rfl state ⟨idle, _⟩
        rw [decide_eq_true ready] at idle
        cases idle
      · intro _
        exact (chipErase_ends awake).weaken (fun _ reached => reached.2)
          (fun _ _ ended => ended) (fun _ _ ended => ended)
    · rw [if_neg ready]
      apply Triple.bind (status.weaken (fun _ same => same)
        (fun _ _ reached => reached)
        (fun _ _ stopped => .leaked awake stopped.2 stopped.1))
      intro busy
      apply Triple.ite
      · intro _
        apply Triple.bind ((wantSleep_ends awake).weaken
          (fun _ reached => ⟨reached.2.1.counted, reached.2.2⟩)
          (fun _ _ ended => ended) (fun _ _ failure => failure))
        intro _
        exact Triple.raise (fun _ ended => ended)
      · rintro idle state ⟨rfl, _⟩
        rw [decide_eq_false ready] at idle
        exact absurd rfl idle

/-! ### A selected page -/

/-- A selected page ends awake; otherwise nobody is left to ask for sleep. -/
theorem selectPage_ends {driver : QSpiDriver} (settled : Settled driver)
    (page : Nat) :
    Triple (fun state => state = driver) (QSPIStorage.selectPage world page)
      (fun _ after => Settled after ∧ SelectPaired world page driver)
      (fun _ => Ends (SelectPaired world page driver)) := by
  have wakes : Triple (fun state => state = driver)
      (mapFailure (QSpiDriver.wakeUp world)) (fun _ => Woken world driver)
      (fun _ => Ends (SelectPaired world page driver)) :=
    mapFailure_triple (wakeUp_woken settled)
      (fun _ _ stopped => .asleep stopped.1 stopped.2.1 stopped.2.2)
  unfold QSPIStorage.selectPage
  apply wakes.bind
  intro _
  apply Triple.fixed
  intro woken awake
  have sets := (@setAddrExtender_counted world woken 0 woken.extenderValue
    (pageExtender page)).both
    (@setAddrExtender_samePower world woken (pageExtender page))
  rw [Nat.zero_add] at sets
  rw [SelectPaired, ← awake.length, ← awake.extenderValue]
  apply Triple.bind (mapFailure_triple (sets.weaken ?_
    (fun _ _ reached => reached) (fun _ _ failure => failure)) ?_)
  · intro _
    apply Triple.answer
    rintro state ⟨⟨counted, _⟩, same⟩
    exact ⟨same.settled awake.settled, fun _ => counted.all_through⟩
  · rintro state rfl
    exact ⟨⟨.refl awake.awake, rfl⟩, .refl _⟩
  · exact fun _ _ stopped => .leaked awake stopped.2 stopped.1

end Outcomes

end SelfWriter.Qspi
