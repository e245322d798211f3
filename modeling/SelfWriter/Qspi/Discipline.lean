import SelfWriter.Lib.Machine
import SelfWriter.Qspi.Quiet

/-!
# Commands are sent to a chip that can take them

The driver leaves the memory-mapped mode before it sends a command, and wakes
the chip up before it sends any other one.  Between its operations an accessor
keeps the driver working, which the sleep timer respects.
-/

namespace SelfWriter.Qspi

open SelfWriter.Lib SelfWriter.Lib.Hoare

/-- In deep power-down only the wake-up command is sent, and no command while
the memory-mapped mode is active. -/
structure Sent.Proper (sent : Sent) : Prop where
  awake : sent.deepPowerDown = true → sent.command = .wakeUp
  indirect : sent.memoryMapped = false

def Disciplined (driver : QSpiDriver) : Prop :=
  ∀ sent ∈ driver.sent, sent.Proper

/-- Outside the operations the driver knows whether the chip is asleep. -/
structure Resting (driver : QSpiDriver) : Prop where
  asleep_iff : driver.sleepState = .slepping ↔ driver.chip.deepPowerDown = true
  disciplined : Disciplined driver

/-- The driver works and the chip is awake. -/
structure Open (driver : QSpiDriver) : Prop where
  working : driver.sleepState = .working
  awake : driver.chip.deepPowerDown = false
  disciplined : Disciplined driver

/-- The mapping is off, too. -/
structure Indirect (driver : QSpiDriver) : Prop where
  opened : Open driver
  unmapped : driver.memoryMapped = false

theorem Disciplined.logged {driver : QSpiDriver} {command : Command}
    (disciplined : Disciplined driver) (unmapped : driver.memoryMapped = false)
    (heard : driver.chip.deepPowerDown = true → command = .wakeUp) :
    Disciplined (driver.logged command) := by
  intro sent member
  rcases List.mem_cons.mp member with rfl | earlier
  · exact ⟨heard, unmapped⟩
  · exact disciplined sent earlier

theorem Open.mapped {driver : QSpiDriver} (opened : Open driver) (mapped : Bool) :
    Open { driver with memoryMapped := mapped } :=
  ⟨opened.working, opened.awake, opened.disciplined⟩

theorem Open.resting {driver : QSpiDriver} (opened : Open driver) :
    Resting driver := by
  refine ⟨?_, opened.disciplined⟩
  rw [opened.working, opened.awake]
  exact ⟨fun same => (by cases same), fun same => (by cases same)⟩

theorem Resting.mapped {driver : QSpiDriver} (resting : Resting driver)
    (mapped : Bool) : Resting { driver with memoryMapped := mapped } :=
  ⟨resting.asleep_iff, resting.disciplined⟩

theorem Resting.awake {driver : QSpiDriver} (resting : Resting driver)
    (notSleeping : driver.sleepState ≠ .slepping) :
    driver.chip.deepPowerDown = false :=
  Bool.eq_false_iff.mpr (mt resting.asleep_iff.mpr notSleeping)

/-- Only one command sends an awake chip to sleep. -/
theorem Chip.execute_awake {world : World} {index : Nat} {chip : Chip}
    (awake : chip.deepPowerDown = false) {command : Command}
    (stays : command ≠ .enterDeepSleep) :
    (chip.execute world index command).deepPowerDown = false := by
  rw [Chip.execute_of_awake awake]
  cases command with
  | enterDeepSleep => exact absurd rfl stays
  | wakeUp => exact awake
  | writeEnable => exact awake
  | readFlagStatus => exact awake
  | qioFastRead address length => exact awake
  | writeAddrExtanderReg value =>
      rw [Chip.executeAwake]
      split <;> exact awake
  | qioFastProgramm address block =>
      rw [Chip.executeAwake]
      split <;> exact awake
  | dieErase address =>
      rw [Chip.executeAwake]
      split <;> exact awake

section Sending

variable {world : World}

/-- What a command leaves behind, whether or not it gets through. -/
theorem send_leaves {pre post : QSpiDriver → Prop} {command : Command}
    (refused : ∀ driver, pre driver → post (driver.logged command))
    (executed : ∀ driver, pre driver → post
      { driver.logged command with
        chip := driver.chip.execute world driver.sent.length command }) :
    Triple pre (QSpiDriver.send world command) (fun _ => post)
      (fun _ => post) := by
  intro driver holds
  rw [QSpiDriver.send]
  by_cases through : world.transfers driver.sent.length = true
  · rw [if_pos through]
    exact executed driver holds
  · rw [if_neg through]
    exact refused driver holds

private theorem send_indirect {command : Command} (stays : command ≠ .enterDeepSleep) :
    Triple Indirect (QSpiDriver.send world command) (fun _ => Indirect)
      (fun _ => Indirect) := by
  have logged : ∀ driver, Indirect driver →
      Disciplined (driver.logged command) := by
    intro driver indirect
    apply indirect.opened.disciplined.logged indirect.unmapped
    intro asleep
    rw [indirect.opened.awake] at asleep
    cases asleep
  apply send_leaves
  · intro driver indirect
    exact ⟨⟨indirect.opened.working, indirect.opened.awake,
      logged driver indirect⟩, indirect.unmapped⟩
  · intro driver indirect
    exact ⟨⟨indirect.opened.working,
      Chip.execute_awake indirect.opened.awake stays,
      logged driver indirect⟩, indirect.unmapped⟩

theorem cancelMemoryMapping_eq (driver : QSpiDriver) :
    QSpiDriver.cancelMemoryMapping world driver =
      .ok () { driver with memoryMapped := false } := by
  obtain ⟨chip, mapped, extender, sleepState, armed, sent⟩ := driver
  cases mapped <;> rfl

private theorem cancelMemoryMapping_open {fails : QspiError → QSpiDriver → Prop} :
    Triple Open (QSpiDriver.cancelMemoryMapping world) (fun _ => Indirect)
      fails := by
  intro driver opened
  rw [cancelMemoryMapping_eq]
  exact ⟨opened.mapped false, rfl⟩

end Sending

/-! ## Operations on an awake chip -/

section Operations

variable {world : World}

/-- Whatever is done with the mapping off leaves the chip awake. -/
theorem opened_of_indirect {α : Type} {operation : DriverM α}
    (triple : Triple Indirect operation (fun _ => Indirect) (fun _ => Indirect)) :
    Triple Indirect operation (fun _ => Open) (fun _ => Open) :=
  triple.weaken (fun _ indirect => indirect)
    (fun _ _ indirect => indirect.opened) (fun _ _ indirect => indirect.opened)

private theorem cancelMemoryMapping_indirect {fails : QspiError → QSpiDriver → Prop} :
    Triple Indirect (QSpiDriver.cancelMemoryMapping world) (fun _ => Indirect)
      fails :=
  cancelMemoryMapping_open.weaken (fun _ indirect => indirect.opened)
    (fun _ _ indirect => indirect) (fun _ _ failure => failure)

private theorem readStatus_indirect :
    Triple Indirect (QSpiDriver.readStatus world) (fun _ => Indirect)
      (fun _ => Indirect) := by
  rw [QSpiDriver.readStatus]
  apply Triple.bind (Triple.read (fun _ holds => holds))
  intro driver
  apply (send_indirect (by decide)).bind
  intro _
  exact Triple.answer (fun _ holds => holds)

private theorem configIsBusy_indirect :
    Triple Indirect (QSpiDriver.configIsBusy world) (fun _ => Indirect)
      (fun _ => Indirect) := by
  rw [QSpiDriver.configIsBusy]
  apply readStatus_indirect.bind
  intro _
  exact Triple.answer (fun _ holds => holds)

private theorem isBusy_indirect :
    Triple Indirect (QSpiDriver.isBusy world) (fun _ => Indirect)
      (fun _ => Indirect) := by
  rw [QSpiDriver.isBusy]
  apply cancelMemoryMapping_indirect.bind
  intro _
  exact configIsBusy_indirect

private theorem checkWriteOk_indirect :
    Triple Indirect (QSpiDriver.checkWriteOk world) (fun _ => Indirect)
      (fun _ => Indirect) := by
  rw [QSpiDriver.checkWriteOk]
  apply readStatus_indirect.bind
  intro status
  apply Triple.ite
  · intro _
    exact Triple.raise (fun _ holds => holds)
  · intro _
    exact Triple.answer (fun _ holds => holds)

private theorem writeChunk_indirect (startAddress : Nat) (data : List UInt8)
    (round : Nat) :
    Triple Indirect (QSpiDriver.writeChunk world startAddress data round)
      (fun _ => Indirect) (fun _ => Indirect) := by
  rw [QSpiDriver.writeChunk]
  apply (Stable.waitWhileBusy isBusy_indirect).bind
  intro _
  apply Triple.bind (send_indirect (by decide))
  intro _
  apply checkWriteOk_indirect.bind
  intro _
  exact send_indirect (by simp)

private theorem writeBlock_open (startAddress : Nat) (data : List UInt8) :
    Triple Open (QSpiDriver.writeBlock world startAddress data)
      (fun _ => Open) (fun _ => Open) := by
  rw [QSpiDriver.writeBlock]
  apply cancelMemoryMapping_open.bind
  intro _
  apply opened_of_indirect
  apply Triple.forRange (I := fun _ => Indirect)
  intro round _
  exact writeChunk_indirect startAddress data round

private theorem readDirect_open (startAddress length : Nat) :
    Triple Open (QSpiDriver.readDirect world startAddress length)
      (fun _ => Open) (fun _ => Open) := by
  rw [QSpiDriver.readDirect]
  apply cancelMemoryMapping_open.bind
  intro _
  apply (opened_of_indirect (send_indirect (by simp))).bind
  intro _
  apply Triple.bind (Triple.read (fun _ holds => holds))
  intro driver
  exact Triple.answer (fun _ holds => holds)

theorem setMemoryMappingMode_open :
    Triple Open (QSpiDriver.setMemoryMappingMode world true) (fun _ => Open)
      (fun _ => Open) := by
  rw [QSpiDriver.setMemoryMappingMode]
  apply Triple.bind (Triple.read (Q := fun driver state =>
    driver = state ∧ Open state) (fun _ opened => ⟨rfl, opened⟩))
  intro driver
  apply Triple.ite
  · intro _
    exact Triple.answer (fun _ both => both.2)
  · intro unmapped
    apply Triple.ite
    · intro _
      have off : driver.memoryMapped = false :=
        Bool.eq_false_iff.mpr (fun mapped => unmapped mapped.symm)
      apply Triple.bind (R := fun _ => Open)
      · refine (opened_of_indirect (send_indirect (by simp))).weaken ?_
          (fun _ _ opened => opened) (fun _ _ opened => opened)
        rintro state ⟨rfl, opened⟩
        exact ⟨opened, off⟩
      · intro _
        exact Triple.change (fun _ opened => opened.mapped true)
    · exact fun impossible => absurd rfl impossible

/-- Setting the extender keeps what turning the mapping off keeps. -/
theorem setAddrExtender_keeps {P : QSpiDriver → Prop} (value : UInt8)
    (indirect : ∀ driver, Indirect driver → P driver)
    (cancels : Triple P (QSpiDriver.cancelMemoryMapping world)
      (fun _ => Indirect) (fun _ => P)) :
    Triple P (QSpiDriver.setAddrExtender world value) (fun _ => P)
      (fun _ => P) := by
  rw [QSpiDriver.setAddrExtender]
  apply Triple.bind (Triple.read (fun _ holds => holds))
  intro driver
  apply Triple.ite
  · intro _
    apply cancels.bind
    intro _
    have fails : ∀ (_ : QspiError) driver, Indirect driver → P driver :=
      fun _ => indirect
    apply Triple.bind ((send_indirect (by decide)).weaken
      (fun _ holds => holds) (fun _ _ holds => holds) fails)
    intro _
    apply Triple.bind ((send_indirect (by simp)).weaken
      (fun _ holds => holds) (fun _ _ holds => holds) fails)
    intro _
    exact Triple.change (fun driver holds => indirect _
      ⟨⟨holds.opened.working, holds.opened.awake, holds.opened.disciplined⟩,
        holds.unmapped⟩)
  · intro _
    exact Triple.answer (fun _ holds => holds)

theorem setAddrExtender_open (value : UInt8) :
    Triple Open (QSpiDriver.setAddrExtender world value) (fun _ => Open)
      (fun _ => Open) :=
  setAddrExtender_keeps value (fun _ indirect => indirect.opened)
    cancelMemoryMapping_open

/-- The mapping stays off while the extender is set. -/
theorem setAddrExtender_indirect (value : UInt8) :
    Triple Indirect (QSpiDriver.setAddrExtender world value) (fun _ => Indirect)
      (fun _ => Indirect) :=
  setAddrExtender_keeps value (fun _ indirect => indirect)
    cancelMemoryMapping_indirect

private theorem eraseDie_indirect (die : Nat) :
    Triple Indirect (QSpiDriver.eraseDie world die) (fun _ => Indirect)
      (fun _ => Indirect) := by
  rw [QSpiDriver.eraseDie]
  apply Triple.bind (send_indirect (by decide))
  intro _
  apply (setAddrExtender_indirect _).bind
  intro _
  apply Triple.bind (send_indirect (by decide))
  intro _
  apply Triple.bind (send_indirect (by simp))
  intro _
  exact Stable.waitWhileBusy configIsBusy_indirect

/-! ## Waking up and going to sleep -/

theorem wakeUp_resting :
    Triple Resting (QSpiDriver.wakeUp world) (fun _ => Open)
      (fun _ => Resting) := by
  rw [QSpiDriver.wakeUp]
  apply Triple.bind (Triple.read (Q := fun driver state =>
    driver = state ∧ Resting state) (fun _ resting => ⟨rfl, resting⟩))
  intro driver
  apply Triple.ite
  · intro _
    apply Triple.bind (R := fun _ state =>
      Resting state ∧ state.memoryMapped = false)
    · rintro state ⟨_, resting⟩
      rw [cancelMemoryMapping_eq]
      exact ⟨resting.mapped false, rfl⟩
    · intro _
      apply Triple.bind (R := fun _ state =>
        state.chip.deepPowerDown = false ∧ Disciplined state)
      · rintro state ⟨resting, unmapped⟩
        have logged : Disciplined (state.logged .wakeUp) :=
          resting.disciplined.logged unmapped (fun _ => rfl)
        rw [QSpiDriver.send]
        by_cases through : world.transfers state.sent.length = true
        · rw [if_pos through]
          refine ⟨?_, logged⟩
          cases asleep : state.chip.deepPowerDown with
          | true =>
              change (state.chip.execute _ _ _).deepPowerDown = false
              rw [Chip.execute_of_asleep asleep]
              rfl
          | false => exact Chip.execute_awake asleep (by decide)
        · rw [if_neg through]
          exact ⟨resting.asleep_iff, logged⟩
      · intro _
        exact Triple.change (fun _ woken => ⟨rfl, woken.1, woken.2⟩)
  · intro notSleeping
    apply Triple.change
    rintro state ⟨rfl, resting⟩
    exact ⟨rfl, resting.awake notSleeping, resting.disciplined⟩

private theorem wantSleep_resting {F : QspiError → QSpiDriver → Prop} :
    Triple Resting QSpiDriver.wantSleep (fun _ => Resting) F := by
  apply Triple.change
  intro driver resting
  by_cases working : driver.sleepState = .working
  · rw [if_pos working]
    have awake := resting.awake (by rw [working]; decide)
    refine ⟨?_, resting.disciplined⟩
    change SleepState.waiting = .slepping ↔ driver.chip.deepPowerDown = true
    rw [awake]
    exact ⟨fun same => (by cases same), fun same => (by cases same)⟩
  · rw [if_neg working]
    exact resting

/-- A chip that is sent to sleep was awake before. -/
theorem enterSleep_resting :
    Triple (fun driver => Resting driver ∧ driver.sleepState = .waiting)
      (QSpiDriver.enterSleep world) (fun _ => Resting) (fun _ => Resting) := by
  rw [QSpiDriver.enterSleep]
  apply Triple.bind (R := fun _ driver =>
    (Resting driver ∧ driver.sleepState = .waiting) ∧
      driver.memoryMapped = false)
  · rintro driver ⟨resting, waiting⟩
    rw [cancelMemoryMapping_eq]
    exact ⟨⟨resting.mapped false, waiting⟩, rfl⟩
  · intro _
    apply Triple.bind (R := fun _ driver =>
      driver.chip.deepPowerDown = true ∧ Disciplined driver)
    · rintro driver ⟨⟨resting, waiting⟩, unmapped⟩
      have awake := resting.awake (by rw [waiting]; decide)
      have logged : Disciplined (driver.logged .enterDeepSleep) := by
        apply resting.disciplined.logged unmapped
        intro asleep
        rw [awake] at asleep
        cases asleep
      rw [QSpiDriver.send]
      by_cases through : world.transfers driver.sent.length = true
      · rw [if_pos through]
        refine ⟨?_, logged⟩
        change (driver.chip.execute _ _ _).deepPowerDown = true
        rw [Chip.execute_of_awake awake]
        rfl
      · rw [if_neg through]
        exact ⟨resting.asleep_iff, logged⟩
    · intro _
      exact Triple.change (fun _ slept =>
        ⟨⟨fun _ => slept.1, fun _ => rfl⟩, slept.2⟩)

private theorem wakeUp_unmapped :
    Triple (fun driver => driver.memoryMapped = false)
      (QSpiDriver.wakeUp world) (fun _ driver => driver.memoryMapped = false)
      (fun _ driver => driver.memoryMapped = false) := by
  rw [QSpiDriver.wakeUp]
  apply Triple.bind (Triple.read (fun _ unmapped => unmapped))
  intro driver
  apply Triple.ite
  · intro _
    apply Triple.bind (R := fun _ state => state.memoryMapped = false)
    · intro state _
      rw [cancelMemoryMapping_eq]
    · intro _
      apply Triple.bind (R := fun _ state => state.memoryMapped = false)
      · exact send_leaves (fun _ unmapped => unmapped) (fun _ unmapped => unmapped)
      · intro _
        exact Triple.change (fun _ unmapped => unmapped)
  · intro _
    exact Triple.change (fun _ unmapped => unmapped)

private theorem erase_resting :
    Triple Resting (QSpiDriver.erase world) (fun _ => Resting)
      (fun _ => Resting) := by
  rw [QSpiDriver.erase]
  apply Triple.bind (R := fun _ driver =>
    Resting driver ∧ driver.memoryMapped = false)
  · intro driver resting
    rw [cancelMemoryMapping_eq]
    exact ⟨resting.mapped false, rfl⟩
  · intro _
    have wakes := wakeUp_resting.both (@wakeUp_unmapped world)
    apply (wakes.weaken (fun _ both => both)
      (fun _ _ both => Indirect.mk both.1 both.2) (fun _ _ both => both.1)).bind
    intro _
    have rests : ∀ driver, Indirect driver → Resting driver :=
      fun _ indirect => indirect.opened.resting
    apply (configIsBusy_indirect.weaken (fun _ indirect => indirect)
      (fun _ _ indirect => indirect)
      (fun _ driver indirect => rests driver indirect)).bind
    intro busy
    apply Triple.ite
    · intro _
      apply (wantSleep_resting.weaken rests
        (fun _ _ resting => resting) (fun _ _ failure => failure)).bind
      intro _
      exact Triple.raise (fun _ resting => resting)
    · intro _
      have erases := Triple.forRange (I := fun _ => Indirect)
        mt25qu01gbbb8e12.dieCount (fun die _ => @eraseDie_indirect world die)
      apply (erases.weaken (fun _ indirect => indirect)
        (fun _ driver indirect => rests driver indirect)
        (fun _ driver indirect => rests driver indirect)).bind
      intro _
      exact wantSleep_resting

end Operations

/-! ## A serial client -/

/-- What happens to the storage: one accessor at a time, or a whole-chip erase
while there is none, and the firings of the sleep timer.  The destructor does
nothing when it does not get the driver at once. -/
inductive SerialStep where
  | selectPage (page : Nat)
  | write (data : List UInt8)
  | readTo (offset length : Nat)
  | mapToMem (offset : Nat)
  | drop (locked : Bool)
  | flashErease
  | timer
  deriving DecidableEq, Repr

namespace Client

variable (world : World)

def use {α : Type} (client : Client)
    (operation : QSPIFlashPageAccessor → StorageM α) : Option Client :=
  match client.accessor with
  | none => none
  | some accessor =>
      some { client with
        driver := Client.after (operation accessor) client.driver }

def serialStep (client : Client) : SerialStep → Option Client
  | .selectPage page =>
      match client.accessor with
      | some _ => none
      | none =>
          match QSPIStorage.selectPage world page client.driver with
          | .ok accessor driver =>
              some { driver := driver, accessor := some accessor }
          | .error _ driver => some { driver := driver, accessor := none }
  | .write data => client.use (fun accessor => accessor.write world data)
  | .readTo offset length =>
      client.use (fun accessor => accessor.readTo world offset length)
  | .mapToMem offset =>
      client.use (fun accessor => accessor.mapToMem world offset)
  | .drop locked =>
      match client.accessor with
      | none => none
      | some accessor =>
          some
            { driver :=
                if locked then Client.after accessor.drop client.driver
                else client.driver
              accessor := none }
  | .flashErease =>
      match client.accessor with
      | some _ => none
      | none =>
          some { client with
            driver := Client.after (QSPIStorage.flashErease world) client.driver }
  | .timer => some { client with driver := client.driver.flashSleep world }

/-- From the end of `QSpiDriver::init` on. -/
def serial (chip : Chip) : Machine Client SerialStep where
  start := Client.init chip
  step := Client.serialStep world

variable {world}

/-- What an operation ends in, whether it answers or fails. -/
theorem after_of_triple {α : Type} {operation : StorageM α}
    {pre inv : QSpiDriver → Prop} {driver : QSpiDriver}
    (triple : Triple pre operation (fun _ => inv) (fun _ => inv))
    (holds : pre driver) : inv (Client.after operation driver) := by
  have reached := triple driver holds
  rw [Client.after]
  cases outcome : operation driver with
  | ok value after =>
      rw [outcome] at reached
      exact reached
  | error error after =>
      rw [outcome] at reached
      exact reached

private theorem write_open (accessor : QSPIFlashPageAccessor) (data : List UInt8) :
    Triple Open (accessor.write world data) (fun _ => Open) (fun _ => Open) :=
  mapFailure_triple (writeBlock_open _ data) (fun _ _ opened => opened)

private theorem readTo_open (accessor : QSPIFlashPageAccessor) (offset length : Nat) :
    Triple Open (accessor.readTo world offset length) (fun _ => Open)
      (fun _ => Open) :=
  readTo_triple (fun startAddress => readDirect_open startAddress length)
    (fun _ _ opened => opened) accessor offset

private theorem mapToMem_open (accessor : QSPIFlashPageAccessor) (offset : Nat) :
    Triple Open (accessor.mapToMem world offset) (fun _ => Open)
      (fun _ => Open) :=
  (mapToMem_triple setMemoryMappingMode_open (fun _ _ opened => opened) accessor
    offset).weaken (fun _ opened => opened) (fun _ _ mapped => mapped.1)
    (fun _ _ opened => opened)

private theorem selectPage_resting (page : Nat) :
    Triple Resting (QSPIStorage.selectPage world page) (fun _ => Open)
      (fun _ => Resting) := by
  rw [QSPIStorage.selectPage]
  apply (mapFailure_triple wakeUp_resting (fun _ _ resting => resting)).bind
  intro _
  apply (mapFailure_triple (setAddrExtender_open _)
    (fun _ _ opened => Open.resting opened)).bind
  intro _
  exact Triple.answer (fun _ opened => opened)

theorem drop_resting (accessor : QSPIFlashPageAccessor) :
    Triple Resting accessor.drop (fun _ => Resting) (fun _ => Resting) :=
  mapFailure_triple (wantSleep_resting (F := fun _ => Resting))
    (fun _ _ resting => resting)

private theorem flashErease_resting :
    Triple Resting (QSPIStorage.flashErease world) (fun _ => Resting)
      (fun _ => Resting) :=
  mapFailure_triple erase_resting (fun _ _ resting => resting)

theorem flashSleep_resting {driver : QSpiDriver} (resting : Resting driver) :
    Resting (driver.flashSleep world) := by
  apply flashSleep_leaves (fun _ => resting)
  intro _ waiting
  apply enterSleep_resting.weaken
  · rintro _ rfl
    exact ⟨resting, waiting⟩
  · exact fun _ _ slept => ⟨slept.asleep_iff, slept.disciplined⟩
  · exact fun _ _ failed => failed

/-! ## Runs of a serial client -/

/-- While there is an accessor the driver works and the chip is awake. -/
structure Orderly (client : Client) : Prop where
  resting : Resting client.driver
  opened : client.accessor ≠ none → Open client.driver

theorem Orderly.use {α : Type} {client after : Client}
    {operation : QSPIFlashPageAccessor → StorageM α} (orderly : Orderly client)
    (triple : ∀ accessor, Triple Open (operation accessor) (fun _ => Open)
      (fun _ => Open))
    (steps : client.use operation = some after) : Orderly after := by
  rw [Client.use] at steps
  cases accessor : client.accessor with
  | none => simp [accessor] at steps
  | some page =>
      simp only [accessor, Option.some.injEq] at steps
      cases steps
      have opened := orderly.opened (by rw [accessor]; simp)
      have reached := after_of_triple (triple page) opened
      exact ⟨reached.resting, fun _ => reached⟩

theorem Orderly.step {client after : Client} {label : SerialStep}
    (orderly : Orderly client)
    (steps : client.serialStep world label = some after) : Orderly after := by
  cases label with
  | selectPage page =>
      rw [serialStep] at steps
      split at steps
      · cases steps
      · have reached := @selectPage_resting world page client.driver
          orderly.resting
        cases outcome : QSPIStorage.selectPage world page client.driver with
        | ok accessor driver =>
            rw [outcome] at reached
            simp only [outcome, Option.some.injEq] at steps
            cases steps
            exact ⟨Open.resting reached, fun _ => reached⟩
        | error error driver =>
            rw [outcome] at reached
            simp only [outcome, Option.some.injEq] at steps
            cases steps
            exact ⟨reached, fun alive => absurd rfl alive⟩
  | write data => exact orderly.use (fun page => write_open page data) steps
  | readTo offset length =>
      exact orderly.use (fun page => readTo_open page offset length) steps
  | mapToMem offset =>
      exact orderly.use (fun page => mapToMem_open page offset) steps
  | drop locked =>
      rw [serialStep] at steps
      split at steps
      · cases steps
      · rename_i accessor _
        cases steps
        refine ⟨?_, fun alive => absurd rfl alive⟩
        cases locked with
        | true => exact after_of_triple (drop_resting accessor) orderly.resting
        | false => exact orderly.resting
  | flashErease =>
      rw [serialStep] at steps
      split at steps
      · cases steps
      · rename_i none
        cases steps
        have reached := after_of_triple (@flashErease_resting world)
          orderly.resting
        exact ⟨reached, fun alive => absurd none alive⟩
  | timer =>
      rw [serialStep] at steps
      cases steps
      refine ⟨flashSleep_resting orderly.resting, fun alive => ?_⟩
      have opened := orderly.opened alive
      rw [flashSleep_of_working opened.working]
      exact opened

end Client

/-- From the end of `init` on the driver knows whether the chip is asleep, a
sleeping chip hears nothing but the wake-up command, and no command is sent in
the memory-mapped mode. -/
theorem flash_never_commanded_asleep (world : World) (chip : Chip)
    {client : Client} (reachable : (Client.serial world chip).Reachable client) :
    (client.driver.sleepState = .slepping ↔
      client.driver.chip.deepPowerDown = true) ∧
    ∀ sent ∈ client.driver.sent,
      (sent.deepPowerDown = true → sent.command = .wakeUp) ∧
        sent.memoryMapped = false := by
  have orderly : Client.Orderly client := by
    apply reachable.invariant (I := Client.Orderly)
    · refine ⟨⟨?_, ?_⟩, fun alive => absurd rfl alive⟩
      · exact ⟨fun same => (by cases same), fun same => (by cases same)⟩
      · exact fun _ member => absurd member List.not_mem_nil
    · intro client label after orderly _ steps
      exact orderly.step steps
  refine ⟨orderly.resting.asleep_iff, ?_⟩
  intro sent member
  have proper := orderly.resting.disciplined sent member
  exact ⟨proper.awake, proper.indirect⟩

/-- A command in the middle of a write does not get through, and neither does
the one that was to send the chip to sleep. -/
def flakyWorld : World :=
  { calmWorld with transfers := fun index => index ≠ 6 ∧ index ≠ 7 }

def flakyRun : List SerialStep :=
  [.selectPage 5000, .write [1, 2, 3], .write [4], .drop true, .timer, .timer,
    .selectPage 1, .mapToMem 0, .timer, .drop false]

theorem flash_never_commanded_asleep_flaky :
    ∃ client, (Client.serial flakyWorld freshChip).run
        (Client.serial flakyWorld freshChip).start flakyRun = some client ∧
      ((client.driver.sleepState = .slepping ↔
          client.driver.chip.deepPowerDown = true) ∧
        ∀ sent ∈ client.driver.sent,
          (sent.deepPowerDown = true → sent.command = .wakeUp) ∧
            sent.memoryMapped = false) :=
  ⟨_, rfl, flash_never_commanded_asleep flakyWorld freshChip
    (.run flakyRun .start rfl)⟩

end SelfWriter.Qspi
