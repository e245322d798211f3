import SelfWriter.Lib.Hoare
import SelfWriter.Qspi.Storage

/-!
# Operations that only look at the chip

Status reads, the write-enable command and the switch of the controller's mode
surround every operation of the driver.  An invariant that these keep is
`Stable`; the rules below then carry it through the operations built from them,
once for runs in which commands may fail and once for runs in which they do not.
-/

namespace SelfWriter.Qspi

open SelfWriter.Lib.Hoare

namespace Command

/-- Commands that change nothing but the latch and the busy time. -/
def Quiet : Command → Prop
  | .writeEnable => True
  | .readFlagStatus => True
  | .qioFastRead _ _ => True
  | _ => False

/-- Commands that neither switch the power mode nor set the extender. -/
def Plain : Command → Prop
  | .wakeUp => False
  | .enterDeepSleep => False
  | .writeAddrExtanderReg _ => False
  | _ => True

theorem Quiet.plain {command : Command} (quiet : command.Quiet) :
    command.Plain := by
  cases command <;> first | exact trivial | exact absurd quiet id

end Command

namespace Chip

variable (world : World) (index : Nat) (chip : Chip)

theorem execute_plain {command : Command} (plain : command.Plain) :
    (chip.execute world index command).deepPowerDown = chip.deepPowerDown ∧
      (chip.execute world index command).extender = chip.extender := by
  cases asleep : chip.deepPowerDown with
  | true =>
      rw [execute_of_asleep asleep, executeAsleep, if_neg (by
        rintro rfl
        exact plain)]
      exact ⟨asleep, rfl⟩
  | false =>
      rw [execute_of_awake asleep]
      cases command with
      | wakeUp => exact absurd plain id
      | enterDeepSleep => exact absurd plain id
      | writeAddrExtanderReg value => exact absurd plain id
      | writeEnable => exact ⟨asleep, rfl⟩
      | readFlagStatus => exact ⟨asleep, rfl⟩
      | qioFastRead address length => exact ⟨asleep, rfl⟩
      | qioFastProgramm address block =>
          rw [executeAwake]
          split <;> exact ⟨asleep, rfl⟩
      | dieErase address =>
          rw [executeAwake]
          split <;> exact ⟨asleep, rfl⟩

theorem execute_quiet {command : Command} (quiet : command.Quiet) :
    (chip.execute world index command).cells = chip.cells ∧
      (chip.execute world index command).writes = chip.writes ∧
      (chip.execute world index command).programFailure =
        chip.programFailure := by
  cases asleep : chip.deepPowerDown with
  | true =>
      rw [execute_of_asleep asleep, executeAsleep]
      split <;> exact ⟨rfl, rfl, rfl⟩
  | false =>
      rw [execute_of_awake asleep]
      cases command <;> first | exact ⟨rfl, rfl, rfl⟩ | exact absurd quiet id

end Chip

/-- An invariant kept by quiet commands and by the switch of the mode; `fails`
tells in which states a command may fail. -/
structure Stable (world : World) (inv : QSpiDriver → Prop)
    (fails : QspiError → QSpiDriver → Prop) : Prop where
  send : ∀ command, command.Quiet →
    Triple inv (QSpiDriver.send world command) (fun _ => inv) fails
  mapped : ∀ driver mapped, inv driver →
    inv { driver with memoryMapped := mapped }

namespace Stable

variable {world : World} {inv : QSpiDriver → Prop}
variable {fails : QspiError → QSpiDriver → Prop}

theorem setMemoryMappingMode (stable : Stable world inv fails) (enable : Bool) :
    Triple inv (QSpiDriver.setMemoryMappingMode world enable) (fun _ => inv)
      fails := by
  unfold QSpiDriver.setMemoryMappingMode
  apply Triple.bind (Triple.read (fun _ holds => holds))
  intro driver
  apply Triple.ite
  · intro _
    exact Triple.answer (fun _ holds => holds)
  · intro _
    apply Triple.ite
    · intro _
      apply (stable.send (.qioFastRead 0 1) trivial).bind
      intro _
      exact Triple.change (fun state holds => stable.mapped state true holds)
    · intro _
      exact Triple.change (fun state holds => stable.mapped state false holds)

theorem cancelMemoryMapping (stable : Stable world inv fails) :
    Triple inv (QSpiDriver.cancelMemoryMapping world) (fun _ => inv) fails := by
  unfold QSpiDriver.cancelMemoryMapping
  apply Triple.bind (Triple.read (fun _ holds => holds))
  intro driver
  apply Triple.ite
  · intro _
    exact stable.setMemoryMappingMode false
  · intro _
    exact Triple.answer (fun _ holds => holds)

theorem writeEnable (stable : Stable world inv fails) :
    Triple inv (QSpiDriver.writeEnable world) (fun _ => inv) fails :=
  stable.send .writeEnable trivial

theorem readStatus (stable : Stable world inv fails) :
    Triple inv (QSpiDriver.readStatus world) (fun _ => inv) fails := by
  unfold QSpiDriver.readStatus
  apply Triple.bind (Triple.read (fun _ holds => holds))
  intro driver
  apply (stable.send .readFlagStatus trivial).bind
  intro _
  exact Triple.answer (fun _ holds => holds)

theorem configIsBusy (stable : Stable world inv fails) :
    Triple inv (QSpiDriver.configIsBusy world) (fun _ => inv) fails := by
  unfold QSpiDriver.configIsBusy
  apply stable.readStatus.bind
  intro _
  exact Triple.answer (fun _ holds => holds)

theorem isBusy (stable : Stable world inv fails) :
    Triple inv (QSpiDriver.isBusy world) (fun _ => inv) fails := by
  unfold QSpiDriver.isBusy
  apply stable.cancelMemoryMapping.bind
  intro _
  exact stable.configIsBusy

theorem pollWhileBusy {poll : DriverM Bool}
    (each : Triple inv poll (fun _ => inv) fails) (polls : Nat) :
    Triple inv (QSpiDriver.pollWhileBusy poll polls) (fun _ => inv) fails := by
  induction polls with
  | zero => exact Triple.answer (fun _ holds => holds)
  | succ polls inductionHypothesis =>
      unfold QSpiDriver.pollWhileBusy
      apply each.bind
      intro busy
      apply Triple.ite
      · intro _
        exact inductionHypothesis
      · intro _
        exact Triple.answer (fun _ holds => holds)

theorem waitWhileBusy {poll : DriverM Bool}
    (each : Triple inv poll (fun _ => inv) fails) :
    Triple inv (QSpiDriver.waitWhileBusy poll) (fun _ => inv) fails := by
  unfold QSpiDriver.waitWhileBusy
  apply Triple.bind (Triple.read (fun _ holds => holds))
  intro driver
  exact pollWhileBusy each _

theorem readDirect (stable : Stable world inv fails)
    (startAddress length : Nat) :
    Triple inv (QSpiDriver.readDirect world startAddress length)
      (fun _ => inv) fails := by
  unfold QSpiDriver.readDirect
  apply stable.cancelMemoryMapping.bind
  intro _
  apply (stable.send (.qioFastRead startAddress length) trivial).bind
  intro _
  apply Triple.bind (Triple.read (fun _ holds => holds))
  intro driver
  exact Triple.answer (fun _ holds => holds)

/-- The status check fails only on a recorded program failure. -/
theorem checkWriteOk (stable : Stable world inv fails)
    (refused : ∀ driver, inv driver → driver.chip.programFailure = true →
      ∀ after, inv after → fails .unknown after) :
    Triple inv (QSpiDriver.checkWriteOk world) (fun _ => inv) fails := by
  apply Triple.fixed
  intro start holds
  unfold QSpiDriver.checkWriteOk QSpiDriver.readStatus
  apply Triple.bind (R := fun status after =>
    inv after ∧ status.programFailure = start.chip.programFailure)
  · apply Triple.bind (Triple.read (Q := fun driver after =>
      driver = start ∧ after = start) (fun _ same => ⟨same, same⟩))
    intro driver
    apply Triple.bind (R := fun _ after => inv after ∧ driver = start)
    · intro state both
      obtain ⟨rfl, rfl⟩ := both
      have sent := stable.send .readFlagStatus trivial state holds
      cases outcome : QSpiDriver.send world .readFlagStatus state with
      | ok value after =>
          rw [outcome] at sent
          exact ⟨sent, rfl⟩
      | error error after =>
          rw [outcome] at sent
          exact sent
    · intro _
      exact Triple.answer (fun _ both => ⟨both.1, by rw [both.2]⟩)
  · intro status
    apply Triple.ite
    · intro failed
      exact Triple.raise (fun state both =>
        refused start holds (both.2 ▸ failed) state both.1)
    · intro _
      exact Triple.answer (fun _ both => both.1)

end Stable

theorem mapFailure_triple {α : Type} {pre : QSpiDriver → Prop}
    {operation : DriverM α} {post : α → QSpiDriver → Prop}
    {F : QspiError → QSpiDriver → Prop}
    {failure : FlashError → QSpiDriver → Prop}
    (triple : Triple pre operation post F)
    (mapped : ∀ error driver, F error driver → failure .failure driver) :
    Triple pre (mapFailure operation) post failure := by
  intro driver holds
  have reached := triple driver holds
  unfold mapFailure
  cases outcome : operation driver with
  | ok value after =>
      rw [outcome] at reached
      exact reached
  | error error after =>
      rw [outcome] at reached
      exact mapped error after reached

/-- A failed read is no failure of `read_to`. -/
theorem readTo_triple {world : World} {inv : QSpiDriver → Prop} {length : Nat}
    {fails : QspiError → QSpiDriver → Prop}
    {failure : FlashError → QSpiDriver → Prop}
    (kept : ∀ startAddress,
      Triple inv (QSpiDriver.readDirect world startAddress length)
        (fun _ => inv) fails)
    (recovered : ∀ error driver, fails error driver → inv driver)
    (accessor : QSPIFlashPageAccessor) (offset : Nat) :
    Triple inv (accessor.readTo world offset length) (fun _ => inv) failure := by
  intro driver holds
  have reached := kept
    ((accessor.ptr - (qspiMemoryMappedRegion - offset)) % 2 ^ 32) driver holds
  rw [QSPIFlashPageAccessor.readTo]
  cases outcome : QSpiDriver.readDirect world
      ((accessor.ptr - (qspiMemoryMappedRegion - offset)) % 2 ^ 32) length
      driver with
  | ok value after =>
      rw [outcome] at reached
      exact reached
  | error error after =>
      rw [outcome] at reached
      exact recovered error after reached

theorem mapToMem_triple {world : World} {inv : QSpiDriver → Prop}
    {fails : QspiError → QSpiDriver → Prop}
    {failure : FlashError → QSpiDriver → Prop}
    (maps : Triple inv (QSpiDriver.setMemoryMappingMode world true)
      (fun _ => inv) fails)
    (mapped : ∀ error driver, fails error driver → failure .failure driver)
    (accessor : QSPIFlashPageAccessor) (offset : Nat) :
    Triple inv (accessor.mapToMem world offset)
      (fun pointer driver => inv driver ∧ pointer = accessor.ptr + offset)
      failure := by
  unfold QSPIFlashPageAccessor.mapToMem
  apply (mapFailure_triple maps mapped).bind
  intro _
  exact Triple.answer (fun _ holds => ⟨holds, rfl⟩)

/-! ## The sleep timer -/

/-- A firing of the timer changes nothing unless the driver waits for it. -/
theorem flashSleep_leaves {world : World} {driver : QSpiDriver}
    {post : QSpiDriver → Prop}
    (idle : ¬ (driver.sleepTimerArmed = true ∧ driver.sleepState = .waiting) →
      post driver)
    (slept : driver.sleepTimerArmed = true → driver.sleepState = .waiting →
      Triple (fun state => state = driver) (QSpiDriver.enterSleep world)
        (fun _ after => post { after with sleepTimerArmed := false })
        (fun _ => post)) :
    post (driver.flashSleep world) := by
  rw [QSpiDriver.flashSleep]
  by_cases due : driver.sleepTimerArmed = true ∧ driver.sleepState = .waiting
  · rw [if_pos due]
    have reached := slept due.1 due.2 driver rfl
    cases outcome : QSpiDriver.enterSleep world driver with
    | ok value after =>
        rw [outcome] at reached
        exact reached
    | error error after =>
        rw [outcome] at reached
        exact reached
  · rw [if_neg due]
    exact idle due

/-- A working driver ignores the sleep timer. -/
theorem flashSleep_of_working {world : World} {driver : QSpiDriver}
    (working : driver.sleepState = .working) :
    driver.flashSleep world = driver := by
  rw [QSpiDriver.flashSleep, if_neg]
  rintro ⟨_, waiting⟩
  rw [working] at waiting
  cases waiting

end SelfWriter.Qspi
