import SelfWriter.Qspi.Quiet

/-!
# What the driver knows of the chip

The driver caches the chip's extender register and its power mode.  Whatever a
client does and whichever commands fail, the cached extender is the chip's own
or still unknown, and `sleep_state` tells whether the chip is in deep
power-down.
-/

namespace SelfWriter.Qspi

open SelfWriter.Lib.Hoare

/-- Every command gets through and every program and erase succeeds. -/
structure World.Reliable (world : World) : Prop where
  transfers : ∀ index, world.transfers index = true
  succeeds : ∀ index, world.succeeds index = true

/-- Failures leave `inv` intact and do not happen in a reliable world. -/
def Faulty (world : World) (inv : QSpiDriver → Prop) {ε : Type} (_ : ε)
    (driver : QSpiDriver) : Prop :=
  ¬ world.Reliable ∧ inv driver

/-- Cached values agree with the chip; `0xFF` stands for an extender that was
never set. -/
structure Known (world : World) (driver : QSpiDriver) : Prop where
  extender : driver.extenderValue = 0xFF ∨
    driver.extenderValue = driver.chip.extender
  healthy : world.Reliable → driver.chip.programFailure = false

structure Synced (world : World) (driver : QSpiDriver) : Prop where
  known : Known world driver
  asleep_iff : driver.sleepState = .slepping ↔
    driver.chip.deepPowerDown = true

/-- The driver between a wake-up and the next wish to sleep. -/
structure Active (world : World) (driver : QSpiDriver) : Prop where
  known : Known world driver
  working : driver.sleepState = .working
  awake : driver.chip.deepPowerDown = false

section Single

variable {world : World} {driver : QSpiDriver}

theorem Active.synced (active : Active world driver) : Synced world driver where
  known := active.known
  asleep_iff := by
    rw [active.working, active.awake]
    exact ⟨fun same => (by cases same), fun same => (by cases same)⟩

theorem Synced.awake (synced : Synced world driver)
    (notSleeping : driver.sleepState ≠ .slepping) :
    driver.chip.deepPowerDown = false :=
  Bool.eq_false_iff.2 (mt synced.asleep_iff.2 notSleeping)

theorem Chip.execute_healthy (reliable : world.Reliable) (index : Nat)
    (chip : Chip) (command : Command) (healthy : chip.programFailure = false) :
    (chip.execute world index command).programFailure = false := by
  cases asleep : chip.deepPowerDown with
  | true =>
      rw [Chip.execute_of_asleep asleep, Chip.executeAsleep]
      split <;> exact healthy
  | false =>
      rw [Chip.execute_of_awake asleep]
      cases command with
      | wakeUp => exact healthy
      | enterDeepSleep => exact healthy
      | writeEnable => exact healthy
      | readFlagStatus => exact healthy
      | qioFastRead address length => exact healthy
      | writeAddrExtanderReg value =>
          rw [Chip.executeAwake]
          split <;> exact healthy
      | dieErase address =>
          rw [Chip.executeAwake]
          split <;> exact healthy
      | qioFastProgramm address block =>
          rw [Chip.executeAwake]
          split
          · simp only [Chip.programPage, healthy, reliable.succeeds index,
              Bool.not_true, Bool.or_self]
          · exact healthy

end Single

section Sending

variable {world : World}

/-- One command, whatever becomes of it. -/
theorem send_triple {pre inv post : QSpiDriver → Prop} {command : Command}
    (refused : ∀ driver, pre driver → inv (driver.logged command))
    (executed : ∀ driver, pre driver → post
      { driver.logged command with
        chip := driver.chip.execute world driver.sent.length command }) :
    Triple pre (QSpiDriver.send world command) (fun _ => post)
      (Faulty world inv) := by
  intro driver holds
  unfold QSpiDriver.send
  by_cases through : world.transfers driver.sent.length = true
  · rw [if_pos through]
    exact executed driver holds
  · rw [if_neg through]
    exact ⟨fun reliable => through (reliable.transfers _),
      refused driver holds⟩

theorem Known.execute {driver : QSpiDriver} (known : Known world driver)
    {command : Command} (plain : command.Plain) :
    Known world { driver.logged command with
      chip := driver.chip.execute world driver.sent.length command } where
  extender := by
    rw [show ∀ log : QSpiDriver, ∀ chip : Chip,
      ({ log with chip := chip } : QSpiDriver).chip.extender = chip.extender
      from fun _ _ => rfl, (driver.chip.execute_plain world _ plain).2]
    exact known.extender
  healthy := fun reliable =>
    Chip.execute_healthy reliable _ _ _ (known.healthy reliable)

private theorem send_synced {command : Command} (plain : command.Plain) :
    Triple (Synced world) (QSpiDriver.send world command)
      (fun _ => Synced world) (Faulty world (Synced world)) :=
  send_triple
    (fun _ synced => { known := { synced.known with },
                       asleep_iff := synced.asleep_iff })
    (fun driver synced =>
      { known := synced.known.execute plain
        asleep_iff := synced.asleep_iff.trans (by
          rw [← (driver.chip.execute_plain world driver.sent.length plain).1]) })

private theorem send_active {command : Command} (plain : command.Plain) :
    Triple (Active world) (QSpiDriver.send world command)
      (fun _ => Active world) (Faulty world (Active world)) :=
  send_triple
    (fun _ active => { known := { active.known with },
                       working := active.working, awake := active.awake })
    (fun driver active =>
      { known := active.known.execute plain
        working := active.working
        awake :=
          (driver.chip.execute_plain world driver.sent.length plain).1.trans
            active.awake })

private theorem synced_stable : Stable world (Synced world)
    (Faulty world (Synced world)) where
  send := fun _ quiet => send_synced quiet.plain
  mapped := fun _ _ synced =>
    { known := { synced.known with }, asleep_iff := synced.asleep_iff }

private theorem active_stable : Stable world (Active world)
    (Faulty world (Active world)) where
  send := fun _ quiet => send_active quiet.plain
  mapped := fun _ _ active =>
    { known := { active.known with }, working := active.working,
      awake := active.awake }

end Sending

/-! ## The driver's operations -/

section Operations

variable {world : World}

private theorem faulty_weaken {inv inv' : QSpiDriver → Prop}
    (weaker : ∀ driver, inv driver → inv' driver) {ε : Type} (error : ε)
    (driver : QSpiDriver) (fault : Faulty world inv error driver) :
    Faulty world inv' error driver :=
  ⟨fault.1, weaker driver fault.2⟩

private theorem wakeUp_triple :
    Triple (Synced world) (QSpiDriver.wakeUp world) (fun _ => Active world)
      (Faulty world (Synced world)) := by
  unfold QSpiDriver.wakeUp
  apply Triple.bind (Triple.read (Q := fun driver state =>
    driver = state ∧ Synced world state) (fun _ synced => ⟨rfl, synced⟩))
  intro driver
  apply Triple.ite
  · intro _
    apply (synced_stable.cancelMemoryMapping.weaken
      (fun _ both => both.2) (fun _ _ synced => synced)
      (fun _ _ fault => fault)).bind
    intro _
    apply Triple.bind (R := fun _ driver =>
      Known world driver ∧ driver.chip.deepPowerDown = false)
    · refine send_triple
        (fun _ synced => { known := { synced.known with },
                           asleep_iff := synced.asleep_iff })
        (fun driver synced => ?_)
      cases asleep : driver.chip.deepPowerDown with
      | true =>
          rw [Chip.execute_of_asleep asleep]
          exact ⟨{ synced.known with }, rfl⟩
      | false =>
          rw [Chip.execute_of_awake asleep]
          exact ⟨{ synced.known with }, asleep⟩
    · intro _
      exact Triple.change (fun _ both =>
        { known := { both.1 with }, working := rfl, awake := both.2 })
  · intro notSleeping
    exact Triple.change (fun _ both =>
      { known := { both.2.known with }
        working := rfl
        awake := both.2.awake (both.1 ▸ notSleeping) })

private theorem setAddrExtender_triple (value : UInt8) :
    Triple (Active world) (QSpiDriver.setAddrExtender world value)
      (fun _ driver => Active world driver ∧ driver.extenderValue = value)
      (Faulty world (Active world)) := by
  unfold QSpiDriver.setAddrExtender
  apply Triple.bind (Triple.read (Q := fun driver state =>
    driver = state ∧ Active world state) (fun _ active => ⟨rfl, active⟩))
  intro driver
  apply Triple.ite
  · intro _
    apply (active_stable.cancelMemoryMapping.weaken
      (fun _ both => both.2) (fun _ _ active => active)
      (fun _ _ fault => fault)).bind
    intro _
    apply Triple.bind (R := fun _ driver =>
      Active world driver ∧ driver.chip.writeEnableLatch = true)
    · refine send_triple
        (fun _ active => { active with known := { active.known with } })
        (fun driver active =>
          ⟨{ known := active.known.execute trivial
             working := active.working
             awake := (driver.chip.execute_plain world driver.sent.length
               (show Command.writeEnable.Plain from trivial)).1.trans active.awake }, ?_⟩)
      rw [Chip.execute_of_awake active.awake]
      rfl
    · intro _
      apply Triple.bind (R := fun _ driver =>
        (driver.sleepState = .working ∧ driver.chip.deepPowerDown = false ∧
          (world.Reliable → driver.chip.programFailure = false)) ∧
        driver.chip.extender = value)
      · refine send_triple
          (fun _ both => { both.1 with known := { both.1.known with } })
          (fun driver both => ?_)
        rw [Chip.execute_of_awake both.1.awake, Chip.executeAwake,
          if_pos both.2]
        exact ⟨⟨both.1.working, both.1.awake, both.1.known.healthy⟩, rfl⟩
      · intro _
        exact Triple.change (fun _ both =>
          ⟨{ known := { extender := .inr both.2.symm, healthy := both.1.2.2 }
             working := both.1.1
             awake := both.1.2.1 }, rfl⟩)
  · intro same
    exact Triple.answer (fun _ both =>
      ⟨both.2, by rw [← both.1]; exact not_not.1 same⟩)

/-- Programming is a loop of plain commands. -/
theorem writeBlock_triple {inv : QSpiDriver → Prop}
    (stable : Stable world inv (Faulty world inv))
    (known : ∀ driver, inv driver → Known world driver)
    (send : ∀ command, command.Plain →
      Triple inv (QSpiDriver.send world command) (fun _ => inv)
        (Faulty world inv))
    (startAddress : Nat) (data : List UInt8) :
    Triple inv (QSpiDriver.writeBlock world startAddress data) (fun _ => inv)
      (Faulty world inv) := by
  unfold QSpiDriver.writeBlock
  apply stable.cancelMemoryMapping.bind
  intro _
  apply Triple.forRange (I := fun _ => inv)
  intro round _
  unfold QSpiDriver.writeChunk
  apply (Stable.waitWhileBusy stable.isBusy).bind
  intro _
  apply stable.writeEnable.bind
  intro _
  apply (stable.checkWriteOk (fun driver holds failed after holdsAfter =>
    ⟨fun reliable => absurd failed (by
      rw [(known driver holds).healthy reliable]
      exact Bool.false_ne_true), holdsAfter⟩)).bind
  intro _
  exact send _ trivial

private theorem writeBlock_synced (startAddress : Nat) (data : List UInt8) :
    Triple (Synced world) (QSpiDriver.writeBlock world startAddress data)
      (fun _ => Synced world) (Faulty world (Synced world)) :=
  writeBlock_triple synced_stable (fun _ synced => synced.known)
    (fun _ plain => send_synced plain) startAddress data

private theorem eraseDie_triple (die : Nat) :
    Triple (Active world) (QSpiDriver.eraseDie world die)
      (fun _ => Active world) (Faulty world (Active world)) := by
  unfold QSpiDriver.eraseDie
  apply active_stable.writeEnable.bind
  intro _
  apply ((setAddrExtender_triple _).weaken (fun _ active => active)
    (fun _ _ both => both.1) (fun _ _ fault => fault)).bind
  intro _
  apply active_stable.writeEnable.bind
  intro _
  apply (send_active (show (Command.dieErase _).Plain from trivial)).bind
  intro _
  exact Stable.waitWhileBusy active_stable.configIsBusy

private theorem wantSleep_triple {F : QspiError → QSpiDriver → Prop} :
    Triple (Synced world) QSpiDriver.wantSleep (fun _ => Synced world) F := by
  apply Triple.change
  intro driver synced
  by_cases working : driver.sleepState = .working
  · rw [if_pos working]
    have awake := synced.awake (by rw [working]; decide)
    exact
      { known := { synced.known with }
        asleep_iff :=
          ⟨fun same => (by cases same), fun asleep => by
            rw [show driver.chip.deepPowerDown = true from asleep] at awake
            cases awake⟩ }
  · rw [if_neg working]
    exact synced

private theorem erase_triple :
    Triple (Synced world) (QSpiDriver.erase world) (fun _ => Synced world)
      (fun _ => Synced world) := by
  unfold QSpiDriver.erase
  apply (synced_stable.cancelMemoryMapping.weaken (fun _ synced => synced)
    (fun _ _ synced => synced) (fun _ _ fault => fault.2)).bind
  intro _
  apply (wakeUp_triple.weaken (fun _ synced => synced)
    (fun _ _ active => active) (fun _ _ fault => fault.2)).bind
  intro _
  apply (active_stable.configIsBusy.weaken (fun _ active => active)
    (fun _ _ active => active) (fun _ _ fault => fault.2.synced)).bind
  intro busy
  apply Triple.ite
  · intro _
    apply (wantSleep_triple.weaken (fun _ active => Active.synced active)
      (fun _ _ synced => synced) (fun _ _ impossible => impossible)).bind
    intro _
    exact Triple.raise (fun _ synced => synced)
  · intro _
    apply ((Triple.forRange (I := fun _ => Active world)
      mt25qu01gbbb8e12.dieCount (fun die _ => eraseDie_triple die)).weaken
        (fun _ active => active) (fun _ _ active => active)
        (fun _ _ fault => fault.2.synced)).bind
    intro _
    exact wantSleep_triple.weaken (fun _ active => Active.synced active)
      (fun _ _ synced => synced) (fun _ _ impossible => impossible)

private theorem enterSleep_triple :
    Triple (Synced world) (QSpiDriver.enterSleep world) (fun _ => Synced world)
      (Faulty world (Synced world)) := by
  unfold QSpiDriver.enterSleep
  apply synced_stable.cancelMemoryMapping.bind
  intro _
  apply Triple.bind (R := fun _ driver =>
    Known world driver ∧ driver.chip.deepPowerDown = true)
  · refine send_triple
      (fun _ synced => { synced with known := { synced.known with } })
      (fun driver synced => ?_)
    cases asleep : driver.chip.deepPowerDown with
    | true =>
        rw [Chip.execute_of_asleep asleep]
        exact ⟨{ synced.known with }, asleep⟩
    | false =>
        rw [Chip.execute_of_awake asleep]
        exact ⟨{ synced.known with }, rfl⟩
  · intro _
    exact Triple.change (fun _ both =>
      { known := { both.1 with }
        asleep_iff := ⟨fun _ => both.2, fun _ => rfl⟩ })

private theorem flashSleep_synced {driver : QSpiDriver} (synced : Synced world driver) :
    Synced world (driver.flashSleep world) := by
  apply flashSleep_leaves (fun _ => synced)
  intro _ _
  apply enterSleep_triple.weaken
  · rintro _ rfl
    exact synced
  · exact fun _ _ slept => { slept with known := { slept.known with } }
  · exact fun _ _ fault => fault.2

end Operations

/-! ## The client's steps -/

/-- Extender value of a page. -/
def pageExtender (page : Nat) : UInt8 :=
  UInt8.ofNat ((page * QSPIStorage.flashPageSize % 2 ^ 32) >>> 24)

/-- Position of a page behind its extender. -/
def pageAddr24 (page : Nat) : Nat :=
  page * QSPIStorage.flashPageSize % 2 ^ 32 &&& 0x00FFFFFF

section Steps

variable {world : World}

theorem selectPage_triple (page : Nat) :
    Triple (Synced world) (QSPIStorage.selectPage world page)
      (fun accessor driver => Active world driver ∧
        driver.extenderValue = pageExtender page ∧
        accessor.ptr = qspiMemoryMappedRegion + pageAddr24 page)
      (Faulty world (Synced world)) := by
  unfold QSPIStorage.selectPage
  apply (mapFailure_triple wakeUp_triple (fun _ _ fault => fault)).bind
  intro _
  apply (mapFailure_triple (setAddrExtender_triple (pageExtender page))
    (fun error driver fault =>
      faulty_weaken (fun _ => Active.synced) error driver fault)).bind
  intro _
  exact Triple.answer (fun _ both => ⟨both.1, both.2, rfl⟩)

theorem drop_triple (accessor : QSPIFlashPageAccessor)
    {failure : FlashError → QSpiDriver → Prop} :
    Triple (Synced world) accessor.drop (fun _ => Synced world) failure :=
  mapFailure_triple (wantSleep_triple (F := fun _ _ => False))
    (fun _ _ impossible => impossible.elim)

private theorem flashRead_triple (offset : Nat) :
    Triple (Synced world) (flashRead world offset) (fun _ => Synced world)
      (Faulty world (Synced world)) := by
  unfold flashRead
  apply (selectPage_triple _).bind
  intro page
  apply ((mapToMem_triple (active_stable.setMemoryMappingMode true)
    (fun _ _ fault => fault) page _).weaken
    (fun _ selected => selected.1) (fun _ _ mapped => mapped)
    (fun error driver fault =>
      faulty_weaken (fun _ => Active.synced) error driver fault)).bind
  intro pointer
  apply ((drop_triple page).weaken (fun _ mapped => Active.synced mapped.1)
    (fun _ _ synced => synced) (fun _ _ fault => fault)).bind
  intro _
  exact Triple.answer (fun _ synced => synced)

namespace Client

theorem after_synced {α : Type} {operation : StorageM α}
    {fails : FlashError → QSpiDriver → Prop}
    (triple : Triple (Synced world) operation (fun _ => Synced world) fails)
    (failure : ∀ error driver, fails error driver → Synced world driver)
    {driver : QSpiDriver} (synced : Synced world driver) :
    Synced world (Client.after operation driver) := by
  have reached := triple driver synced
  unfold Client.after
  cases outcome : operation driver with
  | ok value after =>
      rw [outcome] at reached
      exact reached
  | error error after =>
      rw [outcome] at reached
      exact failure error after reached

private theorem withAccessor_synced {α : Type} {client : Client}
    {operation : QSPIFlashPageAccessor → StorageM α}
    {fails : FlashError → QSpiDriver → Prop}
    (triple : ∀ accessor, Triple (Synced world) (operation accessor)
      (fun _ => Synced world) fails)
    (failure : ∀ error driver, fails error driver → Synced world driver)
    (synced : Synced world client.driver) :
    Synced world (client.withAccessor operation).driver := by
  unfold withAccessor
  cases client.accessor with
  | none => exact synced
  | some accessor => exact after_synced (triple accessor) failure synced

/-- No step of a client, and no firing of the sleep timer, makes the driver
lose track of the chip. -/
theorem step_synced {client : Client} (synced : Synced world client.driver)
    (action : ClientStep) : Synced world (client.step world action).driver := by
  cases action with
  | selectPage page =>
      rw [step]
      cases client.accessor with
      | some accessor => exact synced
      | none =>
          have reached := selectPage_triple page client.driver synced
          simp only
          cases outcome : QSPIStorage.selectPage world page client.driver with
          | ok accessor driver =>
              rw [outcome] at reached
              exact reached.1.synced
          | error error driver =>
              rw [outcome] at reached
              exact reached.2
  | write data =>
      exact withAccessor_synced
        (fun accessor => mapFailure_triple (writeBlock_synced _ data)
          (fun _ _ fault => fault.2))
        (fun _ _ holds => holds) synced
  | readTo offset length =>
      exact withAccessor_synced
        (fun accessor => readTo_triple
          (fun startAddress => synced_stable.readDirect startAddress length)
          (fun _ _ fault => fault.2) accessor offset)
        (fun _ _ holds => holds) synced
  | mapToMem offset =>
      exact withAccessor_synced
        (fun accessor => (mapToMem_triple
          (synced_stable.setMemoryMappingMode true) (fun _ _ fault => fault.2)
          accessor offset).weaken
          (fun _ holds => holds) (fun _ _ both => both.1)
          (fun _ _ holds => holds))
        (fun _ _ holds => holds) synced
  | eraseThrough =>
      exact withAccessor_synced
        (fun _ => mapFailure_triple erase_triple (fun _ _ holds => holds))
        (fun _ _ holds => holds) synced
  | drop =>
      exact withAccessor_synced (fun accessor => drop_triple accessor)
        (fun _ _ (holds : Synced world _) => holds) synced
  | flashErease =>
      exact after_synced
        (mapFailure_triple erase_triple (fun _ _ holds => holds))
        (fun _ _ holds => holds) synced
  | flashRead offset =>
      rw [step]
      cases client.accessor with
      | some accessor => exact synced
      | none =>
          exact after_synced (flashRead_triple offset)
            (fun _ _ fault => fault.2) synced
  | timer => exact flashSleep_synced synced

theorem run_synced (steps : List ClientStep) :
    ∀ client : Client, Synced world client.driver →
      Synced world (client.run world steps).driver := by
  induction steps with
  | nil =>
      intro client synced
      exact synced
  | cons action steps inductionHypothesis =>
      intro client synced
      exact inductionHypothesis _ (step_synced synced action)

theorem init_synced {chip : Chip} (healthy : chip.programFailure = false) :
    Synced world (Client.init chip).driver where
  known := { extender := .inl rfl, healthy := fun _ => healthy }
  asleep_iff :=
    ⟨fun same => (by cases same), fun asleep => (by cases asleep)⟩

end Client

end Steps

end SelfWriter.Qspi
