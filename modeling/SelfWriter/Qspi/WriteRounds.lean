import SelfWriter.Qspi.Counted

/-!
# The rounds of `write_block`

`write_block` (`qspi_storage/qspi_driver.rs`) waits until the chip is ready,
looks at its failure bits and programs the next chunk.  The commands of its
rounds are numbered here, so that the failure of a program can be told from that
of any other one.

A failed program leaves its bit as soon as it starts; the driver looks at the
bits of a chip that is not busy only, so it cannot tell.
-/

namespace SelfWriter.Qspi

open SelfWriter.Lib SelfWriter.Lib.Hoare

/-! ## The programs of a log -/

def Command.isProgramm : Command → Bool
  | .qioFastProgramm _ _ => true
  | _ => false

theorem Command.Quiet.not_programm {command : Command} (quiet : command.Quiet) :
    command.isProgramm = false := by
  cases command <;> first | rfl | exact absurd quiet id

/-- The numbers of the program commands that were sent, the latest first. -/
def programs : List Sent → List Nat
  | [] => []
  | sent :: earlier =>
      if sent.command.isProgramm then earlier.length :: programs earlier
      else programs earlier

theorem Command.Quiet.programs_logged {command : Command}
    (quiet : command.Quiet) (driver : QSpiDriver) :
    programs (driver.logged command).sent = programs driver.sent := by
  rw [QSpiDriver.logged, programs,
    if_neg (by rw [quiet.not_programm]; exact Bool.false_ne_true)]

theorem lt_of_mem_programs {log : List Sent} {index : Nat}
    (member : index ∈ programs log) : index < log.length := by
  induction log with
  | nil => cases member
  | cons sent earlier inductionHypothesis =>
      rw [programs] at member
      split at member
      · rcases List.mem_cons.mp member with rfl | before
        · exact Nat.lt_succ_self _
        · exact Nat.lt_succ_of_lt (inductionHypothesis before)
      · exact Nat.lt_succ_of_lt (inductionHypothesis member)

/-! ## The commands of a call -/

section Call

variable (world : World)

/-- Every program of the call succeeds. -/
def AllProgrammed (before after : QSpiDriver) : Prop :=
  ∀ index ∈ programs after.sent, before.sent.length ≤ index →
    world.succeeds index = true

/-- The number of the program of a chunk that is begun in this state: before it
come the status reads of the wait, the write enable and the check. -/
def chunkProgram (driver : QSpiDriver) : Nat :=
  driver.sent.length + driver.chip.busyPolls + 3

/-- The number of the program of each round, if the rounds get that far. -/
def programAt (driver : QSpiDriver) : Nat → Nat
  | 0 => chunkProgram driver
  | round + 1 =>
      programAt driver round + world.busyPolls (programAt driver round) + 4

def chunks (data : List UInt8) : Nat :=
  QSpiDriver.stepBy data.length mt25qu01gbbb8e12.writeMaxBytes

end Call

/-! ## Commands between two programs -/

section Between

variable {world : World} {start : QSpiDriver} {count : Nat}

/-- No program has been sent since `start`. -/
structure Unprogrammed (start driver : QSpiDriver) : Prop where
  programs : Qspi.programs driver.sent = Qspi.programs start.sent
  flag : driver.chip.programFailure = start.chip.programFailure

theorem Unprogrammed.refl (driver : QSpiDriver) : Unprogrammed driver driver :=
  ⟨rfl, rfl⟩

theorem Unprogrammed.quiet {driver : QSpiDriver}
    (unprogrammed : Unprogrammed start driver) {command : Command}
    (quiet : command.Quiet) {chip : Chip}
    (flag : chip.programFailure = driver.chip.programFailure) :
    Unprogrammed start { driver.logged command with chip := chip } := by
  exact ⟨(quiet.programs_logged driver).trans unprogrammed.programs,
    flag.trans unprogrammed.flag⟩

theorem Unprogrammed.polled {driver : QSpiDriver}
    (unprogrammed : Unprogrammed start driver) :
    Unprogrammed start driver.polled := by
  have quiet : Command.readFlagStatus.Quiet := trivial
  exact unprogrammed.quiet quiet rfl

/-- The check refuses when a program had failed before the call. -/
theorem checkWriteOk_counted :
    Triple
      (fun driver => Counted world start count driver ∧
        driver.chip.writeEnableLatch = true ∧ Unprogrammed start driver)
      (QSpiDriver.checkWriteOk world)
      (fun _ driver => start.chip.programFailure = false ∧
        Counted world start (count + 1) driver ∧
        driver.chip.writeEnableLatch = true ∧ Unprogrammed start driver)
      (fun _ driver => Lost world start (count + 1) driver ∨
        start.chip.programFailure = true ∧
          Counted world start (count + 1) driver ∧
          Unprogrammed start driver) := by
  unfold QSpiDriver.checkWriteOk
  apply Triple.bind ((readStatus_counted (fun driver =>
    driver.chip.writeEnableLatch = true ∧ Unprogrammed start driver)).weaken
    (fun _ holds => holds) (fun _ _ reached => reached)
    (fun _ _ lost => .inl lost))
  intro status
  apply Triple.ite
  · intro failed
    apply Triple.raise
    rintro _ ⟨counted, driver, ⟨_, unprogrammed⟩, rfl, flag, _⟩
    exact .inr ⟨unprogrammed.flag.symm.trans (flag.symm.trans failed), counted,
      unprogrammed.polled⟩
  · intro passed
    apply Triple.answer
    rintro _ ⟨counted, driver, ⟨latched, unprogrammed⟩, rfl, flag, _⟩
    refine ⟨?_, counted, latched, unprogrammed.polled⟩
    rw [← unprogrammed.flag, ← flag]
    exact Bool.eq_false_iff.mpr passed

end Between

/-! ## One chunk -/

section Chunk

variable {world : World}

/-- The chunk that was begun in `start` has been sent. -/
structure Programmed (world : World) (start driver : QSpiDriver) : Prop where
  awake : driver.chip.deepPowerDown = false
  clear : start.chip.programFailure = false
  length : driver.sent.length = chunkProgram start + 1
  through : AllTransferred world start driver
  programs : Qspi.programs driver.sent =
    chunkProgram start :: Qspi.programs start.sent
  busy : driver.chip.busyPolls = world.busyPolls (chunkProgram start)
  flag : driver.chip.programFailure = !world.succeeds (chunkProgram start)

/-- It has not: a command before the program was lost, the check has refused it,
or the program itself was lost. -/
inductive Halted (world : World) (start driver : QSpiDriver) : Prop where
  | lost (lost : Lost world start (start.chip.busyPolls + 3) driver)
  | refused (flag : start.chip.programFailure = true)
      (counted : Counted world start (start.chip.busyPolls + 3) driver)
      (unprogrammed : Unprogrammed start driver)
  | unsent (clear : start.chip.programFailure = false)
      (failed : world.transfers (chunkProgram start) = false)
      (inLog : chunkProgram start < driver.sent.length)

private theorem programm_sent {start : QSpiDriver}
    (clear : start.chip.programFailure = false) (address : Nat)
    (block : List UInt8) :
    Triple
      (fun driver =>
        Counted world start (start.chip.busyPolls + 3) driver ∧
        driver.chip.writeEnableLatch = true ∧ Unprogrammed start driver)
      (QSpiDriver.send world (.qioFastProgramm address block))
      (fun _ => Programmed world start) (fun _ => Halted world start) := by
  rintro driver ⟨counted, latched, unprogrammed⟩
  have length : driver.sent.length = chunkProgram start := by
    rw [counted.length, chunkProgram]
    omega
  rw [QSpiDriver.send]
  by_cases through : world.transfers driver.sent.length = true
  · rw [if_pos through]
    have executed : driver.chip.execute world driver.sent.length
        (.qioFastProgramm address block) =
        driver.chip.programPage world driver.sent.length address block := by
      rw [Chip.execute_of_awake counted.awake, Chip.executeAwake, if_pos latched]
    dsimp only
    rw [executed]
    refine ⟨counted.awake, clear, ?_, counted.through.sent rfl through, ?_, ?_,
      ?_⟩
    · change driver.sent.length + 1 = _
      rw [length]
    · change driver.sent.length :: programs driver.sent = _
      rw [length, unprogrammed.programs]
    · change world.busyPolls driver.sent.length = _
      rw [length]
    · change (driver.chip.programFailure ||
        !world.succeeds driver.sent.length) = _
      rw [unprogrammed.flag, clear, length, Bool.false_or]
  · rw [if_neg through]
    apply Halted.unsent clear
    · rw [← length]
      exact Bool.eq_false_iff.mpr through
    · rw [← length]
      exact Nat.lt_succ_self _

private theorem writeChunk_outcome {start : QSpiDriver}
    (awake : start.chip.deepPowerDown = false) (startAddress : Nat)
    (data : List UInt8) (round : Nat) :
    Triple (fun driver => driver = start)
      (QSpiDriver.writeChunk world startAddress data round)
      (fun _ => Programmed world start) (fun _ => Halted world start) := by
  have number : 0 + (start.chip.busyPolls + 1) + 1 + 1 =
      start.chip.busyPolls + 3 := by omega
  have polls := fun count busy => @isBusy_counted world start count
    (Unprogrammed start) (fun _ same => same.polled)
    (fun _ same => ⟨same.programs, same.flag⟩) busy
  have waits := @waitWhileBusy_counted world start 0 (Unprogrammed start) _ polls
    start.chip.busyPolls
  have enables := @writeEnable_counted world start
    (0 + (start.chip.busyPolls + 1)) (Unprogrammed start) (by
      intro driver same
      have quiet : Command.writeEnable.Quiet := trivial
      exact same.quiet quiet rfl)
  have checks := @checkWriteOk_counted world start
    (0 + (start.chip.busyPolls + 1) + 1)
  unfold QSpiDriver.writeChunk
  apply Triple.bind (waits.weaken ?_ (fun _ _ reached => reached)
    (fun _ _ lost => .lost (lost.mono (by omega))))
  · intro _
    apply Triple.bind (enables.weaken
      (fun _ reached => ⟨reached.1, reached.2.1⟩) (fun _ _ reached => reached)
      (fun _ _ lost => .lost (lost.mono (by omega))))
    intro _
    rw [number] at checks
    apply Triple.bind (checks.weaken
      (fun _ reached => reached) (fun _ _ reached => reached)
      (fun _ _ stopped => stopped.elim .lost
        (fun refused => .refused refused.1 refused.2.1 refused.2.2)))
    intro _
    rintro driver ⟨clear, reached⟩
    exact programm_sent clear _ _ driver reached
  · rintro _ rfl
    exact ⟨.refl awake, .refl _, rfl⟩

end Chunk

/-! ## The rounds of a call -/

section Rounds

variable {world : World}

/-- The first `rounds` programs have been sent since `start`; all but the latest
have been checked. -/
structure Rounds (world : World) (start : QSpiDriver) (rounds : Nat)
    (driver : QSpiDriver) : Prop where
  awake : driver.chip.deepPowerDown = false
  extended : start.sent.length ≤ driver.sent.length
  next : chunkProgram driver = programAt world start rounds
  through : AllTransferred world start driver
  programs : Qspi.programs driver.sent =
    ((List.range rounds).map (programAt world start)).reverse ++
      Qspi.programs start.sent
  flag : driver.chip.programFailure = true ↔
    start.chip.programFailure = true ∨
      ∃ round, round < rounds ∧
        world.succeeds (programAt world start round) = false
  passed : 0 < rounds → start.chip.programFailure = false
  checked : ∀ round, round + 1 < rounds →
    world.succeeds (programAt world start round) = true

/-- A call that has failed in this round: a command was lost before the check or
with the program, or the check has refused the chunk. -/
inductive Stopped (world : World) (start : QSpiDriver) (round : Nat)
    (driver : QSpiDriver) : Prop where
  | lost (first : 0 < round → start.chip.programFailure = false)
      (index : Nat) (since : start.sent.length ≤ index)
      (before : index < programAt world start round)
      (inLog : index < driver.sent.length)
      (failed : world.transfers index = false)
  | unsent (clear : start.chip.programFailure = false)
      (failed : world.transfers (programAt world start round) = false)
      (since : start.sent.length ≤ programAt world start round)
      (inLog : programAt world start round < driver.sent.length)
  | refused (first : 0 < round → start.chip.programFailure = false)
      (length : driver.sent.length = programAt world start round)
      (through : AllTransferred world start driver)
      (programs : Qspi.programs driver.sent =
        ((List.range round).map (programAt world start)).reverse ++
          Qspi.programs start.sent)
      (flag : start.chip.programFailure = true ∨
        ∃ earlier, earlier < round ∧
          world.succeeds (programAt world start earlier) = false)

theorem Rounds.step {start driver : QSpiDriver} {rounds : Nat}
    (done : Rounds world start rounds driver) {after : QSpiDriver}
    (programmed : Programmed world driver after) :
    Rounds world start (rounds + 1) after := by
  have clear := programmed.clear
  have number := done.next
  have noneFailed : ¬ (start.chip.programFailure = true ∨
      ∃ round, round < rounds ∧
        world.succeeds (programAt world start round) = false) := by
    intro failed
    rw [done.flag.mpr failed] at clear
    cases clear
  have healthy : ∀ round, round < rounds →
      world.succeeds (programAt world start round) = true := by
    intro round before
    by_contra failed
    exact noneFailed (.inr ⟨round, before, Bool.eq_false_iff.mpr failed⟩)
  have startClear : start.chip.programFailure = false :=
    Bool.eq_false_iff.mpr (fun failed => noneFailed (.inl failed))
  have length := programmed.length
  have longer : driver.sent.length ≤ chunkProgram driver := by
    rw [chunkProgram]
    omega
  have extended := done.extended
  refine ⟨programmed.awake, by omega, ?_,
    done.through.trans programmed.through, ?_, ?_, fun _ => startClear, ?_⟩
  · rw [chunkProgram, length, programmed.busy, programAt, number]
    omega
  · rw [programmed.programs, done.programs, number, List.range_succ,
      List.map_append, List.reverse_append]
    rfl
  · rw [programmed.flag, number, Bool.not_eq_true', startClear]
    constructor
    · intro failed
      exact .inr ⟨rounds, Nat.lt_succ_self _, failed⟩
    · rintro (impossible | ⟨round, before, failed⟩)
      · cases impossible
      · rcases Nat.lt_or_ge round rounds with earlier | last
        · rw [healthy round earlier] at failed
          cases failed
        · rw [← Nat.le_antisymm (Nat.le_of_lt_succ before) last]
          exact failed
  · intro round before
    exact healthy round (Nat.lt_of_succ_lt_succ before)

theorem Rounds.stop {start driver : QSpiDriver} {rounds : Nat}
    (done : Rounds world start rounds driver) {after : QSpiDriver}
    (halted : Halted world driver after) : Stopped world start rounds after := by
  have extended := done.extended
  have number := done.next
  cases halted with
  | lost lost =>
      obtain ⟨index, since, before, inLog, failed⟩ := lost
      refine .lost done.passed index (Nat.le_trans extended since) ?_ inLog failed
      rw [← number, chunkProgram]
      omega
  | unsent clear failed inLog =>
      rw [number] at failed inLog
      refine .unsent ?_ failed ?_ inLog
      · rw [Bool.eq_false_iff]
        intro flag
        rw [done.flag.mpr (.inl flag)] at clear
        cases clear
      · rw [← number, chunkProgram]
        omega
  | refused flag counted unprogrammed =>
      refine .refused done.passed ?_ (done.through.trans counted.through)
        (unprogrammed.programs.trans done.programs) (done.flag.mp flag)
      rw [counted.length, ← number, chunkProgram]
      omega

private theorem writeChunk_rounds {start : QSpiDriver} (startAddress : Nat)
    (data : List UInt8) (round : Nat) :
    Triple (Rounds world start round)
      (QSpiDriver.writeChunk world startAddress data round)
      (fun _ => Rounds world start (round + 1))
      (fun _ => Stopped world start round) := by
  apply Triple.fixed
  intro driver done
  exact (writeChunk_outcome done.awake startAddress data round).weaken
    (fun _ same => same) (fun _ _ programmed => done.step programmed)
    (fun _ _ halted => done.stop halted)

/-- A call sends all its programs, or stops in one of its rounds. -/
theorem writeBlock_rounds {start : QSpiDriver}
    (awake : start.chip.deepPowerDown = false) (startAddress : Nat)
    (data : List UInt8) :
    Triple (fun driver => driver = start)
      (QSpiDriver.writeBlock world startAddress data)
      (fun _ => Rounds world start (chunks data))
      (fun _ driver => ∃ round, round < chunks data ∧
        Stopped world start round driver) := by
  unfold QSpiDriver.writeBlock
  apply Triple.bind (R := fun _ => Rounds world start 0)
  · rintro driver rfl
    rw [cancelMemoryMapping_eq]
    exact
      { awake := awake
        extended := Nat.le_refl _
        next := rfl
        through := .refl _
        programs := rfl
        flag := by simp
        passed := fun impossible => absurd impossible (Nat.lt_irrefl 0)
        checked := fun _ impossible => absurd impossible (Nat.not_lt_zero _) }
  · intro _
    apply Triple.forRange
    intro round before
    exact (writeChunk_rounds startAddress data round).weaken
      (fun _ done => done) (fun _ _ done => done)
      (fun _ _ stopped => ⟨round, before, stopped⟩)

end Rounds

end SelfWriter.Qspi
