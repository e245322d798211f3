import Mathlib.Order.Monotone.Basic
import SelfWriter.Qspi.WriteRounds

/-!
# What `write_block` reports

`write_block` (`qspi_storage/qspi_driver.rs`) looks at the failure bits of the
chip before it programs a chunk, when the program of the chunk before is over.
Nothing looks at them after the last chunk, and nothing clears them: the failure
of a last chunk is reported by every later call instead.
-/

namespace SelfWriter.Qspi

open SelfWriter.Lib SelfWriter.Lib.Hoare

/-! ## Faithful reports -/

section Faithful

variable (world : World)

/-- The call succeeds only with all its programs, and fails only on account of a
command or a program of its own. -/
def ReportsFaithfully (startAddress : Nat) (data : List UInt8)
    (driver : QSpiDriver) : Prop :=
  match QSpiDriver.writeBlock world startAddress data driver with
  | .ok _ after => AllProgrammed world driver after
  | .error _ after =>
      ¬ (AllTransferred world driver after ∧ AllProgrammed world driver after)

/-- The call gets to its last program, and only that one fails. -/
structure OnlyLastFails (driver : QSpiDriver) (last : Nat) : Prop where
  reached : ∀ index, driver.sent.length ≤ index →
    index ≤ programAt world driver last → world.transfers index = true
  earlier : ∀ round, round < last →
    world.succeeds (programAt world driver round) = true
  fails : world.succeeds (programAt world driver last) = false

/-- Every command up to the first check gets through. -/
def ReachesCheck (driver : QSpiDriver) : Prop :=
  ∀ index, driver.sent.length ≤ index → index < chunkProgram driver →
    world.transfers index = true

/-- There is nothing to write; or no failure was left behind and it is not the
last program alone that fails; or a failure was left behind but the call does
not get to see it. -/
def ReportsWhen (data : List UInt8) (driver : QSpiDriver) : Prop :=
  data = [] ∨
    if driver.chip.programFailure = true then ¬ ReachesCheck world driver
    else ¬ OnlyLastFails world driver (chunks data - 1)

end Faithful

/-! ## The programs of a call -/

section Report

variable {world : World}

private theorem programAt_mono (world : World) (start : QSpiDriver) :
    Monotone (programAt world start) := by
  apply monotone_nat_of_le_succ
  intro round
  rw [programAt]
  omega

private theorem programAt_since (world : World) (start : QSpiDriver) (round : Nat) :
    start.sent.length ≤ programAt world start round := by
  have first := programAt_mono world start (Nat.zero_le round)
  rw [programAt, chunkProgram] at first
  omega

/-- The programs of a call are those of its rounds. -/
theorem allProgrammed_iff {start after : QSpiDriver} {rounds : Nat}
    (programs : Qspi.programs after.sent =
      ((List.range rounds).map (programAt world start)).reverse ++
        Qspi.programs start.sent) :
    AllProgrammed world start after ↔
      ∀ round, round < rounds →
        world.succeeds (programAt world start round) = true := by
  rw [AllProgrammed, programs]
  constructor
  · intro all round before
    apply all _ ?_ (programAt_since world start round)
    apply List.mem_append_left
    rw [List.mem_reverse]
    exact List.mem_map_of_mem (List.mem_range.mpr before)
  · intro rounds index member since
    rcases List.mem_append.mp member with sent | earlier
    · obtain ⟨round, before, rfl⟩ := List.mem_map.mp (List.mem_reverse.mp sent)
      exact rounds round (List.mem_range.mp before)
    · exact absurd (lt_of_mem_programs earlier) (Nat.not_lt.mpr since)

private theorem chunks_pos {data : List UInt8} (written : data ≠ []) :
    0 < chunks data := by
  have length := List.length_pos_iff.mpr written
  rw [chunks, QSpiDriver.stepBy, writeMaxBytes_eq]
  omega

private theorem chunks_nil : chunks [] = 0 :=
  rfl

/-! ## The report of a call -/

/-- A call that sends all its programs is right unless the last one fails. -/
theorem report_of_rounds {start after : QSpiDriver} {data : List UInt8}
    (done : Rounds world start (chunks data) after) :
    AllProgrammed world start after ↔ ReportsWhen world data start := by
  rw [allProgrammed_iff done.programs]
  by_cases empty : data = []
  · subst empty
    exact iff_of_true (fun _ impossible => absurd impossible (Nat.not_lt_zero _))
      (.inl rfl)
  · have some := chunks_pos empty
    have clear := done.passed some
    have last : chunks data - 1 < chunks data := by omega
    rw [ReportsWhen, or_iff_right empty, clear, if_neg Bool.false_ne_true]
    constructor
    · intro all onlyLast
      have fails := onlyLast.fails
      rw [all _ last] at fails
      cases fails
    · intro notOnly
      by_contra some
      apply notOnly
      have earlier : ∀ round, round < chunks data - 1 →
          world.succeeds (programAt world start round) = true :=
        fun round before => done.checked round (by omega)
      refine ⟨?_, earlier, ?_⟩
      · intro index since upTo
        apply done.through index since
        refine Nat.lt_of_le_of_lt upTo (lt_of_mem_programs ?_)
        rw [done.programs]
        apply List.mem_append_left
        rw [List.mem_reverse]
        exact List.mem_map_of_mem (List.mem_range.mpr last)
      · rw [Bool.eq_false_iff]
        intro succeeds
        apply some
        intro round before
        rcases Nat.lt_or_ge round (chunks data - 1) with checked | latest
        · exact earlier round checked
        · rw [show round = chunks data - 1 by omega]
          exact succeeds

/-- A failure that was there before is found in the first round. -/
theorem zero_of_flag {start : QSpiDriver} {round : Nat}
    (first : 0 < round → start.chip.programFailure = false)
    (flag : start.chip.programFailure = true) : round = 0 := by
  by_contra later
  rw [first (Nat.pos_of_ne_zero later)] at flag
  cases flag

/-- A call that stops is wrong only when it was refused on account of a failure
that it has found. -/
theorem report_of_stopped {start after : QSpiDriver} {data : List UInt8}
    {round : Nat} (before : round < chunks data)
    (stopped : Stopped world start round after) :
    ¬ (AllTransferred world start after ∧ AllProgrammed world start after) ↔
      ReportsWhen world data start := by
  have written : data ≠ [] := by
    rintro rfl
    rw [chunks_nil] at before
    exact absurd before (Nat.not_lt_zero _)
  have upToLast : programAt world start round ≤
      programAt world start (chunks data - 1) :=
    programAt_mono world start (by omega)
  rw [ReportsWhen, or_iff_right written]
  cases stopped with
  | lost first index since behind inLog failed =>
      refine iff_of_true ?_ ?_
      · rintro ⟨all, _⟩
        rw [all index since inLog] at failed
        cases failed
      · split
        · rename_i flag
          intro reaches
          rw [zero_of_flag first flag] at behind
          rw [reaches index since behind] at failed
          cases failed
        · intro onlyLast
          rw [onlyLast.reached index since (by omega)] at failed
          cases failed
  | unsent clear failed since inLog =>
      refine iff_of_true ?_ ?_
      · rintro ⟨all, _⟩
        rw [all _ since inLog] at failed
        cases failed
      · rw [clear, if_neg Bool.false_ne_true]
        intro onlyLast
        rw [onlyLast.reached _ since upToLast] at failed
        cases failed
  | refused first length through programs flag =>
      rw [allProgrammed_iff programs]
      cases start' : start.chip.programFailure with
      | true =>
          obtain rfl := zero_of_flag first start'
          rw [if_pos rfl]
          refine iff_of_false (fun wrong => wrong ⟨through, ?_⟩)
            (fun unseen => unseen ?_)
          · exact fun _ impossible => absurd impossible (Nat.not_lt_zero _)
          · intro index since reached
            rw [programAt] at length
            exact through index since (by omega)
      | false =>
          rw [if_neg Bool.false_ne_true]
          rcases flag with impossible | ⟨earlier, sooner, fails⟩
          · rw [start'] at impossible
            cases impossible
          · refine iff_of_true ?_ ?_
            · rintro ⟨_, all⟩
              rw [all earlier sooner] at fails
              cases fails
            · intro onlyLast
              rw [onlyLast.earlier earlier (by omega)] at fails
              cases fails

private theorem reportsFaithfully_iff {start : QSpiDriver}
    (awake : start.chip.deepPowerDown = false) (startAddress : Nat)
    (data : List UInt8) :
    ReportsFaithfully world startAddress data start ↔
      ReportsWhen world data start := by
  have reached := @writeBlock_rounds world start awake startAddress data start
    rfl
  rw [ReportsFaithfully]
  cases outcome : QSpiDriver.writeBlock world startAddress data start with
  | ok _ after =>
      rw [outcome] at reached
      exact report_of_rounds reached
  | error _ after =>
      rw [outcome] at reached
      obtain ⟨round, before, stopped⟩ := reached
      exact report_of_stopped before stopped

end Report

/-! ## Calls one after the other -/

section Calls

variable {world : World}

/-- The driver after a call, whatever it has reported. -/
def afterCall (world : World) (driver : QSpiDriver) (call : Nat × List UInt8) :
    QSpiDriver :=
  match QSpiDriver.writeBlock world call.1 call.2 driver with
  | .ok _ after => after
  | .error _ after => after

/-- The failure bit tells whether a program has failed since `start`, if it was
clear then. -/
structure Marked (world : World) (start driver : QSpiDriver) : Prop where
  awake : driver.chip.deepPowerDown = false
  extended : start.sent.length ≤ driver.sent.length
  flag : driver.chip.programFailure = true ↔
    start.chip.programFailure = true ∨
      ∃ index ∈ programs driver.sent, start.sent.length ≤ index ∧
        world.transfers index = true ∧ world.succeeds index = false

theorem Marked.refl {driver : QSpiDriver}
    (awake : driver.chip.deepPowerDown = false) :
    Marked world driver driver := by
  refine ⟨awake, Nat.le_refl _, ?_⟩
  constructor
  · exact .inl
  · rintro (flag | ⟨index, member, since, _⟩)
    · exact flag
    · exact absurd (lt_of_mem_programs member) (Nat.not_lt.mpr since)

/-- A command that programs nothing leaves the bit and the programs. -/
theorem Marked.quiet {start driver : QSpiDriver}
    (marked : Marked world start driver) {command : Command}
    (quiet : command.Quiet) {chip : Chip} (awake : chip.deepPowerDown = false)
    (flag : chip.programFailure = driver.chip.programFailure) :
    Marked world start { driver.logged command with chip := chip } := by
  refine ⟨awake, Nat.le_succ_of_le marked.extended, ?_⟩
  change chip.programFailure = true ↔ _ ∨
    ∃ index ∈ programs (driver.logged command).sent, _
  rw [flag, quiet.programs_logged]
  exact marked.flag

/-- Quiet commands keep the latch, too. -/
theorem Chip.execute_latch {index : Nat} {chip : Chip} {command : Command}
    (awake : chip.deepPowerDown = false) (quiet : command.Quiet)
    (latched : chip.writeEnableLatch = true) :
    (chip.execute world index command).writeEnableLatch = true := by
  rw [Chip.execute_of_awake awake]
  cases command <;> first | exact latched | rfl | exact absurd quiet id

private theorem marked_stable (start : QSpiDriver) :
    Stable world (Marked world start) (fun _ => Marked world start) where
  send command quiet := by
    have stays : command ≠ .enterDeepSleep := by
      rintro rfl
      exact quiet
    apply send_leaves
    · intro driver marked
      exact marked.quiet quiet marked.awake rfl
    · intro driver marked
      exact marked.quiet quiet (Chip.execute_awake marked.awake stays)
        (driver.chip.execute_quiet world driver.sent.length quiet).2.2
  mapped driver mapped marked := { marked with }

private theorem marked_latched_stable (start : QSpiDriver) :
    Stable world
      (fun driver => Marked world start driver ∧
        driver.chip.writeEnableLatch = true)
      (fun _ => Marked world start) where
  send command quiet := by
    have stays : command ≠ .enterDeepSleep := by
      rintro rfl
      exact quiet
    rintro driver ⟨marked, latched⟩
    rw [QSpiDriver.send]
    by_cases through : world.transfers driver.sent.length = true
    · rw [if_pos through]
      exact ⟨marked.quiet quiet (Chip.execute_awake marked.awake stays)
          (driver.chip.execute_quiet world driver.sent.length quiet).2.2,
        Chip.execute_latch marked.awake quiet latched⟩
    · rw [if_neg through]
      exact marked.quiet quiet marked.awake rfl
  mapped driver mapped holds := ⟨{ holds.1 with }, holds.2⟩

private theorem writeEnable_marked (start : QSpiDriver) :
    Triple (Marked world start) (QSpiDriver.writeEnable world)
      (fun _ driver => Marked world start driver ∧
        driver.chip.writeEnableLatch = true)
      (fun _ => Marked world start) := by
  have quiet : Command.writeEnable.Quiet := trivial
  intro driver marked
  rw [QSpiDriver.writeEnable, QSpiDriver.send]
  by_cases through : world.transfers driver.sent.length = true
  · rw [if_pos through, Chip.execute_of_awake marked.awake]
    exact ⟨marked.quiet quiet marked.awake rfl, rfl⟩
  · rw [if_neg through]
    exact marked.quiet quiet marked.awake rfl

/-- A program marks its failure. -/
theorem programm_marked (start : QSpiDriver) (address : Nat)
    (block : List UInt8) :
    Triple
      (fun driver => Marked world start driver ∧
        driver.chip.writeEnableLatch = true)
      (QSpiDriver.send world (.qioFastProgramm address block))
      (fun _ => Marked world start) (fun _ => Marked world start) := by
  rintro driver ⟨marked, latched⟩
  have extended := marked.extended
  rw [QSpiDriver.send]
  by_cases through : world.transfers driver.sent.length = true
  · rw [if_pos through, Chip.execute_of_awake marked.awake, Chip.executeAwake,
      if_pos latched]
    refine ⟨marked.awake, Nat.le_succ_of_le extended, ?_⟩
    change (driver.chip.programFailure ||
        !world.succeeds driver.sent.length) = true ↔ _ ∨
      ∃ index ∈ driver.sent.length :: programs driver.sent, _
    rw [Bool.or_eq_true, marked.flag, Bool.not_eq_true']
    constructor
    · rintro ((flag | ⟨index, member, failed⟩) | failed)
      · exact .inl flag
      · exact .inr ⟨index, List.mem_cons_of_mem _ member, failed⟩
      · exact .inr ⟨driver.sent.length, List.mem_cons_self, extended, through,
          failed⟩
    · rintro (flag | ⟨index, member, failed⟩)
      · exact .inl (.inl flag)
      · rcases List.mem_cons.mp member with rfl | earlier
        · exact .inr failed.2.2
        · exact .inl (.inr ⟨index, earlier, failed⟩)
  · rw [if_neg through]
    refine ⟨marked.awake, Nat.le_succ_of_le extended, ?_⟩
    change driver.chip.programFailure = true ↔ _ ∨
      ∃ index ∈ driver.sent.length :: programs driver.sent, _
    rw [marked.flag]
    constructor
    · rintro (flag | ⟨index, member, failed⟩)
      · exact .inl flag
      · exact .inr ⟨index, List.mem_cons_of_mem _ member, failed⟩
    · rintro (flag | ⟨index, member, since, transferred, failed⟩)
      · exact .inl flag
      · rcases List.mem_cons.mp member with rfl | earlier
        · exact absurd transferred through
        · exact .inr ⟨index, earlier, since, transferred, failed⟩

private theorem writeBlock_marked (start : QSpiDriver) (startAddress : Nat)
    (data : List UInt8) :
    Triple (Marked world start) (QSpiDriver.writeBlock world startAddress data)
      (fun _ => Marked world start) (fun _ => Marked world start) := by
  have stable := @marked_stable world start
  have latchedStable := @marked_latched_stable world start
  unfold QSpiDriver.writeBlock
  apply stable.cancelMemoryMapping.bind
  intro _
  apply Triple.forRange (I := fun _ => Marked world start)
  intro round _
  unfold QSpiDriver.writeChunk
  apply (Stable.waitWhileBusy stable.isBusy).bind
  intro _
  apply (writeEnable_marked start).bind
  intro _
  apply (latchedStable.checkWriteOk (fun _ _ _ _ after => after.1)).bind
  intro _
  exact programm_marked start _ _

private theorem afterCall_marked {start driver : QSpiDriver}
    (marked : Marked world start driver) (call : Nat × List UInt8) :
    Marked world start (afterCall world driver call) := by
  have reached := writeBlock_marked start call.1 call.2 driver marked
  rw [afterCall]
  cases outcome : QSpiDriver.writeBlock world call.1 call.2 driver with
  | ok _ after =>
      rw [outcome] at reached
      exact reached
  | error _ after =>
      rw [outcome] at reached
      exact reached

private theorem calls_marked {start : QSpiDriver} (calls : List (Nat × List UInt8)) :
    ∀ {driver}, Marked world start driver →
      Marked world start (calls.foldl (afterCall world) driver) := by
  induction calls with
  | nil => exact fun marked => marked
  | cons call calls inductionHypothesis =>
      exact fun marked => inductionHypothesis (afterCall_marked marked call)

end Calls

/-- After any calls on an awake chip: a call reports what has become of it
exactly when it writes nothing, or finds no failure of an earlier program and
does not leave one behind with its last program, or does not get to its first
check.  The failure bit is that of all the programs so far. -/
theorem write_block_reports_iff (world : World) (driver : QSpiDriver)
    (awake : driver.chip.deepPowerDown = false)
    (calls : List (Nat × List UInt8)) (startAddress : Nat) (data : List UInt8) :
    (ReportsFaithfully world startAddress data
        (calls.foldl (afterCall world) driver) ↔
      ReportsWhen world data (calls.foldl (afterCall world) driver)) ∧
    ((calls.foldl (afterCall world) driver).chip.programFailure = true ↔
      driver.chip.programFailure = true ∨
        ∃ index ∈ programs (calls.foldl (afterCall world) driver).sent,
          driver.sent.length ≤ index ∧ world.transfers index = true ∧
          world.succeeds index = false) := by
  have marked := @calls_marked world driver calls driver (Marked.refl awake)
  exact ⟨reportsFaithfully_iff marked.awake startAddress data, marked.flag⟩

/-! ## A program that fails -/

/-- The driver after its initialisation with a fresh chip. -/
def freshDriver : QSpiDriver :=
  (Client.init freshChip).driver

/-- Only the first program of a chip that is not busy fails: it comes after a
status read, the write enable and the check. -/
def oneFailure : World :=
  { calmWorld with
    succeeds := fun index => index != 3
    busyPolls := fun _ => 0 }

theorem write_block_reports_iff_fresh :
    ReportsFaithfully calmWorld 0 [1, 2, 3]
        ([(0, [7])].foldl (afterCall calmWorld) freshDriver) ↔
      ReportsWhen calmWorld [1, 2, 3]
        ([(0, [7])].foldl (afterCall calmWorld) freshDriver) :=
  (write_block_reports_iff calmWorld freshDriver rfl [(0, [7])] 0 [1, 2, 3]).1

/-- The call whose only program fails succeeds, and the next call, of which
every command gets through and no program fails, is an error. -/
theorem write_block_reports_wrong :
    ¬ ReportsFaithfully oneFailure 0 [7] freshDriver ∧
      ¬ ReportsFaithfully oneFailure 0 [8]
        (afterCall oneFailure freshDriver (0, [7])) := by
  constructor
  · intro faithful
    have programmed : AllProgrammed oneFailure freshDriver
        (afterCall oneFailure freshDriver (0, [7])) := faithful
    exact absurd (programmed 3 (by decide) (Nat.zero_le 3)) (by decide)
  · intro faithful
    apply faithful
    refine ⟨fun _ _ _ => rfl, ?_⟩
    intro index member since
    have only : index ∈ [3] := member
    have later : 4 ≤ index := since
    rw [List.mem_singleton.mp only] at later
    exact absurd later (by decide)

end SelfWriter.Qspi
