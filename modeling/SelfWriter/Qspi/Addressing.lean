import Mathlib.Logic.Function.Iterate
import SelfWriter.Qspi.Synced

/-!
# Where written pages end up

A page is written through an extender register and a 24-bit address, in program
commands of at most 256 bytes; it is read back through a pointer into the mapped
region.  Both ways lead to the page's own bytes of the device.
-/

namespace SelfWriter.Qspi

open SelfWriter.Lib.Hoare SelfWriter.Lib.NorMemory

/-- A program command crosses neither its 256-byte program page nor the 16 MiB
segment of the extender. -/
def Command.InsidePage : Command → Prop
  | .qioFastProgramm address block =>
      address % 256 + block.length ≤ 256 ∧ address + block.length ≤ 2 ^ 24
  | _ => True

/-- Since `start` exactly the bytes `written` were programmed from `base` on. -/
structure Progress (start : QSpiDriver) (base : Nat) (written : List UInt8)
    (driver : QSpiDriver) : Prop where
  cells_eq : driver.chip.cells = program start.chip.cells (span base written)
  writes_eq : driver.chip.writes = start.chip.writes ++ span base written
  sent_inside : ∃ commands, driver.sent = commands ++ start.sent ∧
    ∀ sent ∈ commands, sent.command.InsidePage

namespace Progress

variable {world : World} {start driver : QSpiDriver}
variable {base : Nat} {written : List UInt8}

theorem refl (start : QSpiDriver) (base : Nat) : Progress start base [] start where
  cells_eq := rfl
  writes_eq := (List.append_nil _).symm
  sent_inside := ⟨[], rfl, fun _ member => by cases member⟩

theorem logged (progress : Progress start base written driver)
    {command : Command} (inside : command.InsidePage) :
    Progress start base written (driver.logged command) where
  cells_eq := progress.cells_eq
  writes_eq := progress.writes_eq
  sent_inside := by
    obtain ⟨commands, appended, all⟩ := progress.sent_inside
    refine ⟨{ command := command
              deepPowerDown := driver.chip.deepPowerDown
              memoryMapped := driver.memoryMapped } :: commands, ?_, ?_⟩
    · rw [List.cons_append, ← appended]
      rfl
    · intro sent member
      rcases List.mem_cons.1 member with rfl | earlier
      · exact inside
      · exact all sent earlier

/-- A command that does not program leaves the progress as it is. -/
theorem executed (progress : Progress start base written driver)
    {command : Command} (inside : command.InsidePage) (index : Nat)
    (cells : (driver.chip.execute world index command).cells =
      driver.chip.cells)
    (writes : (driver.chip.execute world index command).writes =
      driver.chip.writes) :
    Progress start base written
      { driver.logged command with
        chip := driver.chip.execute world index command } where
  cells_eq := cells.trans progress.cells_eq
  writes_eq := writes.trans progress.writes_eq
  sent_inside := (progress.logged inside).sent_inside

theorem mapped (progress : Progress start base written driver) (mapped : Bool) :
    Progress start base written { driver with memoryMapped := mapped } :=
  { progress with }

end Progress

theorem Command.Quiet.insidePage {command : Command} (quiet : command.Quiet) :
    command.InsidePage := by
  cases command <;> first | exact trivial | exact absurd quiet id

/-! ## Selecting a page programs nothing -/

/-- Nothing was programmed since `start`. -/
def Untouched (start driver : QSpiDriver) : Prop :=
  Progress start 0 [] driver

section Untouched

variable {world : World} {start : QSpiDriver}

/-- Commands that program or erase. -/
def Command.Alters : Command → Prop
  | .qioFastProgramm _ _ => True
  | .dieErase _ => True
  | _ => False

theorem Chip.execute_cells {command : Command} (harmless : ¬ command.Alters)
    (index : Nat) (chip : Chip) :
    (chip.execute world index command).cells = chip.cells ∧
      (chip.execute world index command).writes = chip.writes := by
  cases asleep : chip.deepPowerDown with
  | true =>
      rw [execute_of_asleep asleep, executeAsleep]
      split <;> exact ⟨rfl, rfl⟩
  | false =>
      rw [execute_of_awake asleep]
      cases command with
      | qioFastProgramm address block => exact absurd trivial harmless
      | dieErase address => exact absurd trivial harmless
      | writeAddrExtanderReg value =>
          rw [executeAwake]
          split <;> exact ⟨rfl, rfl⟩
      | wakeUp => exact ⟨rfl, rfl⟩
      | enterDeepSleep => exact ⟨rfl, rfl⟩
      | writeEnable => exact ⟨rfl, rfl⟩
      | readFlagStatus => exact ⟨rfl, rfl⟩
      | qioFastRead address length => exact ⟨rfl, rfl⟩

private theorem send_untouched {command : Command} (harmless : ¬ command.Alters)
    (inside : command.InsidePage) :
    Triple (Untouched start) (QSpiDriver.send world command)
      (fun _ => Untouched start) (Faulty world (Untouched start)) :=
  send_triple (fun _ progress => Progress.logged progress inside)
    (fun driver progress => Progress.executed progress inside _
      (driver.chip.execute_cells harmless _).1
      (driver.chip.execute_cells harmless _).2)

private theorem untouched_stable :
    Stable world (Untouched start) (Faulty world (Untouched start)) where
  send := fun command quiet => send_untouched
    (by cases command <;> first | exact id | exact absurd quiet id)
    quiet.insidePage
  mapped := fun _ mapped progress => Progress.mapped progress mapped

private theorem wakeUp_untouched :
    Triple (Untouched start) (QSpiDriver.wakeUp world)
      (fun _ => Untouched start) (Faulty world (Untouched start)) := by
  unfold QSpiDriver.wakeUp
  apply Triple.bind (Triple.read (fun _ progress => progress))
  intro driver
  apply Triple.ite
  · intro _
    apply untouched_stable.cancelMemoryMapping.bind
    intro _
    apply (send_untouched (show ¬ Command.wakeUp.Alters from id) trivial).bind
    intro _
    exact Triple.change (fun _ progress => { progress with })
  · intro _
    exact Triple.change (fun _ progress => { progress with })

private theorem setAddrExtender_untouched (value : UInt8) :
    Triple (Untouched start) (QSpiDriver.setAddrExtender world value)
      (fun _ => Untouched start) (Faulty world (Untouched start)) := by
  unfold QSpiDriver.setAddrExtender
  apply Triple.bind (Triple.read (fun _ progress => progress))
  intro driver
  apply Triple.ite
  · intro _
    apply untouched_stable.cancelMemoryMapping.bind
    intro _
    apply untouched_stable.writeEnable.bind
    intro _
    apply (send_untouched
      (show ¬ (Command.writeAddrExtanderReg value).Alters from id) trivial).bind
    intro _
    exact Triple.change (fun _ progress => { progress with })
  · intro _
    exact Triple.answer (fun _ progress => progress)

private theorem selectPage_untouched (page : Nat) :
    Triple (Untouched start) (QSPIStorage.selectPage world page)
      (fun _ => Untouched start) (Faulty world (Untouched start)) := by
  unfold QSPIStorage.selectPage
  apply (mapFailure_triple wakeUp_untouched (fun _ _ fault => fault)).bind
  intro _
  apply (mapFailure_triple (setAddrExtender_untouched _)
    (fun _ _ fault => fault)).bind
  intro _
  exact Triple.answer (fun _ progress => progress)

end Untouched

/-! ## Writing a block -/

/-- A block inside its program page is programmed as one span. -/
theorem Chip.pageWrites_eq_span (chip : Chip) (address : Nat)
    {block : List UInt8} (inside : address % 256 + block.length ≤ 256) :
    chip.pageWrites address block = span (chip.linear address) block := by
  unfold pageWrites
  apply map_zipIdx_eq_span (fun index =>
    chip.linear (address - address % 256 + (address + index) % 256))
  intro index within
  have place : address - address % 256 + (address + (0 + index)) % 256 =
      address + index := by
    omega
  simp only [place]
  exact (Nat.add_assoc _ address index).symm

theorem QSpiDriver.blockAt_eq (data : List UInt8) (start : Nat) :
    QSpiDriver.blockAt data start = (data.drop start).take 256 := by
  unfold QSpiDriver.blockAt
  rw [writeMaxBytes_eq]
  simp only
  by_cases whole : data.length - start ≥ 256
  · rw [if_pos whole, List.drop_take, Nat.add_sub_cancel_left]
  · rw [if_neg whole, List.take_length, List.take_of_length_le (by
      rw [List.length_drop]
      omega)]

section Writing

variable {world : World} {start : QSpiDriver} {base : Nat}

/-- The driver in the middle of `write_block`. -/
structure Writing (world : World) (start : QSpiDriver) (base : Nat)
    (written : List UInt8) (driver : QSpiDriver) : Prop where
  active : Active world driver
  extender_eq : driver.chip.extender = start.chip.extender
  progress : Progress start base written driver

/-- The same with the write-enable latch set. -/
structure Latched (world : World) (start : QSpiDriver) (base : Nat)
    (written : List UInt8) (driver : QSpiDriver) : Prop where
  writing : Writing world start base written driver
  latched : driver.chip.writeEnableLatch = true

variable {written : List UInt8}

theorem Writing.quiet {driver : QSpiDriver}
    (writing : Writing world start base written driver) {command : Command}
    (quiet : command.Quiet) :
    Writing world start base written { driver.logged command with
      chip := driver.chip.execute world driver.sent.length command } where
  active :=
    { known := writing.active.known.execute quiet.plain
      working := writing.active.working
      awake := (driver.chip.execute_plain world _ quiet.plain).1.trans
        writing.active.awake }
  extender_eq := (driver.chip.execute_plain world _ quiet.plain).2.trans
    writing.extender_eq
  progress := writing.progress.executed quiet.insidePage _
    (driver.chip.execute_quiet world _ quiet).1
    (driver.chip.execute_quiet world _ quiet).2.1

theorem Writing.logged {driver : QSpiDriver}
    (writing : Writing world start base written driver) {command : Command}
    (inside : command.InsidePage) :
    Writing world start base written (driver.logged command) where
  active := { writing.active with known := { writing.active.known with } }
  extender_eq := writing.extender_eq
  progress := writing.progress.logged inside

private theorem writing_stable : Stable world (Writing world start base written)
    (Faulty world (Writing world start base written)) where
  send := fun _ quiet => send_triple
    (fun _ writing => writing.logged quiet.insidePage)
    (fun _ writing => writing.quiet quiet)
  mapped := fun _ mapped writing =>
    { active := { writing.active with known := { writing.active.known with } }
      extender_eq := writing.extender_eq
      progress := writing.progress.mapped mapped }

/-- Every quiet command keeps the latch. -/
theorem execute_latched {chip : Chip} (awake : chip.deepPowerDown = false)
    (latched : chip.writeEnableLatch = true) {command : Command}
    (quiet : command.Quiet) (index : Nat) :
    (chip.execute world index command).writeEnableLatch = true := by
  rw [Chip.execute_of_awake awake]
  cases command with
  | writeEnable => rfl
  | readFlagStatus => exact latched
  | qioFastRead address length => exact latched
  | wakeUp => exact absurd quiet id
  | enterDeepSleep => exact absurd quiet id
  | writeAddrExtanderReg value => exact absurd quiet id
  | qioFastProgramm address block => exact absurd quiet id
  | dieErase address => exact absurd quiet id

private theorem latched_stable : Stable world (Latched world start base written)
    (Faulty world (Latched world start base written)) where
  send := fun _ quiet => send_triple
    (fun _ both =>
      { writing := both.writing.logged quiet.insidePage
        latched := both.latched })
    (fun _ both =>
      { writing := both.writing.quiet quiet
        latched :=
          execute_latched both.writing.active.awake both.latched quiet _ })
  mapped := fun driver mapped both =>
    { writing := writing_stable.mapped driver mapped both.writing
      latched := both.latched }

private theorem writeEnable_latched :
    Triple (Writing world start base written) (QSpiDriver.writeEnable world)
      (fun _ => Latched world start base written)
      (Faulty world (Writing world start base written)) :=
  send_triple
    (fun _ writing => writing.logged trivial)
    (fun driver writing =>
      { writing := writing.quiet (show Command.writeEnable.Quiet from trivial)
        latched := by
          rw [Chip.execute_of_awake writing.active.awake]
          rfl })

/-- One program command puts its block behind what is written already. -/
theorem program_writing (reliable : world.Reliable) {address : Nat}
    {block : List UInt8} (inside : address % 256 + block.length ≤ 256)
    (segment : address + block.length ≤ 2 ^ 24)
    (behind : start.chip.linear address = base + written.length) :
    Triple (Latched world start base written)
      (QSpiDriver.send world (.qioFastProgramm address block))
      (fun _ => Writing world start base (written ++ block))
      (Faulty world (Writing world start base written)) := by
  refine send_triple
    (fun _ both => both.writing.logged ⟨inside, segment⟩)
    (fun driver both => ?_)
  have known := both.writing.active.known.execute
    (show (Command.qioFastProgramm address block).Plain from trivial)
  have progress := both.writing.progress
  have logged := (progress.logged
    (show (Command.qioFastProgramm address block).InsidePage from
      ⟨inside, segment⟩)).sent_inside
  have place : driver.chip.linear address = base + written.length := by
    rw [← behind, Chip.linear, Chip.linear, both.writing.extender_eq]
  rw [Chip.execute_of_awake both.writing.active.awake, Chip.executeAwake,
    if_pos both.latched] at known ⊢
  exact
    { active :=
        { known := known
          working := both.writing.active.working
          awake := both.writing.active.awake }
      extender_eq := both.writing.extender_eq
      progress :=
        { cells_eq := by
            simp only [Chip.programPage, reliable.succeeds, if_true]
            rw [driver.chip.pageWrites_eq_span address inside, place,
              progress.cells_eq, span_append, program_append]
          writes_eq := by
            simp only [Chip.programPage]
            rw [driver.chip.pageWrites_eq_span address inside, place,
              progress.writes_eq, span_append, List.append_assoc]
          sent_inside := logged } }

variable {startAddress : Nat} {data : List UInt8}

private theorem writeChunk_triple (reliable : world.Reliable)
    (aligned : startAddress % 256 = 0)
    (segment : startAddress + data.length ≤ 2 ^ 24) {round : Nat}
    (within : round * 256 < data.length) :
    Triple
      (Writing world start (start.chip.linear startAddress)
        (data.take (round * 256)))
      (QSpiDriver.writeChunk world startAddress data round)
      (fun _ => Writing world start (start.chip.linear startAddress)
        (data.take ((round + 1) * 256)))
      (fun _ _ => False) := by
  have noFault : ∀ {inv : QSpiDriver → Prop} (error : QspiError)
      (driver : QSpiDriver), Faulty world inv error driver → False :=
    fun _ _ fault => fault.1 reliable
  have blockLength : ((data.drop (round * 256)).take 256).length ≤ 256 ∧
      round * 256 + ((data.drop (round * 256)).take 256).length ≤
        data.length := by
    rw [List.length_take, List.length_drop]
    omega
  unfold QSpiDriver.writeChunk
  apply ((Stable.waitWhileBusy writing_stable.isBusy).weaken
    (fun _ writing => writing) (fun _ _ writing => writing) noFault).bind
  intro _
  apply (writeEnable_latched.weaken (fun _ writing => writing)
    (fun _ _ latched => latched) noFault).bind
  intro _
  apply ((latched_stable.checkWriteOk
    (fun driver both failed _ _ => absurd failed (by
      rw [both.writing.active.known.healthy reliable]
      exact Bool.false_ne_true))).weaken (fun _ latched => latched)
    (fun _ _ latched => latched) noFault).bind
  intro _
  rw [writeMaxBytes_eq, Nat.mod_eq_of_lt (by omega), QSpiDriver.blockAt_eq, Nat.add_mul,
    Nat.one_mul, List.take_add]
  refine (program_writing reliable (by omega) (by omega) ?_).weaken
    (fun _ latched => latched) (fun _ _ writing => writing) noFault
  rw [List.length_take, Nat.min_eq_left (Nat.le_of_lt within), Chip.linear,
    Chip.linear, Nat.add_assoc]

private theorem writeBlock_writes (reliable : world.Reliable)
    (active : Active world start)
    (aligned : startAddress % 256 = 0)
    (segment : startAddress + data.length ≤ 2 ^ 24) :
    Triple (fun driver => driver = start)
      (QSpiDriver.writeBlock world startAddress data)
      (fun _ => Writing world start (start.chip.linear startAddress) data)
      (fun _ _ => False) := by
  have begun : Writing world start (start.chip.linear startAddress)
      (data.take (0 * 256)) start := by
    rw [Nat.zero_mul, List.take_zero]
    exact
      { active := active
        extender_eq := rfl
        progress := Progress.refl start _ }
  have stable : Stable world (Writing world start
      (start.chip.linear startAddress) (data.take (0 * 256))) _ :=
    writing_stable
  have rounds : QSpiDriver.stepBy data.length mt25qu01gbbb8e12.writeMaxBytes =
      (data.length + 255) / 256 := rfl
  unfold QSpiDriver.writeBlock
  apply (stable.cancelMemoryMapping.weaken
    (fun driver (same : driver = start) => same ▸ begun)
    (fun _ _ writing => writing) (fun _ _ fault => fault.1 reliable)).bind
  intro _
  rw [rounds]
  have all := Triple.forRange
    (I := fun round => Writing world start (start.chip.linear startAddress)
      (data.take (round * 256)))
    ((data.length + 255) / 256)
    (fun round before => writeChunk_triple reliable aligned segment (by omega))
  refine all.weaken (fun _ writing => writing) (fun _ driver writing => ?_)
    (fun _ _ impossible => impossible)
  rw [List.take_of_length_le (by omega)] at writing
  exact writing

end Writing

/-! ## Pages of the device -/

theorem flashSizePages_eq : QSPIStorage.flashSizePages = 2 ^ 15 :=
  rfl

section Pages

variable {page : Nat}

private theorem fullAdress_eq (inDevice : page < QSPIStorage.flashSizePages) :
    page * QSPIStorage.flashPageSize % 2 ^ 32 = page * 4096 := by
  rw [flashSizePages_eq] at inDevice
  rw [show QSPIStorage.flashPageSize = 4096 from rfl]
  exact Nat.mod_eq_of_lt (by omega)

private theorem pageExtender_toNat (inDevice : page < QSPIStorage.flashSizePages) :
    (pageExtender page).toNat = page * 4096 / 2 ^ 24 := by
  have full := fullAdress_eq inDevice
  rw [flashSizePages_eq] at inDevice
  rw [pageExtender, full, UInt8.toNat_ofNat', Nat.shiftRight_eq_div_pow]
  exact Nat.mod_eq_of_lt (by omega)

private theorem pageAddr24_eq (inDevice : page < QSPIStorage.flashSizePages) :
    pageAddr24 page = page * 4096 % 2 ^ 24 := by
  rw [pageAddr24, fullAdress_eq inDevice]
  exact Nat.and_two_pow_sub_one_eq_mod _ 24

/-- The value that marks an unknown extender belongs to no page. -/
theorem pageExtender_ne (inDevice : page < QSPIStorage.flashSizePages) :
    pageExtender page ≠ 0xFF := by
  have value := pageExtender_toNat inDevice
  rw [flashSizePages_eq] at inDevice
  intro unknown
  rw [unknown] at value
  have : (0xFF : UInt8).toNat = 255 := rfl
  omega

private theorem linear_of_pageExtender {chip : Chip}
    (inDevice : page < QSPIStorage.flashSizePages)
    (selected : chip.extender = pageExtender page) :
    chip.linear (pageAddr24 page) = page * 4096 := by
  rw [Chip.linear, selected, pageExtender_toNat inDevice,
    pageAddr24_eq inDevice]
  omega

/-- A selected page: the extender is the page's and nothing was programmed. -/
structure Selected (world : World) (start : QSpiDriver) (page : Nat)
    (driver : QSpiDriver) : Prop where
  active : Active world driver
  extender_eq : driver.chip.extender = pageExtender page
  untouched : Untouched start driver

variable {world : World} {start : QSpiDriver}

private theorem selectPage_selects (reliable : world.Reliable)
    (synced : Synced world start)
    (inDevice : page < QSPIStorage.flashSizePages) :
    ∃ accessor selected,
      QSPIStorage.selectPage world page start = .ok accessor selected ∧
        Selected world start page selected ∧
        accessor.ptr = qspiMemoryMappedRegion + pageAddr24 page := by
  have triple := (selectPage_triple page).both
    (@selectPage_untouched world start page)
  obtain ⟨accessor, selected, outcome, reached, untouched⟩ :=
    (triple.weaken
      (fun driver (same : driver = start) =>
        ⟨same ▸ synced, same ▸ Progress.refl start 0⟩)
      (fun _ _ reached => reached)
      (fun _ _ fault => fault.1.1 reliable)).answers
  refine ⟨accessor, selected, outcome, ?_, reached.2.2⟩
  refine { active := reached.1, extender_eq := ?_, untouched := untouched }
  rcases reached.1.known.extender with unknown | same
  · rw [reached.2.1] at unknown
    exact absurd unknown (pageExtender_ne inDevice)
  · rw [← same, reached.2.1]

theorem Progress.trans {middle driver : QSpiDriver} {base : Nat}
    {written : List UInt8} (first : Untouched start middle)
    (second : Progress middle base written driver) :
    Progress start base written driver where
  cells_eq := by
    rw [second.cells_eq, first.cells_eq]
    rfl
  writes_eq := by
    rw [second.writes_eq, first.writes_eq]
    exact congrArg (· ++ _) (List.append_nil _)
  sent_inside := by
    obtain ⟨earlier, before, allEarlier⟩ := first.sent_inside
    obtain ⟨later, behind, allLater⟩ := second.sent_inside
    refine ⟨later ++ earlier, by rw [behind, before, List.append_assoc], ?_⟩
    intro sent member
    rcases List.mem_append.1 member with isLater | isEarlier
    · exact allLater sent isLater
    · exact allEarlier sent isEarlier

/-- Writing through the accessor of a selected page programs the page. -/
theorem write_programs (reliable : world.Reliable)
    (inDevice : page < QSPIStorage.flashSizePages) {data : List UInt8}
    (fits : data.length ≤ QSPIStorage.flashPageSize)
    {accessor : QSPIFlashPageAccessor}
    (pointer : accessor.ptr = qspiMemoryMappedRegion + pageAddr24 page)
    {selected : QSpiDriver} (isSelected : Selected world start page selected) :
    ∃ written, accessor.write world data selected = .ok () written ∧
      Progress start (page * 4096) data written ∧ Active world written := by
  have addr24 := pageAddr24_eq inDevice
  rw [show QSPIStorage.flashPageSize = 4096 from rfl] at fits
  have address : (accessor.ptr - qspiMemoryMappedRegion) % 2 ^ 32 =
      pageAddr24 page := by
    rw [pointer, Nat.add_sub_cancel_left, addr24]
    exact Nat.mod_eq_of_lt (by omega)
  have wrote : Triple (fun driver => driver = selected)
      (QSpiDriver.writeBlock world (pageAddr24 page) data) _ _ :=
    writeBlock_writes reliable isSelected.active (by omega) (by omega)
  obtain ⟨_, written, outcome, writing⟩ := wrote.answers
  rw [linear_of_pageExtender inDevice isSelected.extender_eq] at writing
  refine ⟨written, ?_, Progress.trans isSelected.untouched writing.progress,
    writing.active⟩
  rw [QSPIFlashPageAccessor.write, address, mapFailure, outcome]

/-! ## Reading through the mapped region -/

theorem setMemoryMappingMode_mapped :
    Triple (fun _ => True) (QSpiDriver.setMemoryMappingMode world true)
      (fun _ driver => driver.memoryMapped = true) (fun _ _ => True) := by
  unfold QSpiDriver.setMemoryMappingMode
  apply Triple.bind (Triple.read (Q := fun driver state => driver = state)
    (fun _ _ => rfl))
  intro driver
  apply Triple.ite
  · intro already
    exact Triple.answer (fun state same => by rw [← same, ← already])
  · intro _
    apply Triple.ite
    · intro _
      apply Triple.bind (R := fun _ _ => True)
      · intro state _
        cases QSpiDriver.send world (.qioFastRead 0 1) state with
        | ok value after => exact trivial
        | error error after => exact trivial
      · intro _
        exact Triple.change (fun _ _ => rfl)
    · exact fun impossible => absurd rfl impossible

/-- The device shows a page in the mapped region. -/
structure Shown (start : QSpiDriver) (page : Nat) (driver : QSpiDriver) :
    Prop where
  mapped : driver.memoryMapped = true
  extender_eq : driver.chip.extender = pageExtender page
  untouched : Untouched start driver

private theorem mapToMem_shows (reliable : world.Reliable)
    {accessor : QSPIFlashPageAccessor} {offset : Nat} {selected : QSpiDriver}
    (isSelected : Selected world start page selected) :
    Triple (fun driver => driver = selected) (accessor.mapToMem world offset)
      (fun pointer driver =>
        Shown start page driver ∧ pointer = accessor.ptr + offset)
      (fun _ _ => False) := by
  have begun : Writing world selected 0 [] selected :=
    { active := isSelected.active
      extender_eq := rfl
      progress := Progress.refl selected 0 }
  have mapping := ((@writing_stable world selected 0 []).setMemoryMappingMode
    true).both (@setMemoryMappingMode_mapped world)
  unfold QSPIFlashPageAccessor.mapToMem
  apply (mapFailure_triple (mapping.weaken
    (fun driver (same : driver = selected) => ⟨same ▸ begun, trivial⟩)
    (fun _ _ reached => reached)
    (fun _ _ fault => fault.1.1 reliable)) (fun _ _ impossible =>
      impossible)).bind
  intro _
  exact Triple.answer (fun driver reached =>
    ⟨{ mapped := reached.2
       extender_eq := reached.1.extender_eq.trans isSelected.extender_eq
       untouched := Progress.trans isSelected.untouched reached.1.progress }, rfl⟩)

private theorem drop_shows (accessor : QSPIFlashPageAccessor) :
    Triple (Shown start page) accessor.drop (fun _ => Shown start page)
      (fun _ _ => False) := by
  refine @mapFailure_triple _ _ _ _ (fun _ _ => False) _
    (Triple.change (fun driver shown => ?_))
    (fun _ _ impossible => impossible.elim)
  by_cases working : driver.sleepState = .working
  · rw [if_pos working]
    exact { shown with untouched := { shown.untouched with } }
  · rw [if_neg working]
    exact shown

/-- The pointer given to the USB layer shows the device bytes of the offset. -/
theorem flashRead_shows (reliable : world.Reliable)
    (synced : Synced world start) {offset : Nat}
    (inDevice : offset < QSPIStorage.flashSize) :
    ∃ pointer after, flashRead world offset start = .ok pointer after ∧
      Shown start (offset / QSPIStorage.flashPageSize) after ∧
      pointer = qspiMemoryMappedRegion +
        pageAddr24 (offset / QSPIStorage.flashPageSize) +
        offset % QSPIStorage.flashPageSize := by
  have page : offset / QSPIStorage.flashPageSize <
      QSPIStorage.flashSizePages := by
    rw [show QSPIStorage.flashSize = 2 ^ 27 from rfl] at inDevice
    rw [flashSizePages_eq, show QSPIStorage.flashPageSize = 4096 from rfl]
    omega
  obtain ⟨accessor, selected, outcome, isSelected, pointer⟩ :=
    selectPage_selects reliable synced page
  have rest : Triple (fun driver => driver = selected)
      (do
        let pointer ← accessor.mapToMem world
          (offset % QSPIStorage.flashPageSize)
        accessor.drop
        pure pointer : StorageM Nat)
      (fun shown driver =>
        Shown start (offset / QSPIStorage.flashPageSize) driver ∧
        shown = accessor.ptr + offset % QSPIStorage.flashPageSize)
      (fun _ _ => False) := by
    apply (mapToMem_shows reliable isSelected).bind
    intro shown
    apply Triple.bind (R := fun _ driver =>
      Shown start (offset / QSPIStorage.flashPageSize) driver ∧
      shown = accessor.ptr + offset % QSPIStorage.flashPageSize)
    · intro driver reached
      have dropped := drop_shows accessor driver reached.1
      cases outcome : accessor.drop driver with
      | ok value after =>
          rw [outcome] at dropped
          exact ⟨dropped, reached.2⟩
      | error error after =>
          rw [outcome] at dropped
          exact dropped
    · intro _
      exact Triple.answer (fun _ reached => reached)
  obtain ⟨shown, after, answered, reached⟩ := rest.answers
  refine ⟨shown, after, ?_, reached.1, by rw [reached.2, pointer]⟩
  show EStateM.bind (QSPIStorage.selectPage world _) _ start = _
  unfold EStateM.bind
  rw [outcome]
  exact answered

/-- A sector that the pointer shows byte for byte, inside the mapped region. -/
def ShowsSector (driver : QSpiDriver) (pointer offset : Nat) : Prop :=
  driver.memoryMapped = true ∧ ∀ index, index < 512 →
    pointer + index < qspiMemoryMappedRegion + 2 ^ 24 ∧
      driver.resolve (pointer + index) = offset + index

/-- Where the extender is that of the page, the region shows the sector at its place
in the page. -/
theorem resolve_sector {driver : QSpiDriver} {offset : Nat} (aligned : 512 ∣ offset)
    (inDevice : offset < QSPIStorage.flashSize)
    (extender : driver.chip.extender =
      pageExtender (offset / QSPIStorage.flashPageSize)) :
    ∀ index, index < 512 →
      qspiMemoryMappedRegion + pageAddr24 (offset / QSPIStorage.flashPageSize) +
          offset % QSPIStorage.flashPageSize + index <
        qspiMemoryMappedRegion + 2 ^ 24 ∧
      driver.resolve (qspiMemoryMappedRegion +
        pageAddr24 (offset / QSPIStorage.flashPageSize) +
          offset % QSPIStorage.flashPageSize + index) = offset + index := by
  intro index inside
  obtain ⟨sector, rfl⟩ := aligned
  rw [show QSPIStorage.flashSize = 2 ^ 27 from rfl] at inDevice
  have size : QSPIStorage.flashPageSize = 4096 := rfl
  have pageInDevice : 512 * sector / QSPIStorage.flashPageSize <
      QSPIStorage.flashSizePages := by
    rw [flashSizePages_eq, size]
    omega
  have place := linear_of_pageExtender pageInDevice extender
  have addr24 := pageAddr24_eq pageInDevice
  rw [size] at place addr24 ⊢
  constructor
  · omega
  · rw [QSpiDriver.resolve, Chip.linear, Nat.add_assoc, Nat.add_assoc,
      Nat.add_sub_cancel_left]
    rw [Chip.linear] at place
    omega

private theorem flashRead_showsSector (reliable : world.Reliable)
    (synced : Synced world start) {offset : Nat} (aligned : 512 ∣ offset)
    (inDevice : offset < QSPIStorage.flashSize) :
    ∃ pointer after, flashRead world offset start = .ok pointer after ∧
      ShowsSector after pointer offset ∧
      after.chip.cells = start.chip.cells := by
  obtain ⟨pointer, after, outcome, shown, rfl⟩ :=
    flashRead_shows reliable synced inDevice
  exact ⟨_, after, outcome,
    ⟨shown.mapped, resolve_sector aligned inDevice shown.extender_eq⟩,
    shown.untouched.cells_eq⟩

/-- After any history, selecting a page and writing to it programs the page's
own bytes, each once and in order, in commands that stay inside their program
pages and segments; every sector of the device is shown at its own bytes, those
of the written page with what was written. -/
theorem selected_page_covered (reliable : world.Reliable) {chip : Chip}
    (healthy : chip.programFailure = false) (steps : List ClientStep)
    (inDevice : page < QSPIStorage.flashSizePages) {data : List UInt8}
    (fits : data.length ≤ QSPIStorage.flashPageSize) (firings : Nat)
    {sector : Nat} (inPage : sector < 8) {offset : Nat}
    (aligned : 512 ∣ offset) (offsetInDevice : offset < QSPIStorage.flashSize) :
    let driver := ((Client.init chip).run world steps).driver
    (∃ accessor selected written,
      QSPIStorage.selectPage world page driver = .ok accessor selected ∧
      accessor.write world data
          ((QSpiDriver.flashSleep world)^[firings] selected) =
        .ok () written ∧
      written.chip.writes = driver.chip.writes ++ span (page * 4096) data ∧
      (∀ address, written.chip.cells address =
        if inside : page * 4096 ≤ address ∧
            address < page * 4096 + data.length then
          driver.chip.cells address &&& data[address - page * 4096]
        else
          driver.chip.cells address) ∧
      (∃ commands, written.sent = commands ++ driver.sent ∧
        ∀ sent ∈ commands, sent.command.InsidePage) ∧
      ∃ pointer after,
        flashRead world (page * 4096 + 512 * sector)
            (Client.after accessor.drop written) = .ok pointer after ∧
          ShowsSector after pointer (page * 4096 + 512 * sector) ∧
          after.chip.cells = written.chip.cells) ∧
    ∃ pointer after, flashRead world offset driver = .ok pointer after ∧
      ShowsSector after pointer offset ∧
      after.chip.cells = driver.chip.cells := by
  intro driver
  have synced : Synced world driver :=
    Client.run_synced steps _ (Client.init_synced healthy)
  refine ⟨?_, flashRead_showsSector reliable synced aligned offsetInDevice⟩
  obtain ⟨accessor, selected, outcome, isSelected, pointer⟩ :=
    selectPage_selects reliable synced inDevice
  obtain ⟨written, wrote, progress, active⟩ :=
    write_programs reliable inDevice fits pointer isSelected
  have still : (QSpiDriver.flashSleep world)^[firings] selected = selected :=
    Function.iterate_fixed (flashSleep_of_working isSelected.active.working)
      firings
  refine ⟨accessor, selected, written, outcome, by rw [still]; exact wrote,
    progress.writes_eq, ?_, progress.sent_inside, ?_⟩
  · intro address
    rw [progress.cells_eq]
    exact program_span data driver.chip.cells (page * 4096) address
  · have dropped : Synced world (Client.after accessor.drop written) :=
      Client.after_synced (drop_triple accessor)
        (fun _ _ (holds : Synced world _) => holds) active.synced
    have cells : (Client.after accessor.drop written).chip.cells =
        written.chip.cells := by
      show (if written.sleepState = .working then
        ({ written with sleepState := .waiting, sleepTimerArmed := true } :
          QSpiDriver) else written).chip.cells = _
      split <;> rfl
    rw [← cells]
    rw [flashSizePages_eq] at inDevice
    exact flashRead_showsSector reliable dropped (by omega)
      (by rw [show QSPIStorage.flashSize = 2 ^ 27 from rfl]; omega)

end Pages

theorem selected_page_covered_fresh :
    let driver := ((Client.init freshChip).run calmWorld
      [.selectPage 5000, .write [1, 2, 3], .drop, .timer]).driver
    (∃ accessor selected written,
      QSPIStorage.selectPage calmWorld 4096 driver = .ok accessor selected ∧
      accessor.write calmWorld [7, 8, 9]
          ((QSpiDriver.flashSleep calmWorld)^[1] selected) =
        .ok () written ∧
      written.chip.writes =
        driver.chip.writes ++ span (4096 * 4096) [7, 8, 9] ∧
      (∀ address, written.chip.cells address =
        if inside : 4096 * 4096 ≤ address ∧
            address < 4096 * 4096 + ([7, 8, 9] : List UInt8).length then
          driver.chip.cells address &&&
            ([7, 8, 9] : List UInt8)[address - 4096 * 4096]
        else
          driver.chip.cells address) ∧
      (∃ commands, written.sent = commands ++ driver.sent ∧
        ∀ sent ∈ commands, sent.command.InsidePage) ∧
      ∃ pointer after,
        flashRead calmWorld (4096 * 4096 + 512 * 1)
            (Client.after accessor.drop written) = .ok pointer after ∧
          ShowsSector after pointer (4096 * 4096 + 512 * 1) ∧
          after.chip.cells = written.chip.cells) ∧
    ∃ pointer after, flashRead calmWorld 1024 driver = .ok pointer after ∧
      ShowsSector after pointer 1024 ∧
      after.chip.cells = driver.chip.cells :=
  selected_page_covered ⟨fun _ => rfl, fun _ => rfl⟩ rfl
    [.selectPage 5000, .write [1, 2, 3], .drop, .timer] (by decide)
    (by decide) 1 (by decide) (by decide) (by decide)

end SelfWriter.Qspi
