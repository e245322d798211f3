import Mathlib.Data.List.GetD
import SelfWriter.Lib.Machine
import SelfWriter.Storage.PageAllocation

/-!
# The recorder as a log

As long as no write fails, the pages of the memory are a log: over any power
cycles every finished block is appended behind those before it, a block whose
write was cut is appended as far as it came, and nothing else is ever changed.
The search at the start finds the end of the log again.
-/

namespace SelfWriter.Storage

universe u

open SelfWriter.Lib SelfWriter.Lib.NorMemory SelfWriter.Lib.NextFree

/-! ## A log in erased cells -/

/-- The entries of a log, a page each, and erased cells behind everything. -/
def image (log : List (List UInt8)) : Cells := fun address =>
  (log.getD (address / flashPageSize) []).getD (address % flashPageSize) erasedByte

/-- An entry in its page. -/
def padPage (entry : List UInt8) : List UInt8 :=
  entry ++ List.replicate (flashPageSize - entry.length) erasedByte

section Image

variable {log : List (List UInt8)} {entry : List UInt8}

private theorem image_behind {address : Nat} (behind : log.length * flashPageSize ≤ address) :
    image log address = erasedByte := by
  have page : log.length ≤ address / flashPageSize :=
    (Nat.le_div_iff_mul_le (by decide)).2 behind
  unfold image
  rw [List.getD_eq_default _ _ page, List.getD_nil]

theorem image_nil : image [] = fun _ => erasedByte := by
  funext address
  exact image_behind (by rw [List.length_nil, Nat.zero_mul]; exact Nat.zero_le _)

private theorem image_page {page index : Nat} (inside : index < flashPageSize) :
    image log (page * flashPageSize + index) =
      (log.getD page []).getD index erasedByte := by
  have place : (page * flashPageSize + index) / flashPageSize = page := by
    unfold flashPageSize at inside ⊢
    omega
  have offset : (page * flashPageSize + index) % flashPageSize = index := by
    unfold flashPageSize at inside ⊢
    omega
  unfold image
  rw [place, offset]

private theorem getD_concat_length {α : Type*} (items : List α) (last default : α) :
    (items ++ [last]).getD items.length default = last := by
  rw [List.getD_append_right _ _ _ _ (Nat.le_refl _), Nat.sub_self,
    List.getD_cons_zero]

/-- Programming the page behind a log appends to it. -/
theorem program_image (fits : entry.length ≤ flashPageSize) :
    program (image log) (span (log.length * flashPageSize) entry) =
      image (log ++ [entry]) := by
  funext address
  have split : address = address / flashPageSize * flashPageSize +
      address % flashPageSize := (Nat.div_add_mod' _ _).symm
  have inPage : address % flashPageSize < flashPageSize := Nat.mod_lt _ (by decide)
  rw [program_span]
  by_cases inside : log.length * flashPageSize ≤ address ∧
      address < log.length * flashPageSize + entry.length
  · have page : address / flashPageSize = log.length := by
      unfold flashPageSize at inside fits ⊢
      omega
    have index : address - log.length * flashPageSize = address % flashPageSize := by
      unfold flashPageSize at inside fits ⊢
      omega
    rw [dif_pos inside, image_behind inside.1, erasedByte_and]
    unfold image
    rw [page, getD_concat_length, ← index]
    exact (List.getD_eq_getElem _ _ (by omega)).symm
  · rw [dif_neg inside]
    unfold image
    rcases Nat.lt_trichotomy (address / flashPageSize) log.length with
      before | last | behind
    · rw [List.getD_append _ _ _ _ before]
    · have short : entry.length ≤ address % flashPageSize := by
        unfold flashPageSize at inside fits last ⊢
        omega
      rw [last, List.getD_eq_default log [] (Nat.le_refl _), getD_concat_length,
        List.getD_nil, List.getD_eq_default entry _ short]
    · rw [List.getD_eq_default log [] (Nat.le_of_lt behind),
        List.getD_eq_default (log ++ [entry]) [] (by
          rw [List.length_append, List.length_singleton]
          omega)]

/-- The bytes of a page of a log. -/
theorem map_image_page {page : Nat} (inLog : page < log.length)
    (fits : log[page].length ≤ flashPageSize) :
    (List.range flashPageSize).map
        (fun index => image log (page * flashPageSize + index)) =
      padPage log[page] := by
  unfold padPage
  apply List.ext_getElem
  · rw [List.length_map, List.length_range, List.length_append,
      List.length_replicate]
    omega
  · intro index inside _
    rw [List.length_map, List.length_range] at inside
    rw [List.getElem_map, List.getElem_range, image_page inside,
      List.getD_eq_getElem _ _ inLog]
    by_cases inEntry : index < log[page].length
    · rw [List.getElem_append_left inEntry, List.getD_eq_getElem _ _ inEntry]
    · rw [List.getElem_append_right (by omega), List.getElem_replicate,
        List.getD_eq_default _ _ (by omega)]

/-- The pages of a log one after the other. -/
theorem map_image (fits : ∀ entry ∈ log, entry.length ≤ flashPageSize) :
    (List.range (log.length * flashPageSize)).map (image log) =
      log.flatMap padPage := by
  have pagewise : ∀ count ≤ log.length,
      (List.range (count * flashPageSize)).map (image log) =
        (log.take count).flatMap padPage := by
    intro count
    induction count with
    | zero =>
        intro _
        rw [Nat.zero_mul]
        rfl
    | succ count inductionHypothesis =>
        intro inside
        have inLog : count < log.length := inside
        rw [Nat.succ_mul, List.range_add, List.map_append,
          inductionHypothesis (Nat.le_of_lt inLog), List.map_map,
          List.take_succ_eq_append_getElem inLog, List.flatMap_append,
          List.flatMap_singleton,
          ← map_image_page inLog (fits _ (List.getElem_mem inLog))]
        rfl
  have whole := pagewise log.length (Nat.le_refl _)
  rw [List.take_length] at whole
  exact whole

/-- A memory with a log: its pages, and erased bytes behind them. -/
theorem map_image_memory {pages : Nat}
    (fits : ∀ entry ∈ log, entry.length ≤ flashPageSize)
    (bounded : log.length ≤ pages) :
    (List.range (pages * flashPageSize)).map (image log) =
      log.flatMap padPage ++
        List.replicate ((pages - log.length) * flashPageSize) erasedByte := by
  have split : pages * flashPageSize =
      log.length * flashPageSize + (pages - log.length) * flashPageSize := by
    rw [← Nat.add_mul, Nat.add_sub_cancel' bounded]
  rw [split, List.range_add, List.map_append, map_image fits, List.map_map]
  congr 1
  apply List.ext_getElem
  · rw [List.length_map, List.length_range, List.length_replicate]
  · intro index _ _
    rw [List.getElem_map, List.getElem_range, List.getElem_replicate]
    exact image_behind (Nat.le_add_right _ _)

end Image

/-! ## The recorder -/

section Recorder

variable {Packer : Type u} [DataBlockPacker Packer]
variable (pages : Nat) (crc : List UInt8 → UInt32)

/-- What a step appends: a finished block, or a cut one from its first program
on. -/
def Recorder.appended (state : Recorder Packer) : Event → List (List UInt8)
  | .tryCreateNewPage _ _ => []
  | .writeHeader _ => []
  | .pushData _ _ => []
  | .write _ =>
      match state.block with
      | some block => (DataBlockPacker.toResultFull block.packer crc).toList
      | none => []
  | .powerLoss none _ => []
  | .powerLoss (some programs) _ =>
      if programs = 0 then
        []
      else
        match state.block with
        | some block =>
            ((DataBlockPacker.toResultFull block.packer crc).map fun data =>
              data.take (programs * programSize)).toList
        | none => []

/-- No write fails, and every block can be packed. -/
def Untroubled (state : Recorder Packer) : Event → Prop
  | .tryCreateNewPage _ _ => True
  | .writeHeader _ => True
  | .pushData _ _ => True
  | .write .complete => ∀ block, state.block = some block →
      (DataBlockPacker.toResultFull block.packer crc).isSome
  | .write (.failed _ _) => False
  | .powerLoss _ _ => True

/-- The recorder from erased cells on, with the log of what it has written. -/
def loggingRecorder (locks : CacheLocks) :
    Machine (Recorder Packer × List (List UInt8)) Event where
  start := (boot pages locks (fun _ => erasedByte), [])
  step state event :=
    some (state.1.step pages crc event, state.2 ++ state.1.appended crc event)

/-- The memory is the log, and the writer stands at its end. -/
structure Logs (state : Recorder Packer) (log : List (List UInt8)) : Prop where
  allocates : Allocates pages state
  cells : state.cells = image log
  entries : ∀ entry ∈ log, entry.length ≤ flashPageSize
  headed : ∀ page < log.length, ¬ Erased Packer state.cells page
  bounded : log.length ≤ pages
  candidate : state.block = none → state.writer.nextPageNumber ≤ log.length
  dest : ∀ block, state.block = some block → block.destPage = log.length

variable {pages crc}
variable {state : Recorder Packer} {log : List (List UInt8)}

/-- Behind the log every page is empty. -/
theorem Logs.erased (logs : Logs pages state log) {page : Nat}
    (behind : log.length ≤ page) : Erased Packer state.cells page := by
  have prev := (DataBlockPacker.format Packer).prev_inside
  have this := (DataBlockPacker.format Packer).this_inside
  have ids : ∀ offset, readU32 state.cells (page * flashPageSize + offset) =
      2 ^ 32 - 1 := by
    intro offset
    have cells : ∀ index, state.cells (page * flashPageSize + offset + index) =
        erasedByte := by
      intro index
      rw [logs.cells]
      apply image_behind
      have := Nat.mul_le_mul_right flashPageSize behind
      omega
    unfold readU32
    simp only [cells]
    rfl
  unfold Erased HeaderErased
  rw [ids, ids]
  exact Nat.min_self _

theorem Logs.erased_iff (logs : Logs pages state log) (page : Nat) :
    Erased Packer state.cells page ↔ log.length ≤ page := by
  constructor
  · intro erased
    by_contra inLog
    exact logs.headed page (Nat.lt_of_not_le inLog) erased
  · exact logs.erased

/-- A search that begins in the log finds its end. -/
theorem Logs.isNext_iff (logs : Logs pages state log) {start page : Nat}
    (begins : start ≤ log.length) :
    IsNext (Erased Packer state.cells) pages start page ↔
      page = log.length ∧ log.length < pages := by
  constructor
  · intro next
    have behind := (logs.erased_iff page).1 next.isFree
    have first : page ≤ log.length := by
      by_contra beyond
      exact next.least log.length begins (Nat.lt_of_not_le beyond)
        (logs.erased (Nat.le_refl _))
    have inside := next.inside
    omega
  · rintro ⟨rfl, inside⟩
    exact
      { reached := begins
        inside := inside
        isFree := logs.erased (Nat.le_refl _)
        least := fun other _ before => logs.headed other before }

/-! ## One step -/

theorem boot_logs {cells : Cells} (locks : CacheLocks) (isImage : cells = image log)
    (entries : ∀ entry ∈ log, entry.length ≤ flashPageSize)
    (headed : ∀ page < log.length, ¬ Erased Packer cells page)
    (bounded : log.length ≤ pages) :
    Logs pages (boot pages locks cells : Recorder Packer) log where
  allocates := boot_allocates locks cells
  cells := isImage
  entries := entries
  headed := headed
  bounded := bounded
  candidate := fun _ => Nat.zero_le _
  dest := fun _ impossible => by cases impossible

/-- The outstanding block may change, but not where it goes. -/
theorem Logs.mapBlock (logs : Logs pages state log)
    {update : DataBlock Packer → DataBlock Packer}
    (dest : ∀ block, (update block).destPage = block.destPage)
    (prev : ∀ block, DataBlockPacker.prevBlockId (update block).packer =
      DataBlockPacker.prevBlockId block.packer) :
    Logs pages { state with block := state.block.map update } log where
  allocates := logs.allocates.mapBlock dest prev
  cells := logs.cells
  entries := logs.entries
  headed := logs.headed
  bounded := logs.bounded
  candidate := fun none => logs.candidate (Option.map_eq_none_iff.1 none)
  dest := by
    intro block mapped
    obtain ⟨before, outstanding, rfl⟩ := Option.map_eq_some_iff.1 mapped
    rw [dest]
    exact logs.dest before outstanding

/-- A page with a header keeps it when another page is programmed behind the log. -/
theorem Logs.headed_append (logs : Logs pages state log) {cells : Cells}
    {entry : List UInt8} (fits : entry.length ≤ flashPageSize)
    (isImage : cells = image (log ++ [entry]))
    (carries : ¬ Erased Packer cells log.length) :
    ∀ page < (log ++ [entry]).length, ¬ Erased Packer cells page := by
  intro page inside
  rw [List.length_append, List.length_singleton] at inside
  rcases Nat.lt_or_eq_of_le (Nat.le_of_lt_succ inside) with before | last
  · have kept : SamePage cells state.cells page := by
      rw [isImage, logs.cells, ← program_image fits]
      exact program_other fits (Nat.ne_of_lt before)
    intro erased
    exact logs.headed page before ((headerErased_congr _ kept).1 erased)
  · rw [last]
    exact carries

/-- Power lost outside a write, or before its first program, loses nothing that is
in the log. -/
theorem Logs.reboot (logs : Logs pages state log) (locks : CacheLocks) {cells : Cells}
    (same : cells = state.cells) :
    Logs pages (boot pages locks cells : Recorder Packer) log := by
  rw [same]
  exact boot_logs locks logs.cells logs.entries logs.headed logs.bounded

variable [LawfulPacker Packer]

theorem Logs.create (logs : Logs pages state log) (call : CreateCall)
    (pageNumber : UInt32) : Logs pages (state.create pages call pageNumber).2 log := by
  have creates := create_creates logs.allocates call pageNumber
  have allocates := create_allocates logs.allocates creates
  cases creates with
  | outstanding taken answer same =>
      rw [same]
      exact logs
  | full free exhausted answer cache agrees after =>
      rw [after] at allocates ⊢
      exact { logs with allocates := allocates }
  | locked free page next answer cache agrees after =>
      obtain ⟨isEnd, _⟩ := (logs.isNext_iff (logs.candidate free)).1 next
      rw [after] at allocates ⊢
      exact { logs with
        allocates := allocates
        candidate := fun _ => Nat.le_of_eq isEnd }
  | handedOut free block next proper answer cache agrees after =>
      obtain ⟨isEnd, _⟩ := (logs.isNext_iff (logs.candidate free)).1 next
      rw [after] at allocates ⊢
      exact
        { allocates := allocates
          cells := logs.cells
          entries := logs.entries
          headed := logs.headed
          bounded := logs.bounded
          candidate := fun impossible => by cases impossible
          dest := by
            rintro _ ⟨⟩
            exact isEnd }

/-- A finished block is appended. -/
theorem Logs.written (logs : Logs pages state log) {block : DataBlock Packer}
    (outstanding : state.block = some block) {data : List UInt8}
    (packed : DataBlockPacker.toResultFull block.packer crc = some data) :
    Logs pages (state.step pages crc (.write .complete)) (log ++ [data]) := by
  have fits := LawfulPacker.result_fits block.packer crc data packed
  have dest := logs.dest block outstanding
  obtain ⟨_, _, candidate, inside, _, _⟩ := logs.allocates.taken block outstanding
  have carries := complete_not_erased logs.allocates outstanding packed
  have allocates : Allocates pages (state.step pages crc (.write .complete)) :=
    step_allocates logs.allocates (.write .complete)
  have isStep : state.step pages crc (.write .complete) =
      { state with
        cells := program state.cells (span (block.destPage * flashPageSize) data)
        writer := { state.writer with pageAqured := false }
        block := none } := by
    simp only [Recorder.step, outstanding, FlashDiffWriter.write, packed]
  have isImage : program state.cells (span (block.destPage * flashPageSize) data) =
      image (log ++ [data]) := by
    rw [dest, logs.cells, program_image fits]
  rw [isStep] at allocates carries ⊢
  rw [dest] at allocates carries isImage ⊢
  refine
    { allocates := allocates
      cells := isImage
      entries := ?_
      headed := logs.headed_append fits isImage carries
      bounded := ?_
      candidate := ?_
      dest := fun _ impossible => by cases impossible }
  · intro entry member
    rcases List.mem_append.1 member with earlier | last
    · exact logs.entries entry earlier
    · rw [List.mem_singleton.1 last]
      exact fits
  · rw [List.length_append, List.length_singleton]
    omega
  · intro _
    rw [List.length_append, List.length_singleton]
    change state.writer.nextPageNumber ≤ _
    omega

/-- A cut block is appended as far as it came. -/
theorem Logs.cut (logs : Logs pages state log) {block : DataBlock Packer}
    (outstanding : state.block = some block) {data : List UInt8}
    (packed : DataBlockPacker.toResultFull block.packer crc = some data)
    {programs : Nat} (some : 1 ≤ programs) (locks : CacheLocks) :
    Logs pages (state.step pages crc (.powerLoss (.some programs) locks))
      (log ++ [data.take (programs * programSize)]) := by
  have fits := LawfulPacker.result_fits block.packer crc data packed
  have dest := logs.dest block outstanding
  obtain ⟨_, _, _, inside, _, _⟩ := logs.allocates.taken block outstanding
  have carries := programmed_not_erased logs.allocates outstanding packed some
  have cutFits : (data.take (programs * programSize)).length ≤ flashPageSize := by
    rw [List.length_take]
    omega
  have isImage : FlashDiffWriter.programmed state.cells block.destPage data programs =
      image (log ++ [data.take (programs * programSize)]) := by
    rw [FlashDiffWriter.programmed, dest, logs.cells, program_image cutFits]
  have isStep : state.step pages crc (.powerLoss (.some programs) locks) =
      boot pages locks
        (FlashDiffWriter.programmed state.cells block.destPage data programs) := by
    simp only [Recorder.step, Recorder.cutCells, outstanding, packed]
  rw [isStep]
  rw [dest] at carries isImage ⊢
  apply boot_logs locks isImage
  · intro entry member
    rcases List.mem_append.1 member with earlier | last
    · exact logs.entries entry earlier
    · rw [List.mem_singleton.1 last]
      exact cutFits
  · exact logs.headed_append cutFits isImage carries
  · rw [List.length_append, List.length_singleton]
    omega

omit [LawfulPacker Packer] in
/-- Nothing is programmed before the first program. -/
theorem Recorder.cutCells_zero (state : Recorder Packer) (crc : List UInt8 → UInt32) :
    state.cutCells crc 0 = state.cells := by
  unfold Recorder.cutCells
  cases state.block with
  | none => rfl
  | some block =>
      dsimp only
      cases DataBlockPacker.toResultFull block.packer crc with
      | none => rfl
      | some data =>
          dsimp only
          rw [FlashDiffWriter.programmed, Nat.zero_mul, List.take_zero]
          rfl

theorem Logs.step (logs : Logs pages state log) (event : Event)
    (untroubled : Untroubled crc state event) :
    Logs pages (state.step pages crc event) (log ++ state.appended crc event) := by
  cases event with
  | tryCreateNewPage call pageNumber =>
      rw [Recorder.appended, List.append_nil]
      exact logs.create call pageNumber
  | writeHeader output =>
      rw [Recorder.appended, List.append_nil]
      exact logs.mapBlock (fun _ => rfl)
        (fun block => LawfulPacker.writeHeader_prev block.packer output)
  | pushData result channel =>
      rw [Recorder.appended, List.append_nil]
      refine logs.mapBlock (fun block => ?_) (fun block => ?_)
      all_goals
        cases pushed : block.pushData result channel with
        | none => rfl
        | some pair => first
          | exact (pushData_keeps pushed).1
          | exact (pushData_keeps pushed).2
  | write outcome =>
      cases outcome with
      | failed programs residue => exact untroubled.elim
      | complete =>
          cases outstanding : state.block with
          | none =>
              have isStep : state.step pages crc (.write .complete) = state := by
                simp only [Recorder.step, outstanding]
              rw [isStep, Recorder.appended, outstanding, List.append_nil]
              exact logs
          | some block =>
              obtain ⟨data, packed⟩ :=
                Option.isSome_iff_exists.1 (untroubled block outstanding)
              rw [Recorder.appended, outstanding]
              simp only [packed, Option.toList_some]
              exact logs.written outstanding packed
  | powerLoss programs locks =>
      cases programs with
      | none =>
          rw [Recorder.appended, List.append_nil]
          exact logs.reboot locks rfl
      | some programs =>
          by_cases none : programs = 0
          · subst none
            rw [Recorder.appended, if_pos rfl, List.append_nil]
            apply logs.reboot locks
            exact state.cutCells_zero crc
          · rw [Recorder.appended, if_neg none]
            cases outstanding : state.block with
            | none =>
                rw [List.append_nil]
                apply logs.reboot locks
                simp only [Recorder.cutCells, outstanding]
            | some block =>
                cases packed : DataBlockPacker.toResultFull block.packer crc with
                | none =>
                    simp only [packed, Option.map_none, Option.toList_none,
                      List.append_nil]
                    apply logs.reboot locks
                    simp only [Recorder.cutCells, outstanding, packed]
                | some data =>
                    simp only [packed, Option.map_some, Option.toList_some]
                    exact logs.cut outstanding packed (Nat.pos_of_ne_zero none) locks

/-! ## Every run -/

theorem loggingRecorder_logs {locks : CacheLocks}
    {state : Recorder Packer × List (List UInt8)}
    (reaches : (loggingRecorder pages crc locks).Reaches
      (fun state event => Untroubled crc state.1 event) state) :
    Logs pages state.1 state.2 := by
  apply reaches.invariant (I := fun state => Logs pages state.1 state.2)
  · exact boot_logs locks image_nil.symm (fun _ member => by cases member)
      (fun _ inside => absurd inside (Nat.not_lt_zero _)) (Nat.zero_le _)
  · rintro before event after logs untroubled ⟨⟩
    exact logs.step event untroubled

/-- Over any power cycles without a failed write the memory is the log of the
finished and cut blocks and nothing else; its pages are the recorded ones, the next
block goes to its end, and the memory is reported full when the log fills it. -/
theorem recorder_is_log {locks : CacheLocks}
    {state : Recorder Packer × List (List UInt8)}
    (reaches : (loggingRecorder pages crc locks).Reaches
      (fun state event => Untroubled crc state.1 event) state)
    (call : CreateCall) (pageNumber : UInt32) :
    state.1.cells = image state.2 ∧
    (∀ page, Erased Packer state.1.cells page ↔ state.2.length ≤ page) ∧
    (∀ block, (state.1.create pages call pageNumber).1 = .ok block →
      block.destPage = state.2.length) ∧
    (state.1.block = none →
      ((state.1.create pages call pageNumber).1 = .error .outOfMemory ↔
        state.2.length = pages)) := by
  have logs := loggingRecorder_logs reaches
  have creates := create_creates logs.allocates call pageNumber
  refine ⟨logs.cells, logs.erased_iff, ?_, ?_⟩
  · intro block handed
    cases creates with
    | outstanding taken answer same =>
        rw [answer] at handed
        cases handed
    | full free exhausted answer cache agrees after =>
        rw [answer] at handed
        cases handed
    | locked free page isNext answer cache agrees after =>
        rw [answer] at handed
        cases handed
    | handedOut free given isNext proper answer cache agrees after =>
        rw [answer] at handed
        cases handed
        exact ((logs.isNext_iff (logs.candidate free)).1 isNext).1
  · intro free
    have bounded := logs.bounded
    have inLog : ∀ page, IsNext (Erased Packer state.1.cells) pages
        state.1.writer.nextPageNumber page → state.2.length ≠ pages := by
      intro page isNext
      have := ((logs.isNext_iff (logs.candidate free)).1 isNext).2
      omega
    cases creates with
    | outstanding taken answer same => exact absurd free taken
    | full free exhausted answer cache agrees after =>
        refine iff_of_true answer ?_
        by_contra more
        exact ((logs.isNext_iff (logs.candidate free)).2
          ⟨rfl, by omega⟩).not_exhausted exhausted
    | locked free page isNext answer cache agrees after =>
        rw [answer]
        exact iff_of_false (fun same => by cases same) (inLog page isNext)
    | handedOut free given isNext proper answer cache agrees after =>
        rw [answer]
        exact iff_of_false (fun same => by cases same) (inLog _ isNext)

end Recorder

/-! ## One block over two power cycles -/

def logLocks : CacheLocks := { reads := true, writes := true }

def logCreate : CreateCall where
  locks := logLocks
  settings := some
    { timestamp := 0, fRef := 0, baseIntervalMs := 20, interleaveRatio := (1, 1) }

/-- A block is finished, the next one is cut after its first program. -/
def logEvents : List Event :=
  [.tryCreateNewPage logCreate 0, .write .complete, .tryCreateNewPage logCreate 1,
    .powerLoss (some 1) logLocks]

def logState : Recorder IdPacker × List (List UInt8) :=
  ((loggingRecorder 3 (fun _ => 0) logLocks).run
    (loggingRecorder 3 (fun _ => 0) logLocks).start logEvents).getD
    (loggingRecorder 3 (fun _ => 0) logLocks).start

theorem logState_reaches :
    (loggingRecorder 3 (fun _ => 0) logLocks).Reaches
      (fun state event => Untroubled (fun _ => 0) state.1 event) logState :=
  .step (.powerLoss (some 1) logLocks)
    (.step (.tryCreateNewPage logCreate 1)
      (.step (.write .complete)
        (.step (.tryCreateNewPage logCreate 0) .start trivial rfl)
        (fun _ _ => rfl) rfl)
      trivial rfl)
    trivial rfl

theorem recorder_is_log_twoBlocks :
    logState.2.length = 2 ∧
      ∀ page, Erased IdPacker logState.1.cells page ↔ logState.2.length ≤ page :=
  ⟨by decide, (recorder_is_log logState_reaches logCreate 0).2.1⟩

end SelfWriter.Storage
