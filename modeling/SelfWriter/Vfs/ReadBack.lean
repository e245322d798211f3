import SelfWriter.Recorder.PageLoop
import SelfWriter.Vfs.FileContents

/-!
# From the recorder to the host

What the recorder has written over any power cycles is what a host reads when the
device is connected to it: `data_use.hs` is the log, and `data_raw.hs` the log and
the erased rest of the memory.  From the pages of the log the host has every result
back that was pushed into a finished block, and when the page loop filled them, the
results at the scheduled times.
-/

namespace SelfWriter.Vfs

universe u

open SelfWriter.Lib SelfWriter.Lib.Fat32 SelfWriter.Lib.NextFree
  SelfWriter.Lib.NorMemory SelfWriter.Qspi SelfWriter.Storage

section ReadBack

open SelfWriter.Recorder (FChCfg PageLoop pageLoop Timely RecoversSamples pageLoop_paged)

variable {Packer : Type u} [DataBlockPacker Packer] [LawfulPacker Packer]
variable {crc : List UInt8 → UInt32} {locks : CacheLocks}
variable {state : Recorder Packer × List (List UInt8)} {build : Build}

private theorem memoryBytes_image {log : List (List UInt8)}
    (fits : ∀ entry ∈ log, entry.length ≤ flashPageSize) :
    memoryBytes (image log) (4096 * log.length) = log.flatMap padPage := by
  rw [← map_image fits, Nat.mul_comm]
  rfl

private theorem memoryBytes_image_flash {log : List (List UInt8)}
    (fits : ∀ entry ∈ log, entry.length ≤ flashPageSize)
    (bounded : log.length ≤ QSPIStorage.flashSizePages) :
    memoryBytes (image log) QSPIStorage.flashSize = log.flatMap padPage ++
      List.replicate (QSPIStorage.flashSize - 4096 * log.length) erasedByte := by
  have isFlash : QSPIStorage.flashSize =
      QSPIStorage.flashSizePages * flashPageSize := rfl
  have rest : QSPIStorage.flashSize - 4096 * log.length =
      (QSPIStorage.flashSizePages - log.length) * flashPageSize := by
    rw [isFlash, Nat.sub_mul, Nat.mul_comm log.length]
    rfl
  rw [rest, ← map_image_memory fits bounded, isFlash]
  rfl

omit [LawfulPacker Packer] in
/-- A log, read by a host over the virtual files. -/
theorem read_back_of_logs {recorder : Recorder Packer} {log : List (List UInt8)}
    (logs : Logs QSPIStorage.flashSizePages recorder log)
    (moderate : build.Moderate) (storage : build.storage = true)
    (booted : build.memory = (search (DataBlockPacker.format Packer)
      QSPIStorage.flashSizePages freeCall recorder.cells .undefined 0).2) :
    ∃ ctx, emfatStorageNew build = some ctx ∧
      ∀ hack received, CollectsMemory hack build ctx recorder.cells received → ∀ text,
        (readFile received (ascii "DATA_USEHS ") = some text ↔
          log ≠ [] ∧ log.length < QSPIStorage.flashSizePages ∧
          (build.clusters % 128 ≠ 0 ∧ build.clusters % 128 ≠ 127) ∧
          text = log.flatMap padPage) ∧
        (readFile received (ascii "DATA_RAWHS ") = some text ↔
          (build.clusters % 128 = 0 → 2 ≤ build.usedPages) ∧
          (build.clusters % 128 = 127 → 1 ≤ build.usedPages) ∧
          text = log.flatMap padPage ++
            List.replicate (QSPIStorage.flashSize - 4096 * log.length)
              erasedByte) := by
  have ends : ∀ page, IsNext (HeaderErased (DataBlockPacker.format Packer)
      recorder.cells) QSPIStorage.flashSizePages 0 page ↔
      page = log.length ∧ log.length < QSPIStorage.flashSizePages :=
    fun _ => logs.isNext_iff (Nat.zero_le _)
  obtain ⟨ctx, made, isLabel, layout⟩ := moderate.made
  refine ⟨ctx, made, ?_⟩
  intro hack received collected text
  obtain ⟨decode, devices, memories, receives, holds, inTime⟩ := collected.collects
  have lawful := collected.lawful
  obtain ⟨buffers, isBuffer, rfl⟩ := layout.receives collected.unmistaken receives
  constructor
  · rw [moderate.dataUse_iff storage booted layout isLabel isBuffer lawful holds inTime]
    constructor
    · rintro ⟨pages, some, isNext, complete, rfl⟩
      obtain ⟨rfl, inside⟩ := (ends pages).1 isNext
      refine ⟨fun empty => some (by rw [empty]; rfl), inside, complete, ?_⟩
      rw [logs.cells, memoryBytes_image logs.entries]
    · rintro ⟨some, inside, complete, rfl⟩
      refine ⟨log.length, fun empty => some (List.length_eq_zero_iff.1 empty),
        (ends _).2 ⟨rfl, inside⟩, complete, ?_⟩
      rw [logs.cells, memoryBytes_image logs.entries]
  · rw [moderate.dataRaw_iff storage layout isLabel isBuffer lawful holds inTime, logs.cells,
      memoryBytes_image_flash logs.entries logs.bounded]

omit [LawfulPacker Packer] in
/-- What a host reads of `data_use.hs`, if it can read it, is the log. -/
theorem dataUse_is_log {recorder : Recorder Packer} {log : List (List UInt8)}
    (logs : Logs QSPIStorage.flashSizePages recorder log)
    (moderate : build.Moderate) (storage : build.storage = true)
    (booted : build.memory = (search (DataBlockPacker.format Packer)
      QSPIStorage.flashSizePages freeCall recorder.cells .undefined 0).2) :
    ∃ ctx, emfatStorageNew build = some ctx ∧
      ∀ hack received, CollectsMemory hack build ctx recorder.cells received → ∀ text,
        readFile received (ascii "DATA_USEHS ") = some text → text = log.flatMap padPage := by
  obtain ⟨ctx, made, reads⟩ := read_back_of_logs logs moderate storage booted
  refine ⟨ctx, made, ?_⟩
  intro hack received collected text isText
  obtain ⟨_, _, _, same⟩ := (reads hack received collected text).1.1 isText
  exact same

/-- The blocks of any recorder run without a failed write, read by a host over the
virtual files. -/
theorem recorded_log_read_back
    (reaches : (loggingRecorder QSPIStorage.flashSizePages crc locks).Reaches
      (fun state event => Untroubled crc state.1 event) state)
    (moderate : build.Moderate) (storage : build.storage = true)
    (booted : build.memory = (search (DataBlockPacker.format Packer)
      QSPIStorage.flashSizePages freeCall state.1.cells .undefined 0).2) :
    ∃ ctx, emfatStorageNew build = some ctx ∧
      ∀ hack received, CollectsMemory hack build ctx state.1.cells received → ∀ text,
        (readFile received (ascii "DATA_USEHS ") = some text ↔
          state.2 ≠ [] ∧ state.2.length < QSPIStorage.flashSizePages ∧
          (build.clusters % 128 ≠ 0 ∧ build.clusters % 128 ≠ 127) ∧
          text = state.2.flatMap padPage) ∧
        (readFile received (ascii "DATA_RAWHS ") = some text ↔
          (build.clusters % 128 = 0 → 2 ≤ build.usedPages) ∧
          (build.clusters % 128 = 127 → 1 ≤ build.usedPages) ∧
          text = state.2.flatMap padPage ++
            List.replicate (QSPIStorage.flashSize - 4096 * state.2.length)
              erasedByte) :=
  read_back_of_logs (loggingRecorder_logs reaches) moderate storage booted

/-- The measurements of any recorder run, read by a host: each page of `data_use.hs`
that a finished block was written to unpacks to its results, missing ones in the place
of the last result of their channel. -/
theorem measurements_read_back {values : Packer → List UInt32}
    {unpack : List UInt8 → Option (List UInt32)} (unpacks : Unpacks crc values unpack)
    {measuring : Measuring Packer}
    (reaches : (measuringRecorder QSPIStorage.flashSizePages crc locks).Reaches (Kept crc)
      measuring)
    (moderate : build.Moderate) (storage : build.storage = true)
    (booted : build.memory = (search (DataBlockPacker.format Packer)
      QSPIStorage.flashSizePages freeCall measuring.recorder.cells .undefined 0).2) :
    ∃ ctx, emfatStorageNew build = some ctx ∧
      ∀ hack received, CollectsMemory hack build ctx measuring.recorder.cells received →
        ∀ text, readFile received (ascii "DATA_USEHS ") = some text →
          List.Forall₂ (Recovers unpack) (cutPages text) measuring.pushed := by
  have measures := measuringRecorder_measures unpacks reaches
  obtain ⟨ctx, made, isLog⟩ := dataUse_is_log measures.logs moderate storage booted
  refine ⟨ctx, made, ?_⟩
  intro hack received collected text isText
  rw [isLog hack received collected text isText]
  exact measures.recovers unpacks

/-- The samples of the page loop, read by a host that knows the configuration: each
page of `data_use.hs` that was filled gives the results at the scheduled times. -/
theorem samples_read_back {values : Packer → List UInt32}
    {unpack : List UInt8 → Option (List UInt32)} (unpacks : Unpacks crc values unpack)
    {cfg : FChCfg} (positive : cfg.Positive) {loop : PageLoop Packer}
    (reaches : (pageLoop QSPIStorage.flashSizePages crc cfg locks).Reaches
      (Timely crc cfg) loop)
    (moderate : build.Moderate) (storage : build.storage = true)
    (booted : build.memory = (search (DataBlockPacker.format Packer)
      QSPIStorage.flashSizePages freeCall loop.measuring.recorder.cells .undefined 0).2) :
    ∃ ctx, emfatStorageNew build = some ctx ∧
      ∀ hack received,
        CollectsMemory hack build ctx loop.measuring.recorder.cells received →
        ∀ text, readFile received (ascii "DATA_USEHS ") = some text →
          List.Forall₂ (RecoversSamples cfg unpack) (cutPages text) loop.sources := by
  have paged := pageLoop_paged unpacks positive reaches
  obtain ⟨ctx, made, isLog⟩ := dataUse_is_log paged.measures.logs moderate storage booted
  refine ⟨ctx, made, ?_⟩
  intro hack received collected text isText
  rw [isLog hack received collected text isText]
  exact paged.recovers unpacks

end ReadBack

/-! ## One recorded block -/

/-- The device behind a memory with one block. -/
def oneBlockDevice (cells : Cells) : Device where
  settingsText := none
  memInfo :=
    { flashPageSize := 4096
      flashPages := QSPIStorage.flashSizePages
      flashUsedPages := 1 }
  toStringPretty _ := none
  world := calmWorld
  storage := some (Client.init { freshChip with cells := cells }).driver

private theorem oneBlockDevice_holds (cells : Cells) : (oneBlockDevice cells).Holds cells :=
  ⟨{ freshChip with cells := cells }, [], rfl, ⟨fun _ => rfl, fun _ => rfl⟩, rfl, rfl⟩

/-- What a host has of it. -/
def oneBlockDisk (ctx : LoggerEmfat) (cells : Cells) : Disk :=
  onePageDisk ctx (oneBlockDevice cells) cells

private theorem oneBlockDisk_collects (ctx : LoggerEmfat) (cells : Cells) :
    CollectsMemory markedHack onePageBuild ctx cells (oneBlockDisk ctx cells) :=
  onePageDisk_collects ctx (oneBlockDevice_holds cells)

private theorem reads_oneBlock {Packer : Type u} [DataBlockPacker Packer]
    {recorder : Recorder Packer} {log : List (List UInt8)}
    (logs : Logs QSPIStorage.flashSizePages recorder log) (one : log.length = 1)
    (booted : onePageBuild.memory = (search (DataBlockPacker.format Packer)
      QSPIStorage.flashSizePages freeCall recorder.cells .undefined 0).2)
    {ctx : Emfat Readcb (Option CompressedData)}
    (made : emfatStorageNew onePageBuild = some ctx) :
    readFile (oneBlockDisk ctx recorder.cells) (ascii "DATA_USEHS ") =
      some (log.flatMap padPage) := by
  obtain ⟨_, madeToo, reads⟩ := read_back_of_logs logs onePageBuild_moderate rfl booted
  rw [made] at madeToo
  cases madeToo
  refine (reads _ _ (oneBlockDisk_collects ctx recorder.cells) _).1.2
    ⟨?_, ?_, by decide, rfl⟩
  · intro empty
    rw [empty] at one
    cases one
  · rw [one]
    decide

def oneBlockLog : Machine (Recorder IdPacker × List (List UInt8)) Event :=
  loggingRecorder QSPIStorage.flashSizePages (fun _ => 0) logLocks

def oneBlockState : Recorder IdPacker × List (List UInt8) :=
  (oneBlockLog.run oneBlockLog.start
    [.tryCreateNewPage logCreate 0, .write .complete]).getD oneBlockLog.start

theorem oneBlockState_reaches :
    oneBlockLog.Reaches (fun state event => Untroubled (fun _ => 0) state.1 event)
      oneBlockState :=
  .step (.write .complete)
    (.step (.tryCreateNewPage logCreate 0) .start trivial rfl)
    (fun _ _ => rfl) rfl

private theorem oneBlockState_length : oneBlockState.2.length = 1 := by decide +kernel

private theorem onePageBuild_booted_oneBlock :
    onePageBuild.memory = (search (DataBlockPacker.format IdPacker)
      QSPIStorage.flashSizePages freeCall oneBlockState.1.cells .undefined 0).2 := by
  decide +kernel

theorem recorded_log_read_back_oneBlock :
    ∃ ctx, emfatStorageNew onePageBuild = some ctx ∧
      readFile (oneBlockDisk ctx oneBlockState.1.cells)
        (ascii "DATA_USEHS ") = some (oneBlockState.2.flatMap padPage) := by
  obtain ⟨ctx, made, reads⟩ := recorded_log_read_back oneBlockState_reaches
    onePageBuild_moderate rfl onePageBuild_booted_oneBlock
  refine ⟨ctx, made, ?_⟩
  have one := oneBlockState_length
  refine (reads _ _ (oneBlockDisk_collects ctx oneBlockState.1.cells) _).1.2
    ⟨?_, ?_, by decide, rfl⟩
  · intro empty
    rw [empty] at one
    cases one
  · rw [one]
    decide

/-! ## One block with two results -/

def twoResults : List PushCall :=
  [(some 70000, .pressure), (none, .temperature), (some 69990, .pressure)]

/-- A result, a missing one and a smaller one are pushed, and the block is written. -/
def twoResultsEvents : List Event :=
  [.tryCreateNewPage logCreate 0, .pushData (some 70000) .pressure,
    .pushData none .temperature, .pushData (some 69990) .pressure, .write .complete]

def twoResultsRecorder : Machine (Measuring PlainPacker) Event :=
  measuringRecorder QSPIStorage.flashSizePages (fun _ => 0) logLocks

def twoResultsState : Measuring PlainPacker :=
  (twoResultsRecorder.run twoResultsRecorder.start twoResultsEvents).getD
    twoResultsRecorder.start

theorem twoResultsState_reaches :
    twoResultsRecorder.Reaches (Kept fun _ => 0) twoResultsState := by
  have created : twoResultsRecorder.Reaches (Kept fun _ => 0) _ :=
    .step (.tryCreateNewPage logCreate 0) .start ⟨trivial, trivial⟩ rfl
  have first : twoResultsRecorder.Reaches (Kept fun _ => 0) _ :=
    .step (.pushData (some 70000) .pressure) created
      ⟨trivial, fun _ given => by cases given; rfl⟩ rfl
  have second : twoResultsRecorder.Reaches (Kept fun _ => 0) _ :=
    .step (.pushData none .temperature) first
      ⟨trivial, fun _ given => by cases given; rfl⟩ rfl
  have third : twoResultsRecorder.Reaches (Kept fun _ => 0) _ :=
    .step (.pushData (some 69990) .pressure) second
      ⟨trivial, fun _ given => by cases given; rfl⟩ rfl
  exact .step (.write .complete) third
    ⟨fun _ given => by cases given; rfl, trivial⟩ rfl

private theorem twoResultsState_length : twoResultsState.log.length = 1 := by decide +kernel

private theorem onePageBuild_booted_twoResults :
    onePageBuild.memory = (search (DataBlockPacker.format PlainPacker)
      QSPIStorage.flashSizePages freeCall twoResultsState.recorder.cells .undefined 0).2 := by
  decide +kernel

theorem measurements_read_back_twoResults :
    twoResultsState.pushed = [some twoResults] ∧
    ∃ ctx text, emfatStorageNew onePageBuild = some ctx ∧
      readFile (oneBlockDisk ctx twoResultsState.recorder.cells)
        (ascii "DATA_USEHS ") = some text ∧
      List.Forall₂ (Recovers PlainPacker.unpack) (cutPages text) twoResultsState.pushed := by
  refine ⟨rfl, ?_⟩
  have unpacks := PlainPacker.unpacks (fun _ => 0)
  obtain ⟨ctx, made, recovers⟩ := measurements_read_back unpacks twoResultsState_reaches
    onePageBuild_moderate rfl onePageBuild_booted_twoResults
  have logs := (measuringRecorder_measures unpacks twoResultsState_reaches).logs
  have isText := reads_oneBlock logs twoResultsState_length onePageBuild_booted_twoResults made
  exact ⟨ctx, _, made, isText, recovers _ _ (oneBlockDisk_collects ctx _) _ isText⟩

/-! ## One page of the loop -/

section FilledPage

open SelfWriter.Recorder (PageLoop PageEvent Results pageLoop Timely RecoversSamples
  Environment everyMillisecondCfg pageLoop_paged)

def risingResults : Results := fun time channel =>
  match channel with
  | .pressure => some (70000 + UInt32.ofNat time)
  | .temperature => none

def risingEnvironment : Environment where
  results := risingResults
  processing _ := 0

def filledPageHeader : HeaderOutput where
  targets := (1, 1)
  tCpu := 0
  vBat := 0

/-- Two instants fill the page. -/
def filledPageEvents : List PageEvent :=
  [.tryCreateNewPage logCreate, .writeHeader filledPageHeader false,
    .acquire risingEnvironment 0 2, .write .complete]

def filledPageLoop : Machine (PageLoop PlainPacker) PageEvent :=
  pageLoop QSPIStorage.flashSizePages (fun _ => 0) everyMillisecondCfg logLocks

def filledPageState : PageLoop PlainPacker :=
  (filledPageLoop.run filledPageLoop.start filledPageEvents).getD filledPageLoop.start

private theorem everyMillisecondCfg_positive : everyMillisecondCfg.Positive where
  period := by
    intro ch
    cases ch <;> decide
  preheat := by
    intro ch
    cases ch <;> decide

theorem filledPageState_reaches :
    filledPageLoop.Reaches (Timely (fun _ => 0) everyMillisecondCfg) filledPageState := by
  have created : filledPageLoop.Reaches (Timely (fun _ => 0) everyMillisecondCfg) _ :=
    .step (.tryCreateNewPage logCreate) .start trivial rfl
  have header : filledPageLoop.Reaches (Timely (fun _ => 0) everyMillisecondCfg) _ :=
    .step (.writeHeader filledPageHeader false) created trivial rfl
  have filled : filledPageLoop.Reaches (Timely (fun _ => 0) everyMillisecondCfg) _ :=
    .step (.acquire risingEnvironment 0 2) header
      (fun _ given => by
        cases given
        -- deciding this over `UInt32` would go through all of its values
        have dones : ∀ done ∈ [(1 : UInt32)], done = 1 := fun _ member =>
          List.mem_singleton.1 member
        exact ⟨dones, by decide +kernel, rfl⟩) rfl
  exact .step (.write .complete) filled (fun _ given => by cases given; rfl) rfl

private theorem filledPageState_length : filledPageState.measuring.log.length = 1 := by
  decide +kernel

private theorem onePageBuild_booted_filledPage :
    onePageBuild.memory = (search (DataBlockPacker.format PlainPacker)
      QSPIStorage.flashSizePages freeCall filledPageState.measuring.recorder.cells .undefined
        0).2 := by
  decide +kernel

theorem samples_read_back_filledPage :
    filledPageState.sources = [some risingResults] ∧
    ∃ ctx text, emfatStorageNew onePageBuild = some ctx ∧
      readFile (oneBlockDisk ctx filledPageState.measuring.recorder.cells)
        (ascii "DATA_USEHS ") = some text ∧
      List.Forall₂ (RecoversSamples everyMillisecondCfg PlainPacker.unpack) (cutPages text)
        filledPageState.sources := by
  refine ⟨rfl, ?_⟩
  have unpacks := PlainPacker.unpacks (fun _ => 0)
  obtain ⟨ctx, made, recovers⟩ := samples_read_back unpacks everyMillisecondCfg_positive
    filledPageState_reaches onePageBuild_moderate rfl onePageBuild_booted_filledPage
  have logs := (pageLoop_paged unpacks everyMillisecondCfg_positive
    filledPageState_reaches).measures.logs
  have isText := reads_oneBlock logs filledPageState_length onePageBuild_booted_filledPage made
  exact ⟨ctx, _, made, isText, recovers _ _ (oneBlockDisk_collects ctx _) _ isText⟩

end FilledPage

end SelfWriter.Vfs
