import SelfWriter.Storage.DiffWriter

/-!
# Page allocation over power cycles

The writer's candidate page, its `page_aqured` flag and the global cache of the
next empty page agree on one thing: the least empty page that was not handed
out in this power cycle.  A page that carries a header is never programmed
again, whatever fails and whenever the power is lost.
-/

namespace SelfWriter.Storage

universe u

open SelfWriter.Lib.NorMemory SelfWriter.Lib.LittleEndian SelfWriter.Lib.NextFree

/-! ## Headers -/

/-- The bytes of one page are the same. -/
def SamePage (cells cells' : Cells) (page : Nat) : Prop :=
  ∀ index, index < flashPageSize →
    cells (page * flashPageSize + index) = cells' (page * flashPageSize + index)

private theorem readU32_congr {cells cells' : Cells} {address : Nat}
    (same : ∀ index, index < 4 →
      cells (address + index) = cells' (address + index)) :
    readU32 cells address = readU32 cells' address := by
  unfold readU32
  apply congrArg ofBytes
  apply List.map_congr_left
  intro index member
  exact same index (List.mem_range.1 member)

theorem headerErased_congr (format : HeaderFormat) {cells cells' : Cells}
    {page : Nat} (same : SamePage cells cells' page) :
    HeaderErased format cells page ↔ HeaderErased format cells' page := by
  have prev := format.prev_inside
  have this := format.this_inside
  unfold programSize at prev this
  have ids : ∀ offset, offset + 4 ≤ 256 →
      readU32 cells (page * flashPageSize + offset) =
        readU32 cells' (page * flashPageSize + offset) := by
    intro offset inside
    apply readU32_congr
    intro index small
    rw [Nat.add_assoc]
    exact same _ (by unfold flashPageSize; omega)
  unfold HeaderErased
  rw [ids _ prev, ids _ this]

private theorem readU32_lt (cells : Cells) (address : Nat) :
    readU32 cells address < 2 ^ 32 := by
  have bound := ofBytes_lt
    ((List.range 4).map (fun index => cells (address + index)))
  rw [List.length_map, List.length_range] at bound
  exact bound

/-- An erased id consists of erased bytes. -/
theorem cells_of_readU32_max {cells : Cells} {address : Nat}
    (erased : readU32 cells address = 2 ^ 32 - 1) {index : Nat}
    (inside : index < 4) : cells (address + index) = erasedByte := by
  have within : index <
      ((List.range 4).map (fun index => cells (address + index))).length := by
    rw [List.length_map, List.length_range]
    exact inside
  have byte := byteAt_ofBytes _ within
  rw [List.getElem_map, List.getElem_range] at byte
  rw [readU32] at erased
  rw [← byte, erased]
  obtain rfl | rfl | rfl | rfl :
      index = 0 ∨ index = 1 ∨ index = 2 ∨ index = 3 := by omega
  all_goals rfl

/-- Both ids of an erased header are erased. -/
theorem HeaderErased.prev {format : HeaderFormat} {cells : Cells} {page : Nat}
    (erased : HeaderErased format cells page) :
    readU32 cells (page * flashPageSize + format.prevBlockId) = 2 ^ 32 - 1 := by
  have prev := readU32_lt cells (page * flashPageSize + format.prevBlockId)
  unfold HeaderErased at erased
  omega

/-! ## Programming one page -/

section Programming

variable {cells : Cells} {page : Nat} {data : List UInt8}

theorem program_other {other : Nat} (fits : data.length ≤ flashPageSize)
    (elsewhere : other ≠ page) :
    SamePage (program cells (span (page * flashPageSize) data)) cells other := by
  intro index inside
  unfold flashPageSize at *
  rw [program_span, dif_neg]
  intro within
  have : other = page := by omega
  exact elsewhere this

private theorem programmed_other {other : Nat} (fits : data.length ≤ flashPageSize)
    (elsewhere : other ≠ page) (programs : Nat) :
    SamePage (FlashDiffWriter.programmed cells page data programs) cells
      other := by
  apply program_other _ elsewhere
  rw [List.length_take]
  omega

private theorem spoiled_other {other : Nat} (fits : data.length ≤ flashPageSize)
    (elsewhere : other ≠ page) (programs : Nat) (residue : Cells) :
    SamePage (FlashDiffWriter.spoiled cells page data programs residue) cells
      other := by
  intro index inside
  have kept := @programmed_other cells page data other fits elsewhere programs
    index inside
  unfold FlashDiffWriter.spoiled
  unfold flashPageSize at *
  rw [if_neg]
  · exact kept
  · intro within
    have : other = page := by omega
    exact elsewhere this

/-- Once its first program is through, a page carries the ids of the block. -/
theorem program_not_erased {format : HeaderFormat} {id : UInt32}
    (erased : HeaderErased format cells page)
    (headed : format.prevBlockId + 4 ≤ data.length)
    (carries : ofBytes ((data.drop format.prevBlockId).take 4) = id.toNat)
    (proper : id.toNat ≠ 2 ^ 32 - 1) :
    ¬ HeaderErased format
      (program cells (span (page * flashPageSize) data)) page := by
  intro still
  apply proper
  rw [← carries, ← still.prev, readU32]
  apply congrArg ofBytes
  apply List.ext_getElem
  · rw [List.length_take, List.length_drop, List.length_map, List.length_range]
    omega
  · intro index inside _
    rw [List.length_take] at inside
    have byte : page * flashPageSize + format.prevBlockId + index -
        page * flashPageSize = format.prevBlockId + index := by
      omega
    rw [List.getElem_take, List.getElem_drop, List.getElem_map,
      List.getElem_range, program_span, dif_pos (by omega),
      cells_of_readU32_max erased.prev (by omega), erasedByte_and]
    simp only [byte]

end Programming

/-! ## The cache of the next empty page -/

/-- The cache may be stale below `start`, never from there on. -/
def CacheAgrees (format : HeaderFormat) (pages : Nat) (cells : Cells)
    (start : Nat) : MemoryState → Prop
  | .undefined => True
  | .partialUsed next => start ≤ next →
      IsNext (HeaderErased format cells) pages start next
  | .fullUsed => Exhausted (HeaderErased format cells) pages start

section Cache

variable {format : HeaderFormat} {pages : Nat} {cells : Cells}
variable {start : Nat} {cache : MemoryState}

theorem CacheAgrees.advance (agrees : CacheAgrees format pages cells start cache)
    {later : Nat} (forward : start ≤ later) :
    CacheAgrees format pages cells later cache := by
  cases cache with
  | undefined => trivial
  | partialUsed next =>
      intro within
      exact (agrees (Nat.le_trans forward within)).advance forward within
  | fullUsed => exact Exhausted.advance agrees forward

theorem CacheAgrees.congr {cells' : Cells}
    (same : ∀ page, start ≤ page → SamePage cells cells' page)
    (agrees : CacheAgrees format pages cells start cache) :
    CacheAgrees format pages cells' start cache := by
  have pagewise : ∀ page, start ≤ page →
      (HeaderErased format cells page ↔ HeaderErased format cells' page) :=
    fun page reached => headerErased_congr format (same page reached)
  cases cache with
  | undefined => trivial
  | partialUsed next =>
      intro within
      exact (agrees within).congr pagewise
  | fullUsed => exact Exhausted.congr pagewise agrees

/-- What a search answers, and that it leaves the cache in agreement. -/
structure Finds (format : HeaderFormat) (pages : Nat) (cells : Cells)
    (start : Nat) (found : Option Nat × MemoryState) : Prop where
  some_isNext : ∀ page, found.1 = some page →
    IsNext (HeaderErased format cells) pages start page
  none_exhausted : found.1 = none →
    Exhausted (HeaderErased format cells) pages start
  agrees : CacheAgrees format pages cells start found.2

theorem scanPages_finds (locks : CacheLocks)
    (agrees : CacheAgrees format pages cells start cache) :
    Finds format pages cells start
      (scanPages format pages locks cells cache start) := by
  have decides : ∀ page,
      decide (HeaderErased format cells page) = true ↔
        HeaderErased format cells page :=
    fun page => decide_eq_true_iff
  unfold scanPages
  cases outcome : (List.range' start (pages - start)).find?
      (fun page => HeaderErased format cells page) with
  | some page =>
      have next := find?_range'_isNext decides outcome
      refine ⟨?_, fun impossible => (by cases impossible), ?_⟩
      · rintro _ ⟨⟩
        exact next
      · cases locks.writes with
        | true => exact fun _ => next
        | false => exact agrees
  | none =>
      have exhausted := find?_range'_exhausted decides outcome
      refine ⟨fun _ impossible => (by cases impossible),
        fun _ => exhausted, ?_⟩
      cases locks.writes with
      | true => exact exhausted
      | false => exact agrees

private theorem findNextEmptyPage_finds (locks : CacheLocks)
    (agrees : CacheAgrees format pages cells start cache) :
    Finds format pages cells start
      (findNextEmptyPage format pages locks cells cache start) := by
  have scanned := scanPages_finds locks agrees
  unfold findNextEmptyPage
  cases locks.reads with
  | false => exact scanned
  | true =>
      cases cache with
      | undefined => exact scanned
      | fullUsed =>
          exact ⟨fun _ impossible => (by cases impossible),
            fun _ => agrees, agrees⟩
      | partialUsed next =>
          simp only [if_true]
          by_cases usable : start ≤ next
          · rw [if_pos usable]
            refine ⟨?_, fun impossible => (by cases impossible), agrees⟩
            rintro _ ⟨⟩
            exact agrees usable
          · rw [if_neg usable]
            exact scanned

end Cache

/-! ## The recorder over power cycles -/

/-- `handed` lists the pages of the blocks handed out since the power came on,
the latest first. -/
structure Recorder (Packer : Type u) where
  cells : Cells
  cache : MemoryState
  writer : FlashDiffWriter
  block : Option (DataBlock Packer)
  handed : List Nat

inductive Event where
  | tryCreateNewPage (call : CreateCall) (pageNumber : UInt32)
  | writeHeader (output : HeaderOutput)
  | pushData (result : Option UInt32) (channel : FChannel)
  | write (outcome : FlashDiffWriter.WriteOutcome)
  /-- Power is lost, in the middle of a write after `programs` of its programs
  if there are any, and comes back. -/
  | powerLoss (programs : Option Nat) (locks : CacheLocks)

section System

variable {Packer : Type u} [DataBlockPacker Packer]
variable (pages : Nat) (crc : List UInt8 → UInt32)

/-- `init` searches once; the recorder then makes a new writer. -/
def boot (locks : CacheLocks) (cells : Cells) : Recorder Packer where
  cells := cells
  cache := (findNextEmptyPage (DataBlockPacker.format Packer) pages locks cells
    .undefined 0).2
  writer := .new
  block := none
  handed := []

namespace Recorder

def create (state : Recorder Packer) (call : CreateCall) (pageNumber : UInt32) :
    Except FreeRtosError (DataBlock Packer) × Recorder Packer :=
  let created : FlashDiffWriter.Created Packer :=
    state.writer.tryCreateNewPage pages call state.cells state.cache pageNumber
  (created.answer,
    { state with
      cache := created.cache
      writer := created.writer
      block := match created.answer with
        | .ok block => some block
        | .error _ => state.block
      handed := match created.answer with
        | .ok block => block.destPage :: state.handed
        | .error _ => state.handed })

/-- The cells that a write leaves when power is lost after `programs`. -/
def cutCells (state : Recorder Packer) (programs : Nat) : Cells :=
  match state.block with
  | some block =>
      match DataBlockPacker.toResultFull block.packer crc with
      | some data =>
          FlashDiffWriter.programmed state.cells block.destPage data programs
      | none => state.cells
  | none => state.cells

def step (state : Recorder Packer) : Event → Recorder Packer
  | .tryCreateNewPage call pageNumber => (state.create pages call pageNumber).2
  | .writeHeader output =>
      { state with
        block := state.block.map (fun block => block.writeHeader output) }
  | .pushData result channel =>
      { state with
        block := state.block.map (fun block =>
          match block.pushData result channel with
          | some (after, _) => after
          | none => block) }
  | .write outcome =>
      match state.block with
      | some block =>
          let written := state.writer.write crc outcome state.cells block
          { state with
            cells := written.2.2
            writer := written.2.1
            block := none }
      | none => state
  | .powerLoss programs locks =>
      boot pages locks (match programs with
        | some programs => state.cutCells crc programs
        | none => state.cells)

def run (state : Recorder Packer) (events : List Event) : Recorder Packer :=
  events.foldl (step pages crc) state

/-- The first page that was not handed out in this power cycle. -/
def floor (state : Recorder Packer) : Nat :=
  match state.handed with
  | page :: _ => page + 1
  | [] => 0

omit [DataBlockPacker Packer] in
theorem floor_of_head {state : Recorder Packer} {last : Nat}
    (head : state.handed.head? = some last) : state.floor = last + 1 := by
  unfold floor
  cases handed : state.handed with
  | nil =>
      rw [handed] at head
      cases head
  | cons first earlier =>
      rw [handed] at head
      cases head
      rfl

omit [DataBlockPacker Packer] in
theorem floor_of_nil {state : Recorder Packer} (none : state.handed = []) :
    state.floor = 0 := by
  unfold floor
  rw [none]

end Recorder

/-! ## The allocation invariant -/

/-- The header of a page, under the packer's format. -/
def Erased (Packer : Type u) [DataBlockPacker Packer] (cells : Cells)
    (page : Nat) : Prop :=
  HeaderErased (DataBlockPacker.format Packer) cells page

structure Allocates (state : Recorder Packer) : Prop where
  cache : CacheAgrees (DataBlockPacker.format Packer) pages state.cells
    state.writer.nextPageNumber state.cache
  floor_le : state.floor ≤ state.writer.nextPageNumber
  skipped : ∀ page, state.floor ≤ page → page < state.writer.nextPageNumber →
    ¬ Erased Packer state.cells page
  decreasing : state.handed.Pairwise (· > ·)
  free : state.block = none → state.writer.pageAqured = false
  taken : ∀ block, state.block = some block →
    state.writer.pageAqured = true ∧
      state.floor = state.writer.nextPageNumber ∧
      block.destPage + 1 = state.writer.nextPageNumber ∧
      block.destPage < pages ∧
      Erased Packer state.cells block.destPage ∧
      (DataBlockPacker.prevBlockId block.packer).toNat ≠ 2 ^ 32 - 1

variable {pages crc}

omit [DataBlockPacker Packer] in
theorem handed_lt_floor {state : Recorder Packer}
    (decreasing : state.handed.Pairwise (· > ·)) {page : Nat}
    (member : page ∈ state.handed) : page < state.floor := by
  unfold Recorder.floor
  cases handed : state.handed with
  | nil =>
      rw [handed] at member
      cases member
  | cons last earlier =>
      rw [handed] at member decreasing
      rcases List.mem_cons.1 member with rfl | before
      · exact Nat.lt_succ_self _
      · have := List.rel_of_pairwise_cons decreasing before
        simp only
        omega

/-- Up to the next page a search finds, no empty page is left behind. -/
theorem Allocates.passed {state : Recorder Packer}
    (allocates : Allocates pages state) {found page : Nat}
    (next : IsNext (Erased Packer state.cells) pages
      state.writer.nextPageNumber found)
    (reached : state.floor ≤ page) (before : page < found) :
    ¬ Erased Packer state.cells page := by
  rcases Nat.lt_or_ge page state.writer.nextPageNumber with below | above
  · exact allocates.skipped page reached below
  · exact next.least page above before

/-- The next page a search finds lies behind those that were handed out. -/
theorem Allocates.behind {state : Recorder Packer}
    (allocates : Allocates pages state) {found page : Nat}
    (next : IsNext (Erased Packer state.cells) pages
      state.writer.nextPageNumber found)
    (member : page ∈ state.handed) : page < found := by
  have below := handed_lt_floor allocates.decreasing member
  have floor := allocates.floor_le
  have reached := next.reached
  omega

theorem boot_allocates (locks : CacheLocks) (cells : Cells) :
    Allocates pages (boot pages locks cells : Recorder Packer) where
  cache := (findNextEmptyPage_finds locks
    (show CacheAgrees _ pages cells 0 .undefined from trivial)).agrees
  floor_le := Nat.le_refl 0
  skipped := fun _ _ below => absurd below (Nat.not_lt_zero _)
  decreasing := List.Pairwise.nil
  free := fun _ => rfl
  taken := fun _ impossible => by cases impossible

/-- The four outcomes of `try_create_new_page`. -/
inductive Creates (pages : Nat) (state : Recorder Packer)
    (created : Except FreeRtosError (DataBlock Packer) × Recorder Packer) :
    Prop where
  | outstanding (taken : state.block ≠ none)
      (answer : created.1 = .error .outOfMemory) (same : created.2 = state)
  | full (free : state.block = none)
      (exhausted : Exhausted (Erased Packer state.cells) pages
        state.writer.nextPageNumber)
      (answer : created.1 = .error .outOfMemory) (cache : MemoryState)
      (agrees : CacheAgrees (DataBlockPacker.format Packer) pages state.cells
        state.writer.nextPageNumber cache)
      (after : created.2 = { state with cache := cache })
  | locked (free : state.block = none) (page : Nat)
      (next : IsNext (Erased Packer state.cells) pages
        state.writer.nextPageNumber page)
      (answer : created.1 = .error .mutexTimeout) (cache : MemoryState)
      (agrees : CacheAgrees (DataBlockPacker.format Packer) pages state.cells
        state.writer.nextPageNumber cache)
      (after : created.2 = { state with
        cache := cache
        writer := { state.writer with nextPageNumber := page } })
  | handedOut (free : state.block = none) (block : DataBlock Packer)
      (next : IsNext (Erased Packer state.cells) pages
        state.writer.nextPageNumber block.destPage)
      (proper : (DataBlockPacker.prevBlockId block.packer).toNat ≠ 2 ^ 32 - 1)
      (answer : created.1 = .ok block) (cache : MemoryState)
      (agrees : CacheAgrees (DataBlockPacker.format Packer) pages state.cells
        state.writer.nextPageNumber cache)
      (after : created.2 =
        { cells := state.cells
          cache := cache
          writer := { nextPageNumber := block.destPage + 1, pageAqured := true }
          block := some block
          handed := block.destPage :: state.handed })

/-- The id before a block's own is never all-ones. -/
theorem prevBlockId_proper (pageNumber : UInt32) :
    (if pageNumber = 0 then 0 else pageNumber - 1).toNat ≠ 2 ^ 32 - 1 := by
  by_cases first : pageNumber = 0
  · rw [if_pos first]
    decide
  · rw [if_neg first]
    have bound := pageNumber.toNat_lt
    have positive : 1 ≤ pageNumber.toNat := by
      apply Nat.one_le_iff_ne_zero.2
      intro zero
      exact first (UInt32.toNat_inj.1 zero)
    have one : (1 : UInt32).toNat = 1 := rfl
    have order : (1 : UInt32) ≤ pageNumber :=
      UInt32.le_iff_toNat_le.2 (one ▸ positive)
    rw [UInt32.toNat_sub_of_le _ _ order, one]
    omega

theorem create_creates [LawfulPacker Packer] {state : Recorder Packer}
    (allocates : Allocates pages state) (call : CreateCall)
    (pageNumber : UInt32) :
    Creates pages state (state.create pages call pageNumber) := by
  have finds := findNextEmptyPage_finds call.locks allocates.cache
  unfold Recorder.create FlashDiffWriter.tryCreateNewPage
  by_cases aqured : state.writer.pageAqured = true
  · simp only [if_pos aqured]
    refine .outstanding ?_ rfl rfl
    intro none
    rw [allocates.free none] at aqured
    cases aqured
  · have free : state.block = none := by
      cases outstanding : state.block with
      | none => rfl
      | some block => exact absurd (allocates.taken block outstanding).1 aqured
    simp only [if_neg aqured]
    cases found : findNextEmptyPage (DataBlockPacker.format Packer) pages
        call.locks state.cells state.cache state.writer.nextPageNumber with
    | mk page cache =>
        rw [found] at finds
        cases page with
        | none =>
            exact .full free (finds.none_exhausted rfl) rfl cache finds.agrees
              rfl
        | some page =>
            cases call.settings with
            | none =>
                exact .locked free page (finds.some_isNext page rfl) rfl cache
                  finds.agrees rfl
            | some info =>
                have proper := prevBlockId_proper pageNumber
                rw [← (@LawfulPacker.build_ids Packer _ _
                  (if pageNumber = 0 then 0 else pageNumber - 1) pageNumber
                  flashPageSize info).1] at proper
                exact .handedOut free
                  { packer := DataBlockPacker.build
                      (if pageNumber = 0 then 0 else pageNumber - 1) pageNumber
                      flashPageSize info
                    destPage := page
                    counter := 0
                    prevs := fun _ => 0 }
                  (finds.some_isNext page rfl) proper rfl cache finds.agrees
                  rfl

theorem create_allocates {state : Recorder Packer}
    (allocates : Allocates pages state)
    {created : Except FreeRtosError (DataBlock Packer) × Recorder Packer}
    (creates : Creates pages state created) : Allocates pages created.2 := by
  cases creates with
  | outstanding taken answer same =>
      rw [same]
      exact allocates
  | full free exhausted answer cache agrees after =>
      rw [after]
      exact { allocates with cache := agrees }
  | locked free page next answer cache agrees after =>
      rw [after]
      exact
        { cache := agrees.advance next.reached
          floor_le := Nat.le_trans allocates.floor_le next.reached
          skipped := fun _ reached before =>
            allocates.passed next reached before
          decreasing := allocates.decreasing
          free := fun _ => allocates.free free
          taken := fun block impossible => by
            rw [show state.block = some block from impossible] at free
            cases free }
  | handedOut free block next proper answer cache agrees after =>
      rw [after]
      exact
        { cache := agrees.advance (Nat.le_succ_of_le next.reached)
          floor_le := Nat.le_refl _
          skipped := fun page reached before =>
            absurd before (Nat.not_lt.2 reached)
          decreasing := List.pairwise_cons.2
            ⟨fun _ member => allocates.behind next member,
              allocates.decreasing⟩
          free := fun impossible => by cases impossible
          taken := by
            rintro _ ⟨⟩
            exact ⟨rfl, rfl, rfl, next.inside, next.isFree, proper⟩ }

/-- A page that is handed out. -/
theorem Creates.hands_out {state : Recorder Packer}
    (allocates : Allocates pages state)
    {created : Except FreeRtosError (DataBlock Packer) × Recorder Packer}
    (creates : Creates pages state created) {block : DataBlock Packer}
    (handed : created.1 = .ok block) :
    IsNext (Erased Packer state.cells) pages state.floor block.destPage ∧
      (∀ page ∈ state.handed, page < block.destPage) ∧
      created.2.handed = block.destPage :: state.handed := by
  cases creates with
  | outstanding taken answer same =>
      rw [answer] at handed
      cases handed
  | full free exhausted answer cache agrees after =>
      rw [answer] at handed
      cases handed
  | locked free page next answer cache agrees after =>
      rw [answer] at handed
      cases handed
  | handedOut free given next proper answer cache agrees after =>
      rw [answer] at handed
      cases handed
      refine ⟨⟨?_, next.inside, next.isFree, ?_⟩, ?_, by rw [after]⟩
      · exact Nat.le_trans allocates.floor_le next.reached
      · exact fun page reached before => allocates.passed next reached before
      · exact fun page member => allocates.behind next member

/-- A failed attempt loses no page. -/
theorem Creates.loses_none {state : Recorder Packer}
    {created : Except FreeRtosError (DataBlock Packer) × Recorder Packer}
    (creates : Creates pages state created) {error : FreeRtosError}
    (failed : created.1 = .error error) :
    created.2.cells = state.cells ∧ created.2.handed = state.handed ∧
      ∀ page,
        IsNext (Erased Packer state.cells) pages state.writer.nextPageNumber
            page ↔
          IsNext (Erased Packer created.2.cells) pages
            created.2.writer.nextPageNumber page := by
  cases creates with
  | outstanding taken answer same =>
      rw [same]
      exact ⟨rfl, rfl, fun _ => Iff.rfl⟩
  | full free exhausted answer cache agrees after =>
      rw [after]
      exact ⟨rfl, rfl, fun _ => Iff.rfl⟩
  | locked free page next answer cache agrees after =>
      rw [after]
      exact ⟨rfl, rfl, fun _ => next.advance_iff next.reached (Nat.le_refl page)⟩
  | handedOut free given next proper answer cache agrees after =>
      rw [answer] at failed
      cases failed

/-- Without a block outstanding, memory is reported full only when it is. -/
theorem Creates.exhausted_of_outOfMemory {state : Recorder Packer}
    {created : Except FreeRtosError (DataBlock Packer) × Recorder Packer}
    (creates : Creates pages state created) (free : state.block = none)
    (memoryFull : created.1 = .error .outOfMemory) :
    Exhausted (Erased Packer state.cells) pages
      state.writer.nextPageNumber := by
  cases creates with
  | outstanding taken answer same => exact absurd free taken
  | full free exhausted answer cache agrees after => exact exhausted
  | locked free page next answer cache agrees after =>
      rw [answer] at memoryFull
      cases memoryFull
  | handedOut free given next proper answer cache agrees after =>
      rw [answer] at memoryFull
      cases memoryFull

/-! ## What a write touches -/

section Writing

variable [LawfulPacker Packer]

private theorem write_keeps (writer : FlashDiffWriter)
    (outcome : FlashDiffWriter.WriteOutcome) (cells : Cells)
    (block : DataBlock Packer) {page : Nat} (elsewhere : page ≠ block.destPage) :
    SamePage (writer.write crc outcome cells block).2.2 cells page := by
  unfold FlashDiffWriter.write
  cases packed : DataBlockPacker.toResultFull block.packer crc with
  | none => exact fun _ _ => rfl
  | some data =>
      have fits := LawfulPacker.result_fits block.packer crc data packed
      cases outcome with
      | complete => exact program_other fits elsewhere
      | failed programs residue =>
          exact spoiled_other fits elsewhere programs residue

private theorem cutCells_keeps {state : Recorder Packer} (programs : Nat) {page : Nat}
    (elsewhere : ∀ block, state.block = some block → page ≠ block.destPage) :
    SamePage (state.cutCells crc programs) state.cells page := by
  unfold Recorder.cutCells
  cases outstanding : state.block with
  | none => exact fun _ _ => rfl
  | some block =>
      cases packed : DataBlockPacker.toResultFull block.packer crc with
      | none =>
          simp only [packed]
          exact fun _ _ => rfl
      | some data =>
          have fits := LawfulPacker.result_fits block.packer crc data packed
          simp only [packed]
          exact programmed_other fits (elsewhere block outstanding) programs

theorem pushData_keeps {block after : DataBlock Packer} {result : Option UInt32}
    {channel : FChannel} {full : Bool}
    (pushed : block.pushData result channel = some (after, full)) :
    after.destPage = block.destPage ∧
      DataBlockPacker.prevBlockId after.packer =
        DataBlockPacker.prevBlockId block.packer := by
  have ids := LawfulPacker.pushVal_prev block.packer
  unfold DataBlock.pushData at pushed
  simp only at pushed
  split at pushed
  · cases pushed
    exact ⟨rfl, ids _⟩
  · cases pushed
    exact ⟨rfl, ids _⟩
  · cases pushed
    exact ⟨rfl, ids _⟩
  · cases pushed

omit [LawfulPacker Packer] in
/-- An update of the outstanding block that leaves its page and ids alone. -/
theorem Allocates.mapBlock {state : Recorder Packer}
    (allocates : Allocates pages state)
    {update : DataBlock Packer → DataBlock Packer}
    (dest : ∀ block, (update block).destPage = block.destPage)
    (prev : ∀ block, DataBlockPacker.prevBlockId (update block).packer =
      DataBlockPacker.prevBlockId block.packer) :
    Allocates pages { state with block := state.block.map update } where
  cache := allocates.cache
  floor_le := allocates.floor_le
  skipped := allocates.skipped
  decreasing := allocates.decreasing
  free := fun none => allocates.free (Option.map_eq_none_iff.1 none)
  taken := by
    intro block mapped
    obtain ⟨before, outstanding, rfl⟩ := Option.map_eq_some_iff.1 mapped
    rw [dest, prev]
    exact allocates.taken before outstanding

/-- A finished write frees the writer; nothing at or above its candidate page
was programmed. -/
theorem Allocates.written {state : Recorder Packer}
    (allocates : Allocates pages state) {block : DataBlock Packer}
    (outstanding : state.block = some block)
    (outcome : FlashDiffWriter.WriteOutcome) :
    Allocates pages ({ state with
      cells := (state.writer.write crc outcome state.cells block).2.2
      writer := (state.writer.write crc outcome state.cells block).2.1
      block := none } : Recorder Packer) := by
  obtain ⟨_, floor, dest, _, _, _⟩ := allocates.taken block outstanding
  have writer : (state.writer.write crc outcome state.cells block).2.1 =
      { state.writer with pageAqured := false } := by
    unfold FlashDiffWriter.write
    cases DataBlockPacker.toResultFull block.packer crc with
    | none => rfl
    | some data => cases outcome <;> rfl
  rw [writer]
  exact
    { cache := allocates.cache.congr (by
        intro page reached index inside
        have above : state.writer.nextPageNumber ≤ page := reached
        exact (write_keeps state.writer outcome state.cells block (by omega)
          index inside).symm)
      floor_le := Nat.le_of_eq floor
      skipped := fun page reached before =>
        absurd before (Nat.not_lt.2 (floor ▸ reached))
      decreasing := allocates.decreasing
      free := fun _ => rfl
      taken := fun _ impossible => by cases impossible }

theorem step_allocates {state : Recorder Packer}
    (allocates : Allocates pages state) (event : Event) :
    Allocates pages (state.step pages crc event) := by
  cases event with
  | tryCreateNewPage call pageNumber =>
      exact create_allocates allocates
        (create_creates allocates call pageNumber)
  | writeHeader output =>
      exact allocates.mapBlock (fun _ => rfl)
        (fun block => LawfulPacker.writeHeader_prev block.packer output)
  | pushData result channel =>
      refine allocates.mapBlock (fun block => ?_) (fun block => ?_)
      all_goals
        cases pushed : block.pushData result channel with
        | none => rfl
        | some pair => first
          | exact (pushData_keeps pushed).1
          | exact (pushData_keeps pushed).2
  | write outcome =>
      unfold Recorder.step
      cases outstanding : state.block with
      | none => exact allocates
      | some block => exact allocates.written outstanding outcome
  | powerLoss programs locks => exact boot_allocates locks _

theorem run_allocates (events : List Event) :
    ∀ state : Recorder Packer, Allocates pages state →
      Allocates pages (state.run pages crc events) := by
  induction events with
  | nil =>
      intro state allocates
      exact allocates
  | cons event events inductionHypothesis =>
      intro state allocates
      exact inductionHypothesis _ (step_allocates allocates event)

/-- A page with a header is not touched by any step. -/
theorem step_keeps {state : Recorder Packer}
    (allocates : Allocates pages state) (event : Event) {page : Nat}
    (carries : ¬ Erased Packer state.cells page) :
    SamePage (state.step pages crc event).cells state.cells page := by
  have elsewhere : ∀ block, state.block = some block →
      page ≠ block.destPage := by
    rintro block outstanding rfl
    exact carries (allocates.taken block outstanding).2.2.2.2.1
  cases event with
  | tryCreateNewPage call pageNumber => exact fun _ _ => rfl
  | writeHeader output => exact fun _ _ => rfl
  | pushData result channel => exact fun _ _ => rfl
  | write outcome =>
      unfold Recorder.step
      cases outstanding : state.block with
      | none => exact fun _ _ => rfl
      | some block =>
          exact write_keeps state.writer outcome state.cells block
            (elsewhere block outstanding)
  | powerLoss programs locks =>
      cases programs with
      | none => exact fun _ _ => rfl
      | some programs => exact cutCells_keeps programs elsewhere

/-- One program of a write is enough to give the page its header. -/
theorem programmed_not_erased {state : Recorder Packer}
    (allocates : Allocates pages state) {block : DataBlock Packer}
    (outstanding : state.block = some block) {data : List UInt8}
    (packed : DataBlockPacker.toResultFull block.packer crc = some data)
    {programs : Nat} (some : 1 ≤ programs) :
    ¬ Erased Packer (FlashDiffWriter.programmed state.cells block.destPage data
      programs) block.destPage := by
  obtain ⟨_, _, _, _, erased, proper⟩ := allocates.taken block outstanding
  obtain ⟨headed, carries⟩ :=
    LawfulPacker.result_prev block.packer crc data packed
  have inside := (DataBlockPacker.format Packer).prev_inside
  have first : (DataBlockPacker.format Packer).prevBlockId + 4 ≤
      programs * programSize := by
    have : 1 * programSize ≤ programs * programSize :=
      Nat.mul_le_mul_right _ some
    omega
  refine program_not_erased erased ?_ ?_ proper
  · rw [List.length_take]
    omega
  · rw [List.drop_take, List.take_take, Nat.min_eq_left (by omega)]
    exact carries

theorem complete_not_erased {state : Recorder Packer}
    (allocates : Allocates pages state) {block : DataBlock Packer}
    (outstanding : state.block = some block) {data : List UInt8}
    (packed : DataBlockPacker.toResultFull block.packer crc = some data) :
    ¬ Erased Packer (state.step pages crc (.write .complete)).cells
      block.destPage := by
  have fits := LawfulPacker.result_fits block.packer crc data packed
  have whole := programmed_not_erased allocates outstanding packed
    (show 1 ≤ 16 by decide)
  unfold FlashDiffWriter.programmed at whole
  rw [List.take_of_length_le (by
    unfold programSize
    unfold flashPageSize at fits
    omega)] at whole
  simp only [Recorder.step, outstanding, FlashDiffWriter.write, packed]
  exact whole

end Writing

/-- After any run over any power cycles: a handed-out page exists and is empty,
lies behind every page handed out in this power cycle, and no empty page was
passed over; a failed attempt loses no page; memory is reported full only when
it is; and a page that carries a header keeps its bytes, as does every page
from the first program of its block on. -/
theorem page_allocation_safe [LawfulPacker Packer] (pages : Nat)
    (crc : List UInt8 → UInt32) (locks : CacheLocks) (initial : Cells)
    (events : List Event) (call : CreateCall) (pageNumber : UInt32) :
    let state := (boot pages locks initial : Recorder Packer).run pages crc
      events
    let created := state.create pages call pageNumber
    (∀ block, created.1 = .ok block →
      block.destPage < pages ∧ Erased Packer state.cells block.destPage ∧
      (∀ page ∈ state.handed, page < block.destPage) ∧
      (∀ last, state.handed.head? = some last →
        ∀ page, last < page → page < block.destPage →
          ¬ Erased Packer state.cells page) ∧
      (state.handed = [] → ∀ page, page < block.destPage →
        ¬ Erased Packer state.cells page) ∧
      created.2.handed = block.destPage :: state.handed) ∧
    (∀ error, created.1 = .error error →
      created.2.cells = state.cells ∧ created.2.handed = state.handed ∧
      ∀ page,
        IsNext (Erased Packer state.cells) pages state.writer.nextPageNumber
            page ↔
          IsNext (Erased Packer created.2.cells) pages
            created.2.writer.nextPageNumber page) ∧
    (state.block = none → created.1 = .error .outOfMemory →
      Exhausted (Erased Packer state.cells) pages
        state.writer.nextPageNumber) ∧
    (∀ event page, ¬ Erased Packer state.cells page →
      SamePage (state.step pages crc event).cells state.cells page) ∧
    (∀ block data, state.block = some block →
      DataBlockPacker.toResultFull block.packer crc = some data →
      ¬ Erased Packer (state.step pages crc (.write .complete)).cells
          block.destPage ∧
      ∀ programs, 1 ≤ programs →
        ¬ Erased Packer (state.step pages crc
          (.powerLoss (some programs) locks)).cells block.destPage) := by
  intro state created
  have allocates : Allocates pages state :=
    run_allocates events _ (boot_allocates locks initial)
  have creates : Creates pages state created :=
    create_creates allocates call pageNumber
  refine ⟨?_, fun _ failed => creates.loses_none failed,
    fun free memoryFull => creates.exhausted_of_outOfMemory free memoryFull,
    fun event page => step_keeps allocates event, ?_⟩
  · intro block handed
    obtain ⟨next, behind, grown⟩ := creates.hands_out allocates handed
    refine ⟨next.inside, next.isFree, behind, ?_, ?_, grown⟩
    · intro last head page after before
      apply next.least page _ before
      rw [Recorder.floor_of_head head]
      exact after
    · intro none page before
      apply next.least page _ before
      rw [Recorder.floor_of_nil none]
      exact Nat.zero_le page
  · intro block data outstanding packed
    refine ⟨complete_not_erased allocates outstanding packed, ?_⟩
    intro programs some
    simp only [Recorder.step, Recorder.cutCells, outstanding, packed]
    exact programmed_not_erased allocates outstanding packed some

end System

/-! ## A packer for examples -/

/-- Only the ids are packed, this block's first. -/
structure IdPacker where
  prevBlockId : UInt32
  thisBlockId : UInt32

instance : DataBlockPacker IdPacker where
  format :=
    { prevBlockId := 4, thisBlockId := 0,
      prev_inside := by decide, this_inside := by decide }
  build prev this _ _ := { prevBlockId := prev, thisBlockId := this }
  writeHeader packer _ := packer
  pushVal packer _ := (packer, .success)
  prevBlockId packer := packer.prevBlockId
  thisBlockId packer := packer.thisBlockId
  toResultFull packer _ :=
    some ((List.range 4).map (byteAt packer.thisBlockId.toNat) ++
      (List.range 4).map (byteAt packer.prevBlockId.toNat))

instance : LawfulPacker IdPacker where
  build_ids _ _ _ _ := ⟨rfl, rfl⟩
  writeHeader_prev _ _ := rfl
  pushVal_prev _ _ := rfl
  result_fits := by
    rintro packer crc _ ⟨⟩
    exact (by decide : 8 ≤ 4096)
  result_prev := by
    rintro packer crc _ ⟨⟩
    refine ⟨(by decide : 4 + 4 ≤ 8), ?_⟩
    calc
      ofBytes (((List.range 4).map (byteAt packer.prevBlockId.toNat)).take 4)
          = packer.prevBlockId.toNat % 256 ^ 4 :=
        ofBytes_map_byteAt packer.prevBlockId.toNat 4
      _ = packer.prevBlockId.toNat :=
        Nat.mod_eq_of_lt packer.prevBlockId.toNat_lt

/-- Two of three pages are empty; a write is cut before its first program, so
the page that it was for is handed out again. -/
theorem page_allocation_safe_idPacker :
    let initial : Cells := fun address => if address < 4096 then 0 else 0xFF
    let info : BlockInfo :=
      { timestamp := 0, fRef := 0, baseIntervalMs := 20,
        interleaveRatio := (1, 1) }
    let locks : CacheLocks := { reads := true, writes := true }
    let call : CreateCall := { locks := locks, settings := some info }
    let state := (boot 3 locks initial : Recorder IdPacker).run 3 (fun _ => 0)
      [.tryCreateNewPage call 0, .powerLoss (some 0) locks]
    let created := state.create 3 call 0
    (∀ block, created.1 = .ok block →
      block.destPage < 3 ∧ Erased IdPacker state.cells block.destPage ∧
      (∀ page ∈ state.handed, page < block.destPage) ∧
      (∀ last, state.handed.head? = some last →
        ∀ page, last < page → page < block.destPage →
          ¬ Erased IdPacker state.cells page) ∧
      (state.handed = [] → ∀ page, page < block.destPage →
        ¬ Erased IdPacker state.cells page) ∧
      created.2.handed = block.destPage :: state.handed) ∧
    (∀ error, created.1 = .error error →
      created.2.cells = state.cells ∧ created.2.handed = state.handed ∧
      ∀ page,
        IsNext (Erased IdPacker state.cells) 3 state.writer.nextPageNumber
            page ↔
          IsNext (Erased IdPacker created.2.cells) 3
            created.2.writer.nextPageNumber page) ∧
    (state.block = none → created.1 = .error .outOfMemory →
      Exhausted (Erased IdPacker state.cells) 3 state.writer.nextPageNumber) ∧
    (∀ event page, ¬ Erased IdPacker state.cells page →
      SamePage (state.step 3 (fun _ => 0) event).cells state.cells page) ∧
    (∀ block data, state.block = some block →
      DataBlockPacker.toResultFull block.packer (fun _ => 0) = some data →
      ¬ Erased IdPacker (state.step 3 (fun _ => 0) (.write .complete)).cells
          block.destPage ∧
      ∀ programs, 1 ≤ programs →
        ¬ Erased IdPacker (state.step 3 (fun _ => 0)
          (.powerLoss (some programs) locks)).cells block.destPage) :=
  page_allocation_safe 3 (fun _ => 0) { reads := true, writes := true }
    (fun address => if address < 4096 then 0 else 0xFF)
    [.tryCreateNewPage
      { locks := { reads := true, writes := true }
        settings := some { timestamp := 0, fRef := 0, baseIntervalMs := 20,
                           interleaveRatio := (1, 1) } } 0,
      .powerLoss (some 0) { reads := true, writes := true }]
    { locks := { reads := true, writes := true }
      settings := some { timestamp := 0, fRef := 0, baseIntervalMs := 20,
                         interleaveRatio := (1, 1) } } 0

end SelfWriter.Storage
