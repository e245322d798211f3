import SelfWriter.Lib.Machine
import SelfWriter.Storage.PageAllocation

/-!
# The number of used pages

`meminfo_read` (`threads/vfs/callbacks.rs`) publishes what the search for the
next empty page answers as the number of used pages, in `storage.var`, from
which the decoder knows how much of the memory to read.  The search has three
outcomes: the first empty page, no empty page, and no answer because the driver
is busy; the last two are published as zero.
-/

namespace SelfWriter.Storage

open SelfWriter.Lib SelfWriter.Lib.NorMemory SelfWriter.Lib.NextFree

/-! ## Searching -/

/-- `flash_size_pages()`: nothing while the driver is locked. -/
def flashSizePages (pages : Nat) (driverFree : Bool) : Nat :=
  if driverFree then pages else 0

/-- What one call of `find_next_empty_page` meets. -/
structure SearchCall where
  locks : CacheLocks
  driverFree : Bool
  deriving DecidableEq, Repr

def search (format : HeaderFormat) (pages : Nat) (call : SearchCall)
    (cells : Cells) (cache : MemoryState) (start : Nat) :
    Option Nat × MemoryState :=
  findNextEmptyPage format (flashSizePages pages call.driverFree) call.locks
    cells cache start

/-- The cache answers, and the memory is not looked at. -/
def Cached (call : SearchCall) (cache : MemoryState) (start : Nat) : Prop :=
  call.locks.reads = true ∧
    match cache with
    | .undefined => False
    | .partialUsed next => start ≤ next
    | .fullUsed => True

instance (call : SearchCall) (cache : MemoryState) (start : Nat) :
    Decidable (Cached call cache start) :=
  have : Decidable (match cache with
      | .undefined => False
      | .partialUsed next => start ≤ next
      | .fullUsed => True) :=
    match cache with
    | .undefined => inferInstanceAs (Decidable False)
    | .partialUsed next => inferInstanceAs (Decidable (start ≤ next))
    | .fullUsed => inferInstanceAs (Decidable True)
  inferInstanceAs (Decidable (_ ∧ _))

def MemoryState.answer : MemoryState → Option Nat
  | .undefined => none
  | .partialUsed next => some next
  | .fullUsed => none

section Search

variable {format : HeaderFormat} {pages : Nat} {call : SearchCall}
variable {cells : Cells} {cache : MemoryState} {start : Nat}

theorem search_of_cached (cached : Cached call cache start) :
    search format pages call cells cache start = (cache.answer, cache) := by
  obtain ⟨reads, within⟩ := cached
  cases cache with
  | undefined => exact within.elim
  | partialUsed next =>
      have reached : start ≤ next := within
      simp [search, findNextEmptyPage, reads, reached, MemoryState.answer]
  | fullUsed => simp [search, findNextEmptyPage, reads, MemoryState.answer]

theorem search_of_not_cached (scans : ¬ Cached call cache start) :
    search format pages call cells cache start =
      scanPages format (flashSizePages pages call.driverFree) call.locks cells
        cache start := by
  by_cases reads : call.locks.reads = true
  · cases cache with
    | undefined => simp [search, findNextEmptyPage, reads]
    | partialUsed next =>
        have behind : ¬ start ≤ next := fun reached => scans ⟨reads, reached⟩
        simp [search, findNextEmptyPage, reads, behind]
    | fullUsed => exact absurd ⟨reads, trivial⟩ scans
  · simp [search, findNextEmptyPage, reads]

theorem scanPages_of_isNext {locks : CacheLocks} {page : Nat}
    (next : IsNext (HeaderErased format cells) pages start page) :
    scanPages format pages locks cells cache start =
      (some page, if locks.writes then .partialUsed page else cache) := by
  have finds : Finds format pages cells start
      (scanPages format pages locks cells .undefined start) :=
    scanPages_finds locks trivial
  simp only [scanPages] at finds ⊢
  cases outcome : (List.range' start (pages - start)).find?
      (fun page => decide (HeaderErased format cells page)) with
  | some found =>
      simp only [outcome] at finds ⊢
      rw [(finds.some_isNext found rfl).unique next]
  | none =>
      simp only [outcome] at finds
      exact absurd (finds.none_exhausted rfl) next.not_exhausted

theorem scanPages_of_exhausted {locks : CacheLocks}
    (exhausted : Exhausted (HeaderErased format cells) pages start) :
    scanPages format pages locks cells cache start =
      (none, if locks.writes then .fullUsed else cache) := by
  have finds : Finds format pages cells start
      (scanPages format pages locks cells .undefined start) :=
    scanPages_finds locks trivial
  simp only [scanPages] at finds ⊢
  cases outcome : (List.range' start (pages - start)).find?
      (fun page => decide (HeaderErased format cells page)) with
  | some found =>
      simp only [outcome] at finds
      exact absurd exhausted (finds.some_isNext found rfl).not_exhausted
  | none => rfl

/-- Without the driver no page is seen. -/
theorem exhausted_zero (free : Nat → Prop) (start : Nat) :
    Exhausted free 0 start :=
  fun _ _ inside => absurd inside (Nat.not_lt_zero _)

end Search

/-! ## The published numbers -/

structure MemInfo where
  flashPageSize : Nat
  flashPages : Nat
  flashUsedPages : Nat
  deriving DecidableEq, Repr

/-- The size of the memory is asked for once for itself and once more by the
search. -/
structure MeminfoCall where
  driverFree : Bool
  search : SearchCall
  deriving DecidableEq, Repr

def meminfoRead (format : HeaderFormat) (pages : Nat) (call : MeminfoCall)
    (cells : Cells) (cache : MemoryState) : MemInfo × MemoryState :=
  let found := search format pages call.search cells cache 0
  ({ flashPageSize := flashPageSize
     flashPages := flashSizePages pages call.driverFree
     flashUsedPages := found.1.getD 0 }, found.2)

/-- The cache in USB mode: `init` searches once, and every read of `storage.var`
again.  Nothing is programmed. -/
def usbSession (format : HeaderFormat) (pages : Nat) (cells : Cells)
    (boot : SearchCall) : Machine MemoryState MeminfoCall where
  start := (search format pages boot cells .undefined 0).2
  step cache call := some (meminfoRead format pages call cells cache).2

/-- The page carries the header of a block. -/
def Recorded (format : HeaderFormat) (pages : Nat) (cells : Cells)
    (page : Nat) : Prop :=
  page < pages ∧ ¬ HeaderErased format cells page

instance (format : HeaderFormat) (pages : Nat) (cells : Cells) (page : Nat) :
    Decidable (Recorded format pages cells page) :=
  inferInstanceAs (Decidable (_ ∧ _))

/-- The cache does not say that the memory is full, and without a page number in
the cache the search gets at the memory. -/
def Answers (call : SearchCall) (cache : MemoryState) : Prop :=
  (call.locks.reads = true → cache ≠ .fullUsed) ∧
    (call.driverFree = true ∨
      (call.locks.reads = true ∧ ∃ page, cache = .partialUsed page))

section Session

variable {format : HeaderFormat} {pages : Nat} {cells : Cells}
variable {cache : MemoryState}

/-- A page number in the cache is that of the first empty page.  That the cache
says full means little: a search during which the driver is busy says so. -/
def NamesNext (format : HeaderFormat) (pages : Nat) (cells : Cells)
    (cache : MemoryState) : Prop :=
  ∀ page, cache = .partialUsed page →
    IsNext (HeaderErased format cells) pages 0 page

private theorem namesNext_search (call : SearchCall)
    (names : NamesNext format pages cells cache) :
    NamesNext format pages cells
      (search format pages call cells cache 0).2 := by
  by_cases cached : Cached call cache 0
  · rw [search_of_cached cached]
    exact names
  · rw [search_of_not_cached cached]
    rcases isNext_or_exhausted (HeaderErased format cells)
        (flashSizePages pages call.driverFree) 0 with ⟨next, isNext⟩ | exhausted
    · rw [scanPages_of_isNext isNext]
      split
      · rintro page ⟨⟩
        cases free : call.driverFree with
        | true =>
            rw [free] at isNext
            exact isNext
        | false =>
            rw [free] at isNext
            exact absurd isNext.inside (Nat.not_lt_zero _)
      · exact names
    · rw [scanPages_of_exhausted exhausted]
      split
      · rintro page ⟨⟩
      · exact names

private theorem usbSession_namesNext {boot : SearchCall}
    (reachable : (usbSession format pages cells boot).Reachable cache) :
    NamesNext format pages cells cache :=
  reachable.invariant (I := NamesNext format pages cells)
    (namesNext_search boot (fun _ impossible => (by cases impossible)))
    (by
      rintro state call _ names _ ⟨⟩
      exact namesNext_search call.search names)

private theorem lt_next_iff {call : SearchCall} {page next : Nat}
    (isNext : IsNext (HeaderErased format cells) pages 0 next)
    (answers : Answers call cache) (recorded : Recorded format pages cells page) :
    page < next ↔
      Answers call cache ∧
        (∃ empty, empty < pages ∧ HeaderErased format cells empty) ∧
        ∀ other, other < page → ¬ HeaderErased format cells other := by
  rw [isNext.lt_iff recorded.2]
  constructor
  · intro noneBefore
    exact ⟨answers, ⟨next, isNext.inside, isNext.isFree⟩, noneBefore⟩
  · rintro ⟨_, _, noneBefore⟩
    exact noneBefore

/-- In every state of the cache, the published number is greater than the number
of a recorded page exactly when the search gets an answer, some page is empty,
and no empty page precedes the recorded one. -/
theorem lt_usedPages_iff (names : NamesNext format pages cells cache)
    (call : MeminfoCall) {page : Nat}
    (recorded : Recorded format pages cells page) :
    page < (meminfoRead format pages call cells cache).1.flashUsedPages ↔
      Answers call.search cache ∧
        (∃ empty, empty < pages ∧ HeaderErased format cells empty) ∧
        ∀ other, other < page → ¬ HeaderErased format cells other := by
  have used : (meminfoRead format pages call cells cache).1.flashUsedPages =
      (search format pages call.search cells cache 0).1.getD 0 := rfl
  rw [used]
  by_cases cached : Cached call.search cache 0
  · rw [search_of_cached cached]
    have reads := cached.1
    cases cache with
    | undefined => exact cached.2.elim
    | partialUsed next =>
        have answers : Answers call.search (.partialUsed next) :=
          ⟨fun _ => MemoryState.noConfusion, .inr ⟨reads, next, rfl⟩⟩
        exact lt_next_iff (names next rfl) answers recorded
    | fullUsed =>
        refine iff_of_false (Nat.not_lt_zero _) ?_
        rintro ⟨answers, _⟩
        exact answers.1 reads rfl
  · rw [search_of_not_cached cached]
    cases free : call.search.driverFree with
    | false =>
        rw [show flashSizePages pages false = 0 from rfl,
          scanPages_of_exhausted (exhausted_zero _ _)]
        refine iff_of_false (Nat.not_lt_zero _) ?_
        rintro ⟨⟨_, seen | ⟨reads, next, same⟩⟩, _⟩
        · rw [free] at seen
          cases seen
        · rw [same] at cached
          exact cached ⟨reads, Nat.zero_le _⟩
    | true =>
        have answers : Answers call.search cache := by
          refine ⟨?_, .inl free⟩
          rintro reads rfl
          exact cached ⟨reads, trivial⟩
        rw [show flashSizePages pages true = pages from rfl]
        rcases isNext_or_exhausted (HeaderErased format cells) pages 0 with
          ⟨next, isNext⟩ | exhausted
        · rw [scanPages_of_isNext isNext]
          exact lt_next_iff isNext answers recorded
        · rw [scanPages_of_exhausted exhausted]
          refine iff_of_false (Nat.not_lt_zero _) ?_
          rintro ⟨_, ⟨empty, inside, isFree⟩, _⟩
          exact exhausted empty (Nat.zero_le _) inside isFree

/-- For any contents of the memory and any state of the cache that a session in
USB mode reaches: the published number of used pages is greater than the number
of every recorded page exactly when, as far as there are recorded pages, the
search gets an answer, some page is empty, and no empty page precedes a recorded
one. -/
theorem used_pages_cover_iff {boot : SearchCall}
    (reachable : (usbSession format pages cells boot).Reachable cache)
    (call : MeminfoCall) :
    (∀ page, Recorded format pages cells page →
      page < (meminfoRead format pages call cells cache).1.flashUsedPages) ↔
    (∀ page, Recorded format pages cells page →
      Answers call.search cache ∧
        (∃ empty, empty < pages ∧ HeaderErased format cells empty) ∧
        ∀ other, other < page → ¬ HeaderErased format cells other) := by
  have names := usbSession_namesNext reachable
  constructor
  · intro covers page recorded
    exact (lt_usedPages_iff names call recorded).mp (covers page recorded)
  · intro condition page recorded
    exact (lt_usedPages_iff names call recorded).mpr (condition page recorded)

end Session

/-! ## Hidden pages -/

/-- Every lock is taken at once. -/
def freeCall : SearchCall where
  locks := { reads := true, writes := true }
  driverFree := true

def freeMeminfo : MeminfoCall where
  driverFree := true
  search := freeCall

def sampleCreate : CreateCall where
  locks := freeCall.locks
  settings := some
    { timestamp := 0, fRef := 0, baseIntervalMs := 20, interleaveRatio := (1, 1) }

/-- The memory after a recorder has begun with an erased one. -/
def recordedCells (pages : Nat) (events : List Event) : Cells :=
  ((boot pages freeCall.locks (fun _ => erasedByte) : Recorder IdPacker).run pages
    (fun _ => 0) events).cells

/-- One page of two is recorded. -/
theorem used_pages_cover_iff_onePage :
    let cells := recordedCells 2
      [.tryCreateNewPage sampleCreate 0, .write .complete]
    (∀ page, Recorded (DataBlockPacker.format IdPacker) 2 cells page →
      page < (meminfoRead (DataBlockPacker.format IdPacker) 2 freeMeminfo cells
        (.partialUsed 1)).1.flashUsedPages) ↔
    (∀ page, Recorded (DataBlockPacker.format IdPacker) 2 cells page →
      Answers freeMeminfo.search (.partialUsed 1) ∧
        (∃ empty, empty < 2 ∧
          HeaderErased (DataBlockPacker.format IdPacker) cells empty) ∧
        ∀ other, other < page →
          ¬ HeaderErased (DataBlockPacker.format IdPacker) cells other) := by
  intro cells
  have booted : (usbSession (DataBlockPacker.format IdPacker) 2 cells
      freeCall).Reachable (.partialUsed 1) := by
    have start : (usbSession (DataBlockPacker.format IdPacker) 2 cells
        freeCall).start = .partialUsed 1 := by decide
    rw [← start]
    exact .start
  exact used_pages_cover_iff booted freeMeminfo

/-- The only page is recorded. -/
def fullCells : Cells :=
  recordedCells 1 [.tryCreateNewPage sampleCreate 0, .write .complete]

/-- The write of the first page failed before its header, and the second page is
recorded. -/
def holedCells : Cells :=
  recordedCells 4096
    [.tryCreateNewPage sampleCreate 0,
      .write (.failed 0 (fun _ => erasedByte)),
      .tryCreateNewPage sampleCreate 1, .write .complete]

/-- A full memory is published as an unused one, and blocks behind a page whose
write failed are not counted. -/
theorem recorded_pages_hidden :
    (∃ cache page,
      (usbSession (DataBlockPacker.format IdPacker) 1 fullCells
        freeCall).Reachable cache ∧
      Recorded (DataBlockPacker.format IdPacker) 1 fullCells page ∧
      ¬ page < (meminfoRead (DataBlockPacker.format IdPacker) 1 freeMeminfo
        fullCells cache).1.flashUsedPages) ∧
    (∃ cache page,
      (usbSession (DataBlockPacker.format IdPacker) 4096 holedCells
        freeCall).Reachable cache ∧
      Recorded (DataBlockPacker.format IdPacker) 4096 holedCells page ∧
      ¬ page < (meminfoRead (DataBlockPacker.format IdPacker) 4096 freeMeminfo
        holedCells cache).1.flashUsedPages) := by
  constructor
  · exact ⟨_, 0, .start, by decide, by decide⟩
  · exact ⟨_, 1, .start, by decide, by decide⟩

end SelfWriter.Storage
