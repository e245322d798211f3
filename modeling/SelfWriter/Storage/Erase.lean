import SelfWriter.Storage.UsedPages

/-!
# Erasing the memory

`flash_erease` (`main_data_storage/mod.rs`) starts the task `FlashClr`, which
erases the chip through the storage driver.  The cache of the next empty page is
written by the search alone: after an erase it still says what it said before,
and a search that starts behind the first page replaces it by a page that is not
the first empty one.
-/

namespace SelfWriter.Storage

open SelfWriter.Lib SelfWriter.Lib.NorMemory SelfWriter.Lib.NextFree

/-! ## The eraser -/

def erasedCells : Cells := fun _ => erasedByte

/-- `fresh` says that the chip was erased and that nothing was programmed since. -/
structure EraseState where
  cells : Cells
  cache : MemoryState
  eraseInProgress : Bool
  flashClr : Bool
  fresh : Bool

inductive EreaseError where
  | queueFull
  | notStarted
  deriving DecidableEq, Repr

/-- The task may fail to start; the flag stays set then. -/
def flashErease (state : EraseState) (starts : Bool) :
    Except EreaseError Unit × EraseState :=
  if state.eraseInProgress then
    (.error .queueFull, state)
  else if starts then
    (.ok (), { state with eraseInProgress := true, flashClr := true })
  else
    (.error .notStarted, { state with eraseInProgress := true })

/-- How `QSPIStorage::flash_erease` ends. -/
inductive EraseOutcome where
  | erased
  | busy
  | failed (residue : Cells)

def flashClrDone (state : EraseState) (outcome : EraseOutcome) : EraseState :=
  let ended := { state with eraseInProgress := false, flashClr := false }
  match outcome with
  | .erased => { ended with cells := erasedCells, fresh := true }
  | .busy => ended
  | .failed residue => { ended with cells := residue, fresh := false }

inductive EraseLabel where
  | search (call : SearchCall) (start : Nat)
  | flashErease (starts : Bool)
  | flashClrDone (outcome : EraseOutcome)
  | programPage (writes : List Write)

/-- Any history of searches, erases and page programs. -/
def eraser (format : HeaderFormat) (pages : Nat) (cells : Cells)
    (cache : MemoryState) : Machine EraseState EraseLabel where
  start :=
    { cells := cells
      cache := cache
      eraseInProgress := false
      flashClr := false
      fresh := false }
  step state
    | .search call start =>
        some
          { state with
            cache :=
              (search format pages call state.cells state.cache start).2 }
    | .flashErease starts => some (flashErease state starts).2
    | .flashClrDone outcome =>
        if state.flashClr then some (flashClrDone state outcome) else none
    | .programPage writes =>
        some
          { state with
            cells := program state.cells writes
            fresh := false }

/-! ## What an erase should leave -/

/-- `memory_state`; the cache may be locked. -/
def memoryState (locked : Bool) (cache : MemoryState) : MemoryState :=
  if locked then cache else .undefined

def MemoryState.ReportsUsed : MemoryState → Prop
  | .undefined => False
  | .partialUsed next => 0 < next
  | .fullUsed => True

/-- Every page is found empty, and none is reported as used. -/
structure SearchReset (format : HeaderFormat) (pages : Nat)
    (state : EraseState) : Prop where
  finds : ∀ (call : SearchCall) (start : Nat),
    start < flashSizePages pages call.driverFree →
      (search format pages call state.cells state.cache start).1 = some start
  unused : ∀ locked, ¬ (memoryState locked state.cache).ReportsUsed

/-- The cache names no page but the first. -/
def MemoryState.Unused (cache : MemoryState) : Prop :=
  cache = .undefined ∨ cache = .partialUsed 0

instance (cache : MemoryState) : Decidable cache.Unused :=
  inferInstanceAs (Decidable (_ ∨ _))

/-- An erase that leaves a page number or a full memory in the cache, or a
search of the erased memory that writes one: its answer is not in the cache, and
it starts behind the first page or cannot get at the driver. -/
def LeavesStale (pages : Nat) (state : EraseState) : EraseLabel → Prop
  | .search call start =>
      state.fresh = true ∧ call.locks.writes = true ∧
        ¬ Cached call state.cache start ∧
        (0 < start ∨ flashSizePages pages call.driverFree = 0)
  | .flashErease _ => False
  | .flashClrDone .erased => ¬ state.cache.Unused
  | .flashClrDone .busy => False
  | .flashClrDone (.failed _) => False
  | .programPage _ => False

instance (pages : Nat) (state : EraseState) :
    ∀ label, Decidable (LeavesStale pages state label)
  | .search _ _ => inferInstanceAs (Decidable (_ ∧ _))
  | .flashErease _ => inferInstanceAs (Decidable False)
  | .flashClrDone .erased => inferInstanceAs (Decidable (¬ _))
  | .flashClrDone .busy => inferInstanceAs (Decidable False)
  | .flashClrDone (.failed _) => inferInstanceAs (Decidable False)
  | .programPage _ => inferInstanceAs (Decidable False)

section Eraser

variable {format : HeaderFormat} {pages : Nat}

private theorem headerErased_erasedCells (format : HeaderFormat) (page : Nat) :
    HeaderErased format erasedCells page := by
  have word : ∀ address, readU32 erasedCells address = 2 ^ 32 - 1 := by
    intro address
    rw [readU32, show (List.range 4).map
      (fun index => erasedCells (address + index)) =
        [erasedByte, erasedByte, erasedByte, erasedByte] from rfl]
    decide
  rw [HeaderErased, word, word, Nat.min_self]

/-- In an erased memory every page is the next empty one from itself on. -/
theorem isNext_erasedCells {bound start : Nat} (inside : start < bound) :
    IsNext (HeaderErased format erasedCells) bound start start where
  reached := Nat.le_refl _
  inside := inside
  isFree := headerErased_erasedCells format start
  least := fun _ reached before => absurd before (Nat.not_lt.mpr reached)

/-- The cache alone decides whether an erase has reset the search. -/
theorem searchReset_iff {state : EraseState}
    (erased : state.cells = erasedCells) :
    SearchReset format pages state ↔ state.cache.Unused := by
  constructor
  · intro reset
    have unused := reset.unused true
    rw [show memoryState true state.cache = state.cache from rfl] at unused
    cases cache : state.cache with
    | undefined => exact .inl rfl
    | partialUsed next =>
        rw [cache] at unused
        have zero : next = 0 := Nat.eq_zero_of_not_pos unused
        exact .inr (zero ▸ rfl)
    | fullUsed =>
        rw [cache] at unused
        exact absurd trivial unused
  · intro unused
    constructor
    · intro call start inside
      by_cases cached : Cached call state.cache start
      · rw [search_of_cached cached]
        rcases unused with undefined | first
        · rw [undefined] at cached
          exact cached.2.elim
        · rw [first] at cached ⊢
          rw [Nat.le_zero.mp cached.2]
          rfl
      · rw [search_of_not_cached cached, erased,
          scanPages_of_isNext (isNext_erasedCells inside)]
    · intro locked
      rcases unused with undefined | first
      · cases locked <;> simp [memoryState, undefined, MemoryState.ReportsUsed]
      · cases locked <;> simp [memoryState, first, MemoryState.ReportsUsed]

/-- What a search of an erased memory with an unused cache leaves in it. -/
theorem search_unused_iff {cache : MemoryState} (unused : cache.Unused)
    (call : SearchCall) (start : Nat) :
    (search format pages call erasedCells cache start).2.Unused ↔
      ¬ (call.locks.writes = true ∧ ¬ Cached call cache start ∧
        (0 < start ∨ flashSizePages pages call.driverFree = 0)) := by
  by_cases cached : Cached call cache start
  · rw [search_of_cached cached]
    exact iff_of_true unused (fun stale => stale.2.1 cached)
  · rw [search_of_not_cached cached]
    cases writes : call.locks.writes with
    | false =>
        rcases isNext_or_exhausted (HeaderErased format erasedCells)
            (flashSizePages pages call.driverFree) start with
          ⟨next, isNext⟩ | exhausted
        · simpa [scanPages_of_isNext isNext, writes] using unused
        · simpa [scanPages_of_exhausted exhausted, writes] using unused
    | true =>
        rcases Nat.lt_or_ge start (flashSizePages pages call.driverFree) with
          inside | outside
        · rw [scanPages_of_isNext (isNext_erasedCells inside)]
          have seen : flashSizePages pages call.driverFree ≠ 0 := by omega
          simp [writes, cached, seen, MemoryState.Unused]
        · have exhausted : Exhausted (HeaderErased format erasedCells)
              (flashSizePages pages call.driverFree) start := by
            intro other reached inside
            omega
          rw [scanPages_of_exhausted exhausted]
          have stale : 0 < start ∨
              flashSizePages pages call.driverFree = 0 := by omega
          simp [writes, cached, stale, MemoryState.Unused]

/-- Since the last erase nothing was written, and the cache is unused. -/
def KeepsReset (state : EraseState) : Prop :=
  state.fresh = true → state.cells = erasedCells ∧ state.cache.Unused

theorem keepsReset_step {initial : Cells} {cache : MemoryState}
    {state after : EraseState} {label : EraseLabel} (keeps : KeepsReset state)
    (unspoiled : ¬ LeavesStale pages state label)
    (steps : (eraser format pages initial cache).step state label =
      some after) : KeepsReset after := by
  cases label with
  | search call start =>
      cases steps
      intro fresh
      obtain ⟨erased, unused⟩ := keeps fresh
      refine ⟨erased, ?_⟩
      simp only [erased]
      exact (search_unused_iff unused call start).mpr
        (fun stale => unspoiled ⟨fresh, stale⟩)
  | flashErease starts =>
      cases steps
      rw [flashErease]
      split
      · exact keeps
      · split
        · exact keeps
        · exact keeps
  | flashClrDone outcome =>
      simp only [eraser] at steps
      split at steps
      · cases steps
        cases outcome with
        | erased => exact fun _ => ⟨rfl, not_not.mp unspoiled⟩
        | busy => exact keeps
        | failed residue => exact fun fresh => (by cases fresh)
      · cases steps
  | programPage writes =>
      cases steps
      exact fun fresh => (by cases fresh)

/-- Whatever the memory and the cache held: as long as no erase leaves a page
number or a full memory in the cache and no search writes one after it, every
page is found empty and none is reported as used from the end of an erase to the
next page program.  A step that does so leaves the search without its reset. -/
theorem erase_resets_search_unless_stale (format : HeaderFormat) (pages : Nat)
    (initial : Cells) (cache : MemoryState) :
    (∀ state, (eraser format pages initial cache).Reaches
        (fun state label => ¬ LeavesStale pages state label) state →
      state.fresh = true → SearchReset format pages state) ∧
    (∀ state after label, (eraser format pages initial cache).Reaches
        (fun state label => ¬ LeavesStale pages state label) state →
      LeavesStale pages state label →
      (eraser format pages initial cache).step state label = some after →
        after.fresh = true ∧ ¬ SearchReset format pages after) := by
  have keeps : ∀ state, (eraser format pages initial cache).Reaches
      (fun state label => ¬ LeavesStale pages state label) state →
      KeepsReset state := by
    intro state reaches
    exact reaches.invariant (I := KeepsReset) (fun fresh => (by cases fresh))
      (fun _ _ _ keeps unspoiled steps => keepsReset_step keeps unspoiled steps)
  constructor
  · intro state reaches fresh
    obtain ⟨erased, unused⟩ := keeps state reaches fresh
    exact (searchReset_iff erased).mpr unused
  · intro state after label reaches stale steps
    cases label with
    | search call start =>
        obtain ⟨fresh, leaves⟩ := stale
        obtain ⟨erased, unused⟩ := keeps state reaches fresh
        cases steps
        refine ⟨fresh, fun reset => ?_⟩
        have still := (searchReset_iff (by exact erased)).mp reset
        simp only [erased] at still
        exact (search_unused_iff unused call start).mp still leaves
    | flashErease starts => exact stale.elim
    | flashClrDone outcome =>
        simp only [eraser] at steps
        split at steps
        · cases steps
          cases outcome with
          | erased =>
              refine ⟨rfl, fun reset => ?_⟩
              have unused : (flashClrDone state .erased).cache.Unused :=
                (searchReset_iff rfl).mp reset
              exact stale unused
          | busy => exact stale.elim
          | failed residue => exact stale.elim
        · cases steps
    | programPage writes => exact stale.elim

end Eraser

/-! ## A stale cache -/

/-- An empty memory is erased once more and searched from its beginning. -/
theorem erase_resets_search_unless_stale_empty :
    ∃ state, (eraser (DataBlockPacker.format IdPacker) 2 erasedCells
        .undefined).runWithin (fun state label => ¬ LeavesStale 2 state label)
        (eraser (DataBlockPacker.format IdPacker) 2 erasedCells
          .undefined).start
        [.search freeCall 0, .flashErease true, .flashClrDone .erased,
          .search freeCall 0] = some state ∧
      SearchReset (DataBlockPacker.format IdPacker) 2 state := by
  obtain ⟨state, runs, fresh⟩ :
      ∃ state ∈ (eraser (DataBlockPacker.format IdPacker) 2 erasedCells
        .undefined).runWithin (fun state label => ¬ LeavesStale 2 state label)
        (eraser (DataBlockPacker.format IdPacker) 2 erasedCells
          .undefined).start
        [.search freeCall 0, .flashErease true, .flashClrDone .erased,
          .search freeCall 0], state.fresh = true := by
    decide
  exact ⟨state, runs, (erase_resets_search_unless_stale
    (DataBlockPacker.format IdPacker) 2 erasedCells .undefined).1 state
    (.runWithin _ .start runs) fresh⟩

/-- After the boot search of a full memory and an erase the search finds no
page; after that of a memory with one used page it does not find the first. -/
theorem erase_leaves_stale_cache :
    (∃ state, (eraser (DataBlockPacker.format IdPacker) 1 fullCells
        .undefined).Reachable state ∧ state.fresh = true ∧
      (search (DataBlockPacker.format IdPacker) 1 freeCall state.cells
        state.cache 0).1 = none ∧
      ¬ SearchReset (DataBlockPacker.format IdPacker) 1 state) ∧
    (∃ state, (eraser (DataBlockPacker.format IdPacker) 2 fullCells
        .undefined).Reachable state ∧ state.fresh = true ∧
      (search (DataBlockPacker.format IdPacker) 2 freeCall state.cells
        state.cache 0).1 = some 1 ∧
      ¬ SearchReset (DataBlockPacker.format IdPacker) 2 state) := by
  constructor
  · obtain ⟨state, runs, fresh, missing⟩ :
        ∃ state ∈ (eraser (DataBlockPacker.format IdPacker) 1 fullCells
          .undefined).run (eraser (DataBlockPacker.format IdPacker) 1 fullCells
            .undefined).start
          [.search freeCall 0, .flashErease true, .flashClrDone .erased],
          state.fresh = true ∧
            (search (DataBlockPacker.format IdPacker) 1 freeCall state.cells
              state.cache 0).1 = none := by
      decide
    refine ⟨state, .run _ .start runs, fresh, missing, fun reset => ?_⟩
    have found := reset.finds freeCall 0 (by decide)
    rw [missing] at found
    cases found
  · obtain ⟨state, runs, fresh, second⟩ :
        ∃ state ∈ (eraser (DataBlockPacker.format IdPacker) 2 fullCells
          .undefined).run (eraser (DataBlockPacker.format IdPacker) 2 fullCells
            .undefined).start
          [.search freeCall 0, .flashErease true, .flashClrDone .erased],
          state.fresh = true ∧
            (search (DataBlockPacker.format IdPacker) 2 freeCall state.cells
              state.cache 0).1 = some 1 := by
      decide
    refine ⟨state, .run _ .start runs, fresh, second, fun reset => ?_⟩
    have found := reset.finds freeCall 0 (by decide)
    rw [second] at found
    cases found

end SelfWriter.Storage
