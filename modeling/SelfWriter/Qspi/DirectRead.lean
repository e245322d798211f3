import SelfWriter.Qspi.Addressing
import SelfWriter.Qspi.Discipline

/-!
# The pointer handed to the USB layer

`flash_read` (`threads/vfs/callbacks.rs`) selects the page, maps the flash into
memory, hands the pointer out and drops the accessor, each under the driver's
mutex; the sleep timer may fire between any two of these.  The USB layer reads
through the pointer later.
-/

namespace SelfWriter.Qspi

open SelfWriter.Lib SelfWriter.Lib.Hoare

/-! ## The cached extender -/

/-- The driver's copy of the extender was never set, or is the chip's. -/
def Cached (driver : QSpiDriver) : Prop :=
  driver.extenderValue = 0xFF ∨ driver.extenderValue = driver.chip.extender

theorem Chip.execute_extender {world : World} {index : Nat} {chip : Chip}
    {command : Command} (other : ∀ value, command ≠ .writeAddrExtanderReg value) :
    (chip.execute world index command).extender = chip.extender := by
  cases asleep : chip.deepPowerDown with
  | true =>
      rw [Chip.execute_of_asleep asleep, Chip.executeAsleep]
      split <;> rfl
  | false =>
      rw [Chip.execute_of_awake asleep]
      cases command with
      | writeAddrExtanderReg value => exact absurd rfl (other value)
      | wakeUp => rfl
      | enterDeepSleep => rfl
      | writeEnable => rfl
      | readFlagStatus => rfl
      | qioFastRead address length => rfl
      | qioFastProgramm address block =>
          rw [Chip.executeAwake]
          split <;> rfl
      | dieErase address =>
          rw [Chip.executeAwake]
          split <;> rfl

section Operations

variable {world : World}

private theorem send_cached {command : Command}
    (other : ∀ value, command ≠ .writeAddrExtanderReg value) :
    Triple Cached (QSpiDriver.send world command) (fun _ => Cached)
      (fun _ => Cached) := by
  apply send_leaves
  · exact fun _ cached => cached
  · intro driver cached
    rw [Cached]
    dsimp only
    rw [Chip.execute_extender other]
    exact cached

private theorem cached_stable : Stable world Cached (fun _ => Cached) where
  send := by
    intro command quiet
    apply send_cached
    rintro value rfl
    exact quiet
  mapped := fun _ _ cached => cached

private theorem wakeUp_cached :
    Triple Cached (QSpiDriver.wakeUp world) (fun _ => Cached)
      (fun _ => Cached) := by
  rw [QSpiDriver.wakeUp]
  apply Triple.bind (Triple.read (fun _ cached => cached))
  intro driver
  apply Triple.ite
  · intro _
    apply cached_stable.cancelMemoryMapping.bind
    intro _
    apply Triple.bind (send_cached (by simp))
    intro _
    exact Triple.change (fun _ cached => cached)
  · intro _
    exact Triple.change (fun _ cached => cached)

/-- The extender that an accessor asks for is the chip's afterwards. -/
theorem setAddrExtender_cached (value : UInt8) :
    Triple (fun driver => Open driver ∧ Cached driver)
      (QSpiDriver.setAddrExtender world value)
      (fun _ driver => Cached driver ∧ driver.extenderValue = value)
      (fun _ => Cached) := by
  rw [QSpiDriver.setAddrExtender]
  apply Triple.bind (Triple.read (Q := fun driver state =>
    driver = state ∧ Open state ∧ Cached state) (fun _ both => ⟨rfl, both⟩))
  intro driver
  apply Triple.ite
  · intro _
    apply Triple.bind (R := fun _ state =>
      state.chip.deepPowerDown = false ∧ Cached state)
    · rintro state ⟨_, opened, cached⟩
      rw [cancelMemoryMapping_eq]
      exact ⟨opened.awake, cached⟩
    · intro _
      apply Triple.bind (R := fun _ state =>
        (state.chip.deepPowerDown = false ∧
          state.chip.writeEnableLatch = true) ∧ Cached state)
      · rintro state ⟨awake, cached⟩
        have kept := @send_cached world .writeEnable
          (by simp) state cached
        rw [QSpiDriver.writeEnable]
        rw [QSpiDriver.send] at kept ⊢
        by_cases through : world.transfers state.sent.length = true
        · rw [if_pos through] at kept ⊢
          refine ⟨?_, kept⟩
          dsimp only
          rw [Chip.execute_of_awake awake]
          exact ⟨awake, rfl⟩
        · rw [if_neg through] at kept ⊢
          exact kept
      · intro _
        apply Triple.bind (R := fun _ state => state.chip.extender = value)
        · rintro state ⟨⟨awake, latched⟩, cached⟩
          rw [QSpiDriver.send]
          by_cases through : world.transfers state.sent.length = true
          · rw [if_pos through]
            dsimp only
            rw [Chip.execute_of_awake awake, Chip.executeAwake, if_pos latched]
          · rw [if_neg through]
            exact cached
        · intro _
          exact Triple.change (fun _ same => ⟨.inr same.symm, rfl⟩)
  · intro same
    apply Triple.answer
    rintro state ⟨rfl, _, cached⟩
    exact ⟨cached, not_not.mp same⟩

private theorem enterSleep_cached :
    Triple Cached (QSpiDriver.enterSleep world) (fun _ => Cached)
      (fun _ => Cached) := by
  rw [QSpiDriver.enterSleep]
  apply cached_stable.cancelMemoryMapping.bind
  intro _
  apply Triple.bind (send_cached (by simp))
  intro _
  exact Triple.change (fun _ cached => cached)

/-- On its way to sleep the driver leaves the memory-mapped mode first. -/
theorem enterSleep_unmapped :
    Triple (fun _ => True) (QSpiDriver.enterSleep world)
      (fun _ driver => driver.memoryMapped = false)
      (fun _ driver => driver.memoryMapped = false) := by
  rw [QSpiDriver.enterSleep]
  apply Triple.bind (R := fun _ driver => driver.memoryMapped = false)
  · intro driver _
    rw [cancelMemoryMapping_eq]
  · intro _
    apply Triple.bind (R := fun _ driver => driver.memoryMapped = false)
    · exact send_leaves (fun _ unmapped => unmapped) (fun _ unmapped => unmapped)
    · intro _
      exact Triple.change (fun _ unmapped => unmapped)

end Operations

/-! ## Sector reads and the sleep timer -/

namespace DirectRead

inductive Phase where
  | idle
  | selected (offset : Nat) (page : QSPIFlashPageAccessor)
  | mapped (offset pointer : Nat) (page : QSPIFlashPageAccessor)
  /-- `flash_read` is over; the host may still collect the packets. -/
  | returned (offset pointer : Nat)

structure State where
  driver : QSpiDriver
  phase : Phase

inductive Label where
  | selects (offset : Nat)
  | maps
  /-- The destructor does nothing when it does not get the driver at once. -/
  | drops (locked : Bool)
  | timer
  deriving DecidableEq, Repr

section Steps

variable (world : World)

/-- The next read begins when the last one is over. -/
def Phase.isOver : Phase → Bool
  | idle => true
  | returned _ _ => true
  | _ => false

def Phase.isReturned : Phase → Bool
  | returned _ _ => true
  | _ => false

def step (state : State) : Label → Option State
  | .selects offset =>
      if state.phase.isOver = true ∧ offset < QSPIStorage.flashSize then
        match QSPIStorage.selectPage world (offset / QSPIStorage.flashPageSize)
            state.driver with
        | .ok page driver =>
            some { driver := driver, phase := .selected offset page }
        | .error _ driver => some { driver := driver, phase := .idle }
      else
        none
  | .maps =>
      match state.phase with
      | .selected offset page =>
          match page.mapToMem world (offset % QSPIStorage.flashPageSize)
              state.driver with
          | .ok pointer driver =>
              some { driver := driver, phase := .mapped offset pointer page }
          | .error _ driver => some { driver := driver, phase := .idle }
      | _ => none
  | .drops locked =>
      match state.phase with
      | .mapped offset pointer page =>
          some
            { driver :=
                if locked then Client.after page.drop state.driver
                else state.driver
              phase := .returned offset pointer }
      | _ => none
  | .timer => some { state with driver := state.driver.flashSleep world }

/-- From the end of `QSpiDriver::init` on. -/
def machine (chip : Chip) : Machine State Label where
  start := { driver := (Client.init chip).driver, phase := .idle }
  step := step world

end Steps

/-- The region behind the pointer shows the page of the offset. -/
structure Shows (driver : QSpiDriver) (offset : Nat) : Prop where
  awake : driver.chip.deepPowerDown = false
  extender : driver.chip.extender =
    pageExtender (offset / QSPIStorage.flashPageSize)
  mapped : driver.memoryMapped = true

/-- A pointer that was handed out can be read through. -/
def Readable (state : State) : Prop :=
  ∀ offset pointer, state.phase = .returned offset pointer →
    Shows state.driver offset

/-- The sleep timer expires while the host still has the pointer. -/
def Expires (state : State) (label : Label) : Prop :=
  label = .timer ∧ state.phase.isReturned = true ∧
    state.driver.sleepTimerArmed = true ∧ state.driver.sleepState = .waiting

section Runs

variable {world : World}

/-- What each phase of a read has reached. -/
def Phase.Holds (driver : QSpiDriver) : Phase → Prop
  | idle => True
  | selected offset _ => Open driver ∧
      driver.chip.extender = pageExtender (offset / QSPIStorage.flashPageSize)
  | mapped offset _ _ => Open driver ∧ Shows driver offset
  | returned offset _ => Shows driver offset

structure Served (state : State) : Prop where
  resting : Resting state.driver
  cached : Cached state.driver
  holds : state.phase.Holds state.driver

theorem Served.readable {state : State} (served : Served state) :
    Readable state := by
  intro offset pointer returned
  have holds := served.holds
  rw [returned] at holds
  exact holds

private theorem selectPage_served {offset : Nat} (inDevice : offset < QSPIStorage.flashSize) :
    Triple (fun driver => Resting driver ∧ Cached driver)
      (QSPIStorage.selectPage world (offset / QSPIStorage.flashPageSize))
      (fun _ driver => Open driver ∧ Cached driver ∧
        driver.chip.extender =
          pageExtender (offset / QSPIStorage.flashPageSize))
      (fun _ driver => Resting driver ∧ Cached driver) := by
  have page : offset / QSPIStorage.flashPageSize < QSPIStorage.flashSizePages := by
    rw [show QSPIStorage.flashSize = 2 ^ 27 from rfl] at inDevice
    rw [flashSizePages_eq, show QSPIStorage.flashPageSize = 4096 from rfl]
    omega
  have known := pageExtender_ne page
  rw [QSPIStorage.selectPage]
  have wakes := wakeUp_resting.both (@wakeUp_cached world)
  apply (mapFailure_triple wakes (fun _ _ both => both)).bind
  intro _
  have selects := (setAddrExtender_open _).both (@setAddrExtender_cached
    world (pageExtender (offset / QSPIStorage.flashPageSize)))
  apply (mapFailure_triple (selects.weaken
    (fun _ both => ⟨both.1, both⟩) (fun _ _ both => both)
    (fun _ _ both => ⟨both.1.resting, both.2⟩)) (fun _ _ both => both)).bind
  intro _
  apply Triple.answer
  rintro driver ⟨opened, cached, same⟩
  refine ⟨opened, cached, ?_⟩
  rcases cached with unknown | current
  · exact absurd (same.symm.trans unknown) known
  · exact current.symm.trans same

private theorem mapToMem_served {offset : Nat} (page : QSPIFlashPageAccessor) :
    Triple (fun driver => (Open driver ∧ driver.chip.extender =
        pageExtender (offset / QSPIStorage.flashPageSize)) ∧ Cached driver)
      (page.mapToMem world (offset % QSPIStorage.flashPageSize))
      (fun _ driver => (Open driver ∧ Shows driver offset) ∧ Cached driver)
      (fun _ driver => Open driver ∧ Cached driver) := by
  have extender : Stable world
      (fun driver => driver.chip.extender =
        pageExtender (offset / QSPIStorage.flashPageSize)) (fun _ _ => True) := by
    constructor
    · intro command quiet driver same
      rw [QSpiDriver.send]
      by_cases through : world.transfers driver.sent.length = true
      · rw [if_pos through]
        dsimp only
        rw [(driver.chip.execute_plain world _ quiet.plain).2]
        exact same
      · rw [if_neg through]
        exact trivial
    · exact fun _ _ same => same
  have maps := ((@setMemoryMappingMode_open world).both
    (extender.setMemoryMappingMode true)).both
    ((cached_stable.setMemoryMappingMode true).both
      (@setMemoryMappingMode_mapped world))
  rw [QSPIFlashPageAccessor.mapToMem]
  apply (mapFailure_triple (maps.weaken
    (fun _ (start : (Open _ ∧ _) ∧ Cached _) => ⟨start.1, start.2, trivial⟩)
    (fun _ _ reached => reached)
    (fun _ _ reached => ⟨reached.1.1, reached.2.1⟩)) (fun _ _ both => both)).bind
  intro _
  apply Triple.answer
  rintro driver ⟨⟨opened, same⟩, cached, mapped⟩
  exact ⟨⟨opened, opened.awake, same, mapped⟩, cached⟩

private theorem drop_served {driver : QSpiDriver} {offset : Nat}
    (opened : Open driver) (shows : Shows driver offset) (cached : Cached driver)
    (page : QSPIFlashPageAccessor) :
    Resting (Client.after page.drop driver) ∧
      Cached (Client.after page.drop driver) ∧
      Shows (Client.after page.drop driver) offset := by
  have drops : Triple (fun state => Cached state ∧ Shows state offset) page.drop
      (fun _ state => Cached state ∧ Shows state offset)
      (fun _ state => Cached state ∧ Shows state offset) := by
    refine mapFailure_triple (F := fun _ _ => False) (Triple.change ?_)
      (fun _ _ impossible => impossible.elim)
    rintro state ⟨cached, shows⟩
    by_cases working : state.sleepState = .working
    · rw [if_pos working]
      exact ⟨cached, shows.awake, shows.extender, shows.mapped⟩
    · rw [if_neg working]
      exact ⟨cached, shows⟩
  exact ⟨Client.after_of_triple (Client.drop_resting page) opened.resting,
    Client.after_of_triple drops ⟨cached, shows⟩⟩

private theorem flashSleep_cached {driver : QSpiDriver} (cached : Cached driver) :
    Cached (driver.flashSleep world) := by
  apply flashSleep_leaves (fun _ => cached)
  intro _ _
  apply enterSleep_cached.weaken
  · rintro _ rfl
    exact cached
  · exact fun _ _ slept => slept
  · exact fun _ _ failed => failed

/-- The timer ends the mapping, even when the chip does not go to sleep. -/
theorem flashSleep_unmapped {driver : QSpiDriver}
    (armed : driver.sleepTimerArmed = true)
    (waiting : driver.sleepState = .waiting) :
    (driver.flashSleep world).memoryMapped = false := by
  apply @flashSleep_leaves world driver (fun after => after.memoryMapped = false)
    (fun idle => absurd ⟨armed, waiting⟩ idle)
  intro _ _
  exact enterSleep_unmapped.weaken (fun _ _ => trivial)
    (fun _ _ unmapped => unmapped) (fun _ _ unmapped => unmapped)

/-! One lemma for each label. -/

theorem Served.selects {state after : State} {offset : Nat}
    (served : Served state)
    (steps : step world state (.selects offset) = some after) : Served after := by
  obtain ⟨resting, cached, _⟩ := served
  rw [DirectRead.step] at steps
  split at steps
  · rename_i ready
    have reached := @selectPage_served world offset ready.2 state.driver
      ⟨resting, cached⟩
    cases outcome : QSPIStorage.selectPage world
        (offset / QSPIStorage.flashPageSize) state.driver with
    | ok page driver =>
        rw [outcome] at reached
        simp only [outcome, Option.some.injEq] at steps
        cases steps
        obtain ⟨opened, cached, extender⟩ := reached
        exact ⟨opened.resting, cached, opened, extender⟩
    | error error driver =>
        rw [outcome] at reached
        simp only [outcome, Option.some.injEq] at steps
        cases steps
        exact ⟨reached.1, reached.2, trivial⟩
  · cases steps

theorem Served.maps {state after : State} (served : Served state)
    (steps : step world state .maps = some after) : Served after := by
  obtain ⟨_, cached, holds⟩ := served
  rw [DirectRead.step] at steps
  cases phase : state.phase with
  | idle => simp [phase] at steps
  | mapped offset pointer page => simp [phase] at steps
  | returned offset pointer => simp [phase] at steps
  | selected offset page =>
      rw [phase] at holds
      have reached := @mapToMem_served world offset
        page state.driver ⟨holds, cached⟩
      cases outcome : page.mapToMem world
          (offset % QSPIStorage.flashPageSize) state.driver with
      | ok pointer driver =>
          rw [outcome] at reached
          simp only [phase, outcome, Option.some.injEq] at steps
          cases steps
          obtain ⟨⟨opened, shows⟩, cached⟩ := reached
          exact ⟨opened.resting, cached, opened, shows⟩
      | error error driver =>
          rw [outcome] at reached
          simp only [phase, outcome, Option.some.injEq] at steps
          cases steps
          exact ⟨Open.resting reached.1, reached.2, trivial⟩

theorem Served.drops {state after : State} {locked : Bool}
    (served : Served state)
    (steps : step world state (.drops locked) = some after) : Served after := by
  obtain ⟨resting, cached, holds⟩ := served
  rw [DirectRead.step] at steps
  cases phase : state.phase with
  | idle => simp [phase] at steps
  | selected offset page => simp [phase] at steps
  | returned offset pointer => simp [phase] at steps
  | mapped offset pointer page =>
      rw [phase] at holds
      obtain ⟨opened, shows⟩ := holds
      simp only [phase, Option.some.injEq] at steps
      cases steps
      cases locked with
      | false => exact ⟨resting, cached, shows⟩
      | true =>
          obtain ⟨resting, cached, shows⟩ := drop_served opened shows cached page
          exact ⟨resting, cached, shows⟩

/-- The timer leaves an open chip alone, and a pointer that was returned when it
does not expire. -/
theorem Served.timer {state after : State} (served : Served state)
    (keeps : ¬ Expires state .timer)
    (steps : step world state .timer = some after) : Served after := by
  obtain ⟨resting, cached, holds⟩ := served
  rw [DirectRead.step] at steps
  cases steps
  refine ⟨Client.flashSleep_resting resting, flashSleep_cached cached, ?_⟩
  cases phase : state.phase with
  | idle => exact trivial
  | selected offset page =>
      rw [phase] at holds
      rw [flashSleep_of_working holds.1.working]
      exact holds
  | mapped offset pointer page =>
      rw [phase] at holds
      rw [flashSleep_of_working holds.1.working]
      exact holds
  | returned offset pointer =>
      rw [phase] at holds
      have calm : state.driver.flashSleep world = state.driver := by
        rw [QSpiDriver.flashSleep, if_neg]
        rintro ⟨armed, waiting⟩
        apply keeps
        rw [Expires, phase]
        exact ⟨rfl, rfl, armed, waiting⟩
      rw [calm]
      exact holds

theorem Served.step {state after : State} {label : Label}
    (served : Served state) (keeps : ¬ Expires state label)
    (steps : step world state label = some after) : Served after := by
  cases label with
  | selects offset => exact served.selects steps
  | maps => exact served.maps steps
  | drops locked => exact served.drops steps
  | timer => exact served.timer keeps steps

theorem reaches_served {chip : Chip} {state : State}
    (reaches : (machine world chip).Reaches
      (fun state label => ¬ Expires state label) state) : Served state := by
  apply reaches.invariant (I := Served)
  · refine ⟨⟨?_, ?_⟩, .inl rfl, trivial⟩
    · exact ⟨fun same => (by cases same), fun same => (by cases same)⟩
    · exact fun _ member => absurd member List.not_mem_nil
  · intro state label after served keeps steps
    exact served.step keeps steps

private theorem unreadable_of_expires {state after : State} {label : Label}
    (expires : Expires state label)
    (steps : step world state label = some after) : ¬ Readable after := by
  obtain ⟨rfl, outstanding, armed, waiting⟩ := expires
  rw [step] at steps
  cases steps
  cases phase : state.phase with
  | idle =>
      rw [phase] at outstanding
      cases outstanding
  | selected offset page =>
      rw [phase] at outstanding
      cases outstanding
  | mapped offset pointer page =>
      rw [phase] at outstanding
      cases outstanding
  | returned offset pointer =>
      intro readable
      have shows := readable offset pointer rfl
      have mapped := shows.mapped
      rw [flashSleep_unmapped armed waiting] at mapped
      cases mapped

end Runs

/-- The pointer stays readable in the runs in which the sleep timer does not
expire before the next read; where it does, the pointer is dead at once. -/
theorem pointer_readable_until_sleep (world : World) (chip : Chip) :
    (∀ state,
      (machine world chip).Reaches (fun state label => ¬ Expires state label)
        state →
      Readable state) ∧
    (∀ state label after,
      (machine world chip).Reachable state → Expires state label →
      step world state label = some after → ¬ Readable after) :=
  ⟨fun _ reaches => (reaches_served reaches).readable,
    fun _ _ _ _ expires steps => unreadable_of_expires expires steps⟩

instance (state : State) (label : Label) : Decidable (Expires state label) :=
  inferInstanceAs (Decidable (_ ∧ _ ∧ _ ∧ _))

/-- The timer fires inside the first read and after a destructor that did not get
the driver. -/
def quickReads : List Label :=
  [.selects 0, .timer, .maps, .timer, .drops true, .selects 512, .maps,
    .drops false, .timer]

theorem pointer_readable_until_sleep_quickReads :
    ∃ state, (machine calmWorld freshChip).runWithin
        (fun state label => ¬ Expires state label)
        (machine calmWorld freshChip).start quickReads = some state ∧
      state.phase.isReturned = true ∧ Readable state :=
  ⟨_, rfl, rfl, (pointer_readable_until_sleep calmWorld freshChip).1 _
    (.runWithin quickReads .start rfl)⟩

/-- A host that takes ten milliseconds to collect the packets. -/
def slowRead : List Label :=
  [.selects 0, .maps, .drops true, .timer]

theorem pointer_dead_after_sleep :
    ∃ state, (machine calmWorld freshChip).Reachable state ∧
      ¬ Readable state ∧ state.driver.chip.deepPowerDown = true := by
  have runs : ∃ state, (machine calmWorld freshChip).run
      (machine calmWorld freshChip).start slowRead = some state ∧
        state.driver.memoryMapped = false ∧
        state.driver.chip.deepPowerDown = true ∧
        state.phase = .returned 0 qspiMemoryMappedRegion :=
    ⟨_, rfl, rfl, rfl, rfl⟩
  obtain ⟨state, runs, unmapped, asleep, phase⟩ := runs
  refine ⟨state, .run slowRead .start runs, fun readable => ?_, asleep⟩
  have shows := readable _ _ phase
  have mapped := shows.mapped
  rw [unmapped] at mapped
  cases mapped

end DirectRead

end SelfWriter.Qspi
