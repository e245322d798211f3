import Mathlib.Data.List.Basic
import SelfWriter.Lib.Machine
import SelfWriter.Qspi.Paired

/-!
# No accessor, no power

Any number of accessors share the driver.  Between the operations, and while
none of them is alive, the flash ought to sleep or to wait for its timer.
-/

namespace SelfWriter.Qspi

open SelfWriter.Lib SelfWriter.Lib.Hoare

/-- The driver and the accessors that are alive. -/
structure Clients where
  driver : QSpiDriver
  accessors : List QSPIFlashPageAccessor

/-- What the clients of the storage do, and the firings of the sleep timer.  An
accessor is named by its place among those alive. -/
inductive ClientsStep where
  | selectPage (page : Nat)
  | write (place : Nat) (data : List UInt8)
  | readTo (place offset length : Nat)
  | mapToMem (place offset : Nat)
  | erase (place : Nat)
  | drop (place : Nat)
  | flashErease
  | timer
  deriving DecidableEq, Repr

/-- The steps that begin without an accessor. -/
def ClientsStep.accesses : ClientsStep → Bool
  | .selectPage _ => true
  | .flashErease => true
  | _ => false

namespace Clients

section Steps

variable (world : World)

def use {α : Type} (clients : Clients) (place : Nat)
    (operation : QSPIFlashPageAccessor → StorageM α) : Option Clients :=
  match clients.accessors[place]? with
  | none => none
  | some accessor =>
      some { clients with
        driver := Client.after (operation accessor) clients.driver }

def step (clients : Clients) : ClientsStep → Option Clients
  | .selectPage page =>
      match QSPIStorage.selectPage world page clients.driver with
      | .ok accessor driver =>
          some
            { driver := driver
              accessors := clients.accessors ++ [accessor] }
      | .error _ driver => some { clients with driver := driver }
  | .write place data =>
      clients.use place (fun accessor => accessor.write world data)
  | .readTo place offset length =>
      clients.use place (fun accessor => accessor.readTo world offset length)
  | .mapToMem place offset =>
      clients.use place (fun accessor => accessor.mapToMem world offset)
  | .erase place => clients.use place (fun accessor => accessor.erase world)
  | .drop place =>
      (clients.use place (fun accessor => accessor.drop)).map (fun clients =>
        { clients with accessors := clients.accessors.eraseIdx place })
  | .flashErease =>
      some { clients with
        driver := Client.after (QSPIStorage.flashErease world) clients.driver }
  | .timer => some { clients with driver := clients.driver.flashSleep world }

/-- From the end of `QSpiDriver::init` on. -/
def machine (chip : Chip) : Machine Clients ClientsStep where
  start :=
    { driver := (Client.init chip).driver
      accessors := [] }
  step := step world

/-- While no accessor is alive, an access that has woken the chip up loses no
command before sleep is provided for. -/
def Covered (clients : Clients) : ClientsStep → Prop
  | .selectPage page =>
      clients.accessors = [] → SelectPaired world page clients.driver
  | .flashErease => clients.accessors = [] → ErasePaired world clients.driver
  | _ => True

instance (clients : Clients) (label : ClientsStep) :
    Decidable (Covered world clients label) :=
  match label with
  | .selectPage _ => inferInstanceAs (Decidable (_ → _))
  | .flashErease => inferInstanceAs (Decidable (_ → _))
  | .write _ _ => inferInstanceAs (Decidable True)
  | .readTo _ _ _ => inferInstanceAs (Decidable True)
  | .mapToMem _ _ => inferInstanceAs (Decidable True)
  | .erase _ => inferInstanceAs (Decidable True)
  | .drop _ => inferInstanceAs (Decidable True)
  | .timer => inferInstanceAs (Decidable True)

end Steps

/-! ## The operations of an accessor -/

section Operations

variable {world : World} {driver : QSpiDriver}

private theorem write_samePower (accessor : QSPIFlashPageAccessor) (data : List UInt8) :
    SamePower driver (Client.after (accessor.write world data) driver) :=
  Client.after_of_triple (mapFailure_triple (writeBlock_samePower _ data)
    (fun _ _ same => same)) (.refl driver)

private theorem readTo_samePower (accessor : QSPIFlashPageAccessor)
    (offset length : Nat) :
    SamePower driver
      (Client.after (accessor.readTo world offset length) driver) :=
  Client.after_of_triple (readTo_triple (fun startAddress =>
    (samePower_stable world driver).readDirect startAddress length)
    (fun _ _ same => same) accessor offset) (.refl driver)

private theorem mapToMem_samePower (accessor : QSPIFlashPageAccessor) (offset : Nat) :
    SamePower driver
      (Client.after (accessor.mapToMem world offset) driver) := by
  have kept : Triple (SamePower driver) (accessor.mapToMem world offset)
      (fun _ => SamePower driver) (fun _ => SamePower driver) :=
    (mapToMem_triple ((samePower_stable world driver).setMemoryMappingMode true)
      (fun _ _ same => same) accessor offset).weaken (fun _ same => same)
      (fun _ _ mapped => mapped.1) (fun _ _ same => same)
  exact Client.after_of_triple kept (.refl driver)

private theorem erase_after (settled : Settled driver) :
    Ends (ErasePaired world driver)
      (Client.after (QSPIStorage.flashErease world) driver) :=
  Client.after_of_triple (mapFailure_triple (erase_ends settled)
    (fun _ _ ended => ended)) rfl

/-- Dropping an accessor asks for sleep. -/
theorem drop_after (settled : Settled driver)
    (accessor : QSPIFlashPageAccessor) :
    Settled (Client.after accessor.drop driver) ∧
      (Client.after accessor.drop driver).Rested := by
  have slept : Client.after accessor.drop driver =
      if driver.sleepState = .working then
        { driver with sleepState := .waiting, sleepTimerArmed := true }
      else driver := rfl
  rw [slept]
  by_cases working : driver.sleepState = .working
  · rw [if_pos working]
    exact ⟨.waiting (settled.awake (by rw [working]; decide)),
      .inr ⟨rfl, rfl⟩⟩
  · rw [if_neg working]
    exact ⟨settled, settled.rested working⟩

private theorem flashSleep_after (settled : Settled driver) :
    Settled (driver.flashSleep world) ∧
      ((driver.flashSleep world).sleepState = .working ↔
        driver.sleepState = .working) := by
  apply @flashSleep_leaves world driver (fun after => Settled after ∧
    (after.sleepState = .working ↔ driver.sleepState = .working))
    (fun _ => ⟨settled, Iff.rfl⟩)
  intro armed waiting
  rintro state rfl
  have awake := settled.awake (by rw [waiting]; decide)
  have idle : state.sleepState ≠ .working := by
    rw [waiting]
    decide
  rw [QSpiDriver.enterSleep, bind_of_ok _ (cancelMemoryMapping_eq state)]
  by_cases through : world.transfers state.sent.length = true
  · have sent : QSpiDriver.send world .enterDeepSleep
        { state with memoryMapped := false } = _ := if_pos through
    rw [bind_of_ok _ sent]
    refine ⟨⟨iff_of_true rfl ?_, fun waiting => (by cases waiting)⟩,
      iff_of_false (fun working => (by cases working)) idle⟩
    change (state.chip.execute _ _ _).deepPowerDown = true
    rw [Chip.execute_of_awake awake]
    rfl
  · have lost : QSpiDriver.send world .enterDeepSleep
        { state with memoryMapped := false } = _ := if_neg through
    rw [bind_of_error _ lost]
    exact ⟨⟨settled.asleep_iff, settled.armed⟩, Iff.rfl⟩

end Operations

/-! ## Runs -/

section Runs

variable {world : World} {chip : Chip}

private theorem use_cases {α : Type} {clients after : Clients} {place : Nat}
    {operation : QSPIFlashPageAccessor → StorageM α}
    (steps : clients.use place operation = some after) :
    ∃ accessor, clients.accessors[place]? = some accessor ∧
      after = { clients with
        driver := Client.after (operation accessor) clients.driver } := by
  rw [use] at steps
  split at steps
  · cases steps
  · rename_i accessor alive
    cases steps
    exact ⟨accessor, alive, rfl⟩

private theorem alive_of_getElem {clients : Clients} {place : Nat}
    {accessor : QSPIFlashPageAccessor}
    (alive : clients.accessors[place]? = some accessor) :
    clients.accessors ≠ [] := by
  intro none
  rw [none] at alive
  cases alive

private theorem use_settled {α : Type} {clients after : Clients} {place : Nat}
    {operation : QSPIFlashPageAccessor → StorageM α}
    (settles : ∀ accessor,
      Settled (Client.after (operation accessor) clients.driver))
    (steps : clients.use place operation = some after) :
    Settled after.driver := by
  obtain ⟨accessor, _, rfl⟩ := use_cases steps
  exact settles accessor

private theorem use_alive {α : Type} {clients after : Clients} {place : Nat}
    {operation : QSPIFlashPageAccessor → StorageM α}
    (steps : clients.use place operation = some after) :
    after.accessors ≠ [] := by
  obtain ⟨accessor, alive, rfl⟩ := use_cases steps
  exact alive_of_getElem alive

/-- A selection gives a new accessor, or leaves the accessors as they are and
the flash rested if it is paired. -/
theorem selectPage_step {clients : Clients} (settled : Settled clients.driver)
    (page : Nat) :
    ∃ after, clients.step world (.selectPage page) = some after ∧
      Settled after.driver ∧
      (after.accessors ≠ [] ∧ SelectPaired world page clients.driver ∨
        after.accessors = clients.accessors ∧
          (after.driver.Rested ↔ SelectPaired world page clients.driver)) := by
  have ends := @selectPage_ends world clients.driver settled page
    clients.driver rfl
  rw [step]
  cases outcome : QSPIStorage.selectPage world page clients.driver with
  | ok accessor driver =>
      rw [outcome] at ends
      exact ⟨_, rfl, ends.1, .inl ⟨by simp, ends.2⟩⟩
  | error error driver =>
      rw [outcome] at ends
      exact ⟨_, rfl, ends.settled, .inr ⟨rfl, ends.rested_iff⟩⟩

theorem settled_step {clients after : Clients} {label : ClientsStep}
    (settled : Settled clients.driver)
    (steps : clients.step world label = some after) : Settled after.driver := by
  cases label with
  | selectPage page =>
      obtain ⟨_, same, ended, _⟩ := @selectPage_step world _ settled page
      cases same.symm.trans steps
      exact ended
  | write place data =>
      exact use_settled
        (fun accessor => (write_samePower accessor data).settled settled) steps
  | readTo place offset length =>
      exact use_settled (fun accessor =>
        (readTo_samePower accessor offset length).settled settled) steps
  | mapToMem place offset =>
      exact use_settled (fun accessor =>
        (mapToMem_samePower accessor offset).settled settled) steps
  | erase place =>
      exact use_settled (fun _ => (erase_after settled).settled) steps
  | drop place =>
      obtain ⟨used, uses, rfl⟩ := Option.map_eq_some_iff.mp steps
      have dropped : Settled used.driver :=
        use_settled (fun accessor => (drop_after settled accessor).1) uses
      exact dropped
  | flashErease =>
      cases steps
      exact (erase_after settled).settled
  | timer =>
      cases steps
      exact (flashSleep_after settled).1

/-- An access need not find the flash rested. -/
theorem rested_step {clients after : Clients} {label : ClientsStep}
    (settled : Settled clients.driver)
    (rested : label.accesses = false → clients.accessors = [] →
      clients.driver.Rested)
    (covered : Covered world clients label)
    (steps : clients.step world label = some after) :
    after.accessors = [] → after.driver.Rested := by
  cases label with
  | selectPage page =>
      obtain ⟨_, same, _, alive | ⟨unchanged, rested_iff⟩⟩ :=
        @selectPage_step world _ settled page
      · cases same.symm.trans steps
        exact fun none => absurd none alive.1
      · cases same.symm.trans steps
        exact fun none => rested_iff.mpr (covered (unchanged.symm.trans none))
  | write place data => exact fun none => absurd none (use_alive steps)
  | readTo place offset length => exact fun none => absurd none (use_alive steps)
  | mapToMem place offset => exact fun none => absurd none (use_alive steps)
  | erase place => exact fun none => absurd none (use_alive steps)
  | drop place =>
      obtain ⟨used, uses, rfl⟩ := Option.map_eq_some_iff.mp steps
      obtain ⟨accessor, _, rfl⟩ := use_cases uses
      exact fun _ => (drop_after settled accessor).2
  | flashErease =>
      cases steps
      exact fun none => (erase_after settled).rested_iff.mpr (covered none)
  | timer =>
      cases steps
      intro none
      obtain ⟨after, working⟩ := @flashSleep_after world _ settled
      exact after.rested (mt working.mp (rested rfl none).not_working)

/-- An access that is not covered leaves the flash powered, with nobody to send
it to sleep. -/
theorem uncovered_step {clients : Clients} {label : ClientsStep}
    (settled : Settled clients.driver)
    (uncovered : ¬ Covered world clients label) :
    ∃ after, clients.step world label = some after ∧ after.accessors = [] ∧
      after.driver.sleepState = .working := by
  have working : ∀ {driver : QSpiDriver}, Settled driver → ¬ driver.Rested →
      driver.sleepState = .working := by
    intro driver settled restless
    by_contra idle
    exact restless (settled.rested idle)
  cases label with
  | selectPage page =>
      obtain ⟨none, unpaired⟩ := not_forall.mp uncovered
      obtain ⟨after, steps, ended, paired | ⟨unchanged, rested_iff⟩⟩ :=
        @selectPage_step world _ settled page
      · exact absurd paired.2 unpaired
      · exact ⟨after, steps, unchanged.trans none,
          working ended (mt rested_iff.mp unpaired)⟩
  | flashErease =>
      obtain ⟨none, unpaired⟩ := not_forall.mp uncovered
      have ends := @erase_after world _ settled
      exact ⟨_, rfl, none, working ends.settled
        (mt ends.rested_iff.mp unpaired)⟩
  | write place data => exact absurd trivial uncovered
  | readTo place offset length => exact absurd trivial uncovered
  | mapToMem place offset => exact absurd trivial uncovered
  | erase place => exact absurd trivial uncovered
  | drop place => exact absurd trivial uncovered
  | timer => exact absurd trivial uncovered

/-- Without an accessor only the timer is left. -/
theorem idle_step {clients after : Clients} {label : ClientsStep}
    (settled : Settled clients.driver) (none : clients.accessors = [])
    (idle : label.accesses = false)
    (steps : clients.step world label = some after) :
    after.accessors = [] ∧ (after.driver.sleepState = .working ↔
      clients.driver.sleepState = .working) := by
  have unused : ∀ {α : Type} {place : Nat} {used : Clients}
      {operation : QSPIFlashPageAccessor → StorageM α},
      clients.use place operation ≠ some used := by
    intro α place used operation uses
    obtain ⟨accessor, alive, _⟩ := use_cases uses
    exact alive_of_getElem alive none
  cases label with
  | selectPage page => cases idle
  | flashErease => cases idle
  | write place data => exact absurd steps unused
  | readTo place offset length => exact absurd steps unused
  | mapToMem place offset => exact absurd steps unused
  | erase place => exact absurd steps unused
  | drop place =>
      obtain ⟨used, uses, _⟩ := Option.map_eq_some_iff.mp steps
      exact absurd uses unused
  | timer =>
      cases steps
      exact ⟨none, (flashSleep_after settled).2⟩

/-- From a working driver without an accessor, a covered run comes to rest with
its first access. -/
theorem covered_run (labels : List ClientsStep) :
    ∀ {clients after : Clients}, Settled clients.driver →
      clients.accessors = [] → clients.driver.sleepState = .working →
      (machine world chip).runWithin (Covered world) clients labels =
        some after →
      after.accessors = [] →
      (after.driver.Rested ↔ ∃ label ∈ labels, label.accesses = true) := by
  induction labels with
  | nil =>
      intro clients after _ _ working runs _
      cases runs
      exact iff_of_false (fun rested => rested.not_working working)
        (fun ⟨_, member, _⟩ => List.not_mem_nil member)
  | cons label labels inductionHypothesis =>
      intro clients after settled none working runs ended
      rw [Machine.runWithin] at runs
      split at runs
      · rename_i covered
        obtain ⟨next, steps, runs⟩ := Option.bind_eq_some_iff.mp runs
        have nextSettled := settled_step settled steps
        rw [List.exists_mem_cons_iff]
        cases accesses : label.accesses with
        | true =>
            have kept : Settled after.driver ∧
                (after.accessors = [] → after.driver.Rested) := by
              apply Machine.runWithin_keeps (I := fun clients : Clients =>
                Settled clients.driver ∧
                  (clients.accessors = [] → clients.driver.Rested)) ?_ labels
                ⟨nextSettled, ?_⟩ runs
              · intro state label after kept covered steps
                exact ⟨settled_step kept.1 steps,
                  rested_step kept.1 (fun _ => kept.2) covered steps⟩
              · apply rested_step settled ?_ covered steps
                intro idle
                rw [accesses] at idle
                cases idle
            exact iff_of_true (kept.2 ended) (.inl rfl)
        | false =>
            obtain ⟨nextNone, still⟩ := idle_step settled none accesses steps
            rw [inductionHypothesis nextSettled nextNone (still.mpr working)
              runs ended]
            exact (or_iff_right Bool.false_ne_true).symm
      · cases runs

theorem reachable_settled {clients : Clients}
    (reachable : (machine world chip).Reachable clients) :
    Settled clients.driver := by
  apply reachable.invariant (I := fun clients : Clients => Settled clients.driver)
  · exact ⟨iff_of_false (fun same => (by cases same)) Bool.false_ne_true,
      fun waiting => (by cases waiting)⟩
  · exact fun _ _ _ settled _ steps => settled_step settled steps

end Runs

end Clients

/-- As long as no access loses a command behind its wake-up, the flash rests
whenever no accessor is alive, from the first access on; `init` itself leaves it
working.  An access that does lose one leaves it working, without an accessor. -/
theorem no_wake_up_leak (world : World) (chip : Chip) :
    (∀ labels clients,
      (Clients.machine world chip).runWithin (Clients.Covered world)
          (Clients.machine world chip).start labels = some clients →
      clients.accessors = [] →
      (clients.driver.Rested ↔ ∃ label ∈ labels, label.accesses = true)) ∧
    ∀ clients label, (Clients.machine world chip).Reachable clients →
      ¬ Clients.Covered world clients label →
      ∃ after, clients.step world label = some after ∧ after.accessors = [] ∧
        after.driver.sleepState = .working := by
  constructor
  · intro labels clients runs none
    apply Clients.covered_run labels _ rfl rfl runs none
    exact @Clients.reachable_settled world chip _ .start
  · intro clients label reachable uncovered
    exact Clients.uncovered_step (Clients.reachable_settled reachable) uncovered

/-- A wake-up is lost, and a command of a page that is selected while another
accessor is alive. -/
def coveredWorld : World :=
  { calmWorld with transfers := fun index => index ≠ 3 ∧ index ≠ 7 }

def coveredRun : List ClientsStep :=
  [.selectPage 0, .drop 0, .timer, .selectPage 5000, .selectPage 5000,
    .selectPage 0, .drop 0, .flashErease, .timer]

theorem no_wake_up_leak_covered :
    ∃ clients,
      (Clients.machine coveredWorld freshChip).runWithin
          (Clients.Covered coveredWorld)
          (Clients.machine coveredWorld freshChip).start coveredRun =
        some clients ∧
      clients.accessors = [] ∧ clients.driver.Rested := by
  refine ⟨_, rfl, rfl, ?_⟩
  exact ((no_wake_up_leak coveredWorld freshChip).1 coveredRun _ rfl rfl).mpr
    ⟨.selectPage 0, by decide, rfl⟩

/-- The write enable before the extender of the second page is lost. -/
def lostExtender : World :=
  { calmWorld with transfers := fun index => index != 4 }

def leakingRun : List ClientsStep :=
  [.selectPage 0, .drop 0, .timer, .selectPage 5000, .timer]

/-- No accessor is alive, and the timer does not help either. -/
theorem wake_up_leaks :
    ∃ clients,
      (Clients.machine lostExtender freshChip).run
          (Clients.machine lostExtender freshChip).start leakingRun =
        some clients ∧
      clients.accessors = [] ∧ ¬ clients.driver.Rested :=
  ⟨_, rfl, rfl, fun rested => rested.not_working rfl⟩

end SelfWriter.Qspi
