import SelfWriter.Lib.Machine
import SelfWriter.Settings.AppSettings

/-!
# Saving after a delay

`start_writing_settings` (`settings/store_async.rs`): a request creates a one-shot
timer, starts it and puts it into the one slot that all requests share, which
drops the timer that was there.  The timer's callback saves the settings and
empties the slot.

Every step below is protected by a lock; tasks and the callback may be preempted
between any two of them.  A timer that is dropped is deleted and never fires.
Changes of the settings are counted in the order in which the lock put them.
-/

namespace SelfWriter.Settings.StoreAsync

open SelfWriter.Lib

/-- The settings and the number of changes they have seen. -/
structure Version where
  settings : AppSettings
  changes : Nat

def Version.next (version : Version) (change : AppSettings → AppSettings) :
    Version where
  settings := change version.settings
  changes := version.changes + 1

inductive Phase where
  /-- With the changes that the task has made and not asked to save. -/
  | running (changes : List Nat)
  /-- Has created a timer, and is about to take the slot. -/
  | created (changes : List Nat) (timer : Nat)

inductive Callback where
  | idle
  | fired (timer : Nat)
  /-- The attempt to save is over; the slot is yet to be emptied. -/
  | saved (timer : Nat)

structure State (Task : Type) where
  current : Version
  /-- What the last successful save has written. -/
  image : Version
  phase : Task → Phase
  /-- Changes whose save was asked for and answered with `Ok`. -/
  requested : List Nat
  slot : Option Nat
  armed : List Nat
  created : Nat
  callback : Callback

inductive Label (Task : Type) where
  | modifies (task : Task) (change : AppSettings → AppSettings)
  /-- Nothing to write, or no timer could be created. -/
  | skips (task : Task)
  | creates (task : Task)
  | arms (task : Task)
  | fires (timer : Nat)
  | saves
  | failsToSave
  | clears

section Steps

variable {Task : Type} [DecidableEq Task]

def State.setPhase (state : State Task) (task : Task) (phase : Phase) :
    State Task :=
  { state with
    phase := fun other => if other = task then phase else state.phase other }

/-- The timer in the slot is dropped. -/
def State.dropSlot (state : State Task) : State Task :=
  match state.slot with
  | none => state
  | some timer =>
      { state with
        slot := none
        armed := state.armed.filter (fun other => other ≠ timer) }

def State.startTimer (state : State Task) (timer : Nat) : State Task :=
  { state.dropSlot with
    slot := some timer
    armed := timer :: state.dropSlot.armed }

def step (state : State Task) : Label Task → Option (State Task)
  | .modifies task change =>
      match state.phase task with
      | .running changes =>
          let current := state.current.next change
          some ({ state with current := current }.setPhase task
            (.running (current.changes :: changes)))
      | .created _ _ => none
  | .skips task =>
      match state.phase task with
      | .running _ => some (state.setPhase task (.running []))
      | .created _ _ => none
  | .creates task =>
      match state.phase task with
      | .running changes =>
          some ({ state with created := state.created + 1 }.setPhase task
            (.created changes state.created))
      | .created _ _ => none
  | .arms task =>
      match state.phase task with
      | .running _ => none
      | .created changes timer =>
          some ({ state.startTimer timer with
            requested := changes ++ state.requested }.setPhase task
              (.running []))
  | .fires timer =>
      match state.callback with
      | .idle =>
          if timer ∈ state.armed then
            some { state with
              armed := state.armed.filter (fun other => other ≠ timer)
              callback := .fired timer }
          else
            none
      | _ => none
  | .saves =>
      match state.callback with
      | .fired timer =>
          some { state with image := state.current, callback := .saved timer }
      | _ => none
  | .failsToSave =>
      match state.callback with
      | .fired timer => some { state with callback := .saved timer }
      | _ => none
  | .clears =>
      match state.callback with
      | .saved _ => some { state.dropSlot with callback := .idle }
      | _ => none

variable (Task)

/-- No task has changed anything yet, and the image is that of the start. -/
def machine (settings : AppSettings) : Machine (State Task) (Label Task) where
  start :=
    { current := { settings := settings, changes := 0 }
      image := { settings := settings, changes := 0 }
      phase := fun _ => .running []
      requested := []
      slot := none
      armed := []
      created := 0
      callback := .idle }
  step := step

end Steps

section Runs

variable {Task : Type}

/-- No save timer is armed and no callback is running. -/
def Quiet (state : State Task) : Prop :=
  state.armed = [] ∧ state.callback = .idle

/-- The image includes all changes whose save was asked for. -/
def Saved (state : State Task) : Prop :=
  ∀ change ∈ state.requested, change ≤ state.image.changes

/-- What the shared slot loses: a change that a callback has not seen is asked to
be saved before that callback empties the slot, or a save fails and a requested
change is not in the image. -/
def Loses (state : State Task) : Label Task → Prop
  | .arms task =>
      ∃ changes timer own, state.phase task = .created changes timer ∧
        state.callback = .saved own ∧
        ∃ change ∈ changes, state.image.changes < change
  | .failsToSave => ¬ Saved state
  | _ => False

/-! ## What the operations leave alone -/

def Phase.changes : Phase → List Nat
  | running changes => changes
  | created changes _ => changes

@[simp]
theorem State.dropSlot_requested (state : State Task) :
    state.dropSlot.requested = state.requested := by
  rw [dropSlot]
  cases state.slot <;> rfl

@[simp]
theorem State.dropSlot_image (state : State Task) :
    state.dropSlot.image = state.image := by
  rw [dropSlot]
  cases state.slot <;> rfl

@[simp]
theorem State.dropSlot_current (state : State Task) :
    state.dropSlot.current = state.current := by
  rw [dropSlot]
  cases state.slot <;> rfl

@[simp]
theorem State.dropSlot_phase (state : State Task) :
    state.dropSlot.phase = state.phase := by
  rw [dropSlot]
  cases state.slot <;> rfl

@[simp]
theorem State.dropSlot_callback (state : State Task) :
    state.dropSlot.callback = state.callback := by
  rw [dropSlot]
  cases state.slot <;> rfl

/-- Only the timer in the slot can be armed. -/
def InSlot (state : State Task) : Prop :=
  ∀ timer ∈ state.armed, state.slot = some timer

theorem State.dropSlot_armed {state : State Task} (inSlot : InSlot state) :
    state.dropSlot.armed = [] := by
  rw [dropSlot]
  cases slot : state.slot with
  | none =>
      apply List.eq_nil_iff_forall_not_mem.mpr
      intro timer armed
      have same := inSlot timer armed
      rw [slot] at same
      cases same
  | some timer =>
      apply List.filter_eq_nil_iff.mpr
      intro other armed
      have same := inSlot other armed
      rw [slot, Option.some.injEq] at same
      simp [same]

/-- Changes are numbered from one up to the current version. -/
structure Numbered (state : State Task) : Prop where
  made : ∀ task, ∀ change ∈ (state.phase task).changes,
    change ≤ state.current.changes
  requested : ∀ change ∈ state.requested, change ≤ state.current.changes

/-- Requested changes are in the image, or a callback is about to save them, or
a timer will start one. -/
def Pending (state : State Task) : Prop :=
  Saved state ∨ (∃ timer, state.callback = .fired timer) ∨
    (state.callback = .idle ∧ state.armed ≠ [])

/-- A callback that has saved leaves nothing pending but what is in the image. -/
theorem Pending.saved {state : State Task} (pending : Pending state)
    {timer : Nat} (callback : state.callback = .saved timer) : Saved state := by
  rcases pending with saved | ⟨other, fired⟩ | ⟨idle, _⟩
  · exact saved
  · rw [callback] at fired
    cases fired
  · rw [callback] at idle
    cases idle

theorem Pending.saved_of_quiet {state : State Task} (pending : Pending state)
    (quiet : Quiet state) : Saved state := by
  obtain ⟨armed, callback⟩ := quiet
  rcases pending with saved | ⟨timer, fired⟩ | ⟨_, some⟩
  · exact saved
  · rw [callback] at fired
    cases fired
  · exact absurd armed some

theorem Numbered.dropSlot {state : State Task} (numbered : Numbered state) :
    Numbered state.dropSlot := by
  obtain ⟨made, requested⟩ := numbered
  constructor
  · simp only [State.dropSlot_phase, State.dropSlot_current]
    exact made
  · simp only [State.dropSlot_requested, State.dropSlot_current]
    exact requested

end Runs

section Invariant

variable {Task : Type} [DecidableEq Task]

theorem Numbered.setPhase {state : State Task} (numbered : Numbered state)
    {task : Task} {phase : Phase}
    (made : ∀ change ∈ phase.changes, change ≤ state.current.changes) :
    Numbered (state.setPhase task phase) := by
  refine ⟨?_, numbered.requested⟩
  intro other change member
  by_cases same : other = task
  · simp only [State.setPhase, if_pos same] at member
    exact made change member
  · simp only [State.setPhase, if_neg same] at member
    exact numbered.made other change member

/-- What each step does, and when it is taken. -/
inductive Steps (state : State Task) : Label Task → State Task → Prop where
  | modifies (task : Task) (change : AppSettings → AppSettings)
      (changes : List Nat) (phase : state.phase task = .running changes) :
      Steps state (.modifies task change)
        ({ state with current := state.current.next change }.setPhase task
          (.running ((state.current.next change).changes :: changes)))
  | skips (task : Task) (changes : List Nat)
      (phase : state.phase task = .running changes) :
      Steps state (.skips task) (state.setPhase task (.running []))
  | creates (task : Task) (changes : List Nat)
      (phase : state.phase task = .running changes) :
      Steps state (.creates task)
        ({ state with created := state.created + 1 }.setPhase task
          (.created changes state.created))
  | arms (task : Task) (changes : List Nat) (timer : Nat)
      (phase : state.phase task = .created changes timer) :
      Steps state (.arms task)
        ({ state.startTimer timer with
          requested := changes ++ state.requested }.setPhase task (.running []))
  | fires (timer : Nat) (callback : state.callback = .idle)
      (armed : timer ∈ state.armed) :
      Steps state (.fires timer)
        { state with
          armed := state.armed.filter (fun other => other ≠ timer)
          callback := .fired timer }
  | saves (timer : Nat) (callback : state.callback = .fired timer) :
      Steps state .saves
        { state with image := state.current, callback := .saved timer }
  | failsToSave (timer : Nat) (callback : state.callback = .fired timer) :
      Steps state .failsToSave { state with callback := .saved timer }
  | clears (timer : Nat) (callback : state.callback = .saved timer) :
      Steps state .clears { state.dropSlot with callback := .idle }

theorem steps_of_step {state after : State Task} {label : Label Task}
    (taken : step state label = some after) : Steps state label after := by
  cases label with
  | modifies task change =>
      rw [step] at taken
      split at taken <;> cases taken
      exact .modifies task change _ ‹_›
  | skips task =>
      rw [step] at taken
      split at taken <;> cases taken
      exact .skips task _ ‹_›
  | creates task =>
      rw [step] at taken
      split at taken <;> cases taken
      exact .creates task _ ‹_›
  | arms task =>
      rw [step] at taken
      split at taken <;> cases taken
      exact .arms task _ _ ‹_›
  | fires timer =>
      rw [step] at taken
      split at taken
      · split at taken <;> cases taken
        exact .fires timer ‹_› ‹_›
      · cases taken
  | saves =>
      rw [step] at taken
      split at taken <;> cases taken
      exact .saves _ ‹_›
  | failsToSave =>
      rw [step] at taken
      split at taken <;> cases taken
      exact .failsToSave _ ‹_›
  | clears =>
      rw [step] at taken
      split at taken <;> cases taken
      exact .clears _ ‹_›

theorem Numbered.step {state after : State Task} {label : Label Task}
    (numbered : Numbered state) (steps : Steps state label after) :
    Numbered after := by
  have known := numbered
  obtain ⟨made, requested⟩ := known
  cases steps with
  | modifies task change changes phase =>
      have own := made task
      rw [phase] at own
      have grown : Numbered { state with current := state.current.next change } :=
        ⟨fun other number member => Nat.le_succ_of_le (made other number member),
          fun number member => Nat.le_succ_of_le (requested number member)⟩
      apply grown.setPhase
      intro number member
      rcases List.mem_cons.mp member with rfl | earlier
      · exact Nat.le_refl _
      · exact Nat.le_succ_of_le (own number earlier)
  | skips task changes phase =>
      exact numbered.setPhase (fun _ member => absurd member List.not_mem_nil)
  | creates task changes phase =>
      have own := made task
      rw [phase] at own
      have same : Numbered { state with created := state.created + 1 } :=
        ⟨made, requested⟩
      exact same.setPhase own
  | arms task changes timer phase =>
      have own := made task
      rw [phase] at own
      have armed : Numbered
          { state.startTimer timer with
            requested := changes ++ state.requested } := by
        refine ⟨numbered.dropSlot.made, ?_⟩
        intro number member
        simp only [State.startTimer, State.dropSlot_current]
        rcases List.mem_append.mp member with mine | earlier
        · exact own number mine
        · exact requested number earlier
      exact armed.setPhase (fun _ member => absurd member List.not_mem_nil)
  | fires timer callback armed => exact ⟨made, requested⟩
  | saves timer callback => exact ⟨made, requested⟩
  | failsToSave timer callback => exact ⟨made, requested⟩
  | clears timer callback =>
      exact ⟨numbered.dropSlot.made, numbered.dropSlot.requested⟩

theorem InSlot.step {state after : State Task} {label : Label Task}
    (inSlot : InSlot state) (steps : Steps state label after) :
    InSlot after := by
  cases steps with
  | modifies task change changes phase => exact inSlot
  | skips task changes phase => exact inSlot
  | creates task changes phase => exact inSlot
  | arms task changes timer phase =>
      intro other armed
      simp only [State.setPhase, State.startTimer, State.dropSlot_armed inSlot,
        List.mem_singleton] at armed
      rw [armed]
      rfl
  | fires timer callback armed =>
      intro other armed
      exact inSlot other (List.mem_filter.mp armed).1
  | saves timer callback => exact inSlot
  | failsToSave timer callback => exact inSlot
  | clears timer callback =>
      intro other armed
      simp only [State.dropSlot_armed inSlot] at armed
      cases armed

theorem Pending.step {state after : State Task} {label : Label Task}
    (pending : Pending state) (numbered : Numbered state)
    (keeps : ¬ Loses state label) (steps : Steps state label after) :
    Pending after := by
  cases steps with
  | modifies task change changes phase => exact pending
  | skips task changes phase => exact pending
  | creates task changes phase => exact pending
  | arms task changes timer phase =>
      cases callback : state.callback with
      | idle =>
          right
          right
          simp [State.setPhase, State.startTimer, callback]
      | fired own =>
          right
          left
          exact ⟨own, by simp [State.setPhase, State.startTimer, callback]⟩
      | saved own =>
          -- the callback will drop this timer
          left
          intro number member
          simp only [State.setPhase, State.startTimer, State.dropSlot_image]
          rcases List.mem_append.mp member with mine | earlier
          · apply Nat.le_of_not_lt
            intro newer
            exact keeps ⟨changes, timer, own, phase, callback, number, mine,
              newer⟩
          · exact pending.saved callback number earlier
  | fires timer callback armed => exact .inr (.inl ⟨timer, rfl⟩)
  | saves timer callback => exact .inl numbered.requested
  | failsToSave timer callback => exact .inl (Classical.not_not.mp keeps)
  | clears timer callback =>
      left
      intro number member
      simp only [State.dropSlot_requested, State.dropSlot_image] at member ⊢
      exact pending.saved callback number member

/-- All three parts of the invariant, along every run that loses nothing. -/
theorem reaches_pending {settings : AppSettings} {state : State Task}
    (reaches : (machine Task settings).Reaches
      (fun state label => ¬ Loses state label) state) :
    Numbered state ∧ Pending state := by
  apply reaches.invariant (I := fun state => Numbered state ∧ Pending state)
  · refine ⟨⟨?_, ?_⟩, .inl ?_⟩
    · exact fun _ _ member => absurd member List.not_mem_nil
    · exact fun _ member => absurd member List.not_mem_nil
    · exact fun _ member => absurd member List.not_mem_nil
  · intro state label after kept keeps steps
    obtain ⟨numbered, pending⟩ := kept
    exact ⟨numbered.step (steps_of_step steps),
      pending.step numbered keeps (steps_of_step steps)⟩

theorem reachable_inSlot {settings : AppSettings} {state : State Task}
    (reachable : (machine Task settings).Reachable state) : InSlot state := by
  apply reachable.invariant (I := InSlot)
  · exact fun _ member => absurd member List.not_mem_nil
  · intro state label after inSlot _ steps
    exact inSlot.step (steps_of_step steps)

/-- The callback empties the slot, and what it has not saved stays unsaved. -/
theorem quiet_after_clears {settings : AppSettings} {state : State Task}
    (timer : Nat) (inSlot : InSlot state)
    (callback : state.callback = .saved timer) (unsaved : ¬ Saved state) :
    ∃ labels final, (machine Task settings).run state labels = some final ∧
      Quiet final ∧ ¬ Saved final := by
  refine ⟨[.clears], { state.dropSlot with callback := .idle }, ?_, ?_, ?_⟩
  · simp [Machine.run, machine, step, callback]
  · exact ⟨State.dropSlot_armed inSlot, rfl⟩
  · intro saved
    apply unsaved
    intro change member
    have included := saved change
    simp only [State.dropSlot_requested, State.dropSlot_image] at included
    exact included member

/-- Whatever step loses something, the callback's next one shows it. -/
theorem unsaved_of_loses {settings : AppSettings} {state after : State Task}
    {label : Label Task}
    (reachable : (machine Task settings).Reachable state)
    (loses : Loses state label) (steps : step state label = some after) :
    ∃ labels final, (machine Task settings).run after labels = some final ∧
      Quiet final ∧ ¬ Saved final := by
  have known := steps_of_step steps
  have inSlot := (reachable_inSlot reachable).step known
  cases known with
  | arms task changes timer phase =>
      obtain ⟨lost, _, own, created, callback, change, member, newer⟩ := loses
      rw [phase] at created
      cases created
      apply quiet_after_clears own inSlot
      · simp [State.setPhase, State.startTimer, callback]
      · intro saved
        have included := saved change (List.mem_append_left _ member)
        simp only [State.setPhase, State.startTimer, State.dropSlot_image] at included
        exact absurd newer (Nat.not_lt.mpr included)
  | failsToSave timer callback => exact quiet_after_clears timer inSlot rfl loses
  | modifies task change changes phase => exact loses.elim
  | skips task changes phase => exact loses.elim
  | creates task changes phase => exact loses.elim
  | fires timer callback armed => exact loses.elim
  | saves timer callback => exact loses.elim
  | clears timer callback => exact loses.elim

end Invariant

/-- Once no timer is armed and no callback runs, the image includes every change
whose save was asked for, in the runs in which no request that a callback has not
seen falls between its save and its emptying of the slot, and no save fails while
something is unsaved.  Any other run can be continued to where a requested change
is lost. -/
theorem requested_changes_saved (Task : Type) [DecidableEq Task]
    (settings : AppSettings) :
    (∀ state,
      (machine Task settings).Reaches (fun state label => ¬ Loses state label)
        state →
      Quiet state → Saved state) ∧
    (∀ state label after,
      (machine Task settings).Reachable state → Loses state label →
      step state label = some after →
      ∃ labels final, (machine Task settings).run after labels = some final ∧
        Quiet final ∧ ¬ Saved final) :=
  ⟨fun _ reaches quiet => (reaches_pending reaches).2.saved_of_quiet quiet,
    fun _ _ _ reachable loses steps => unsaved_of_loses reachable loses steps⟩

/-! ## The sensor task and the request handler -/

def setOverpress (settings : AppSettings) : AppSettings :=
  { settings with
    monitoring := { settings.monitoring with ovarpress := true } }

def setSerial (settings : AppSettings) : AppSettings :=
  { settings with serial := 1 }

/-- Two tasks. -/
inductive Requester where
  | protobuf
  | sensor
  deriving DecidableEq

def sampleSettings : AppSettings :=
  defaultSettings
    { day := 18
      month := 11
      year := 2025 }

/-- A change, its save and nothing else. -/
theorem requested_changes_saved_once :
    ∃ state, (machine Requester sampleSettings).run
        (machine Requester sampleSettings).start
        [.modifies .protobuf setSerial, .creates .protobuf, .arms .protobuf,
          .fires 0, .saves, .clears] = some state ∧
      Saved state := by
  refine ⟨_, rfl,
    (requested_changes_saved Requester sampleSettings).1 _ ?_ ⟨rfl, rfl⟩⟩
  refine .step .clears (.step .saves (.step (.fires 0) (.step (.arms .protobuf)
    (.step (.creates .protobuf) (.step (.modifies .protobuf setSerial) .start
      ?_ rfl) ?_ rfl) ?_ rfl) ?_ rfl) ?_ rfl) ?_ rfl
  · exact fun loses => loses
  · exact fun loses => loses
  · rintro ⟨changes, timer, own, _, callback, _⟩
    cases callback
  · exact fun loses => loses
  · exact fun loses => loses
  · exact fun loses => loses

/-- The sensor task meets an overpressure after the callback has saved the serial
number, and asks for a save before the callback empties the slot. -/
def overpressAfterSave : List (Label Requester) :=
  [.modifies .protobuf setSerial, .creates .protobuf, .arms .protobuf, .fires 0,
    .saves, .modifies .sensor setOverpress, .creates .sensor, .arms .sensor,
    .clears]

theorem requested_change_lost :
    ∃ state, (machine Requester sampleSettings).Reachable state ∧
      Quiet state ∧ ¬ Saved state ∧
      state.current.settings.monitoring.ovarpress = true ∧
      state.image.settings.monitoring.ovarpress = false := by
  have runs : ∃ state, (machine Requester sampleSettings).run
      (machine Requester sampleSettings).start overpressAfterSave = some state ∧
        Quiet state ∧ ¬ Saved state ∧
        state.current.settings.monitoring.ovarpress = true ∧
        state.image.settings.monitoring.ovarpress = false := by
    refine ⟨_, rfl, ⟨rfl, rfl⟩, ?_, rfl, rfl⟩
    intro saved
    have included := saved 2 (List.mem_cons_self ..)
    exact absurd included (by decide)
  obtain ⟨state, runs, lost⟩ := runs
  exact ⟨state, .run overpressAfterSave .start runs, lost⟩

end SelfWriter.Settings.StoreAsync
