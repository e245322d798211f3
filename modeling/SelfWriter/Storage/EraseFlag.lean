import SelfWriter.Storage.Erase

/-!
# The erase-in-progress flag

`flash_erease` (`main_data_storage/mod.rs`) sets the flag before it creates the
task `FlashClr`, which clears the flag at its end.  The flag keeps a second
eraser from being started, and the USB volume (`threads/vfs.rs`) from being read.

The protocol server is the only caller; it may be preempted between the check of
the flag, the store to it and the creation of the task, which may fail.
-/

namespace SelfWriter.Storage.EraseFlag

open SelfWriter.Lib

/-! ## The parties -/

inductive Caller where
  | outside
  /-- Has seen that the flag is clear. -/
  | checked
  /-- Has set the flag. -/
  | marked
  deriving DecidableEq, Repr

inductive FlashClr where
  | created
  /-- Has erased the chip, or failed to. -/
  | erased
  deriving DecidableEq, Repr

/-- The tasks that have not finished. -/
structure State where
  eraseInProgress : Bool
  caller : Caller
  tasks : List FlashClr
  deriving DecidableEq, Repr

inductive Label where
  | calls
  | marks
  | creates
  | failsToCreate
  | erases (task : Nat)
  | clears (task : Nat)
  deriving DecidableEq, Repr

/-- A call that finds the flag set returns at once. -/
def step (state : State) : Label → Option State
  | .calls =>
      match state.caller with
      | .outside =>
          if state.eraseInProgress then some state
          else some { state with caller := .checked }
      | _ => none
  | .marks =>
      match state.caller with
      | .checked => some { state with eraseInProgress := true, caller := .marked }
      | _ => none
  | .creates =>
      match state.caller with
      | .marked =>
          some { state with tasks := state.tasks ++ [.created], caller := .outside }
      | _ => none
  | .failsToCreate =>
      match state.caller with
      | .marked => some { state with caller := .outside }
      | _ => none
  | .erases task =>
      match state.tasks[task]? with
      | some .created => some { state with tasks := state.tasks.set task .erased }
      | _ => none
  | .clears task =>
      match state.tasks[task]? with
      | some .erased =>
          some { state with
            eraseInProgress := false
            tasks := state.tasks.eraseIdx task }
      | _ => none

def machine : Machine State Label where
  start := { eraseInProgress := false, caller := .outside, tasks := [] }
  step := step

/-- What `flash_erease` returns, at the steps where it does. -/
def answer (state : State) : Label → Option (Except EreaseError Unit)
  | .calls =>
      if state.eraseInProgress then some (.error .queueFull) else none
  | .creates => some (.ok ())
  | .failsToCreate => some (.error .notStarted)
  | _ => none

/-- A step of an eraser task. -/
def Label.isEraser : Label → Bool
  | erases _ => true
  | clears _ => true
  | _ => false

/-! ## The USB volume -/

inductive BlockDeviceError where
  | notReady
  deriving DecidableEq, Repr

/-- What is read when the volume is ready is up to the file system. -/
def readBlock (state : State) (block : List UInt8) :
    Except BlockDeviceError (List UInt8) :=
  if state.eraseInProgress then .error .notReady else .ok block

def isReady (state : State) : Bool :=
  !state.eraseInProgress

/-! ## What holds in every run -/

structure Coherent (state : State) : Prop where
  single : state.tasks.length ≤ 1
  clear : state.eraseInProgress = false → state.tasks = []
  checked : state.caller = .checked → state.eraseInProgress = false
  marked : state.caller = .marked →
    state.eraseInProgress = true ∧ state.tasks = []

theorem Coherent.step {state after : State} {label : Label}
    (coherent : Coherent state) (steps : step state label = some after) :
    Coherent after := by
  obtain ⟨single, clear, checked, marked⟩ := coherent
  cases label with
  | calls =>
      rw [EraseFlag.step] at steps
      split at steps
      · split at steps <;> cases steps
        · exact ⟨single, clear, checked, marked⟩
        · rename_i flag
          exact ⟨single, clear, fun _ => Bool.eq_false_iff.mpr flag,
            fun impossible => (by cases impossible)⟩
      · cases steps
  | marks =>
      rw [EraseFlag.step] at steps
      split at steps <;> cases steps
      rename_i caller
      exact ⟨single, fun impossible => (by cases impossible),
        fun impossible => (by cases impossible),
        fun _ => ⟨rfl, clear (checked caller)⟩⟩
  | creates =>
      rw [EraseFlag.step] at steps
      split at steps <;> cases steps
      rename_i caller
      obtain ⟨flag, none'⟩ := marked caller
      refine ⟨?_, fun isClear => absurd (flag.symm.trans isClear) Bool.noConfusion,
        fun impossible => (by cases impossible),
        fun impossible => (by cases impossible)⟩
      rw [none']
      exact Nat.le_refl 1
  | failsToCreate =>
      rw [EraseFlag.step] at steps
      split at steps <;> cases steps
      exact ⟨single, clear, fun impossible => (by cases impossible),
        fun impossible => (by cases impossible)⟩
  | erases task =>
      rw [EraseFlag.step] at steps
      split at steps <;> cases steps
      rename_i created
      refine ⟨?_, ?_, checked, ?_⟩
      · rw [List.length_set]
        exact single
      · intro isClear
        rw [clear isClear] at created
        cases created
      · intro isMarked
        rw [(marked isMarked).2] at created
        cases created
  | clears task =>
      rw [EraseFlag.step] at steps
      split at steps <;> cases steps
      rename_i erased
      obtain ⟨inside, _⟩ := List.getElem?_eq_some_iff.mp erased
      have none' : (state.tasks.eraseIdx task) = [] := by
        apply List.eq_nil_of_length_eq_zero
        rw [List.length_eraseIdx_of_lt inside]
        omega
      refine ⟨?_, fun _ => none', fun _ => rfl, ?_⟩
      · rw [none']
        exact Nat.zero_le 1
      · intro isMarked
        rw [(marked isMarked).2] at erased
        cases erased

theorem reachable_coherent {state : State}
    (reachable : machine.Reachable state) : Coherent state := by
  apply reachable.invariant (I := Coherent)
  · exact ⟨Nat.zero_le 1, fun _ => rfl, fun impossible => (by cases impossible),
      fun impossible => (by cases impossible)⟩
  · intro state label after coherent _ steps
    exact coherent.step steps

/-! ## While the task is created -/

/-- A set flag has its task, unless the caller is about to create it. -/
def Backed (state : State) : Prop :=
  state.caller ≠ .marked → state.eraseInProgress = true → state.tasks ≠ []

theorem Backed.step {state after : State} {label : Label}
    (backed : Backed state) (creates : label ≠ .failsToCreate)
    (steps : step state label = some after) : Backed after := by
  cases label with
  | calls =>
      rw [EraseFlag.step] at steps
      split at steps
      · split at steps <;> cases steps
        · exact backed
        · rename_i clear
          exact fun _ set => absurd set clear
      · cases steps
  | marks =>
      rw [EraseFlag.step] at steps
      split at steps <;> cases steps
      exact fun notMarked => absurd rfl notMarked
  | creates =>
      rw [EraseFlag.step] at steps
      split at steps <;> cases steps
      exact fun _ _ => List.append_ne_nil_of_right_ne_nil _ (List.cons_ne_nil _ _)
  | failsToCreate => exact absurd rfl creates
  | erases task =>
      rw [EraseFlag.step] at steps
      split at steps <;> cases steps
      intro notMarked set
      have tasks := backed notMarked set
      simpa using tasks
  | clears task =>
      rw [EraseFlag.step] at steps
      split at steps <;> cases steps
      exact fun _ set => (by cases set)

private theorem created_backed {state : State}
    (reaches : machine.Reaches (fun _ label => label ≠ .failsToCreate) state) :
    Coherent state ∧ Backed state := by
  apply reaches.invariant (I := fun state => Coherent state ∧ Backed state)
  · exact ⟨reachable_coherent .start, fun _ set => (by cases set)⟩
  · rintro state label after ⟨coherent, backed⟩ creates steps
    exact ⟨coherent.step steps, backed.step creates steps⟩

/-- The tasks that exist finish by their own steps, and the flag is clear
then. -/
theorem erasers_finish {state : State} (coherent : Coherent state)
    (backed : Backed state) (outside : state.caller = .outside) :
    ∃ labels final, (∀ label ∈ labels, label.isEraser = true) ∧
      machine.run state labels = some final ∧
      final.eraseInProgress = false := by
  obtain ⟨flag, caller, tasks⟩ := state
  have single : tasks.length ≤ 1 := coherent.single
  match tasks with
  | [] =>
      refine ⟨[], _, fun _ member => (by cases member), rfl, ?_⟩
      cases flag with
      | false => rfl
      | true =>
          have notMarked : caller ≠ .marked := by
            rw [show caller = .outside from outside]
            exact Caller.noConfusion
          exact absurd rfl (backed notMarked rfl)
  | [.created] =>
      exact ⟨[.erases 0, .clears 0], _, by simp [Label.isEraser], rfl, rfl⟩
  | [.erased] =>
      exact ⟨[.clears 0], _, by simp [Label.isEraser], rfl, rfl⟩
  | _ :: _ :: rest =>
      simp at single

/-! ## When the task is not created -/

/-- The flag is set and no task is left to clear it. -/
structure Stuck (state : State) : Prop where
  set : state.eraseInProgress = true
  outside : state.caller = .outside
  idle : state.tasks = []

private theorem stuck_of_failsToCreate {state after : State}
    (coherent : Coherent state)
    (steps : step state .failsToCreate = some after) : Stuck after := by
  rw [EraseFlag.step] at steps
  split at steps <;> cases steps
  rename_i caller
  obtain ⟨set, idle⟩ := coherent.marked caller
  exact ⟨set, rfl, idle⟩

/-- Only further calls are possible, and they change nothing. -/
theorem Stuck.step {state after : State} {label : Label} (stuck : Stuck state)
    (steps : step state label = some after) : after = state := by
  obtain ⟨set, outside, idle⟩ := stuck
  cases label with
  | calls =>
      rw [EraseFlag.step, outside] at steps
      simp only [set, if_true] at steps
      exact (Option.some.inj steps).symm
  | marks => simp [EraseFlag.step, outside] at steps
  | creates => simp [EraseFlag.step, outside] at steps
  | failsToCreate => simp [EraseFlag.step, outside] at steps
  | erases task => simp [EraseFlag.step, idle] at steps
  | clears task => simp [EraseFlag.step, idle] at steps

theorem Stuck.run {state : State} (stuck : Stuck state) (labels : List Label) :
    ∀ {final}, machine.run state labels = some final → final = state := by
  induction labels with
  | nil =>
      intro final runs
      exact (Option.some.inj runs).symm
  | cons label labels inductionHypothesis =>
      intro final runs
      obtain ⟨after, steps, runs⟩ := Option.bind_eq_some_iff.mp runs
      rw [stuck.step steps] at runs
      exact inductionHypothesis runs

/-! ## The flag and the tasks -/

private theorem usable_of_clear {state : State} (clear : state.eraseInProgress = false) :
    isReady state = true ∧ ∀ block, readBlock state block = .ok block := by
  refine ⟨?_, fun block => ?_⟩
  · rw [isReady, clear]
    rfl
  · rw [readBlock, clear]
    rfl

private theorem unusable_of_set {state : State} (set : state.eraseInProgress = true) :
    isReady state = false ∧
      ∀ block, readBlock state block = .error .notReady := by
  refine ⟨?_, fun block => ?_⟩
  · rw [isReady, set]
    rfl
  · rw [readBlock, set]
    rfl

/-- But for a task that is not created, only a call that sees the flag set
fails. -/
theorem unchanged_of_refused {state after : State} {label : Label}
    {error : EreaseError} (outside : state.caller = .outside)
    (creates : label ≠ .failsToCreate)
    (steps : machine.step state label = some after)
    (fails : answer state label = some (.error error)) : after = state := by
  cases label with
  | calls =>
      change EraseFlag.step state .calls = some after at steps
      rw [EraseFlag.step, outside] at steps
      rw [answer] at fails
      split at fails
      · rename_i set
        simp only [set, if_true] at steps
        exact (Option.some.inj steps).symm
      · cases fails
  | failsToCreate => exact absurd rfl creates
  | marks => cases fails
  | creates => cases fails
  | erases task => cases fails
  | clears task => cases fails

/-- As long as every task is created, the flag outside `flash_erease` says
whether a task is unfinished, a call that fails changes nothing, and the volume
is usable once the tasks have ended.  The first task that is not created leaves
the flag set for ever, with no task. -/
theorem erase_flag_truthful (state : State) :
    (machine.Reaches (fun _ label => label ≠ .failsToCreate) state →
      state.caller = .outside →
        (state.eraseInProgress = true ↔ state.tasks ≠ []) ∧
        (∀ label after error, label ≠ .failsToCreate →
          machine.step state label = some after →
          answer state label = some (.error error) → after = state) ∧
        ∃ labels final, (∀ label ∈ labels, label.isEraser = true) ∧
          machine.run state labels = some final ∧ isReady final = true ∧
          ∀ block, readBlock final block = .ok block) ∧
    (∀ after, machine.Reachable state →
      machine.step state .failsToCreate = some after →
        after.caller = .outside ∧
        ∀ labels final, machine.run after labels = some final →
          final.eraseInProgress = true ∧ final.tasks = [] ∧
          isReady final = false ∧
          ∀ block, readBlock final block = .error .notReady) := by
  constructor
  · intro reaches outside
    obtain ⟨coherent, backed⟩ := created_backed reaches
    have notMarked : state.caller ≠ .marked := by
      rw [outside]
      exact Caller.noConfusion
    refine ⟨⟨backed notMarked, ?_⟩, ?_, ?_⟩
    · intro tasks
      by_contra clear
      exact tasks (coherent.clear (Bool.eq_false_iff.mpr clear))
    · intro label after error creates steps fails
      exact unchanged_of_refused outside creates steps fails
    · obtain ⟨labels, final, erasers, runs, clear⟩ :=
        erasers_finish coherent backed outside
      exact ⟨labels, final, erasers, runs, usable_of_clear clear⟩
  · intro after reachable steps
    have stuck := stuck_of_failsToCreate (reachable_coherent reachable) steps
    refine ⟨stuck.outside, ?_⟩
    intro labels final runs
    rw [stuck.run labels runs]
    exact ⟨stuck.set, stuck.idle, unusable_of_set stuck.set⟩

/-- One erase from the call to the end of its task, and one in which the task
is not created. -/
theorem erase_flag_truthful_oneErase :
    (∃ state, machine.runWithin (fun _ label => label ≠ .failsToCreate)
        machine.start [.calls, .marks, .creates, .erases 0] = some state ∧
      (state.eraseInProgress = true ↔ state.tasks ≠ [])) ∧
    ∃ state after, machine.run machine.start [.calls, .marks] = some state ∧
      machine.step state .failsToCreate = some after ∧
      after.caller = .outside := by
  constructor
  · refine ⟨_, rfl, ?_⟩
    exact ((erase_flag_truthful _).1
      (.runWithin [.calls, .marks, .creates, .erases 0] .start rfl) rfl).1
  · refine ⟨_, _, rfl, rfl, ?_⟩
    exact ((erase_flag_truthful _).2 _ (.run [.calls, .marks] .start rfl) rfl).1

/-- The task is not created, and the call fails: the flag was clear before it,
and is set after it with no task. -/
theorem erase_flag_left_set :
    machine.start.eraseInProgress = false ∧
    ∃ before state, machine.run machine.start [.calls, .marks] = some before ∧
      answer before .failsToCreate = some (.error .notStarted) ∧
      machine.step before .failsToCreate = some state ∧
      machine.Reachable state ∧ state.caller = .outside ∧
      state.eraseInProgress = true ∧ state.tasks = [] ∧
      isReady state = false :=
  ⟨rfl, _, _, rfl, rfl, rfl,
    .run [.calls, .marks, .failsToCreate] .start rfl, rfl, rfl, rfl, rfl⟩

/-! ## The calls of the eraser -/

/-- A call that is not interrupted does to the flag what `flashErease` says. -/
theorem flashErease_refined (erase : EraseState) (starts : Bool)
    (state : State) (outside : state.caller = .outside)
    (same : state.eraseInProgress = erase.eraseInProgress) :
    ∃ labels final, machine.run state labels = some final ∧
      final.caller = .outside ∧
      final.eraseInProgress = (flashErease erase starts).2.eraseInProgress ∧
      (labels.getLast?.bind fun label =>
        (machine.run state labels.dropLast).bind fun before =>
          answer before label) = some (flashErease erase starts).1 := by
  obtain ⟨flag, caller, tasks⟩ := state
  subst outside
  change flag = _ at same
  cases set : erase.eraseInProgress with
  | true =>
      rw [set] at same
      subst same
      exact ⟨[.calls], _, rfl, rfl, by simp [flashErease, set],
        by simp [flashErease, set, Machine.run, answer]⟩
  | false =>
      rw [set] at same
      subst same
      cases starts with
      | true =>
          exact ⟨[.calls, .marks, .creates], _, rfl, rfl,
            by simp [flashErease, set],
            by simp [flashErease, set, Machine.run, machine, step, answer]⟩
      | false =>
          exact ⟨[.calls, .marks, .failsToCreate], _, rfl, rfl,
            by simp [flashErease, set],
            by simp [flashErease, set, Machine.run, machine, step, answer]⟩

end SelfWriter.Storage.EraseFlag
