import SelfWriter.Lib.Machine
import SelfWriter.Protobuf.UpdateSettings

/-!
# The settings and the command queue

`update_settings` (`protobuf/process_settings.rs`) sends the commands that switch
channels on while it holds the settings, and waits for the queue without a limit.
The sensor task (`threads/sensor_processor.rs`) is the only consumer of the queue,
and waits for the settings without a limit while it handles a message
(`workmodes/processing/common.rs`).

An update goes through these phases: the request is verified, the settings are
locked, the commands are sent one by one, the request is stored and the settings
are released.  Nobody else waits for room in the queue: the interrupts, the guard
timers and the sensor task itself drop what does not fit.
-/

namespace SelfWriter.Protobuf.SettingsLock

open SelfWriter.Lib SelfWriter.Settings
open SelfWriter.Protobuf.Messages (WriteSettingsReq)

/-! ## The parties -/

inductive Party where
  | protobuf
  | sensor
  | other
  deriving DecidableEq

inductive Updating where
  | idle
  /-- Waits for the settings, one millisecond at most. -/
  | locking (w : WriteSettingsReq)
  /-- Holds the settings, with these commands still to send. -/
  | sending (w : WriteSettingsReq) (commands : List Command)
  /-- Holds the settings and waits for room in the queue. -/
  | blocked (w : WriteSettingsReq) (commands : List Command)

inductive Sensing where
  | receiving
  | handling (command : Command)
  /-- Waits for the settings without a limit. -/
  | asking (command : Command)
  | reading (command : Command)

/-- Measured values and lost signals are processed with the settings at hand.  With
start and stop captures only a stop capture gives a value; without them the event does
not tell. -/
def readsSettings (startStop : Bool) : Command → Bool
  | .start _ _ => false
  | .stop _ => false
  | .readyFChannel _ event _ _ wraped => !wraped && (!startStop || event = .stop)
  | .readAChannel _ => true
  | .timeoutFChannel _ _ => true

/-- The sensor task is at a message that may need the settings. -/
def Sensing.needsSettings (startStop : Bool) : Sensing → Bool
  | receiving => false
  | handling command => readsSettings startStop command
  | asking _ => true
  | reading _ => true

structure State where
  queue : List Command
  owner : Option Party
  settings : AppSettings × NonStoreSettings
  updating : Updating
  sensing : Sensing

inductive Label where
  /-- A message of somebody who does not wait. -/
  | post (command : Command)
  | otherLocks
  | otherReleases (settings : AppSettings × NonStoreSettings)
  | verifies (w : WriteSettingsReq)
  | locks
  | lockTimesOut
  | sends
  | stores
  | receives
  | asks
  | reads
  /-- The processing may have set monitoring flags. -/
  | releases (monitoring : Monitoring)
  | handled

/-! ## Steps -/

/-- The commands for the channels that the request switches on. -/
def enables (w : WriteSettingsReq) (settings : AppSettings × NonStoreSettings) :
    List Command :=
  enableCommands (storeMesureSettings w (settings.1, false)).1 w

def stored (w : WriteSettingsReq) (settings : AppSettings × NonStoreSettings) :
    AppSettings × NonStoreSettings :=
  match storeRequest w { ws := settings.1, ts := settings.2, cq := [] } with
  | .ok _ after => (after.ws, after.ts)
  | .error _ after => (after.ws, after.ts)

/-- A waiting sender is woken up by every message that is taken out. -/
def Updating.woken : Updating → Updating
  | blocked w commands => sending w commands
  | other => other

section Steps

variable (startStop : Bool) (build : CalibrationDate) (capacity : Nat)

def step (state : State) : Label → Option State
  | .post command =>
      if state.queue.length < capacity then
        some { state with queue := state.queue ++ [command] }
      else
        some state
  | .otherLocks =>
      match state.owner with
      | none => some { state with owner := some .other }
      | some _ => none
  | .otherReleases settings =>
      match state.owner with
      | some .other => some { state with owner := none, settings := settings }
      | _ => none
  | .verifies w =>
      match state.updating, state.owner with
      | .idle, none =>
          match verifyFields build
              (decide (state.settings.1.password ≠
                state.settings.2.currentPassword)) w with
          | .ok _ => some { state with updating := .locking w }
          | .error _ => some state
      | _, _ => none
  | .locks =>
      match state.updating, state.owner with
      | .locking w, none =>
          some { state with
            owner := some .protobuf
            updating := .sending w (enables w state.settings) }
      | _, _ => none
  | .lockTimesOut =>
      match state.updating with
      | .locking _ => some { state with updating := .idle }
      | _ => none
  | .sends =>
      match state.updating with
      | .sending w (command :: commands) =>
          if state.queue.length < capacity then
            some { state with
              queue := state.queue ++ [command]
              updating := .sending w commands }
          else
            some { state with updating := .blocked w (command :: commands) }
      | _ => none
  | .stores =>
      match state.updating with
      | .sending w [] =>
          some { state with
            owner := none
            settings := stored w state.settings
            updating := .idle }
      | _ => none
  | .receives =>
      match state.sensing, state.queue with
      | .receiving, command :: queue =>
          some { state with
            queue := queue
            updating := state.updating.woken
            sensing := .handling command }
      | _, _ => none
  | .asks =>
      match state.sensing with
      | .handling command =>
          if readsSettings startStop command then
            some { state with sensing := .asking command }
          else
            none
      | _ => none
  | .reads =>
      match state.sensing, state.owner with
      | .asking command, none =>
          some { state with owner := some .sensor, sensing := .reading command }
      | _, _ => none
  | .releases monitoring =>
      match state.sensing with
      | .reading command =>
          some { state with
            owner := none
            settings :=
              ({ state.settings.1 with monitoring := monitoring },
                state.settings.2)
            sensing := .handling command }
      | _ => none
  | .handled =>
      match state.sensing with
      | .handling _ => some { state with sensing := .receiving }
      | _ => none

/-- Both tasks are about to start, with any settings. -/
def machine (settings : AppSettings × NonStoreSettings) : Machine State Label where
  start :=
    { queue := []
      owner := none
      settings := settings
      updating := .idle
      sensing := .receiving }
  step := step startStop build capacity

end Steps

/-- The request handler waits for room in the queue and holds the settings, and
the task that would make the room waits for the settings. -/
def Deadlocked (state : State) : Prop :=
  ∃ w commands command, state.updating = .blocked w commands ∧
    state.owner = some .protobuf ∧ state.sensing = .asking command

/-- An enable command meets a full queue while the sensor task is at a message
that may need the settings. -/
def MeetsBusySensor (startStop : Bool) (capacity : Nat) (state : State) (label : Label) : Prop :=
  label = .sends ∧ capacity ≤ state.queue.length ∧
    state.sensing.needsSettings startStop = true

section Runs

variable {startStop : Bool} {build : CalibrationDate} {capacity : Nat}
variable {settings : AppSettings × NonStoreSettings}

/-- What each step does, and when it is taken. -/
inductive Steps (startStop : Bool) (capacity : Nat) (state : State) :
    Label → State → Prop where
  | posted (command : Command) (room : state.queue.length < capacity) :
      Steps startStop capacity state (.post command)
        { state with queue := state.queue ++ [command] }
  | dropped (command : Command) :
      Steps startStop capacity state (.post command) state
  | otherLocks (free : state.owner = none) :
      Steps startStop capacity state .otherLocks
        { state with owner := some .other }
  | otherReleases (settings : AppSettings × NonStoreSettings)
      (owner : state.owner = some .other) :
      Steps startStop capacity state (.otherReleases settings)
        { state with owner := none, settings := settings }
  | verified (w : WriteSettingsReq) (updating : state.updating = .idle)
      (free : state.owner = none) :
      Steps startStop capacity state (.verifies w)
        { state with updating := .locking w }
  | refused (w : WriteSettingsReq) (updating : state.updating = .idle) :
      Steps startStop capacity state (.verifies w) state
  | locks (w : WriteSettingsReq) (updating : state.updating = .locking w)
      (free : state.owner = none) :
      Steps startStop capacity state .locks
        { state with
          owner := some .protobuf
          updating := .sending w (enables w state.settings) }
  | lockTimesOut (w : WriteSettingsReq) (updating : state.updating = .locking w) :
      Steps startStop capacity state .lockTimesOut { state with updating := .idle }
  | sends (w : WriteSettingsReq) (command : Command) (commands : List Command)
      (updating : state.updating = .sending w (command :: commands))
      (room : state.queue.length < capacity) :
      Steps startStop capacity state .sends
        { state with
          queue := state.queue ++ [command]
          updating := .sending w commands }
  | blocks (w : WriteSettingsReq) (command : Command) (commands : List Command)
      (updating : state.updating = .sending w (command :: commands))
      (full : capacity ≤ state.queue.length) :
      Steps startStop capacity state .sends
        { state with updating := .blocked w (command :: commands) }
  | stores (w : WriteSettingsReq) (updating : state.updating = .sending w []) :
      Steps startStop capacity state .stores
        { state with
          owner := none
          settings := stored w state.settings
          updating := .idle }
  | receives (command : Command) (queue : List Command)
      (sensing : state.sensing = .receiving)
      (waits : state.queue = command :: queue) :
      Steps startStop capacity state .receives
        { state with
          queue := queue
          updating := state.updating.woken
          sensing := .handling command }
  | asks (command : Command) (sensing : state.sensing = .handling command)
      (needed : readsSettings startStop command = true) :
      Steps startStop capacity state .asks { state with sensing := .asking command }
  | reads (command : Command) (sensing : state.sensing = .asking command)
      (free : state.owner = none) :
      Steps startStop capacity state .reads
        { state with owner := some .sensor, sensing := .reading command }
  | releases (monitoring : Monitoring) (command : Command)
      (sensing : state.sensing = .reading command) :
      Steps startStop capacity state (.releases monitoring)
        { state with
          owner := none
          settings :=
            ({ state.settings.1 with monitoring := monitoring },
              state.settings.2)
          sensing := .handling command }
  | handled (command : Command) (sensing : state.sensing = .handling command) :
      Steps startStop capacity state .handled { state with sensing := .receiving }

theorem steps_of_step {state after : State} {label : Label}
    (taken : step startStop build capacity state label = some after) :
    Steps startStop capacity state label after := by
  cases label with
  | post command =>
      rw [step] at taken
      split at taken <;> cases taken
      · exact .posted command ‹_›
      · exact .dropped command
  | otherLocks =>
      rw [step] at taken
      split at taken <;> cases taken
      exact .otherLocks ‹_›
  | otherReleases settings =>
      rw [step] at taken
      split at taken <;> cases taken
      exact .otherReleases settings ‹_›
  | verifies w =>
      rw [step] at taken
      split at taken
      · split at taken <;> cases taken
        · exact .verified w ‹_› ‹_›
        · exact .refused w ‹_›
      · cases taken
  | locks =>
      rw [step] at taken
      split at taken <;> cases taken
      exact .locks _ ‹_› ‹_›
  | lockTimesOut =>
      rw [step] at taken
      split at taken <;> cases taken
      exact .lockTimesOut _ ‹_›
  | sends =>
      rw [step] at taken
      split at taken
      · split at taken <;> cases taken
        · exact .sends _ _ _ ‹_› ‹_›
        · exact .blocks _ _ _ ‹_› (Nat.le_of_not_lt ‹_›)
      · cases taken
  | stores =>
      rw [step] at taken
      split at taken <;> cases taken
      exact .stores _ ‹_›
  | receives =>
      rw [step] at taken
      split at taken <;> cases taken
      exact .receives _ _ ‹_› ‹_›
  | asks =>
      rw [step] at taken
      split at taken
      · split at taken <;> cases taken
        exact .asks _ ‹_› ‹_›
      · cases taken
  | reads =>
      rw [step] at taken
      split at taken <;> cases taken
      exact .reads _ ‹_› ‹_›
  | releases monitoring =>
      rw [step] at taken
      split at taken <;> cases taken
      exact .releases monitoring _ ‹_›
  | handled =>
      rw [step] at taken
      split at taken <;> cases taken
      exact .handled _ ‹_›

/-! ## Runs without a busy sensor task -/

/-- While the request handler waits for room, the sensor task is at a message
that needs no settings, so it will take the next one. -/
def Free (startStop : Bool) (state : State) : Prop :=
  ∀ w commands, state.updating = .blocked w commands →
    state.sensing.needsSettings startStop = false

theorem Updating.woken_ne_blocked (updating : Updating) (w : WriteSettingsReq)
    (commands : List Command) : updating.woken ≠ .blocked w commands := by
  cases updating <;> simp [Updating.woken]

theorem Free.not_deadlocked {state : State} (free : Free startStop state) :
    ¬ Deadlocked state := by
  rintro ⟨w, commands, command, blocked, _, asking⟩
  have idle := free w commands blocked
  rw [asking] at idle
  cases idle

theorem Free.step {state after : State} {label : Label} (free : Free startStop state)
    (room : ¬ MeetsBusySensor startStop capacity state label)
    (steps : Steps startStop capacity state label after) : Free startStop after := by
  intro w commands blocked
  cases steps with
  | posted command _ => exact free w commands blocked
  | dropped command => exact free w commands blocked
  | otherLocks _ => exact free w commands blocked
  | otherReleases settings _ => exact free w commands blocked
  | verified w' _ _ => cases blocked
  | refused w' _ => exact free w commands blocked
  | locks w' _ _ => cases blocked
  | lockTimesOut w' _ => cases blocked
  | sends w' command commands' _ _ => cases blocked
  | blocks w' command commands' _ full =>
      have idle : ¬ state.sensing.needsSettings startStop = true :=
        fun busy => room ⟨rfl, full, busy⟩
      exact Bool.eq_false_iff.mpr idle
  | stores w' _ => cases blocked
  | receives command queue _ _ =>
      exact absurd blocked (state.updating.woken_ne_blocked w commands)
  | asks command sensing needed =>
      have idle := free w commands blocked
      rw [sensing] at idle
      exact absurd needed (Bool.eq_false_iff.mp idle)
  | reads command sensing _ =>
      have idle := free w commands blocked
      rw [sensing] at idle
      cases idle
  | releases monitoring command sensing =>
      have idle := free w commands blocked
      rw [sensing] at idle
      cases idle
  | handled command _ => rfl

theorem reaches_free {state : State}
    (reaches : (machine startStop build capacity settings).Reaches
      (fun state label => ¬ MeetsBusySensor startStop capacity state label) state) :
    Free startStop state := by
  apply reaches.invariant (I := Free startStop)
  · intro w commands blocked
    cases blocked
  · intro state label after free room steps
    exact free.step room (steps_of_step steps)

/-! ## Ownership -/

def Updating.holdsSettings : Updating → Bool
  | idle => false
  | locking _ => false
  | sending _ _ => true
  | blocked _ _ => true

def Sensing.holdsSettings : Sensing → Bool
  | receiving => false
  | handling _ => false
  | asking _ => false
  | reading _ => true

/-- Who is in a phase that holds the settings is their owner. -/
structure Owned (state : State) : Prop where
  updating : state.updating.holdsSettings = true → state.owner = some .protobuf
  sensing : state.sensing.holdsSettings = true → state.owner = some .sensor

@[simp]
theorem Updating.woken_holdsSettings (updating : Updating) :
    updating.woken.holdsSettings = updating.holdsSettings := by
  cases updating <;> rfl

theorem Owned.step {state after : State} {label : Label} (owned : Owned state)
    (steps : Steps startStop capacity state label after) : Owned after := by
  obtain ⟨ownedUpdating, ownedSensing⟩ := owned
  cases steps with
  | posted command _ => exact ⟨ownedUpdating, ownedSensing⟩
  | dropped command => exact ⟨ownedUpdating, ownedSensing⟩
  | otherLocks free =>
      rw [free] at ownedUpdating ownedSensing
      exact ⟨fun holds => (by cases ownedUpdating holds),
        fun holds => (by cases ownedSensing holds)⟩
  | otherReleases settings owner =>
      rw [owner] at ownedUpdating ownedSensing
      exact ⟨fun holds => (by cases ownedUpdating holds),
        fun holds => (by cases ownedSensing holds)⟩
  | verified w _ _ => exact ⟨fun holds => (by cases holds), ownedSensing⟩
  | refused w _ => exact ⟨ownedUpdating, ownedSensing⟩
  | locks w _ free =>
      rw [free] at ownedSensing
      exact ⟨fun _ => rfl, fun holds => (by cases ownedSensing holds)⟩
  | lockTimesOut w _ => exact ⟨fun holds => (by cases holds), ownedSensing⟩
  | sends w command commands updating _ =>
      rw [updating] at ownedUpdating
      exact ⟨fun _ => ownedUpdating rfl, ownedSensing⟩
  | blocks w command commands updating _ =>
      rw [updating] at ownedUpdating
      exact ⟨fun _ => ownedUpdating rfl, ownedSensing⟩
  | stores w updating =>
      rw [updating] at ownedUpdating
      rw [ownedUpdating rfl] at ownedSensing
      exact ⟨fun holds => (by cases holds),
        fun holds => (by cases ownedSensing holds)⟩
  | receives command queue _ _ =>
      refine ⟨fun holds => ownedUpdating ?_, fun holds => (by cases holds)⟩
      rw [← Updating.woken_holdsSettings]
      exact holds
  | asks command _ _ => exact ⟨ownedUpdating, fun holds => (by cases holds)⟩
  | reads command _ free =>
      rw [free] at ownedUpdating
      exact ⟨fun holds => (by cases ownedUpdating holds), fun _ => rfl⟩
  | releases monitoring command sensing =>
      rw [sensing] at ownedSensing
      rw [ownedSensing rfl] at ownedUpdating
      exact ⟨fun holds => (by cases ownedUpdating holds),
        fun holds => (by cases holds)⟩
  | handled command _ => exact ⟨ownedUpdating, fun holds => (by cases holds)⟩

theorem reachable_owned {state : State}
    (reachable : (machine startStop build capacity settings).Reachable state) :
    Owned state := by
  apply reachable.invariant (I := Owned)
  · exact ⟨fun holds => (by cases holds), fun holds => (by cases holds)⟩
  · intro state label after owned _ steps
    exact owned.step (steps_of_step steps)

/-- Wherever the condition is not met, the deadlock is at most one step away. -/
theorem deadlock_of_meetsBusySensor {state after : State}
    (reachable : (machine startStop build capacity settings).Reachable state)
    (busy : MeetsBusySensor startStop capacity state .sends)
    (steps : step startStop build capacity state .sends = some after) :
    ∃ labels final, (machine startStop build capacity settings).run after labels =
        some final ∧ Deadlocked final := by
  obtain ⟨ownedUpdating, ownedSensing⟩ := reachable_owned reachable
  obtain ⟨_, full, needs⟩ := busy
  cases steps_of_step steps with
  | sends w command commands _ room => exact absurd full (Nat.not_le.mpr room)
  | blocks w command commands updating _ =>
      rw [updating] at ownedUpdating
      have owner := ownedUpdating rfl
      cases sensing : state.sensing with
      | receiving =>
          rw [sensing] at needs
          cases needs
      | handling message =>
          rw [sensing] at needs
          have asked : readsSettings startStop message = true := needs
          refine ⟨[.asks],
            { state with
              updating := .blocked w (command :: commands)
              sensing := .asking message },
            ?_, w, command :: commands, message, rfl, owner, rfl⟩
          simp [Machine.run, machine, step, asked]
      | asking message =>
          exact ⟨[], _, rfl, w, command :: commands, message, rfl, owner, rfl⟩
      | reading message =>
          rw [sensing, owner] at ownedSensing
          cases ownedSensing rfl

end Runs

/-- The request handler and the sensor task do not lock each other out in the
runs in which no enable command meets a full queue while the sensor task is at a
message that may need the settings; any other run can be continued to where they
do. -/
theorem no_deadlock_without_busy_sensor (startStop : Bool) (build : CalibrationDate)
    (capacity : Nat) (settings : AppSettings × NonStoreSettings) :
    (∀ state,
      (machine startStop build capacity settings).Reaches
        (fun state label => ¬ MeetsBusySensor startStop capacity state label) state →
      ¬ Deadlocked state) ∧
    (∀ state after,
      (machine startStop build capacity settings).Reachable state →
      MeetsBusySensor startStop capacity state .sends →
      step startStop build capacity state .sends = some after →
      ∃ labels final, (machine startStop build capacity settings).run after labels =
        some final ∧ Deadlocked final) :=
  ⟨fun _ reaches => (reaches_free reaches).not_deadlocked,
    fun _ _ reachable busy steps => deadlock_of_meetsBusySensor reachable busy steps⟩

/-! ## The pressure channel is switched on -/

/-- The defaults, but for the pressure channel. -/
def pressureOff : AppSettings × NonStoreSettings :=
  ({ defaultSettings sampleBuild with pEnabled := false }, initialSession)

def enablePressure : WriteSettingsReq :=
  { Messages.emptyRequest with setPEnabled := some true }

/-- The command finds room and the request is stored. -/
theorem no_deadlock_without_busy_sensor_enabled :
    ∃ state, (machine true sampleBuild 15 pressureOff).run
        (machine true sampleBuild 15 pressureOff).start
        [.verifies enablePressure, .locks, .sends, .stores] = some state ∧
      ¬ Deadlocked state := by
  refine ⟨_, rfl,
    (no_deadlock_without_busy_sensor true sampleBuild 15 pressureOff).1 _ ?_⟩
  refine .step .stores (.step .sends (.step .locks
    (.step (.verifies enablePressure) .start ?_ rfl) ?_ rfl) ?_ rfl) ?_ rfl
  · exact fun busy => by cases busy.1
  · exact fun busy => by cases busy.1
  · exact fun busy => by cases busy.2.2
  · exact fun busy => by cases busy.1

/-- A measured value of the processor temperature is being handled when the queue
of the high performance mode gets full. -/
def lockedOut : List Label :=
  [.post (.readAChannel .tcpu), .receives, .verifies enablePressure, .locks] ++
    List.replicate 15 (.post (.readyFChannel .temperature .stop 1 1 false)) ++
    [.sends, .asks]

theorem deadlock_on_full_queue :
    ∃ state, (machine true sampleBuild 15 pressureOff).Reachable state ∧
      Deadlocked state := by
  have runs : ∃ state, (machine true sampleBuild 15 pressureOff).run
      (machine true sampleBuild 15 pressureOff).start lockedOut = some state ∧
        Deadlocked state :=
    ⟨_, rfl, enablePressure, _, _, rfl, rfl, rfl⟩
  obtain ⟨state, runs, deadlocked⟩ := runs
  exact ⟨state, .run lockedOut .start runs, deadlocked⟩

end SelfWriter.Protobuf.SettingsLock
