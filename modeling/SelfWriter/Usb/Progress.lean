import SelfWriter.Lib.Ranking
import SelfWriter.Usb.Tasks

/-!
# The USB side is not stuck

The server sleeps with the serial port locked, so `usbd` gets it only after its
own lock has timed out and the server has been notified.  No wake-up is lost that
way, and after an interrupt the device is polled after one such millisecond at
most, as long as a ready server gets to run within it.
-/

namespace SelfWriter.Usb

open SelfWriter.Lib

/-! ## What a step can be -/

/-- The steps, each with what it needs. -/
inductive Moves (state : UsbState) : Label → UsbState → Prop where
  | host (bytes : Nat) :
      Moves state (.host bytes)
        { state with event := true, received := state.received + bytes }
  | isr (interrupts : state.interrupts = true) : Moves state .isr state.usbFs
  | lock (isAt : state.usbd = .lock) (free : state.free = true) :
      Moves state .usbd { state with usbd := .poll }
  | notify (isAt : state.usbd = .notify) :
      Moves state .usbd
        { state with usbd := .lock, serverNotified := notify state.serverNotified }
  | unmask (isAt : state.usbd = .unmask) :
      Moves state .usbd { state with usbd := .take, masked := false }
  | take (isAt : state.usbd = .take) (notified : 0 < state.usbdNotified) :
      Moves state .usbd { state with usbd := .mask, usbdNotified := 0 }
  | mask (isAt : state.usbd = .mask) :
      Moves state .usbd { state with usbd := .lock, masked := true }
  | poll (answer event : Bool) (isAt : state.usbd = .poll) :
      Moves state (.poll answer event)
        { state with usbd := if answer then .notify else .unmask, event := event }
  | timeout (isAt : state.usbd = .lock) (held : state.free = false) :
      Moves state .timeout { state with usbd := .notify }
  | server (outcome : Outcome) (quiet : state.interrupts = false)
      (waits : state.usbdReady = false) (ready : state.serverReady = true) :
      Moves state (.server outcome) (state.serverStep outcome)

section Steps

variable {state after : UsbState}

theorem Moves.of_usbdStep (ready : state.usbdReady = true)
    (steps : state.usbdStep = some after) : Moves state .usbd after := by
  unfold UsbState.usbdStep at steps
  unfold UsbState.usbdReady at ready
  cases isAt : state.usbd with
  | lock =>
      simp only [isAt, Option.some.injEq] at steps ready
      subst steps
      exact .lock isAt ready
  | poll =>
      simp only [isAt] at steps
      cases steps
  | notify =>
      simp only [isAt, Option.some.injEq] at steps
      subst steps
      exact .notify isAt
  | unmask =>
      simp only [isAt, Option.some.injEq] at steps
      subst steps
      exact .unmask isAt
  | take =>
      simp only [isAt, Option.some.injEq, decide_eq_true_eq] at steps ready
      subst steps
      exact .take isAt ready
  | mask =>
      simp only [isAt, Option.some.injEq] at steps
      subst steps
      exact .mask isAt

theorem Moves.of_pollStep {answer event : Bool}
    (steps : state.pollStep answer event = some after) :
    Moves state (.poll answer event) after := by
  unfold UsbState.pollStep at steps
  split at steps
  · rename_i isAt
    cases steps
    exact .poll answer event isAt
  · cases steps

theorem Moves.of_step {label : Label} (steps : state.step label = some after) :
    Moves state label after := by
  cases label with
  | host bytes =>
      cases steps
      exact .host bytes
  | isr =>
      rw [UsbState.step] at steps
      split at steps
      · rename_i interrupts
        cases steps
        exact .isr interrupts
      · cases steps
  | usbd =>
      rw [UsbState.step] at steps
      split at steps
      · cases steps
      · rename_i runs
        simp only [Bool.or_eq_true, Bool.not_eq_true', not_or, Bool.not_eq_false] at runs
        exact .of_usbdStep runs.2 steps
  | poll answer event =>
      rw [UsbState.step] at steps
      split at steps
      · cases steps
      · exact .of_pollStep steps
  | timeout =>
      rw [UsbState.step] at steps
      split at steps
      · cases steps
      · rename_i runs
        simp only [Bool.or_eq_true, decide_eq_true_eq, not_or, ne_eq, not_not,
          Bool.not_eq_true] at runs
        cases steps
        exact .timeout runs.1.2 runs.2
  | server outcome =>
      rw [UsbState.step] at steps
      split at steps
      · cases steps
      · rename_i runs
        simp only [Bool.or_eq_true, Bool.not_eq_true', not_or, Bool.not_eq_true,
          Bool.not_eq_false] at runs
        cases steps
        exact .server outcome runs.1.1 runs.1.2 runs.2

private theorem serverHolds_of_free (free : state.free = true) : state.serverHolds = false := by
  unfold UsbState.free at free
  simp only [Bool.and_eq_true, Bool.not_eq_true'] at free
  exact free.2

private theorem masked_of_interrupts (interrupts : state.interrupts = true) :
    state.masked = false := by
  unfold UsbState.interrupts at interrupts
  simp only [Bool.and_eq_true, Bool.not_eq_true'] at interrupts
  exact interrupts.2

/-- `usbd` away from its poll holds no lock. -/
theorem held_by_server (notPoll : state.usbd ≠ .poll) (held : state.free = false) :
    state.serverHolds = true := by
  unfold UsbState.free UsbState.usbdHolds at held
  simp only [notPoll, decide_false, Bool.not_false, Bool.true_and,
    Bool.not_eq_false'] at held
  exact held

private theorem not_poll_of_waits (waits : state.usbdReady = false) : state.usbd ≠ .poll := by
  intro isPoll
  rw [UsbState.usbdReady, isPoll] at waits
  cases waits

/-- The server changes only what is its own. -/
theorem serverStep_eq (state : UsbState) (outcome : Outcome) :
    ∃ server serverNotified received,
      state.serverStep outcome =
          { state with
            server := server
            serverNotified := serverNotified
            received := received } ∧
        (server = .block → min outcome.count state.received = 0 ∧
          received = state.received) := by
  unfold UsbState.serverStep
  cases state.server with
  | lock => exact ⟨_, _, _, rfl, fun impossible => by cases impossible⟩
  | read =>
      by_cases none : min outcome.count state.received = 0
      · exact ⟨_, _, _, if_pos none, fun _ => ⟨none, rfl⟩⟩
      · exact ⟨_, _, _, if_neg none, fun impossible => by cases impossible⟩
  | block => exact ⟨_, _, _, rfl, fun impossible => by cases impossible⟩
  | work =>
      refine ⟨_, _, _, rfl, ?_⟩
      cases outcome.responds <;> exact fun impossible => by cases impossible
  | lockWrite => exact ⟨_, _, _, rfl, fun impossible => by cases impossible⟩
  | write =>
      refine ⟨_, _, _, rfl, ?_⟩
      cases outcome.complete <;> exact fun impossible => by cases impossible
  | delay => exact ⟨_, _, _, rfl, fun impossible => by cases impossible⟩

end Steps

/-! ## What holds in every state -/

structure Safe (state : UsbState) : Prop where
  /-- One task at a time has the serial port. -/
  exclusive : state.usbd = .poll → state.serverHolds = false
  /-- The interrupt is open at most while `usbd` waits for it. -/
  masked : state.usbd ≠ .take → state.masked = true ∧ state.usbdNotified = 0
  /-- `usbd` does not sleep with its interrupt masked. -/
  asleep : state.usbd = .take → (state.masked = true ↔ 0 < state.usbdNotified)

section Safety

variable {state after : UsbState}

theorem Safe.isTake (safe : Safe state) (interrupts : state.interrupts = true) :
    state.usbd = .take := by
  by_contra elsewhere
  have masked := (safe.masked elsewhere).1
  rw [masked_of_interrupts interrupts] at masked
  cases masked

theorem Safe.idle (safe : Safe state) (interrupts : state.interrupts = true) :
    state.usbdNotified = 0 := by
  have open_ := masked_of_interrupts interrupts
  have iff := safe.asleep (safe.isTake interrupts)
  rw [open_] at iff
  simp only [Bool.false_eq_true, false_iff] at iff
  omega

theorem Safe.step (safe : Safe state) {label : Label} (moves : Moves state label after) :
    Safe after := by
  cases moves with
  | host bytes =>
      exact
        { exclusive := safe.exclusive
          masked := safe.masked
          asleep := safe.asleep }
  | isr interrupts =>
      have notified : 0 < notify state.usbdNotified := by
        rw [safe.idle interrupts]
        decide
      exact
        { exclusive := safe.exclusive
          masked := fun elsewhere => absurd (safe.isTake interrupts) elsewhere
          asleep := fun _ => iff_of_true rfl notified }
  | lock isAt free =>
      have holds := serverHolds_of_free free
      exact
        { exclusive := fun _ => holds
          masked := fun _ => safe.masked (by rw [isAt]; decide)
          asleep := fun impossible => by cases impossible }
  | notify isAt =>
      exact
        { exclusive := fun impossible => by cases impossible
          masked := fun _ => safe.masked (by rw [isAt]; decide)
          asleep := fun impossible => by cases impossible }
  | unmask isAt =>
      have idle := (safe.masked (by rw [isAt]; decide)).2
      exact
        { exclusive := fun impossible => by cases impossible
          masked := fun elsewhere => absurd rfl elsewhere
          asleep := fun _ => iff_of_false Bool.false_ne_true
            (by change ¬ 0 < state.usbdNotified; omega) }
  | take isAt notified =>
      exact
        { exclusive := fun impossible => by cases impossible
          masked := fun _ => ⟨(safe.asleep isAt).2 notified, rfl⟩
          asleep := fun impossible => by cases impossible }
  | mask isAt =>
      exact
        { exclusive := fun impossible => by cases impossible
          masked := fun _ => ⟨rfl, (safe.masked (by rw [isAt]; decide)).2⟩
          asleep := fun impossible => by cases impossible }
  | poll answer event isAt =>
      have holds := safe.exclusive isAt
      have idle := safe.masked (by rw [isAt]; decide)
      exact
        { exclusive := fun _ => holds
          masked := fun _ => idle
          asleep := by
            intro isTake
            cases answer <;> cases isTake }
  | timeout isAt held =>
      exact
        { exclusive := fun impossible => by cases impossible
          masked := fun _ => safe.masked (by rw [isAt]; decide)
          asleep := fun impossible => by cases impossible }
  | server outcome quiet waits ready =>
      obtain ⟨server, serverNotified, received, equation, -⟩ := serverStep_eq state outcome
      have notPoll := not_poll_of_waits waits
      rw [equation]
      exact
        { exclusive := fun isPoll => absurd isPoll notPoll
          masked := safe.masked
          asleep := safe.asleep }

end Safety

theorem usb_tasks_initially (event : Bool) : Safe (usbTasks event).start where
  exclusive := fun impossible => by cases impossible
  masked := fun _ => ⟨rfl, rfl⟩
  asleep := fun impossible => by cases impossible

/-- The tasks of the USB side in every state of every run: one of them at a time has
the serial port, and `usbd` never sleeps with its interrupt masked. -/
theorem usb_tasks_safe {event : Bool} {state : UsbState}
    (reaches : (usbTasks event).Reachable state) : Safe state := by
  apply reaches.invariant (I := Safe)
  · exact usb_tasks_initially event
  · intro before label after safe _ steps
    exact safe.step (Moves.of_step steps)

/-- Both tasks go to sleep, and the host sends three bytes. -/
def sentAsleep : List Label :=
  [.usbd, .poll false false, .usbd,
    .server { count := 1, responds := false, complete := false },
    .server { count := 1, responds := false, complete := false }, .host 3]

def asleepState : UsbState where
  usbd := .take
  server := .block
  usbdNotified := 0
  serverNotified := 0
  masked := false
  event := true
  received := 3

theorem asleepState_reachable : (usbTasks false).Reachable asleepState :=
  Machine.Reaches.run sentAsleep .start (by decide)

theorem usb_tasks_safe_asleep : Safe asleepState :=
  usb_tasks_safe asleepState_reachable

/-! ## Bytes for a sleeping server -/

/-- The server does not read into an empty buffer. -/
def Asks (state : UsbState) : Label → Prop
  | .server outcome => state.server = .read → 0 < outcome.count
  | .host _ => True
  | .isr => True
  | .usbd => True
  | .poll _ _ => True
  | .timeout => True

instance (state : UsbState) (label : Label) : Decidable (Asks state label) :=
  match label with
  | .server _ => inferInstanceAs (Decidable (_ → _))
  | .host _ => inferInstanceAs (Decidable True)
  | .isr => inferInstanceAs (Decidable True)
  | .usbd => inferInstanceAs (Decidable True)
  | .poll _ _ => inferInstanceAs (Decidable True)
  | .timeout => inferInstanceAs (Decidable True)

/-- The server does not sleep on bytes that nobody announces. -/
def Announced (state : UsbState) : Prop :=
  state.server = .block → 0 < state.received → state.event = true

section Sleep

variable {state after : UsbState}

theorem Announced.step (announced : Announced state) (safe : Safe state) {label : Label}
    (asks : Asks state label) (moves : Moves state label after) : Announced after := by
  cases moves with
  | host bytes => exact fun _ _ => rfl
  | isr interrupts => exact announced
  | lock isAt free => exact announced
  | notify isAt => exact announced
  | unmask isAt => exact announced
  | take isAt notified => exact announced
  | mask isAt => exact announced
  | poll answer event isAt =>
      -- a poll may take the event away, but the server does not sleep then
      intro isBlock
      have holds := safe.exclusive isAt
      change state.server = .block at isBlock
      rw [UsbState.serverHolds, isBlock] at holds
      cases holds
  | timeout isAt held => exact announced
  | server outcome quiet waits ready =>
      intro isBlock some
      unfold UsbState.serverStep at isBlock some
      cases isAt : state.server with
      | read =>
          have asked := asks isAt
          simp only [isAt] at isBlock some
          split at isBlock
          · rename_i none
            rw [if_pos none] at some
            change 0 < state.received at some
            omega
          · cases isBlock
      | lock => simp only [isAt] at isBlock; cases isBlock
      | block => simp only [isAt] at isBlock; cases isBlock
      | work => simp only [isAt] at isBlock; split at isBlock <;> cases isBlock
      | lockWrite => simp only [isAt] at isBlock; cases isBlock
      | write => simp only [isAt] at isBlock; split at isBlock <;> cases isBlock
      | delay => simp only [isAt] at isBlock; cases isBlock

end Sleep

/-- As long as no read has an empty buffer, a server that sleeps while the port has
bytes for it sleeps only until an event that is already there is served. -/
theorem sleeps_announced {event : Bool} {state : UsbState}
    (reaches : (usbTasks event).Reaches Asks state) : Announced state := by
  have both : Safe state ∧ Announced state := by
    apply reaches.invariant (I := fun state => Safe state ∧ Announced state)
    · exact
        ⟨usb_tasks_initially event, fun impossible => by cases impossible⟩
    · rintro before label after ⟨safe, announced⟩ asks steps
      have moves := Moves.of_step steps
      exact ⟨safe.step moves, announced.step safe asks moves⟩
  exact both.2

theorem sleeps_announced_asleep : Announced asleepState := by
  have reaches : (usbTasks false).Reaches Asks asleepState :=
    Machine.Reaches.runWithin sentAsleep .start (by decide)
  exact sleeps_announced reaches

/-! ## How soon the device is polled -/

/-- A server that can run gets to run within the millisecond of `usbd`. -/
def Prompt (state : UsbState) : Label → Prop
  | .timeout => state.serverReady = false
  | .host _ => True
  | .isr => True
  | .usbd => True
  | .poll _ _ => True
  | .server _ => True

instance (state : UsbState) (label : Label) : Decidable (Prompt state label) :=
  match label with
  | .timeout => inferInstanceAs (Decidable (_ = _))
  | .host _ => inferInstanceAs (Decidable True)
  | .isr => inferInstanceAs (Decidable True)
  | .usbd => inferInstanceAs (Decidable True)
  | .poll _ _ => inferInstanceAs (Decidable True)
  | .server _ => inferInstanceAs (Decidable True)

def isPoll : Label → Bool
  | .poll _ _ => true
  | _ => false

def isTimeout : Label → Bool
  | .timeout => true
  | _ => false

/-- Everything but what the host does. -/
def isSystem : Label → Bool
  | .host _ => false
  | _ => true

/-- Steps until a poll is over, from `usbd` at its lock. -/
def stepsAtLock (server : Server) (notified : Nat) : Nat :=
  match server with
  | .lock => 2
  | .read => if 0 < notified then 4 else 6
  | .block => if 0 < notified then 3 else 5
  | .work => 2
  | .lockWrite => 2
  | .write => 3
  | .delay => 2

theorem stepsAtLock_le (server : Server) (notified : Nat) :
    stepsAtLock server notified ≤ 6 := by
  cases server <;> simp only [stepsAtLock] <;> (try split) <;> decide

theorem two_le_stepsAtLock (server : Server) (notified : Nat) :
    2 ≤ stepsAtLock server notified := by
  cases server <;> simp only [stepsAtLock] <;> (try split) <;> decide

/-- Steps until a poll is over, while there is an event. -/
def stepsToPoll (state : UsbState) : Nat :=
  match state.usbd with
  | .poll => 1
  | .lock => stepsAtLock state.server state.serverNotified
  | .notify => 1 + stepsAtLock state.server (notify state.serverNotified)
  | .mask => 1 + stepsAtLock state.server state.serverNotified
  | .take =>
      (if 0 < state.usbdNotified then 2 else 3) +
        stepsAtLock state.server state.serverNotified
  | .unmask => 4 + stepsAtLock state.server state.serverNotified

/-- The lock times out once more: the server sleeps, or goes to sleep. -/
def timeoutsAtLock (server : Server) (notified : Nat) : Nat :=
  if 4 < stepsAtLock server notified then 1 else 0

private theorem timeoutsAtLock_le (server : Server) (notified : Nat) :
    timeoutsAtLock server notified ≤ 1 := by
  unfold timeoutsAtLock
  split <;> decide

/-- Timeouts of the lock until a poll. -/
def timeoutsToPoll (state : UsbState) : Nat :=
  match state.usbd with
  | .poll => 0
  | .lock => timeoutsAtLock state.server state.serverNotified
  | .notify => timeoutsAtLock state.server (notify state.serverNotified)
  | .mask => 1
  | .take => 1
  | .unmask => 1

section Ranks

variable {state after : UsbState}

/-- A server that holds the port gives it back, or goes to sleep with it. -/
theorem stepsAtLock_serverStep (holds : state.serverHolds = true)
    (ready : state.serverReady = true) (outcome : Outcome) :
    stepsAtLock (state.serverStep outcome).server
        (state.serverStep outcome).serverNotified <
      stepsAtLock state.server state.serverNotified := by
  unfold UsbState.serverHolds at holds
  unfold UsbState.serverReady at ready
  unfold UsbState.serverStep
  cases isAt : state.server with
  | lock => simp only [isAt] at holds; cases holds
  | work => simp only [isAt] at holds; cases holds
  | lockWrite => simp only [isAt] at holds; cases holds
  | delay => simp only [isAt] at holds; cases holds
  | read =>
      simp only
      split
      · simp only [stepsAtLock]
        split <;> decide
      · simp only [stepsAtLock]
        split <;> decide
  | block =>
      simp only [isAt, decide_eq_true_eq] at ready
      simp only [stepsAtLock, if_pos ready]
      decide
  | write =>
      cases outcome.complete with
      | true => exact Nat.lt_succ_self 2
      | false => exact Nat.lt_succ_self 2

private theorem timeoutsAtLock_mono {server server' : Server} {notified notified' : Nat}
    (fewer : stepsAtLock server' notified' ≤ stepsAtLock server notified) :
    timeoutsAtLock server' notified' ≤ timeoutsAtLock server notified := by
  unfold timeoutsAtLock
  split
  · rename_i sleeps
    exact Nat.le_of_eq (if_pos (Nat.lt_of_lt_of_le sleeps fewer)).symm
  · exact Nat.zero_le _

/-- A lock times out only against a server that sleeps without a notification. -/
theorem asleep_of_timeout (isAt : state.usbd = .lock) (held : state.free = false)
    (prompt : state.serverReady = false) :
    state.server = .block ∧ state.serverNotified = 0 := by
  have holds := held_by_server (by rw [isAt]; decide) held
  unfold UsbState.serverHolds at holds
  unfold UsbState.serverReady at prompt
  cases isServer : state.server with
  | lock => simp only [isServer] at holds; cases holds
  | work => simp only [isServer] at holds; cases holds
  | lockWrite => simp only [isServer] at holds; cases holds
  | delay => simp only [isServer] at holds; cases holds
  | read => simp only [isServer] at prompt; cases prompt
  | write => simp only [isServer] at prompt; cases prompt
  | block =>
      simp only [isServer, decide_eq_false_iff_not] at prompt
      exact ⟨rfl, by omega⟩

/-- While there is an event, the server runs only where it holds the port `usbd`
waits for. -/
theorem waits_at_lock (safe : Safe state) (pending : state.event = true)
    (quiet : state.interrupts = false) (waits : state.usbdReady = false) :
    state.usbd = .lock ∧ state.serverHolds = true := by
  unfold UsbState.interrupts at quiet
  simp only [pending, Bool.true_and, Bool.not_eq_false'] at quiet
  unfold UsbState.usbdReady at waits
  cases isAt : state.usbd with
  | lock =>
      simp only [isAt] at waits
      exact ⟨rfl, held_by_server (by rw [isAt]; decide) waits⟩
  | take =>
      simp only [isAt, decide_eq_false_iff_not] at waits
      exact absurd ((safe.asleep isAt).1 quiet) waits
  | poll => simp only [isAt] at waits; cases waits
  | notify => simp only [isAt] at waits; cases waits
  | unmask => simp only [isAt] at waits; cases waits
  | mask => simp only [isAt] at waits; cases waits

/-- Every step of the system but a poll brings the poll nearer. -/
theorem stepsToPoll_lt (safe : Safe state) (pending : state.event = true)
    {label : Label} (prompt : Prompt state label) (moves : Moves state label after)
    (unpolled : isPoll label = false) (system : isSystem label = true) :
    stepsToPoll after < stepsToPoll state := by
  cases moves with
  | host bytes => cases system
  | poll answer event isAt => cases unpolled
  | isr interrupts =>
      have isTake := safe.isTake interrupts
      have idle := safe.idle interrupts
      have notified : 0 < notify 0 := by decide
      simp only [stepsToPoll, UsbState.usbFs, isTake, idle, if_pos notified,
        Nat.lt_irrefl, if_false]
      omega
  | lock isAt free =>
      have atLeast := two_le_stepsAtLock state.server state.serverNotified
      simp only [stepsToPoll, isAt]
      omega
  | notify isAt =>
      simp only [stepsToPoll, isAt]
      omega
  | unmask isAt =>
      simp only [stepsToPoll, isAt]
      split <;> omega
  | take isAt notified =>
      simp only [stepsToPoll, isAt, if_pos notified]
      omega
  | mask isAt =>
      simp only [stepsToPoll, isAt]
      omega
  | timeout isAt held =>
      obtain ⟨isBlock, none⟩ := asleep_of_timeout isAt held prompt
      simp only [stepsToPoll, isAt, isBlock, none]
      decide
  | server outcome quiet waits ready =>
      obtain ⟨isAt, holds⟩ := waits_at_lock safe pending quiet waits
      have fewer := stepsAtLock_serverStep holds ready outcome
      obtain ⟨server, serverNotified, received, equation, -⟩ := serverStep_eq state outcome
      rw [equation] at fewer ⊢
      simp only [stepsToPoll, isAt]
      exact fewer

theorem stepsToPoll_host (bytes : Nat) :
    stepsToPoll { state with event := true, received := state.received + bytes } =
      stepsToPoll state := rfl

private theorem timeoutsToPoll_host (bytes : Nat) :
    timeoutsToPoll { state with event := true, received := state.received + bytes } =
      timeoutsToPoll state := rfl

private theorem timeoutsToPoll_lt {label : Label} (prompt : Prompt state label)
    (moves : Moves state label after) (timeout : isTimeout label = true) :
    timeoutsToPoll after < timeoutsToPoll state := by
  cases moves with
  | timeout isAt held =>
      obtain ⟨isBlock, none⟩ := asleep_of_timeout isAt held prompt
      simp only [timeoutsToPoll, isAt, isBlock, none]
      decide
  | host bytes => cases timeout
  | isr interrupts => cases timeout
  | lock isAt free => cases timeout
  | notify isAt => cases timeout
  | unmask isAt => cases timeout
  | take isAt notified => cases timeout
  | mask isAt => cases timeout
  | poll answer event isAt => cases timeout
  | server outcome quiet waits ready => cases timeout

private theorem timeoutsToPoll_le (safe : Safe state) (pending : state.event = true)
    {label : Label} (moves : Moves state label after)
    (unpolled : isPoll label = false) (other : isTimeout label = false) :
    timeoutsToPoll after ≤ timeoutsToPoll state := by
  cases moves with
  | host bytes => exact Nat.le_of_eq (timeoutsToPoll_host bytes)
  | poll answer event isAt => cases unpolled
  | timeout isAt held => cases other
  | isr interrupts => exact Nat.le_refl _
  | lock isAt free => exact Nat.zero_le _
  | notify isAt =>
      simp only [timeoutsToPoll, isAt]
      exact Nat.le_refl _
  | unmask isAt =>
      simp only [timeoutsToPoll, isAt]
      exact Nat.le_refl _
  | take isAt notified =>
      simp only [timeoutsToPoll, isAt]
      exact Nat.le_refl _
  | mask isAt =>
      simp only [timeoutsToPoll, isAt]
      exact timeoutsAtLock_le _ _
  | server outcome quiet waits ready =>
      obtain ⟨isAt, holds⟩ := waits_at_lock safe pending quiet waits
      have fewer := stepsAtLock_serverStep holds ready outcome
      obtain ⟨server, serverNotified, received, equation, -⟩ := serverStep_eq state outcome
      rw [equation] at fewer ⊢
      simp only [timeoutsToPoll, isAt]
      exact timeoutsAtLock_mono (Nat.le_of_lt fewer)

private theorem event_kept (pending : state.event = true) {label : Label}
    (moves : Moves state label after) (unpolled : isPoll label = false) :
    after.event = true := by
  cases moves with
  | host bytes => rfl
  | poll answer event isAt => cases unpolled
  | server outcome quiet waits ready =>
      obtain ⟨server, serverNotified, received, equation, -⟩ := serverStep_eq state outcome
      rw [equation]
      exact pending
  | isr interrupts => exact pending
  | lock isAt free => exact pending
  | notify isAt => exact pending
  | unmask isAt => exact pending
  | take isAt notified => exact pending
  | mask isAt => exact pending
  | timeout isAt held => exact pending

theorem stepsToPoll_le (state : UsbState) : stepsToPoll state ≤ 10 := by
  unfold stepsToPoll
  have atLock := stepsAtLock_le state.server state.serverNotified
  have notified := stepsAtLock_le state.server (notify state.serverNotified)
  split
  · decide
  · omega
  · omega
  · omega
  · split <;> omega
  · omega

private theorem timeoutsToPoll_le_one (state : UsbState) : timeoutsToPoll state ≤ 1 := by
  unfold timeoutsToPoll
  split
  · decide
  · exact timeoutsAtLock_le _ _
  · exact timeoutsAtLock_le _ _
  · decide
  · decide
  · decide

end Ranks

theorem stepsToPoll_ranking (event : Bool) :
    (usbTasks event).Ranking Prompt (fun state => Safe state ∧ state.event = true)
      isPoll isSystem stepsToPoll where
  kept := by
    rintro state label after ⟨safe, pending⟩ _ steps unpolled
    have moves := Moves.of_step steps
    exact ⟨safe.step moves, event_kept pending moves unpolled⟩
  lowers := by
    rintro state label after ⟨safe, pending⟩ prompt steps unpolled system
    exact stepsToPoll_lt safe pending prompt (Moves.of_step steps) unpolled system
  raises := by
    rintro state label after - _ steps - outside
    cases label with
    | host bytes =>
        cases steps
        exact Nat.le_of_eq (stepsToPoll_host bytes)
    | isr => cases outside
    | usbd => cases outside
    | poll answer event => cases outside
    | timeout => cases outside
    | server outcome => cases outside

private theorem timeoutsToPoll_ranking (event : Bool) :
    (usbTasks event).Ranking Prompt (fun state => Safe state ∧ state.event = true)
      isPoll isTimeout timeoutsToPoll where
  kept := (stepsToPoll_ranking event).kept
  lowers := by
    rintro state label after - prompt steps - timeout
    exact timeoutsToPoll_lt prompt (Moves.of_step steps) timeout
  raises := by
    rintro state label after ⟨safe, pending⟩ - steps unpolled other
    exact timeoutsToPoll_le safe pending (Moves.of_step steps) unpolled other

section Enabled

variable {state : UsbState}

private theorem usbdStep_isSome (notPoll : state.usbd ≠ .poll) :
    ∃ after, state.usbdStep = some after := by
  unfold UsbState.usbdStep
  cases isAt : state.usbd with
  | poll => exact absurd isAt notPoll
  | lock => exact ⟨_, rfl⟩
  | notify => exact ⟨_, rfl⟩
  | unmask => exact ⟨_, rfl⟩
  | take => exact ⟨_, rfl⟩
  | mask => exact ⟨_, rfl⟩

private theorem enabled_usbd (quiet : state.interrupts = false) (ready : state.usbdReady = true) :
    ∃ label after, isSystem label = true ∧ Prompt state label ∧
      state.step label = some after := by
  by_cases isPoll : state.usbd = .poll
  · refine ⟨.poll true true, { state with usbd := .notify, event := true }, rfl, trivial, ?_⟩
    rw [UsbState.step, quiet, UsbState.pollStep, isPoll]
    rfl
  · obtain ⟨after, steps⟩ := usbdStep_isSome isPoll
    refine ⟨.usbd, after, rfl, trivial, ?_⟩
    rw [UsbState.step, quiet, ready]
    exact steps

/-- Where the lock of `usbd` is not free, the server can run or the lock times out. -/
theorem enabled_server (quiet : state.interrupts = false) (isAt : state.usbd = .lock)
    (waits : state.usbdReady = false) :
    ∃ label after, isSystem label = true ∧ Prompt state label ∧
      state.step label = some after := by
  cases ready : state.serverReady with
  | true =>
      let outcome : Outcome := { count := 1, responds := false, complete := true }
      refine ⟨.server outcome, state.serverStep outcome, rfl, trivial, ?_⟩
      rw [UsbState.step, quiet, waits, ready]
      rfl
  | false =>
      have held : state.free = false := by
        rw [UsbState.usbdReady, isAt] at waits
        exact waits
      refine ⟨.timeout, { state with usbd := .notify }, rfl, ready, ?_⟩
      rw [UsbState.step, quiet, isAt, held]
      rfl

/-- Some step of the system can come next, whatever the tasks are at. -/
theorem enabled (safe : Safe state) (pending : state.event = true) :
    ∃ label after, isSystem label = true ∧ Prompt state label ∧
      state.step label = some after := by
  cases quiet : state.interrupts with
  | true =>
      refine ⟨.isr, state.usbFs, rfl, trivial, ?_⟩
      rw [UsbState.step, quiet]
      rfl
  | false =>
      cases ready : state.usbdReady with
      | true => exact enabled_usbd quiet ready
      | false =>
          obtain ⟨isAt, -⟩ := waits_at_lock safe pending quiet ready
          exact enabled_server quiet isAt ready

end Enabled

/-- From any state with an event, whatever the host sends meanwhile: without a poll
the system takes at most ten steps, at most one of them a timeout, and it can
always take the next one. -/
theorem polled_soon {event : Bool} {state after : UsbState} {labels : List Label}
    (reaches : (usbTasks event).Reachable state) (pending : state.event = true)
    (runs : (usbTasks event).runWithin Prompt state labels = some after)
    (unpolled : ∀ label ∈ labels, isPoll label = false) :
    labels.countP isSystem ≤ 10 ∧ labels.countP isTimeout ≤ 1 ∧
      ∃ label next, isSystem label = true ∧ Prompt after label ∧
        after.step label = some next := by
  have safe : Safe state := by
    apply reaches.invariant (I := Safe) (usb_tasks_initially event)
    intro before label after safe _ steps
    exact safe.step (Moves.of_step steps)
  have steps := (stepsToPoll_ranking event).countP_le labels ⟨safe, pending⟩ runs unpolled
  have timeouts :=
    (timeoutsToPoll_ranking event).countP_le labels ⟨safe, pending⟩ runs unpolled
  have last := (stepsToPoll_ranking event).holds labels ⟨safe, pending⟩ runs unpolled
  exact
    ⟨Nat.le_trans steps (stepsToPoll_le state),
      Nat.le_trans timeouts (timeoutsToPoll_le_one state), enabled last.1 last.2⟩

/-- The sleeping server holds the port: `usbd` has it after one timeout. -/
def servedAsleep : List Label :=
  [.isr, .usbd, .usbd, .timeout, .usbd,
    .server { count := 1, responds := false, complete := false }, .host 1, .usbd]

def servedState : UsbState where
  usbd := .poll
  server := .lock
  usbdNotified := 0
  serverNotified := 0
  masked := true
  event := true
  received := 4

theorem polled_soon_asleep :
    servedAsleep.countP isSystem ≤ 10 ∧ servedAsleep.countP isTimeout ≤ 1 ∧
      ∃ label next, isSystem label = true ∧ Prompt servedState label ∧
        servedState.step label = some next :=
  polled_soon asleepState_reachable rfl (by decide) (by decide)

end SelfWriter.Usb
