import SelfWriter.Sensors.Steps

/-!
# Every enabled channel is woken up again

An enabled channel lives on its guard and on two kinds of messages: the guard's
timeout and the start commands that the sensor task sends to itself.  These are
sent with zero wait, and a channel is lost when the last of them is dropped.
-/

namespace SelfWriter.Sensors

open SelfWriter.Lib

variable {setup : Setup}

/-! ## What the commands for a guard come to -/

/-- Whether the timer runs after the commands. -/
def settles (armed : Bool) (commands : List GuardCommand) : Bool :=
  commands.foldl (fun _ command => command.arms) armed

/-- Whether the timer will run once the timer task has obeyed what waits. -/
def Guard.willRun (guard : Guard) : Bool :=
  settles guard.armed guard.pending

theorem settles_append (armed : Bool) (first second : List GuardCommand) :
    settles armed (first ++ second) = settles (settles armed first) second :=
  List.foldl_append

/-- The commands for the guard of a channel that are still to be given. -/
def guardCommands (channel : FChannel) : List TaskOp → List GuardCommand
  | [] => []
  | .on owner (.guard command) :: ops =>
      if owner = channel then command :: guardCommands channel ops
      else guardCommands channel ops
  | _ :: ops => guardCommands channel ops

private theorem guardCommands_append (channel : FChannel) (first second : List TaskOp) :
    guardCommands channel (first ++ second) =
      guardCommands channel first ++ guardCommands channel second := by
  induction first using guardCommands.induct channel with
  | case1 => rfl
  | case2 command ops inductionHypothesis =>
      simp only [List.cons_append, guardCommands, if_true, inductionHypothesis]
  | case3 owner command ops other inductionHypothesis =>
      simp only [List.cons_append, guardCommands, if_neg other,
        inductionHypothesis]
  | case4 op ops noGuard inductionHypothesis =>
      rw [List.cons_append, guardCommands, guardCommands, inductionHypothesis]
      · exact noGuard
      · exact noGuard

/-- A step that is not about the channel gives its guard no command. -/
theorem guardCommands_cons_of_other {channel : FChannel} {op : TaskOp}
    (other : op.channel ≠ some channel) (ops : List TaskOp) :
    guardCommands channel (op :: ops) = guardCommands channel ops := by
  cases op with
  | on owner op =>
      have different : owner ≠ channel := fun same => other (congrArg some same)
      cases op with
      | guard command => rw [guardCommands, if_neg different]
      | _ => rfl
  | post command => rfl
  | settled owner => rfl

private theorem guardCommands_of_leavesAlone {channel : FChannel} {ops : List TaskOp}
    (leaves : LeavesAlone channel ops) : guardCommands channel ops = [] := by
  induction ops with
  | nil => rfl
  | cons op ops inductionHypothesis =>
      rw [guardCommands_cons_of_other (leaves op List.mem_cons_self)]
      exact inductionHypothesis
        (fun later member => leaves later (List.mem_cons_of_mem _ member))

/-- Whatever came before, the guard runs after these steps. -/
def StartsGuard (channel : FChannel) (ops : List TaskOp) : Prop :=
  ∀ armed, settles armed (guardCommands channel ops) = true

theorem StartsGuard.append {channel : FChannel} (first : List TaskOp)
    {second : List TaskOp} (starts : StartsGuard channel second) :
    StartsGuard channel (first ++ second) := by
  intro armed
  rw [guardCommands_append, settles_append]
  exact starts _

private theorem startsGuard_start (channel : FChannel) :
    StartsGuard channel (onChannel channel FChProcessor.start) := by
  intro armed
  simp [onChannel, FChProcessor.start, guardCommands, settles,
    GuardCommand.arms]

private theorem startsGuard_resetGuard (channel : FChannel) :
    StartsGuard channel (onChannel channel FChProcessor.resetGuard) := by
  intro armed
  simp [onChannel, FChProcessor.resetGuard, guardCommands, settles,
    GuardCommand.arms]

private theorem startsGuard_restart (channel : FChannel) :
    StartsGuard channel (onChannel channel FChProcessor.restart) := by
  intro armed
  simp [onChannel, FChProcessor.restart, FChProcessor.resetGuard, guardCommands,
    settles, GuardCommand.arms]

/-! ## Wake-ups -/

/-- The messages that bring a channel back, or disable it.  A capture does when
it restarts the cycle. -/
def Posted.wakes (setup : Setup) (channel : FChannel) (posted : Posted) : Bool :=
  match posted.command with
  | .readyFChannel owner event _ _ wraped =>
      owner = channel && (wraped || (setup.startStop && event = .stop))
  | command => commandChannel command = some channel

private theorem commandChannel_of_wakes {channel : FChannel} {posted : Posted}
    (wakes : posted.wakes setup channel = true) :
    commandChannel posted.command = some channel := by
  obtain ⟨command, origin⟩ := posted
  cases command with
  | readyFChannel owner event target captured wraped =>
      obtain ⟨own, _⟩ := Bool.and_eq_true_iff.mp wakes
      exact congrArg some (of_decide_eq_true own)
  | _ => exact of_decide_eq_true wakes

/-- With the given guard, steps of the sensor task and queue: the guard will
run, or a message that wakes the channel waits or is about to be sent. -/
def HasWakeUp (setup : Setup) (channel : FChannel) (guard : Guard)
    (todo : List TaskOp) (queue : List Posted) : Prop :=
  settles guard.armed (guard.pending ++ guardCommands channel todo) = true ∨
    (∃ posted ∈ queue, posted.wakes setup channel = true) ∨
    ∃ count, TaskOp.post (.start (.fChannel channel) count) ∈ todo

/-- The channel has a wake-up as things stand. -/
def Awake (setup : Setup) (channel : FChannel) (state : State) : Prop :=
  HasWakeUp setup channel (state.guard channel) state.todo state.queue

/-- Every enabled channel has a wake-up. -/
def AllAwake (setup : Setup) (state : State) : Prop :=
  ∀ channel, state.enabled channel = true → Awake setup channel state

/-- A message about the channel gets into the queue, or the channel is not enabled. -/
def GetsThrough (setup : Setup) (state : State) (channel : FChannel) : Prop :=
  state.hasRoom setup = true ∨ state.enabled channel = false

/-- The start commands of the sensor task and the timeouts of the guards of enabled
channels find room in the queue. -/
def KeepsWakeUp (setup : Setup) (state : State) : Label → Prop
  | .perform =>
      match state.todo with
      | .post (.start (.fChannel channel) _) :: _ => GetsThrough setup state channel
      | _ => True
  | .guardExpires channel => GetsThrough setup state channel
  | _ => True

section HasWakeUp

variable {channel : FChannel} {guard : Guard} {todo : List TaskOp}
  {queue : List Posted}

theorem HasWakeUp.mono {longer : List Posted}
    (has : HasWakeUp setup channel guard todo queue)
    (kept : ∀ posted ∈ queue, posted ∈ longer) :
    HasWakeUp setup channel guard todo longer := by
  rcases has with running | ⟨posted, member, wakes⟩ | sent
  · exact Or.inl running
  · exact Or.inr (Or.inl ⟨posted, kept posted member, wakes⟩)
  · exact Or.inr (Or.inr sent)

/-- A message is a wake-up whatever the guard and the sensor task do. -/
theorem HasWakeUp.of_message {posted : Posted} (member : posted ∈ queue)
    (wakes : posted.wakes setup channel = true) :
    HasWakeUp setup channel guard todo queue :=
  Or.inr (Or.inl ⟨posted, member, wakes⟩)

theorem HasWakeUp.of_startsGuard (starts : StartsGuard channel todo) :
    HasWakeUp setup channel guard todo queue := by
  refine Or.inl ?_
  rw [settles_append]
  exact starts _

/-- A step that sends no start command and hands the guard what it holds for
it. -/
theorem HasWakeUp.tail {guard' : Guard} {op : TaskOp}
    (has : HasWakeUp setup channel guard (op :: todo) queue)
    (noStart : ∀ count, op ≠ .post (.start (.fChannel channel) count))
    (armed : guard'.armed = guard.armed)
    (commands : guard'.pending ++ guardCommands channel todo =
      guard.pending ++ guardCommands channel (op :: todo)) :
    HasWakeUp setup channel guard' todo queue := by
  rcases has with running | waiting | ⟨count, member⟩
  · rw [← armed, ← commands] at running
    exact Or.inl running
  · exact Or.inr (Or.inl waiting)
  · rcases List.mem_cons.mp member with same | later
    · exact absurd same.symm (noStart count)
    · exact Or.inr (Or.inr ⟨count, later⟩)

/-- Between two commands a wake-up is a message or the guard. -/
theorem HasWakeUp.of_nil (has : HasWakeUp setup channel guard [] queue) :
    (∃ posted ∈ queue, posted.wakes setup channel = true) ∨
      guard.willRun = true := by
  rw [HasWakeUp, guardCommands, List.append_nil] at has
  rcases has with running | waiting | ⟨_, member⟩
  · exact Or.inr running
  · exact Or.inl waiting
  · cases member

/-- A command is taken that is no wake-up of the channel, and the guard gets no
command for it. -/
theorem HasWakeUp.received {posted : Posted}
    (has : HasWakeUp setup channel guard [] (posted :: queue))
    (asleep : posted.wakes setup channel = false)
    (noCommands : guardCommands channel todo = []) :
    HasWakeUp setup channel guard todo queue := by
  rcases has.of_nil with ⟨other, member, wakes⟩ | running
  · rcases List.mem_cons.mp member with rfl | later
    · exact absurd (asleep.symm.trans wakes) Bool.false_ne_true
    · exact .of_message later wakes
  · refine Or.inl ?_
    rw [noCommands, List.append_nil]
    exact running

end HasWakeUp

/-! ## Handling a message -/

/-- What a message for a channel does when it does not leave it as it is: it
disables the channel, or the guard or a start command follow. -/
inductive HandsOn (channel : FChannel) (after : State) : Prop where
  | disabled (off : after.enabled channel = false)
  | guarded (starts : StartsGuard channel after.todo)
  | sent (count : UInt32)
      (member : TaskOp.post (.start (.fChannel channel) count) ∈ after.todo)

theorem HandsOn.awake {channel : FChannel} {after : State}
    (handsOn : HandsOn channel after) (enabled : after.enabled channel = true) :
    Awake setup channel after := by
  cases handsOn with
  | disabled off => exact absurd (off.symm.trans enabled) Bool.false_ne_true
  | guarded starts => exact .of_startsGuard starts
  | sent count member => exact Or.inr (Or.inr ⟨count, member⟩)

/-- What a start capture leaves of a channel. -/
structure LeftAsIs (channel : FChannel) (state after : State) : Prop where
  todo : after.todo = []
  queue : after.queue = state.queue
  guard : after.guard channel = state.guard channel
  enabled : after.enabled channel = state.enabled channel

private theorem answered_enabled_of_stop {channel : FChannel} {answer : Answer}
    (stops : answer.continueWork = false) (state : State) :
    (state.answered channel answer).enabled channel = false := by
  rw [State.answered, stops]
  exact Function.update_self ..

private theorem startsGuard_resultOps {channel : FChannel} {answer : Answer}
    (continues : answer.continueWork = true) :
    StartsGuard channel (resultOps setup channel answer) := by
  rw [resultOps, if_pos continues]
  apply StartsGuard.append
  cases setup.startStop with
  | true => exact startsGuard_restart channel
  | false => exact startsGuard_resetGuard channel

/-- Only an unwrapped capture that is not a stop capture can leave the channel
as it is. -/
theorem handleReady_handsOn {channel : FChannel} {event : TimerEvent}
    {target captured : UInt32} {wraped : Bool} {cycle : Nat} {answer : Answer}
    {state after : State}
    (handles : handleReady setup channel event target captured wraped cycle
      answer state = some after)
    (idle : state.todo = []) :
    HandsOn channel after ∨
      (wraped || (setup.startStop && event = .stop)) = false ∧
        LeftAsIs channel state after := by
  obtain ⟨_, guardKept⟩ := inputCaptured_keeps setup.startStop
    (state.channels channel).controller event captured
  rw [handleReady] at handles
  split at handles
  · cases handles
    exact Or.inl (.guarded (startsGuard_restart channel))
  · rename_i notWraped
    simp only at handles
    split at handles
    · rename_i noResult
      cases handles
      refine Or.inr ⟨?_, idle, rfl, ?_, rfl⟩
      · -- a stop capture always has a result
        rw [Bool.eq_false_iff.mpr notWraped, Bool.false_or]
        by_contra restarts
        obtain ⟨startStop, isStop⟩ :=
          Bool.and_eq_true_iff.mp (Bool.not_eq_false _ ▸ restarts)
        rw [of_decide_eq_true isStop, FreqmeterController.inputCaptured,
          if_pos startStop] at noResult
        cases noResult
      · rw [State.guard, setChannel_self]
        exact guardKept
    · split at handles
      · cases handles
        refine Or.inl ?_
        cases continueWork : answer.continueWork with
        | false => exact .disabled (answered_enabled_of_stop continueWork _)
        | true => exact .guarded (startsGuard_resultOps continueWork)
      · cases handles

private theorem handleTimeout_handsOn {channel : FChannel} {answer : Answer}
    {state after : State}
    (handles : handleTimeout setup channel answer state = some after) :
    HandsOn channel after := by
  rw [handleTimeout] at handles
  split at handles
  · cases handles
    cases continueWork : answer.continueWork with
    | false => exact .disabled (answered_enabled_of_stop continueWork _)
    | true =>
        by_cases started :
            ((state.channels channel).controller.start ||
              answer.newTarget.isSome) = true
        · refine .guarded ?_
          change StartsGuard channel (signalLostOps channel _ answer)
          rw [signalLostOps, if_pos continueWork, if_pos started]
          exact .append _ (startsGuard_restart channel)
        · refine .sent 0 ?_
          change _ ∈ signalLostOps channel _ answer
          rw [signalLostOps, if_pos continueWork, if_neg started]
          exact List.mem_append_right _ List.mem_cons_self
  · cases handles

private theorem handleStart_handsOn (channel : FChannel) (count : UInt32)
    (state : State) : HandsOn channel (handleStart channel count state) := by
  rw [handleStart]
  split
  · exact .guarded (startsGuard_start channel)
  · exact .sent (count + 1) (List.mem_append_right _ List.mem_cons_self)

private theorem handleStop_handsOn (channel : FChannel) (state : State) :
    HandsOn channel (handleStop channel state) :=
  .disabled (Function.update_self ..)

/-- A message that wakes the channel hands its wake-up on. -/
theorem handle_handsOn {channel : FChannel} {posted : Posted}
    (own : commandChannel posted.command = some channel) {answer : Answer}
    {state after : State}
    (handles : handle setup posted answer state = some after)
    (idle : state.todo = []) :
    HandsOn channel after ∨
      posted.wakes setup channel = false ∧ LeftAsIs channel state after := by
  obtain ⟨command, origin⟩ := posted
  cases command with
  | start target count =>
      cases target with
      | fChannel owner =>
          cases own
          cases handles
          exact Or.inl (handleStart_handsOn channel count state)
      | aChannel _ => cases own
  | stop target =>
      cases target with
      | fChannel owner =>
          cases own
          cases handles
          exact Or.inl (handleStop_handsOn channel state)
      | aChannel _ => cases own
  | readyFChannel owner event target captured wraped =>
      cases own
      rcases handleReady_handsOn handles idle with handsOn | ⟨restarts, left⟩
      · exact Or.inl handsOn
      · refine Or.inr ⟨?_, left⟩
        change (decide (channel = channel) && _) = false
        rw [restarts, Bool.and_false]
  | readAChannel _ => cases own
  | timeoutFChannel owner guardTicks =>
      cases own
      exact Or.inl (handleTimeout_handsOn handles)

/-! ## What one step keeps -/

private theorem receive_allAwake {answer : Answer} {state after : State}
    (awake : AllAwake setup state)
    (receives : receive setup answer state = some after) :
    AllAwake setup after := by
  intro channel enabled
  obtain ⟨posted, rest, idle, isNext, handles⟩ := receive_eq receives
  have before (wasEnabled : state.enabled channel = true) :
      HasWakeUp setup channel (state.guard channel) [] (posted :: rest) := by
    have has := awake channel wasEnabled
    rw [Awake, idle, isNext] at has
    exact has
  by_cases own : commandChannel posted.command = some channel
  · rcases handle_handsOn own handles idle with handsOn | ⟨asleep, left⟩
    · exact handsOn.awake enabled
    · rw [Awake, left.queue, left.guard, left.todo]
      exact (before (left.enabled.symm.trans enabled)).received asleep rfl
  · have bystander := handle_bystander own handles idle
    rw [Awake, State.guard, bystander.queue, bystander.channelState]
    apply (before (bystander.enabled.symm.trans enabled)).received
    · rw [Bool.eq_false_iff]
      intro wakes
      exact own (commandChannel_of_wakes wakes)
    · exact guardCommands_of_leavesAlone bystander.todo

/-- A step on a channel hands its guard the command that it holds. -/
theorem perform_guard (channel : FChannel) {op : ChannelOp}
    {before after : FreqmeterController}
    (performs : op.perform before = some after) (rest : List TaskOp) :
    after.noSignalGuard.armed = before.noSignalGuard.armed ∧
      after.noSignalGuard.pending ++ guardCommands channel rest =
        before.noSignalGuard.pending ++
          guardCommands channel (.on channel op :: rest) := by
  cases op with
  | guard command =>
      cases performs
      refine ⟨rfl, ?_⟩
      rw [guardCommands, if_pos rfl]
      exact List.append_assoc ..
  | setTarget32 target =>
      obtain ⟨freqmeter, _, rfl⟩ := Option.map_eq_some_iff.mp performs
      exact ⟨rfl, rfl⟩
  | _ =>
      cases performs
      exact ⟨rfl, rfl⟩

private theorem perform_allAwake {state after : State} (awake : AllAwake setup state)
    (keeps : KeepsWakeUp setup state .perform)
    (performs : perform setup state = some after) : AllAwake setup after := by
  intro channel enabled
  obtain ⟨op, rest, isNext, performs⟩ := perform_eq performs
  have before (wasEnabled : state.enabled channel = true) :
      HasWakeUp setup channel (state.guard channel) (op :: rest)
        state.queue := by
    have has := awake channel wasEnabled
    rw [Awake, isNext] at has
    exact has
  by_cases own : op.channel = some channel
  · cases op with
    | on owner op =>
        cases own
        obtain ⟨controller, changes, rfl⟩ := Option.map_eq_some_iff.mp performs
        obtain ⟨armed, commands⟩ := perform_guard channel changes rest
        rw [Awake, State.guard, setChannel_self]
        exact (before enabled).tail (fun _ same => by cases same) armed commands
    | post command =>
        cases performs
        rw [offer_enabled] at enabled
        rw [Awake, State.guard, offer_todo, offer_channels]
        by_cases isStart : ∃ count, command = .start (.fChannel channel) count
        · obtain ⟨count, rfl⟩ := isStart
          rw [KeepsWakeUp, isNext] at keeps
          rcases keeps with room | disabled
          · refine .of_message (mem_offer_of_room _ _ _ room) ?_
            exact decide_eq_true rfl
          · exact absurd (disabled.symm.trans enabled) Bool.false_ne_true
        · apply HasWakeUp.mono _ (fun _ member => mem_offer _ _ _ member)
          apply (before enabled).tail _ rfl rfl
          rintro count same
          cases same
          exact isStart ⟨count, rfl⟩
    | settled owner =>
        cases own
        cases performs
        exact (before enabled).tail (fun _ same => by cases same) rfl rfl
  · obtain ⟨todo, channelState, sameEnabled, _, queue, _⟩ :=
      performOp_bystander own performs
    rw [sameEnabled] at enabled
    rw [Awake, State.guard, todo, channelState]
    apply HasWakeUp.mono _ queue
    apply (before enabled).tail _ rfl
    · rw [guardCommands_cons_of_other own]
    · rintro count rfl
      exact own rfl

/-- What neither takes a command nor a step of the sensor task nor a timeout
leaves every wake-up. -/
theorem AllAwake.mono {state after : State} (awake : AllAwake setup state)
    (guard : ∀ channel, after.guard channel = state.guard channel)
    (todo : after.todo = state.todo) (enabled : after.enabled = state.enabled)
    (queue : ∀ posted ∈ state.queue, posted ∈ after.queue) :
    AllAwake setup after := by
  intro channel isEnabled
  rw [enabled] at isEnabled
  rw [Awake, guard, todo]
  exact (awake channel isEnabled).mono queue

private theorem capture_allAwake {owner : FChannel} {captured : UInt32} {wraped : Bool}
    {state after : State} (awake : AllAwake setup state)
    (captures : capture setup owner captured wraped state = some after) :
    AllAwake setup after := by
  obtain ⟨_, _, _, _, rfl⟩ := capture_eq captures
  apply awake.mono
  · intro channel
    rw [State.guard, offer_channels]
    by_cases own : owner = channel
    · subst own
      rw [setChannel_self]
      rfl
    · rw [setChannel_other own]
      rfl
  · exact offer_todo ..
  · exact offer_enabled ..
  · exact fun _ member => mem_offer _ _ _ member

/-- The commands that wait count as obeyed already. -/
theorem guardObeys_allAwake {owner : FChannel} {state after : State}
    (awake : AllAwake setup state)
    (obeys : guardObeys owner state = some after) : AllAwake setup after := by
  intro channel enabled
  obtain ⟨guard, isObeyed, rfl⟩ := guardObeys_eq obeys
  have before := awake channel enabled
  rw [Awake] at before ⊢
  by_cases own : owner = channel
  · subst own
    rw [setGuard_self]
    rw [Guard.obey] at isObeyed
    split at isObeyed
    · cases isObeyed
    · rename_i command rest isPending
      cases isObeyed
      rw [HasWakeUp, isPending] at before
      exact before
  · rw [setGuard_other own]
    exact before

private theorem guardExpires_allAwake {owner : FChannel} {state after : State}
    (awake : AllAwake setup state)
    (keeps : KeepsWakeUp setup state (.guardExpires owner))
    (expires : guardExpires setup owner state = some after) :
    AllAwake setup after := by
  intro channel enabled
  obtain ⟨_, rfl⟩ := guardExpires_eq expires
  rw [offer_enabled] at enabled
  rw [Awake, State.guard, offer_channels, offer_todo, ← State.guard]
  by_cases own : owner = channel
  · subst own
    rcases keeps with room | disabled
    · refine .of_message (mem_offer_of_room _ _ _ room) ?_
      exact decide_eq_true rfl
    · exact absurd (disabled.symm.trans enabled) Bool.false_ne_true
  · apply HasWakeUp.mono _ (fun _ member => mem_offer _ _ _ member)
    rw [setGuard_other own]
    exact awake channel enabled

private theorem send_allAwake {request : Request} {state after : State}
    (awake : AllAwake setup state)
    (sends : send setup request state = some after) : AllAwake setup after := by
  obtain ⟨_, rfl⟩ := send_eq sends
  exact awake.mono (fun _ => rfl) rfl rfl
    (fun _ member => List.mem_append_left _ member)

theorem step_allAwake {state after : State} {label : Label}
    (awake : AllAwake setup state) (keeps : KeepsWakeUp setup state label)
    (steps : step setup state label = some after) : AllAwake setup after := by
  cases label with
  | receive answer => exact receive_allAwake awake steps
  | perform => exact perform_allAwake awake keeps steps
  | capture channel captured wraped => exact capture_allAwake awake steps
  | guardObeys channel => exact guardObeys_allAwake awake steps
  | guardExpires channel => exact guardExpires_allAwake awake keeps steps
  | send request => exact send_allAwake awake steps
  | analogReady channel =>
      cases steps
      apply awake.mono
      · intro owner
        rw [State.guard, offer_channels]
        rfl
      · exact offer_todo ..
      · exact offer_enabled ..
      · exact fun _ member => mem_offer _ _ _ member

/-! ## Whole runs -/

/-- In a run in which no enabled channel loses a wake-up to a full queue, every
enabled channel has, between two commands, a message in the queue or a guard
that runs once the timer task has obeyed its commands. -/
theorem enabled_channel_wakes_up (setup : Setup) {state : State}
    (reaches : (sensorProcessor setup).Reaches (KeepsWakeUp setup) state)
    (idle : state.todo = []) (channel : FChannel)
    (enabled : state.enabled channel = true) :
    (∃ posted ∈ state.queue, commandChannel posted.command = some channel) ∨
      (state.channels channel).controller.noSignalGuard.willRun = true := by
  have awake : AllAwake setup state :=
    Machine.Reaches.invariant (I := AllAwake setup)
      (fun _ isEnabled => absurd isEnabled Bool.false_ne_true)
      (fun _ _ _ awake keeps steps => step_allAwake awake keeps steps)
      reaches
  have has := awake channel enabled
  rw [Awake, idle] at has
  rcases has.of_nil with ⟨posted, member, wakes⟩ | running
  · exact Or.inl ⟨posted, member, commandChannel_of_wakes wakes⟩
  · exact Or.inr running

/-- A channel that was started and waits for its second start command. -/
theorem enabled_channel_wakes_up_started :
    ∃ state : State,
      state.enabled .pressure = true ∧
        ((∃ posted ∈ state.queue,
            commandChannel posted.command = some .pressure) ∨
          (state.channels .pressure).controller.noSignalGuard.willRun = true) :=
  let setup := recorderSetup (fun _ => 4500)
  ⟨_, rfl, enabled_channel_wakes_up setup
    (.step .perform
      (.step .perform
        (.step (.receive ⟨true, none⟩)
          (.step (.send (.start (.fChannel .pressure))) .start trivial rfl)
          trivial rfl)
        trivial rfl)
      (Or.inl rfl) rfl)
    rfl .pressure rfl⟩

/-- Between two commands, nothing is left that wakes the enabled channel. -/
structure Lost (channel : FChannel) (state : State) : Prop where
  idle : state.todo = []
  enabled : state.enabled channel = true
  noMessage : ∀ posted ∈ state.queue, commandChannel posted.command ≠ some channel
  unguarded : (state.guard channel).willRun = false

private theorem offer_of_full {state : State} (full : state.hasRoom setup = false)
    (posted : Posted) : state.offer setup posted = state := by
  rw [State.offer, full]
  rfl

/-- Conversely, a channel is lost by a start command that finds no room, when there is
no other wake-up. -/
theorem lost_of_dropped_start {channel : FChannel} {count : UInt32}
    {state after : State} (enabled : state.enabled channel = true)
    (isNext : state.todo = [.post (.start (.fChannel channel) count)])
    (noMessage : ∀ posted ∈ state.queue, commandChannel posted.command ≠ some channel)
    (unguarded : (state.guard channel).willRun = false)
    (full : state.hasRoom setup = false)
    (performs : perform setup state = some after) : Lost channel after := by
  obtain ⟨op, rest, isOp, performs⟩ := perform_eq performs
  rw [isNext] at isOp
  cases isOp
  cases performs
  rw [offer_of_full]
  · exact ⟨rfl, enabled, noMessage, unguarded⟩
  · exact full

/-- The same for the timeout of the guard. -/
theorem lost_of_dropped_timeout {channel : FChannel} {state after : State}
    (enabled : state.enabled channel = true) (idle : state.todo = [])
    (noMessage : ∀ posted ∈ state.queue, commandChannel posted.command ≠ some channel)
    (noCommands : (state.guard channel).pending = [])
    (full : state.hasRoom setup = false)
    (expires : guardExpires setup channel state = some after) : Lost channel after := by
  obtain ⟨_, rfl⟩ := guardExpires_eq expires
  rw [offer_of_full]
  · refine ⟨idle, enabled, noMessage, ?_⟩
    rw [setGuard_self, Guard.willRun, Guard.expire, noCommands]
    rfl
  · exact full

/-- The queue is full, and a waiting sender takes the place of the start
command before the sensor task has sent the second one: the channel is powered
and never started. -/
theorem channel_lost_by_full_queue :
    let setup := recorderSetup (fun _ => 4500)
    ∃ state, (sensorProcessor setup).Reachable state ∧ state.todo = [] ∧
      state.enabled .pressure = true ∧
      (∀ posted ∈ state.queue,
        commandChannel posted.command ≠ some .pressure) ∧
      (state.channels .pressure).controller.noSignalGuard.willRun = false :=
  ⟨_, Machine.Reaches.run
    ([.send (.start (.fChannel .pressure))] ++
      List.replicate 39 (.send (.stop (.fChannel .temperature))) ++
      [.receive ⟨true, none⟩, .send (.stop (.fChannel .temperature)),
        .perform, .perform])
    .start rfl, rfl, rfl, by decide, rfl⟩

end SelfWriter.Sensors
