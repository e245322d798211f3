import SelfWriter.Sensors.SensorProcessor

/-!
# What a step changes

Every step is about one channel, or about none.  For the channels it is not
about, it changes nothing but the messages in the queue that are not for them.
-/

namespace SelfWriter.Sensors

open SelfWriter.Lib

/-! ## Channels of commands and steps -/

/-- The frequency channel that a command is about. -/
def commandChannel : Command → Option FChannel
  | .start (.fChannel channel) _ => some channel
  | .stop (.fChannel channel) => some channel
  | .readyFChannel channel _ _ _ _ => some channel
  | .timeoutFChannel channel _ => some channel
  | .start (.aChannel _) _ => none
  | .stop (.aChannel _) => none
  | .readAChannel _ => none

def TaskOp.channel : TaskOp → Option FChannel
  | .on channel _ => some channel
  | .post command => commandChannel command
  | .settled channel => some channel

/-- None of the steps is about the channel. -/
def LeavesAlone (channel : FChannel) (ops : List TaskOp) : Prop :=
  ∀ op ∈ ops, op.channel ≠ some channel

theorem LeavesAlone.nil (channel : FChannel) : LeavesAlone channel [] :=
  fun _ member => absurd member List.not_mem_nil

theorem LeavesAlone.append {channel : FChannel} {first second : List TaskOp}
    (left : LeavesAlone channel first) (right : LeavesAlone channel second) :
    LeavesAlone channel (first ++ second) := by
  intro op member
  rcases List.mem_append.mp member with inFirst | inSecond
  · exact left op inFirst
  · exact right op inSecond

theorem LeavesAlone.single {channel : FChannel} {op : TaskOp}
    (other : op.channel ≠ some channel) : LeavesAlone channel [op] := by
  intro op' member
  rw [List.mem_singleton.mp member]
  exact other

theorem LeavesAlone.onChannel {channel owner : FChannel} (other : owner ≠ channel)
    (ops : List ChannelOp) : LeavesAlone channel (onChannel owner ops) := by
  intro op member
  obtain ⟨channelOp, _, rfl⟩ := List.mem_map.mp member
  intro same
  cases same
  exact other rfl

private theorem leavesAlone_setTargetOps {channel owner : FChannel}
    (other : owner ≠ channel) (newTarget : Option (UInt32 × UInt32)) :
    LeavesAlone channel (setTargetOps owner newTarget) := by
  cases newTarget with
  | none => exact .nil channel
  | some target => exact .onChannel other _

/-! ## Messages that are not waited for -/

section Offer

variable (setup : Setup) (posted : Posted) (state : State)

@[simp]
theorem offer_todo : (state.offer setup posted).todo = state.todo := by
  rw [State.offer]
  split <;> rfl

@[simp]
theorem offer_channels :
    (state.offer setup posted).channels = state.channels := by
  rw [State.offer]
  split <;> rfl

@[simp]
theorem offer_captures :
    (state.offer setup posted).captures = state.captures := by
  rw [State.offer]
  split <;> rfl

@[simp]
theorem offer_results : (state.offer setup posted).results = state.results := by
  rw [State.offer]
  split <;> rfl

@[simp]
theorem offer_enabled : (state.offer setup posted).enabled = state.enabled := by
  rw [State.offer]
  split <;> rfl

@[simp]
theorem offer_halted : (state.offer setup posted).halted = state.halted := by
  rw [State.offer]
  split <;> rfl

theorem offer_queue :
    (state.offer setup posted).queue =
      if state.hasRoom setup then state.queue ++ [posted] else state.queue := by
  rw [State.offer]
  split <;> rfl

/-- A message that finds room is the last one in the queue. -/
theorem mem_offer_of_room (room : state.hasRoom setup = true) :
    posted ∈ (state.offer setup posted).queue := by
  rw [offer_queue, if_pos room]
  exact List.mem_append_right _ List.mem_cons_self

/-- Nothing leaves the queue. -/
theorem mem_offer {other : Posted} (member : other ∈ state.queue) :
    other ∈ (state.offer setup posted).queue := by
  rw [offer_queue]
  split
  · exact List.mem_append_left _ member
  · exact member

/-- Nothing else enters the queue. -/
theorem mem_queue_of_mem_offer {other : Posted}
    (member : other ∈ (state.offer setup posted).queue) :
    other ∈ state.queue ∨ other = posted := by
  rw [offer_queue] at member
  split at member
  · rcases List.mem_append.mp member with before | last
    · exact Or.inl before
    · exact Or.inr (List.mem_singleton.mp last)
  · exact Or.inl member

end Offer

@[simp]
theorem setChannel_self (channel : FChannel) (after : ChannelState)
    (state : State) : (state.setChannel channel after).channels channel = after :=
  Function.update_self ..

theorem setChannel_other {channel owner : FChannel} (other : owner ≠ channel)
    (after : ChannelState) (state : State) :
    (state.setChannel owner after).channels channel = state.channels channel :=
  Function.update_of_ne other.symm ..

def State.guard (state : State) (channel : FChannel) : Guard :=
  (state.channels channel).controller.noSignalGuard

@[simp]
theorem offer_guard (setup : Setup) (posted : Posted) (state : State) :
    (state.offer setup posted).guard = state.guard := by
  funext channel
  rw [State.guard, State.guard, offer_channels]

@[simp]
theorem setGuard_self (channel : FChannel) (guard : Guard) (state : State) :
    (state.setGuard channel guard).guard channel = guard := by
  rw [State.guard, State.setGuard, setChannel_self]

theorem setGuard_other {channel owner : FChannel} (other : owner ≠ channel)
    (guard : Guard) (state : State) :
    (state.setGuard owner guard).guard channel = state.guard channel := by
  rw [State.guard, State.setGuard, setChannel_other other, State.guard]

/-! ## What a step is -/

section Inversion

variable {setup : Setup} {state after : State}

/-- A command is taken when no step of the sensor task is left. -/
theorem receive_eq {answer : Answer}
    (receives : receive setup answer state = some after) :
    ∃ posted rest, state.todo = [] ∧ state.queue = posted :: rest ∧
      handle setup posted answer { state with queue := rest } = some after := by
  rw [receive] at receives
  split at receives
  · rename_i posted rest idle isNext
    exact ⟨posted, rest, idle, isNext, receives⟩
  · cases receives

theorem perform_eq (performs : perform setup state = some after) :
    ∃ op rest, state.todo = op :: rest ∧
      performOp setup op { state with todo := rest } = some after := by
  rw [perform] at performs
  split at performs
  · cases performs
  · rename_i op rest isNext
    exact ⟨op, rest, isNext, performs⟩

/-- A capture takes a running counter, and its message is not waited for. -/
theorem capture_eq {owner : FChannel} {captured : UInt32} {wraped : Bool}
    (captures : capture setup owner captured wraped state = some after) :
    ∃ freqmeter event,
      (state.channels owner).controller.freqmeter.captured setup.startStop =
        (freqmeter, event) ∧
      (state.channels owner).controller.freqmeter.cen = true ∧
      after = ({ state.setChannel owner
        { controller :=
            { (state.channels owner).controller with freqmeter := freqmeter }
          trace := { (state.channels owner).trace with
            startKept :=
              match event with
              | .start => !wraped && state.hasRoom setup
              | .stop => (state.channels owner).trace.startKept } } with
        captures := state.captures ++
          [{ channel := owner
             cycle := (state.channels owner).trace.cycle
             event := event
             value := captured
             kept := !wraped && state.hasRoom setup }] } : State).offer setup
        { command := .readyFChannel owner event
            (state.channels owner).controller.freqmeter.target32 captured wraped
          origin := .capture (state.channels owner).trace.cycle } := by
  rw [capture] at captures
  split at captures
  · rename_i running
    cases captures
    exact ⟨_, _, rfl, running, rfl⟩
  · cases captures

theorem guardObeys_eq {owner : FChannel}
    (obeys : guardObeys owner state = some after) :
    ∃ guard, (state.guard owner).obey = some guard ∧
      after = state.setGuard owner guard := by
  obtain ⟨guard, isObeyed, rfl⟩ := Option.map_eq_some_iff.mp obeys
  exact ⟨guard, isObeyed, rfl⟩

/-- A guard that expires runs no longer, and its message is not waited for. -/
theorem guardExpires_eq {owner : FChannel}
    (expires : guardExpires setup owner state = some after) :
    (state.guard owner).armed = true ∧
      after = (state.setGuard owner (state.guard owner).expire).offer setup
        { command := .timeoutFChannel owner (state.guard owner).period
          origin := .noSignalGuard } := by
  rw [guardExpires] at expires
  split at expires
  · rename_i armed
    cases expires
    exact ⟨armed, rfl⟩
  · cases expires

/-- A request is sent when there is room. -/
theorem send_eq {request : Request}
    (sends : send setup request state = some after) :
    state.hasRoom setup = true ∧
      after = { state with
        queue := state.queue ++
          [{ command := request.command, origin := .controller }]
        halted := request.haltedAfter state.halted } := by
  rw [send] at sends
  split at sends
  · rename_i room
    exact ⟨room, (Option.some.inj sends).symm⟩
  · cases sends

end Inversion

/-! ## Captures -/

theorem stopCaptured_keeps (self : FreqmeterController) (captured : UInt32) :
    (self.stopCaptured captured).1.freqmeter = self.freqmeter ∧
      (self.stopCaptured captured).1.noSignalGuard = self.noSignalGuard := by
  cases isPrev : self.prevDiff with
  | none => simp only [FreqmeterController.stopCaptured, isPrev, and_self]
  | some pd =>
      simp only [FreqmeterController.stopCaptured, isPrev, apply_ite Prod.fst,
        apply_ite FreqmeterController.freqmeter,
        apply_ite FreqmeterController.noSignalGuard, ite_self, and_self]

private theorem eventCaptured_keeps (self : FreqmeterController) (event : TimerEvent)
    (captured : UInt32) :
    (self.eventCaptured event captured).1.freqmeter = self.freqmeter ∧
      (self.eventCaptured event captured).1.noSignalGuard =
        self.noSignalGuard := by
  cases event with
  | start => exact ⟨rfl, rfl⟩
  | stop => exact stopCaptured_keeps self captured

/-- A capture changes neither the counter nor the guard. -/
theorem inputCaptured_keeps (startStop : Bool) (self : FreqmeterController)
    (event : TimerEvent) (captured : UInt32) :
    (self.inputCaptured startStop event captured).1.freqmeter =
        self.freqmeter ∧
      (self.inputCaptured startStop event captured).1.noSignalGuard =
        self.noSignalGuard := by
  rw [FreqmeterController.inputCaptured]
  split
  · exact eventCaptured_keeps self event captured
  · split
    · exact ⟨rfl, rfl⟩
    · exact eventCaptured_keeps self .stop captured

theorem inputCaptured_start (self : FreqmeterController) (captured : UInt32) :
    self.inputCaptured true .start captured =
      ({ self with prev := captured }, none) :=
  rfl

theorem inputCaptured_stop (self : FreqmeterController) (captured : UInt32) :
    self.inputCaptured true .stop captured =
      ((self.stopCaptured captured).1, some (self.stopCaptured captured).2) :=
  rfl

theorem inputCaptured_marked {self : FreqmeterController}
    (marked : self.start = true) (event : TimerEvent) (captured : UInt32) :
    self.inputCaptured false event captured =
      ({ self with start := false, prev := captured }, none) := by
  rw [FreqmeterController.inputCaptured, if_neg Bool.false_ne_true,
    if_pos marked]
  rfl

/-! ## Handling a message for another channel -/

variable {setup : Setup}

/-- What handling a message leaves of a channel that it is not about. -/
structure Bystander (channel : FChannel) (state after : State) : Prop where
  queue : after.queue = state.queue
  todo : LeavesAlone channel after.todo
  channelState : after.channels channel = state.channels channel
  enabled : after.enabled channel = state.enabled channel
  halted : after.halted = state.halted

theorem Bystander.refl (channel : FChannel) {state : State}
    (idle : state.todo = []) : Bystander channel state state where
  queue := rfl
  todo := by
    rw [idle]
    exact .nil channel
  channelState := rfl
  enabled := rfl
  halted := rfl

private theorem handleStart_bystander {channel owner : FChannel}
    (other : owner ≠ channel) (count : UInt32) (state : State) :
    Bystander channel state (handleStart owner count state) := by
  rw [handleStart]
  split
  · exact ⟨rfl, .onChannel other _, rfl, rfl, rfl⟩
  · refine ⟨rfl, ?_, rfl, ?_, rfl⟩
    · apply LeavesAlone.append
      · split
        · exact .onChannel other _
        · exact .nil channel
      · apply LeavesAlone.single
        intro same
        cases same
        exact other rfl
    · by_cases first : count = 0
      · simp only [first, if_true]
        exact Function.update_of_ne other.symm ..
      · simp only [first, if_false]

private theorem handleStop_bystander {channel owner : FChannel}
    (other : owner ≠ channel) (state : State) :
    Bystander channel state (handleStop owner state) where
  queue := rfl
  todo := by
    apply LeavesAlone.append
    · exact .onChannel other _
    · apply LeavesAlone.single
      intro same
      cases same
      exact other rfl
  channelState := rfl
  enabled := Function.update_of_ne other.symm ..
  halted := rfl

private theorem answered_enabled_other {channel owner : FChannel}
    (other : owner ≠ channel) (answer : Answer) (state : State) :
    (state.answered owner answer).enabled channel = state.enabled channel := by
  rw [State.answered]
  split
  · rfl
  · exact Function.update_of_ne other.symm ..

private theorem handleReady_bystander {channel owner : FChannel}
    (other : owner ≠ channel) {event : TimerEvent} {target captured : UInt32}
    {wraped : Bool} {cycle : Nat} {answer : Answer} {state after : State}
    (handles : handleReady setup owner event target captured wraped cycle answer
      state = some after)
    (idle : state.todo = []) :
    Bystander channel state after := by
  rw [handleReady] at handles
  split at handles
  · cases handles
    exact ⟨rfl, .onChannel other _, rfl, rfl, rfl⟩
  · simp only at handles
    split at handles
    · cases handles
      refine ⟨rfl, ?_, setChannel_other other _ _, rfl, rfl⟩
      change LeavesAlone channel state.todo
      rw [idle]
      exact .nil channel
    · split at handles
      · cases handles
        refine ⟨rfl, ?_, setChannel_other other _ _,
          answered_enabled_other other answer _, rfl⟩
        exact (leavesAlone_setTargetOps other _).append (.onChannel other _)
      · cases handles

private theorem handleTimeout_bystander {channel owner : FChannel}
    (other : owner ≠ channel) {answer : Answer} {state after : State}
    (handles : handleTimeout setup owner answer state = some after) :
    Bystander channel state after := by
  rw [handleTimeout] at handles
  split at handles
  · cases handles
    refine ⟨rfl, ?_, rfl, answered_enabled_other other answer _, rfl⟩
    change LeavesAlone channel (signalLostOps owner _ answer)
    rw [signalLostOps]
    split
    · apply (leavesAlone_setTargetOps other _).append
      split
      · exact .onChannel other _
      · apply LeavesAlone.single
        intro same
        cases same
        exact other rfl
    · exact .onChannel other _
  · cases handles

/-- A message is handled without regard to the channels it is not about. -/
theorem handle_bystander {channel : FChannel} {posted : Posted}
    (other : commandChannel posted.command ≠ some channel) {answer : Answer}
    {state after : State}
    (handles : handle setup posted answer state = some after)
    (idle : state.todo = []) :
    Bystander channel state after := by
  obtain ⟨command, origin⟩ := posted
  have different : ∀ owner, commandChannel command = some owner →
      owner ≠ channel := by
    rintro owner isOwner rfl
    exact other isOwner
  cases command with
  | start target count =>
      cases target with
      | fChannel owner =>
          cases handles
          exact handleStart_bystander (different owner rfl) count state
      | aChannel _ =>
          cases handles
          exact .refl channel idle
  | stop target =>
      cases target with
      | fChannel owner =>
          cases handles
          exact handleStop_bystander (different owner rfl) state
      | aChannel _ =>
          cases handles
          exact .refl channel idle
  | readyFChannel owner event target captured wraped =>
      exact handleReady_bystander (different owner rfl) handles idle
  | readAChannel _ =>
      cases handles
      exact .refl channel idle
  | timeoutFChannel owner guardTicks =>
      exact handleTimeout_bystander (different owner rfl) handles

/-! ## Steps of the sensor task for another channel -/

/-- A step of the sensor task that is not about the channel. -/
theorem performOp_bystander {channel : FChannel} {op : TaskOp}
    (other : op.channel ≠ some channel) {state after : State}
    (performs : performOp setup op state = some after) :
    after.todo = state.todo ∧
      after.channels channel = state.channels channel ∧
      after.enabled = state.enabled ∧
      after.halted channel = state.halted channel ∧
      (∀ posted ∈ state.queue, posted ∈ after.queue) ∧
      ∀ posted ∈ after.queue,
        posted ∈ state.queue ∨ commandChannel posted.command ≠ some channel := by
  cases op with
  | on owner op =>
      have different : owner ≠ channel := fun same => other (congrArg some same)
      obtain ⟨controller, _, rfl⟩ := Option.map_eq_some_iff.mp performs
      exact ⟨rfl, setChannel_other different _ _, rfl, rfl, fun _ member => member,
        fun _ member => Or.inl member⟩
  | post command =>
      cases performs
      refine ⟨offer_todo .., ?_, offer_enabled .., ?_,
        fun _ member => mem_offer _ _ _ member, ?_⟩
      · rw [offer_channels]
      · rw [offer_halted]
      · intro posted member
        rcases mem_queue_of_mem_offer _ _ _ member with before | rfl
        · exact Or.inl before
        · exact Or.inr other
  | settled owner =>
      have different : owner ≠ channel := fun same => other (congrArg some same)
      cases performs
      exact ⟨rfl, rfl, rfl, Function.update_of_ne different.symm ..,
        fun _ member => member, fun _ member => Or.inl member⟩

/-! ## Starting a channel -/

/-- The steps of a start command and of the commands that the sensor task sends
itself for it. -/
def startLabels (channel : FChannel) : List Label :=
  [.send (.start (.fChannel channel)), .receive ⟨true, none⟩, .perform,
    .perform, .receive ⟨true, none⟩, .perform, .receive ⟨true, none⟩, .perform,
    .perform, .perform]

/-! ## What the sensor task has to do -/

/-- The steps after a stop command. -/
def stopOps (channel : FChannel) : List TaskOp :=
  onChannel channel FChProcessor.diasble ++ [.settled channel]

/-- The steps after any other command: calls on a channel, and start commands. -/
inductive TaskOp.Ordinary : TaskOp → Prop where
  | on (channel : FChannel) (op : ChannelOp) : Ordinary (.on channel op)
  | start (channel : FChannel) (count : UInt32) :
      Ordinary (.post (.start (.fChannel channel) count))

def AllOrdinary (ops : List TaskOp) : Prop :=
  ∀ op ∈ ops, op.Ordinary

theorem AllOrdinary.nil : AllOrdinary [] :=
  fun _ member => absurd member List.not_mem_nil

theorem AllOrdinary.append {first second : List TaskOp}
    (left : AllOrdinary first) (right : AllOrdinary second) :
    AllOrdinary (first ++ second) := by
  intro op member
  rcases List.mem_append.mp member with inFirst | inSecond
  · exact left op inFirst
  · exact right op inSecond

theorem AllOrdinary.onChannel (owner : FChannel) (ops : List ChannelOp) :
    AllOrdinary (onChannel owner ops) := by
  intro op member
  obtain ⟨channelOp, _, rfl⟩ := List.mem_map.mp member
  exact .on owner channelOp

theorem AllOrdinary.start (owner : FChannel) (count : UInt32) :
    AllOrdinary [.post (.start (.fChannel owner) count)] := by
  intro op member
  rw [List.mem_singleton.mp member]
  exact .start owner count

private theorem allOrdinary_setTargetOps (owner : FChannel)
    (newTarget : Option (UInt32 × UInt32)) :
    AllOrdinary (setTargetOps owner newTarget) := by
  cases newTarget with
  | none => exact .nil
  | some target => exact .onChannel owner _

private theorem handleReady_ordinary {owner : FChannel} {event : TimerEvent}
    {target captured : UInt32} {wraped : Bool} {cycle : Nat} {answer : Answer}
    {state after : State}
    (handles : handleReady setup owner event target captured wraped cycle answer
      state = some after)
    (idle : state.todo = []) : AllOrdinary after.todo := by
  rw [handleReady] at handles
  split at handles
  · cases handles
    exact .onChannel owner _
  · simp only at handles
    split at handles
    · cases handles
      change AllOrdinary state.todo
      rw [idle]
      exact .nil
    · split at handles
      · cases handles
        exact (allOrdinary_setTargetOps owner _).append (.onChannel owner _)
      · cases handles

private theorem handleTimeout_ordinary {owner : FChannel} {answer : Answer}
    {state after : State}
    (handles : handleTimeout setup owner answer state = some after) :
    AllOrdinary after.todo := by
  rw [handleTimeout] at handles
  split at handles
  · cases handles
    change AllOrdinary (signalLostOps owner _ answer)
    rw [signalLostOps]
    split
    · apply (allOrdinary_setTargetOps owner _).append
      split
      · exact .onChannel owner _
      · exact .start owner 0
    · exact .onChannel owner _
  · cases handles

private theorem handleReady_halted {owner : FChannel} {event : TimerEvent}
    {target captured : UInt32} {wraped : Bool} {cycle : Nat} {answer : Answer}
    {state after : State}
    (handles : handleReady setup owner event target captured wraped cycle answer
      state = some after) : after.halted = state.halted := by
  rw [handleReady] at handles
  split at handles
  · cases handles
    rfl
  · simp only at handles
    split at handles
    · cases handles
      rfl
    · split at handles
      · cases handles
        rfl
      · cases handles

/-- A command is handled without regard to the stop commands before it. -/
theorem handle_halted {posted : Posted} {answer : Answer} {state after : State}
    (handles : handle setup posted answer state = some after) :
    after.halted = state.halted := by
  obtain ⟨command, origin⟩ := posted
  cases command with
  | start target count =>
      cases target with
      | fChannel owner =>
          cases handles
          rw [handleStart]
          split
          · rfl
          · rfl
      | aChannel _ =>
          cases handles
          rfl
  | stop target =>
      cases target with
      | fChannel owner =>
          cases handles
          rfl
      | aChannel _ =>
          cases handles
          rfl
  | readyFChannel owner event target captured wraped =>
      exact handleReady_halted handles
  | readAChannel _ =>
      cases handles
      rfl
  | timeoutFChannel owner guardTicks =>
      change handleTimeout setup owner answer state = some after at handles
      rw [handleTimeout] at handles
      split at handles
      · cases handles
        rfl
      · cases handles

/-- What a command gives the sensor task to do. -/
theorem handle_ops {posted : Posted} {answer : Answer} {state after : State}
    (handles : handle setup posted answer state = some after)
    (idle : state.todo = []) :
    AllOrdinary after.todo ∨ ∃ owner, after.todo = stopOps owner := by
  have nothing : AllOrdinary state.todo := by
    rw [idle]
    exact .nil
  obtain ⟨command, origin⟩ := posted
  cases command with
  | start target count =>
      cases target with
      | fChannel owner =>
          cases handles
          rw [handleStart]
          split
          · exact Or.inl (.onChannel owner _)
          · refine Or.inl (AllOrdinary.append ?_ (.start owner _))
            split
            · exact .onChannel owner _
            · exact .nil
      | aChannel _ =>
          cases handles
          exact Or.inl nothing
  | stop target =>
      cases target with
      | fChannel owner =>
          cases handles
          exact Or.inr ⟨owner, rfl⟩
      | aChannel _ =>
          cases handles
          exact Or.inl nothing
  | readyFChannel owner event target captured wraped =>
      exact Or.inl (handleReady_ordinary handles idle)
  | readAChannel _ =>
      cases handles
      exact Or.inl nothing
  | timeoutFChannel owner guardTicks =>
      exact Or.inl (handleTimeout_ordinary handles)

theorem performOp_todo {op : TaskOp} {state after : State}
    (performs : performOp setup op state = some after) :
    after.todo = state.todo := by
  cases op with
  | on owner op =>
      obtain ⟨controller, _, rfl⟩ := Option.map_eq_some_iff.mp performs
      rfl
  | post command =>
      cases performs
      exact offer_todo ..
  | settled owner =>
      cases performs
      rfl

/-- The sensor task sends start commands only. -/
def PostsStarts (ops : List TaskOp) : Prop :=
  ∀ command, TaskOp.post command ∈ ops →
    ∃ channel count, command = .start (.fChannel channel) count

theorem PostsStarts.nil : PostsStarts [] :=
  fun _ member => absurd member List.not_mem_nil

theorem PostsStarts.tail {op : TaskOp} {rest : List TaskOp}
    (posts : PostsStarts (op :: rest)) : PostsStarts rest :=
  fun command member => posts command (List.mem_cons_of_mem _ member)

theorem AllOrdinary.postsStarts {ops : List TaskOp}
    (ordinary : AllOrdinary ops) : PostsStarts ops := by
  intro command member
  cases ordinary _ member with
  | start channel count => exact ⟨channel, count, rfl⟩

private theorem postsStarts_stopOps (owner : FChannel) : PostsStarts (stopOps owner) := by
  intro command member
  rcases List.mem_append.mp member with call | last
  · cases AllOrdinary.onChannel owner _ _ call with
    | start channel count => exact ⟨channel, count, rfl⟩
  · cases List.mem_singleton.mp last

theorem step_postsStarts {label : Label} {state after : State}
    (posts : PostsStarts state.todo)
    (steps : step setup state label = some after) : PostsStarts after.todo := by
  cases label with
  | receive answer =>
      obtain ⟨posted, rest, idle, _, handles⟩ := receive_eq steps
      rcases handle_ops handles idle with ordinary | ⟨owner, stops⟩
      · exact ordinary.postsStarts
      · rw [stops]
        exact postsStarts_stopOps owner
  | perform =>
      obtain ⟨op, rest, isNext, performs⟩ := perform_eq steps
      rw [performOp_todo performs]
      rw [isNext] at posts
      exact posts.tail
  | capture channel captured wraped =>
      obtain ⟨_, _, _, _, rfl⟩ := capture_eq steps
      rw [offer_todo]
      exact posts
  | guardObeys channel =>
      obtain ⟨_, _, rfl⟩ := guardObeys_eq steps
      exact posts
  | guardExpires channel =>
      obtain ⟨_, rfl⟩ := guardExpires_eq steps
      rw [offer_todo]
      exact posts
  | send request =>
      obtain ⟨_, rfl⟩ := send_eq steps
      exact posts
  | analogReady channel =>
      cases steps
      rw [offer_todo]
      exact posts

end SelfWriter.Sensors
