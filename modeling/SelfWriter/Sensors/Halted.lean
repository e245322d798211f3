import SelfWriter.Sensors.WakeUp

/-!
# A stopped channel stays stopped

In the recorder, a stop command stops the counter and the guard of a channel.
What was sent for the channel before is still in the queue, and most of it
starts the channel again.
-/

namespace SelfWriter.Sensors

open SelfWriter.Lib

variable {setup : Setup}

/-! ## The condition -/

/-- The counter stands still, and the guard will not run. -/
def Still (channel : FChannel) (state : State) : Prop :=
  (state.channels channel).controller.freqmeter.cen = false ∧
    (state.guard channel).willRun = false

/-- Whether the controller is marked for a start after a message that does not
start the channel again; none for the other messages.  An unwrapped start
capture does not; without start and stop captures, the controller takes one
capture for it when it is marked. -/
def spares (startStop : Bool) (channel : FChannel) (marked : Bool)
    (posted : Posted) : Option Bool :=
  match posted.command with
  | .readyFChannel owner event _ _ wraped =>
      if owner ≠ channel then some marked
      else if wraped then none
      else if startStop then (if event = .start then some marked else none)
      else if marked then some false
      else none
  | .start (.fChannel owner) _ => if owner ≠ channel then some marked else none
  | .timeoutFChannel owner _ => if owner ≠ channel then some marked else none
  | _ => some marked

/-- Nothing in the queue starts the channel again. -/
def harmless (startStop : Bool) (channel : FChannel) (marked : Bool)
    (queue : List Posted) : Bool :=
  (queue.foldlM (spares startStop channel) marked).isSome

def State.harmless (setup : Setup) (channel : FChannel) (state : State) : Bool :=
  Sensors.harmless setup.startStop channel
    (state.channels channel).controller.start state.queue

/-- When a stop command has been processed and no newer start was sent, nothing
in the queue starts the channel again. -/
def SettlesHarmless (setup : Setup) (state : State) : List TaskOp → Prop
  | .settled channel :: _ =>
      state.queue.any (·.startsAnew channel) = true ∨
        state.harmless setup channel = true
  | _ => True

/-- Nothing starts a stopped channel again: neither what waits in the queue when
it is stopped, nor a timeout of its guard that gets into the queue later. -/
def StaysStopped (setup : Setup) (state : State) : Label → Prop
  | .perform => SettlesHarmless setup state state.todo
  | .guardExpires channel =>
      state.halted channel = false ∨ state.hasRoom setup = false
  | _ => True

instance (setup : Setup) (state : State) (todo : List TaskOp) :
    Decidable (SettlesHarmless setup state todo) :=
  match todo with
  | .settled _ :: _ => inferInstanceAs (Decidable (_ ∨ _))
  | [] | .on _ _ :: _ | .post _ :: _ => inferInstanceAs (Decidable True)

instance (setup : Setup) (state : State) (label : Label) :
    Decidable (StaysStopped setup state label) :=
  match label with
  | .perform => inferInstanceAs (Decidable (SettlesHarmless _ _ _))
  | .guardExpires _ => inferInstanceAs (Decidable (_ ∨ _))
  | .receive _ | .capture _ _ _ | .guardObeys _ | .send _ | .analogReady _ =>
      inferInstanceAs (Decidable True)

/-! ## What waits in the queue -/

private theorem spares_of_other {startStop : Bool} {channel : FChannel}
    {posted : Posted} (other : commandChannel posted.command ≠ some channel)
    (marked : Bool) : spares startStop channel marked posted = some marked := by
  obtain ⟨command, origin⟩ := posted
  have different : ∀ owner, commandChannel command = some owner →
      owner ≠ channel := by
    rintro owner isOwner rfl
    exact other isOwner
  cases command with
  | start target count =>
      cases target with
      | fChannel owner => exact if_pos (different owner rfl)
      | aChannel _ => rfl
  | stop target => rfl
  | readyFChannel owner event target captured wraped =>
      exact if_pos (different owner rfl)
  | readAChannel _ => rfl
  | timeoutFChannel owner _ => exact if_pos (different owner rfl)

/-- A message that does not start the channel may be put in. -/
theorem harmless_append {startStop : Bool} {channel : FChannel}
    {posted : Posted}
    (spared : ∀ marked, spares startStop channel marked posted = some marked)
    {queue : List Posted} {marked : Bool}
    (isHarmless : harmless startStop channel marked queue = true) :
    harmless startStop channel marked (queue ++ [posted]) = true := by
  obtain ⟨marked', after⟩ := Option.isSome_iff_exists.mp isHarmless
  rw [harmless, List.foldlM_append, after]
  change ((spares startStop channel marked' posted) >>= pure).isSome = true
  rw [spared]
  rfl

private theorem harmless_cons {startStop : Bool} {channel : FChannel} {posted : Posted}
    {rest : List Posted} {marked : Bool}
    (isHarmless : harmless startStop channel marked (posted :: rest) = true) :
    ∃ marked', spares startStop channel marked posted = some marked' ∧
      harmless startStop channel marked' rest = true := by
  obtain ⟨last, after⟩ := Option.isSome_iff_exists.mp isHarmless
  rw [List.foldlM_cons] at after
  obtain ⟨marked', isSpared, after⟩ := Option.bind_eq_some_iff.mp after
  exact ⟨marked', isSpared, Option.isSome_iff_exists.mpr ⟨last, after⟩⟩

private theorem harmless_offer {channel : FChannel} {marked : Bool} {state : State}
    {posted : Posted} (other : commandChannel posted.command ≠ some channel)
    (isHarmless :
      harmless setup.startStop channel marked state.queue = true) :
    harmless setup.startStop channel marked
      (state.offer setup posted).queue = true := by
  rw [offer_queue]
  split
  · exact harmless_append (spares_of_other other) isHarmless
  · exact isHarmless

/-! ## The invariant -/

/-- After a stop command: what the steps done so far have achieved. -/
def Stopping (channel : FChannel) (state : State) : Prop :=
  ∃ count, state.todo = (stopOps channel).drop count ∧
    (1 ≤ count → (state.guard channel).willRun = false) ∧
    (2 ≤ count → (state.channels channel).controller.freqmeter.cen = false)

/-- The channel stands still, nothing in the queue starts it, and the sensor
task does nothing with it but stop it again. -/
structure Halted (setup : Setup) (channel : FChannel) (state : State) :
    Prop where
  still : Still channel state
  harmless : state.harmless setup channel = true
  todo : LeavesAlone channel state.todo ∨ .settled channel ∈ state.todo

structure StopsHold (setup : Setup) (state : State) : Prop where
  stopping : ∀ channel, .settled channel ∈ state.todo → Stopping channel state
  halted : ∀ channel, state.halted channel = true → Halted setup channel state

/-! ## Steps of others -/

/-- A controller that is not started: a counter that stands still and a guard
that will not run stay so. -/
structure NotStarted (before after : FreqmeterController) : Prop where
  cen : before.freqmeter.cen = false → after.freqmeter.cen = false
  willRun : before.noSignalGuard.willRun = false →
    after.noSignalGuard.willRun = false
  start : after.start = before.start

theorem NotStarted.refl (controller : FreqmeterController) :
    NotStarted controller controller :=
  ⟨fun still => still, fun still => still, rfl⟩

theorem Still.of_notStarted {channel : FChannel} {state after : State}
    (still : Still channel state)
    (notStarted : NotStarted (state.channels channel).controller
      (after.channels channel).controller) : Still channel after :=
  ⟨notStarted.cen still.1, notStarted.willRun still.2⟩

theorem Stopping.of_notStarted {channel : FChannel} {state after : State}
    (stopping : Stopping channel state)
    (notStarted : NotStarted (state.channels channel).controller
      (after.channels channel).controller)
    (todo : after.todo = state.todo) : Stopping channel after := by
  obtain ⟨count, isTodo, guard, counter⟩ := stopping
  refine ⟨count, todo.trans isTodo, fun started => ?_, fun started => ?_⟩
  · exact notStarted.willRun (guard started)
  · exact notStarted.cen (counter started)

/-- A guard that will not run does not when it expires or obeys. -/
theorem willRun_expire {guard : Guard} (still : guard.willRun = false) :
    guard.expire.willRun = false := by
  obtain ⟨armed, period, pending⟩ := guard
  cases pending with
  | nil => rfl
  | cons command rest => exact still

private theorem willRun_obey {guard after : Guard} (obeys : guard.obey = some after) :
    after.willRun = guard.willRun := by
  rw [Guard.obey] at obeys
  split at obeys
  · cases obeys
  · rename_i command rest isPending
    cases obeys
    rw [Guard.willRun, Guard.willRun, isPending]
    rfl

private theorem setGuard_notStarted {owner : FChannel} {guard : Guard} {state : State}
    (still : (state.guard owner).willRun = false → guard.willRun = false)
    (channel : FChannel) :
    NotStarted (state.channels channel).controller
      ((state.setGuard owner guard).channels channel).controller := by
  rw [State.setGuard]
  by_cases own : owner = channel
  · subst own
    rw [setChannel_self]
    exact ⟨fun still => still, still, rfl⟩
  · rw [setChannel_other own]
    exact .refl _

/-- A step that is none of the sensor task, and that puts no message into the
queue that starts a stopped channel. -/
theorem StopsHold.mono {state after : State} (holds : StopsHold setup state)
    (notStarted : ∀ channel, NotStarted (state.channels channel).controller
      (after.channels channel).controller)
    (todo : after.todo = state.todo)
    (halted : ∀ channel, after.halted channel = true →
      state.halted channel = true)
    (queue : ∀ channel, after.halted channel = true →
      ∀ marked, harmless setup.startStop channel marked state.queue = true →
        harmless setup.startStop channel marked after.queue = true) :
    StopsHold setup after where
  stopping channel waits := by
    rw [todo] at waits
    exact (holds.stopping channel waits).of_notStarted (notStarted channel) todo
  halted channel isHalted := by
    have wasHalted := halted channel isHalted
    obtain ⟨still, isHarmless, isTodo⟩ := holds.halted channel wasHalted
    refine ⟨still.of_notStarted (notStarted channel), ?_, ?_⟩
    · rw [State.harmless, (notStarted channel).start]
      exact queue channel isHalted _ isHarmless
    · rw [todo]
      exact isTodo

/-- The capture of a channel that does not stand still is not for one that
does. -/
theorem capture_stopsHold {owner : FChannel} {captured : UInt32} {wraped : Bool}
    {state after : State} (holds : StopsHold setup state)
    (captures : capture setup owner captured wraped state = some after) :
    StopsHold setup after := by
  obtain ⟨freqmeter, event, _, running, rfl⟩ := capture_eq captures
  apply holds.mono
  · intro channel
    rw [offer_channels]
    by_cases own : owner = channel
    · subst own
      rw [setChannel_self]
      exact ⟨fun still => absurd (still.symm.trans running) Bool.false_ne_true,
        fun still => still, rfl⟩
    · rw [setChannel_other own]
      exact .refl _
  · exact offer_todo ..
  · intro channel isHalted
    rw [offer_halted] at isHalted
    exact isHalted
  · intro channel isHalted marked isHarmless
    rw [offer_halted] at isHalted
    refine harmless_offer ?_ isHarmless
    rintro same
    cases same
    have still := (holds.halted owner isHalted).still.1
    exact absurd (still.symm.trans running) Bool.false_ne_true

private theorem guardExpires_stopsHold {owner : FChannel} {state after : State}
    (holds : StopsHold setup state)
    (stays : StaysStopped setup state (.guardExpires owner))
    (expires : guardExpires setup owner state = some after) :
    StopsHold setup after := by
  obtain ⟨_, rfl⟩ := guardExpires_eq expires
  apply holds.mono
  · intro channel
    rw [offer_channels]
    exact setGuard_notStarted willRun_expire channel
  · exact offer_todo ..
  · intro channel isHalted
    rw [offer_halted] at isHalted
    exact isHalted
  · intro channel isHalted marked isHarmless
    rw [offer_halted] at isHalted
    by_cases own : owner = channel
    · subst own
      rcases stays with notHalted | full
      · exact absurd (notHalted.symm.trans isHalted) Bool.false_ne_true
      · rw [offer_queue]
        split
        · rename_i room
          exact absurd (full.symm.trans room) Bool.false_ne_true
        · exact isHarmless
    · refine harmless_offer ?_ isHarmless
      rintro same
      cases same
      exact own rfl

private theorem haltedAfter_of_halted {request : Request} {halted : FChannel → Bool}
    {channel : FChannel} (isHalted : request.haltedAfter halted channel = true) :
    halted channel = true ∧ request ≠ .start (.fChannel channel) := by
  cases request with
  | start target =>
      cases target with
      | fChannel owner =>
          change Function.update halted owner false channel = true at isHalted
          by_cases own : owner = channel
          · subst own
            rw [Function.update_self] at isHalted
            cases isHalted
          · rw [Function.update_of_ne (Ne.symm own)] at isHalted
            refine ⟨isHalted, ?_⟩
            rintro same
            cases same
            exact own rfl
      | aChannel _ => exact ⟨isHalted, fun same => (by cases same)⟩
  | stop target => exact ⟨isHalted, fun same => (by cases same)⟩

/-- Of the requests only a start command for the channel starts it. -/
theorem spares_of_request {startStop : Bool} {channel : FChannel}
    {request : Request} (noStart : request ≠ .start (.fChannel channel))
    (origin : Origin) (marked : Bool) :
    spares startStop channel marked
      { command := request.command, origin := origin } = some marked := by
  cases request with
  | start target =>
      cases target with
      | fChannel owner =>
          apply if_pos
          rintro rfl
          exact noStart rfl
      | aChannel _ => rfl
  | stop target => rfl

private theorem send_stopsHold {request : Request} {state after : State}
    (holds : StopsHold setup state)
    (sends : send setup request state = some after) : StopsHold setup after := by
  obtain ⟨_, rfl⟩ := send_eq sends
  apply holds.mono
  · exact fun channel => .refl _
  · rfl
  · exact fun channel isHalted => (haltedAfter_of_halted isHalted).1
  · intro channel isHalted marked isHarmless
    obtain ⟨_, noStart⟩ := haltedAfter_of_halted isHalted
    exact harmless_append (spares_of_request noStart _) isHarmless

/-! ## The sensor task -/

private theorem handleReady_spared {channel : FChannel} {event : TimerEvent}
    {target captured : UInt32} {wraped marked : Bool} {origin : Origin}
    {cycle : Nat} {answer : Answer} {state after : State}
    (handles : handleReady setup channel event target captured wraped cycle
      answer state = some after)
    (spared : spares setup.startStop channel
      (state.channels channel).controller.start
      { command := .readyFChannel channel event target captured wraped
        origin := origin } = some marked) :
    after.queue = state.queue ∧
      after.guard channel = state.guard channel ∧
      (after.channels channel).controller.freqmeter =
        (state.channels channel).controller.freqmeter ∧
      (after.channels channel).controller.start = marked ∧
      after.todo = state.todo := by
  simp only [spares, ne_eq, not_true_eq_false, if_false] at spared
  cases wraped with
  | true => cases spared
  | false =>
      cases startStop : setup.startStop with
      | true =>
          simp only [startStop, Bool.false_eq_true, if_false, if_true] at spared
          split at spared
          · rename_i isStart
            cases isStart
            cases spared
            simp only [handleReady, startStop, inputCaptured_start,
              Bool.false_eq_true, if_false] at handles
            cases handles
            refine ⟨rfl, ?_, ?_, ?_, rfl⟩
            · rw [State.guard, setChannel_self]
              rfl
            · rw [setChannel_self]
            · rw [setChannel_self]
          · cases spared
      | false =>
          simp only [startStop, Bool.false_eq_true, if_false] at spared
          split at spared
          · rename_i isMarked
            cases spared
            simp only [handleReady, startStop, inputCaptured_marked isMarked,
              Bool.false_eq_true, if_false] at handles
            cases handles
            refine ⟨rfl, ?_, ?_, ?_, rfl⟩
            · rw [State.guard, setChannel_self]
              rfl
            · rw [setChannel_self]
            · rw [setChannel_self]
          · cases spared

/-- A message that does not start a stopped channel leaves it alone or stops it
once more. -/
theorem handle_spared {channel : FChannel} {posted : Posted}
    (own : commandChannel posted.command = some channel)
    {marked : Bool} {answer : Answer} {state after : State}
    (handles : handle setup posted answer state = some after)
    (idle : state.todo = [])
    (spared : spares setup.startStop channel
      (state.channels channel).controller.start posted = some marked) :
    after.queue = state.queue ∧
      after.guard channel = state.guard channel ∧
      (after.channels channel).controller.freqmeter =
        (state.channels channel).controller.freqmeter ∧
      (after.channels channel).controller.start = marked ∧
      (after.todo = [] ∨ after.todo = stopOps channel) := by
  obtain ⟨command, origin⟩ := posted
  cases command with
  | start target count =>
      cases target with
      | fChannel owner =>
          cases own
          rw [spares] at spared
          simp only [ne_eq, not_true_eq_false, if_false] at spared
          cases spared
      | aChannel _ => cases own
  | stop target =>
      cases target with
      | fChannel owner =>
          cases own
          cases spared
          cases handles
          exact ⟨rfl, rfl, rfl, rfl, Or.inr rfl⟩
      | aChannel _ => cases own
  | readyFChannel owner event target captured wraped =>
      cases own
      obtain ⟨queue, guard, counter, start, todo⟩ :=
        handleReady_spared handles spared
      exact ⟨queue, guard, counter, start, Or.inl (todo.trans idle)⟩
  | readAChannel _ => cases own
  | timeoutFChannel owner _ =>
      cases own
      rw [spares] at spared
      simp only [ne_eq, not_true_eq_false, if_false] at spared
      cases spared

private theorem mem_stopOps {channel owner : FChannel}
    (waits : TaskOp.settled channel ∈ stopOps owner) : owner = channel := by
  rcases List.mem_append.mp waits with call | last
  · cases AllOrdinary.onChannel owner _ _ call
  · cases List.mem_singleton.mp last
    rfl

private theorem receive_stopsHold {answer : Answer} {state after : State}
    (holds : StopsHold setup state)
    (receives : receive setup answer state = some after) :
    StopsHold setup after := by
  obtain ⟨posted, rest, idle, isNext, handles⟩ := receive_eq receives
  refine ⟨fun channel waits => ?_, fun channel isHalted => ?_⟩
  · rcases handle_ops handles idle with ordinary | ⟨owner, stops⟩
    · cases ordinary _ waits
    · rw [stops] at waits
      cases mem_stopOps waits
      exact ⟨0, stops, fun started => by omega, fun started => by omega⟩
  · rw [handle_halted handles] at isHalted
    obtain ⟨⟨cen, willRun⟩, isHarmless, _⟩ := holds.halted channel isHalted
    rw [State.harmless, isNext] at isHarmless
    obtain ⟨marked, spared, isHarmless⟩ := harmless_cons isHarmless
    by_cases own : commandChannel posted.command = some channel
    · obtain ⟨queue, guard, counter, start, todo⟩ :=
        handle_spared own handles idle spared
      refine ⟨⟨?_, ?_⟩, ?_, ?_⟩
      · rw [counter]
        exact cen
      · rw [guard]
        exact willRun
      · rw [State.harmless, start, queue]
        exact isHarmless
      · rcases todo with nothing | stops
        · rw [nothing]
          exact Or.inl (.nil channel)
        · rw [stops]
          exact Or.inr (List.mem_append_right _ List.mem_cons_self)
    · have bystander := handle_bystander own handles idle
      rw [spares_of_other own] at spared
      cases spared
      refine ⟨⟨?_, ?_⟩, ?_, Or.inl bystander.todo⟩
      · rw [bystander.channelState]
        exact cen
      · rw [State.guard, bystander.channelState]
        exact willRun
      · rw [State.harmless, bystander.channelState, bystander.queue]
        exact isHarmless

private theorem willRun_post (guard : Guard) (command : GuardCommand) :
    (guard.post command).willRun = command.arms := by
  rw [Guard.willRun, Guard.post, settles_append]
  rfl

/-- The steps after a stop command do not start the channel. -/
theorem diasble_notStarted {op : ChannelOp}
    (stops : op ∈ FChProcessor.diasble) {before after : FreqmeterController}
    (performs : op.perform before = some after) : NotStarted before after := by
  rw [FChProcessor.diasble, List.mem_cons, List.mem_cons,
    List.mem_singleton] at stops
  rcases stops with rfl | rfl | rfl
  · cases performs
    exact ⟨fun still => still, fun _ => willRun_post .., rfl⟩
  · cases performs
    exact ⟨fun _ => rfl, fun still => still, rfl⟩
  · cases performs
    exact ⟨fun still => still, fun still => still, rfl⟩

/-- A step after a stop command: another step on the channel that does not start
it, or the last one. -/
theorem Stopping.next {channel : FChannel} {op : TaskOp} {rest : List TaskOp}
    {state after : State} (stopping : Stopping channel state)
    (isNext : state.todo = op :: rest)
    (performs : performOp setup op { state with todo := rest } = some after) :
    (op = .settled channel ∧ rest = [] ∧ Still channel state) ∨
      (.settled channel ∈ rest ∧ Stopping channel after ∧
        ∃ channelOp ∈ FChProcessor.diasble, op = .on channel channelOp) := by
  obtain ⟨count, isTodo, guard, counter⟩ := stopping
  rw [isNext] at isTodo
  have sameTodo := performOp_todo performs
  have waits (calls : List ChannelOp) :
      TaskOp.settled channel ∈ onChannel channel calls ++ [.settled channel] :=
    List.mem_append_right _ List.mem_cons_self
  match count, isTodo with
  | 0, isTodo =>
      cases isTodo
      refine Or.inr ⟨waits _, ⟨1, sameTodo, fun _ => ?_, fun _ => by omega⟩, _,
        List.mem_cons_self, rfl⟩
      cases performs
      rw [State.guard, setChannel_self]
      exact willRun_post ..
  | 1, isTodo =>
      cases isTodo
      refine Or.inr ⟨waits [.setLvl false], ⟨2, sameTodo, fun _ => ?_, fun _ => ?_⟩,
        .stopCounter, by decide, rfl⟩
      · cases performs
        rw [State.guard, setChannel_self]
        exact guard (by omega)
      · cases performs
        rw [setChannel_self]
        rfl
  | 2, isTodo =>
      cases isTodo
      refine Or.inr ⟨waits [], ⟨3, sameTodo, fun _ => ?_, fun _ => ?_⟩,
        .setLvl false, by decide, rfl⟩
      · cases performs
        rw [State.guard, setChannel_self]
        exact guard (by omega)
      · cases performs
        rw [setChannel_self]
        exact counter (by omega)
  | 3, isTodo =>
      cases isTodo
      exact Or.inl ⟨rfl, rfl, counter (by omega), guard (by omega)⟩
  | count + 4, isTodo =>
      have nothing : op :: rest = List.drop count [] := isTodo
      rw [List.drop_nil] at nothing
      cases nothing

private theorem performOp_halted {channel : FChannel} {op : TaskOp}
    (other : op ≠ .settled channel) {state after : State}
    (performs : performOp setup op state = some after) :
    after.halted channel = state.halted channel := by
  cases op with
  | on owner op =>
      obtain ⟨controller, _, rfl⟩ := Option.map_eq_some_iff.mp performs
      rfl
  | post command =>
      cases performs
      rw [offer_halted]
  | settled owner =>
      cases performs
      apply Function.update_of_ne
      rintro rfl
      exact other rfl

/-- A step that is not about the channel sends it nothing. -/
theorem performOp_harmless {channel : FChannel} {op : TaskOp}
    (other : op.channel ≠ some channel) {state after : State}
    (performs : performOp setup op state = some after)
    {marked : Bool}
    (isHarmless : harmless setup.startStop channel marked state.queue = true) :
    harmless setup.startStop channel marked after.queue = true := by
  cases op with
  | on owner op =>
      obtain ⟨controller, _, rfl⟩ := Option.map_eq_some_iff.mp performs
      exact isHarmless
  | post command =>
      cases performs
      exact harmless_offer other isHarmless
  | settled owner =>
      cases performs
      exact isHarmless

private theorem perform_stopsHold {state after : State} (holds : StopsHold setup state)
    (stays : StaysStopped setup state .perform)
    (performs : perform setup state = some after) : StopsHold setup after := by
  obtain ⟨op, rest, isNext, performs⟩ := perform_eq performs
  have sameTodo : after.todo = rest := performOp_todo performs
  have stopping (channel : FChannel)
      (waits : TaskOp.settled channel ∈ op :: rest) :=
    (holds.stopping channel (isNext ▸ waits)).next isNext performs
  refine ⟨fun channel waits => ?_, fun channel isHalted => ?_⟩
  · rw [sameTodo] at waits
    rcases stopping channel (List.mem_cons_of_mem _ waits) with
      ⟨_, nothing, _⟩ | ⟨_, next, _⟩
    · rw [nothing] at waits
      cases waits
    · exact next
  · by_cases last : op = .settled channel
    · -- the stop command has been processed
      subst last
      rcases stopping channel List.mem_cons_self with
        ⟨_, nothing, still⟩ | ⟨_, _, channelOp, _, isOn⟩
      · cases performs
        change Function.update state.halted channel _ channel = true at isHalted
        rw [Function.update_self, Bool.not_eq_true'] at isHalted
        rw [StaysStopped, isNext] at stays
        refine ⟨still, ?_, Or.inl ?_⟩
        · rcases stays with newer | isHarmless
          · exact absurd (isHalted.symm.trans newer) Bool.false_ne_true
          · exact isHarmless
        · rw [sameTodo, nothing]
          exact .nil channel
      · cases isOn
    · rw [performOp_halted last performs] at isHalted
      obtain ⟨still, isHarmless, leaves | waits⟩ := holds.halted channel isHalted
      · rw [isNext] at leaves
        have other := leaves op List.mem_cons_self
        obtain ⟨_, channelState, _⟩ := performOp_bystander other performs
        refine ⟨?_, ?_, Or.inl ?_⟩
        · rw [Still, State.guard, channelState]
          exact still
        · rw [State.harmless, channelState]
          exact performOp_harmless other performs isHarmless
        · rw [sameTodo]
          exact fun op member => leaves op (List.mem_cons_of_mem _ member)
      · rw [isNext] at waits
        rcases stopping channel waits with
          ⟨isLast, _⟩ | ⟨waitsNext, _, channelOp, stops, rfl⟩
        · exact absurd isLast last
        · obtain ⟨controller, changes, rfl⟩ := Option.map_eq_some_iff.mp performs
          have notStarted := diasble_notStarted stops changes
          refine ⟨still.of_notStarted ?_, ?_, Or.inr waitsNext⟩
          · rw [setChannel_self]
            exact notStarted
          · rw [State.harmless, setChannel_self, notStarted.start]
            exact isHarmless

/-! ## Whole runs -/

theorem step_stopsHold {label : Label} {state after : State}
    (holds : StopsHold setup state) (stays : StaysStopped setup state label)
    (steps : step setup state label = some after) : StopsHold setup after := by
  cases label with
  | receive answer => exact receive_stopsHold holds steps
  | perform => exact perform_stopsHold holds stays steps
  | capture channel captured wraped => exact capture_stopsHold holds steps
  | guardObeys owner =>
      obtain ⟨guard, obeys, rfl⟩ := guardObeys_eq steps
      apply holds.mono
      · apply setGuard_notStarted
        rw [willRun_obey obeys]
        exact fun still => still
      · rfl
      · exact fun channel isHalted => isHalted
      · exact fun channel _ marked isHarmless => isHarmless
  | guardExpires owner => exact guardExpires_stopsHold holds stays steps
  | send request => exact send_stopsHold holds steps
  | analogReady owner =>
      cases steps
      apply holds.mono
      · intro channel
        rw [offer_channels]
        exact .refl _
      · exact offer_todo ..
      · intro channel isHalted
        rw [offer_halted] at isHalted
        exact isHalted
      · exact fun channel _ marked isHarmless =>
          harmless_offer (fun same => by cases same) isHarmless

/-- In a run in which no message starts a stopped channel again, the counter of
a stopped channel stands still, and its guard runs no longer once the timer task
has obeyed its commands. -/
theorem stopped_channel_stays_stopped (setup : Setup) {state : State}
    (reaches : (sensorProcessor setup).Reaches (StaysStopped setup) state)
    (channel : FChannel) (isHalted : state.halted channel = true) :
    (state.channels channel).controller.freqmeter.cen = false ∧
      (state.channels channel).controller.noSignalGuard.willRun = false := by
  have holds : StopsHold setup state :=
    Machine.Reaches.invariant (I := StopsHold setup)
      ⟨fun _ waits => absurd waits List.not_mem_nil,
        fun _ isHalted => absurd isHalted Bool.false_ne_true⟩
      (fun _ _ _ holds stays steps => step_stopsHold holds stays steps)
      reaches
  exact (holds.halted channel isHalted).still

/-- A channel is started, and stopped when nothing else waits in the queue. -/
theorem stopped_channel_stays_stopped_alone :
    ∃ state : State, state.halted .pressure = true ∧
      (state.channels .pressure).controller.freqmeter.cen = false ∧
      (state.channels .pressure).controller.noSignalGuard.willRun = false :=
  let setup := recorderSetup (fun _ => 4500)
  ⟨_, rfl, stopped_channel_stays_stopped setup
    (Machine.Reaches.runWithin
      (startLabels .pressure ++
        [.send (.stop (.fChannel .pressure)), .receive ⟨true, none⟩, .perform,
          .perform, .perform, .perform])
      .start rfl)
    .pressure rfl⟩

/-- The stop capture of the running cycle is put in behind the stop command: its
result starts the stopped channel again. -/
theorem stopped_channel_restarted :
    let setup := recorderSetup (fun _ => 4500)
    ∃ state, (sensorProcessor setup).Reachable state ∧
      state.halted .pressure = true ∧ state.todo = [] ∧
      (state.channels .pressure).controller.freqmeter.cen = true ∧
      (state.channels .pressure).controller.noSignalGuard.willRun = true :=
  ⟨_, Machine.Reaches.run
    (startLabels .pressure ++
      [.capture .pressure 1000 false, .receive ⟨true, none⟩,
        .send (.stop (.fChannel .pressure)), .capture .pressure 73000 false,
        .receive ⟨true, none⟩, .perform, .perform, .perform, .perform,
        .receive ⟨true, none⟩, .perform, .perform, .perform, .perform])
    .start rfl, rfl, rfl, rfl, rfl⟩

end SelfWriter.Sensors
