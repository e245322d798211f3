import SelfWriter.Sensors.Steps

/-!
# Results are computed from the two captures of one cycle

With start and stop captures, the controller keeps the value of the last start
capture and not the cycle it belongs to.  A result is right as long as the captures
that are let through come in pairs.
-/

namespace SelfWriter.Sensors

open SelfWriter.Lib

variable {setup : Setup}

/-! ## Captures in the queue -/

/-- The unwrapped capture of a channel that a message carries, and its cycle. -/
def Posted.unwraped (channel : FChannel) (posted : Posted) :
    Option (TimerEvent × Nat) :=
  match posted.command with
  | .readyFChannel owner event _ _ false =>
      if owner = channel then some (event, posted.cycle) else none
  | _ => none

def keptCapture (channel : FChannel) (cycle : Nat) (event : TimerEvent)
    (value : UInt32) : Captured :=
  { channel := channel, cycle := cycle, event := event, value := value, kept := true }

/-- The capture that an unwrapped message is about. -/
def Posted.capture (posted : Posted) : Option Captured :=
  match posted.command with
  | .readyFChannel channel event _ value false =>
      some (keptCapture channel posted.cycle event value)
  | _ => none

/-- The cycle of the start capture that is kept after a message; none for a
stop capture of another cycle. -/
def pair (channel : FChannel) (prevStart : Option Nat) (posted : Posted) :
    Option (Option Nat) :=
  match posted.unwraped channel with
  | none => some prevStart
  | some (.start, cycle) => some (some cycle)
  | some (.stop, cycle) => if prevStart = some cycle then some none else none

private theorem pair_of_other {channel : FChannel} {posted : Posted}
    (other : posted.unwraped channel = none) (prevStart : Option Nat) :
    pair channel prevStart posted = some prevStart := by
  rw [pair, other]

private theorem pair_of_start {channel : FChannel} {posted : Posted} {cycle : Nat}
    (isStart : posted.unwraped channel = some (.start, cycle))
    (prevStart : Option Nat) :
    pair channel prevStart posted = some (some cycle) := by
  rw [pair, isStart]

private theorem pair_of_stop {channel : FChannel} {posted : Posted} {cycle : Nat}
    (isStop : posted.unwraped channel = some (.stop, cycle))
    {prevStart next : Option Nat}
    (pairs : pair channel prevStart posted = some next) :
    prevStart = some cycle ∧ next = none := by
  rw [pair, isStop] at pairs
  simp only at pairs
  split at pairs
  · rename_i own
    cases pairs
    exact ⟨own, rfl⟩
  · cases pairs

/-- Every stop capture in the queue meets the start capture of its cycle; the
last start capture that is kept then is given. -/
def Paired (channel : FChannel) (prevStart : Option Nat) (queue : List Posted)
    (last : Option Nat) : Prop :=
  queue.foldlM (pair channel) prevStart = some last

theorem Paired.append {channel : FChannel} {prevStart last last' : Option Nat}
    {queue : List Posted} (paired : Paired channel prevStart queue last)
    {posted : Posted} (next : pair channel last posted = some last') :
    Paired channel prevStart (queue ++ [posted]) last' := by
  rw [Paired, List.foldlM_append, paired]
  change (pair channel last posted >>= pure) = _
  rw [next]
  rfl

theorem Paired.next {channel : FChannel} {prevStart last : Option Nat}
    {posted : Posted} {rest : List Posted}
    (paired : Paired channel prevStart (posted :: rest) last) :
    ∃ prevStart', pair channel prevStart posted = some prevStart' ∧
      Paired channel prevStart' rest last := by
  rw [Paired, List.foldlM_cons] at paired
  exact Option.bind_eq_some_iff.mp paired

/-! ## The invariant -/

/-- The counter waits for the stop capture of a cycle whose start capture got
into the queue. -/
def ChannelState.awaitsStop (channel : ChannelState) : Prop :=
  channel.controller.freqmeter.cen = true ∧
    channel.controller.freqmeter.opm = true ∧ channel.trace.startKept = true

/-- The captures in the queue come in pairs, behind the start capture whose value the
controller has; the last one is the start capture of the cycle whose stop capture is
awaited. -/
def ChannelPaired (captures : List Captured) (channel : FChannel)
    (channelState : ChannelState) (queue : List Posted) : Prop :=
  ∃ prevStart last,
    (∀ cycle, prevStart = some cycle →
      keptCapture channel cycle .start channelState.controller.prev ∈ captures) ∧
    Paired channel prevStart queue last ∧
    (channelState.awaitsStop → last = some channelState.trace.cycle)

/-- The result is what a start and a stop capture of its cycle give. -/
def Measured.Computed (captures : List Captured) (measured : Measured) : Prop :=
  ∃ start, keptCapture measured.channel measured.cycle .start start ∈ captures ∧
    keptCapture measured.channel measured.cycle .stop measured.captured ∈ captures ∧
    measured.result = FreqmeterController.betweenCaptures measured.prevDiff start
      measured.captured

structure Integrity (state : State) : Prop where
  paired : ∀ channel,
    ChannelPaired state.captures channel (state.channels channel) state.queue
  queued : ∀ posted ∈ state.queue, ∀ kept, posted.capture = some kept →
    kept ∈ state.captures
  measured : ∀ measured ∈ state.results, measured.Computed state.captures

/-- No stop capture gets into the queue unwrapped when the start capture of its
cycle did not. -/
def CompleteCycles (setup : Setup) (state : State) : Label → Prop
  | .capture channel _ wraped =>
      (state.channels channel).controller.freqmeter.opm = true →
        (state.channels channel).trace.startKept = true ∨ wraped = true ∨
          state.hasRoom setup = false
  | _ => True

instance (setup : Setup) (state : State) (label : Label) :
    Decidable (CompleteCycles setup state label) :=
  match label with
  | .capture _ _ _ => inferInstanceAs (Decidable (_ → _))
  | .receive _ | .perform | .guardObeys _ | .guardExpires _ | .send _
  | .analogReady _ => inferInstanceAs (Decidable True)

/-! ## What one step keeps -/

/-- A message that is no unwrapped capture of the channel may be put in. -/
theorem ChannelPaired.offer {captures : List Captured} {channel : FChannel}
    {channelState : ChannelState} {state : State} {posted : Posted}
    (paired : ChannelPaired captures channel channelState state.queue)
    (other : posted.unwraped channel = none) :
    ChannelPaired captures channel channelState (state.offer setup posted).queue := by
  obtain ⟨prevStart, last, holds, isPaired, awaited⟩ := paired
  rw [offer_queue]
  split
  · exact ⟨prevStart, last, holds, isPaired.append (pair_of_other other last), awaited⟩
  · exact ⟨prevStart, last, holds, isPaired, awaited⟩

theorem ChannelPaired.mono {captures more : List Captured} {channel : FChannel}
    {channelState : ChannelState} {queue : List Posted}
    (paired : ChannelPaired captures channel channelState queue)
    (kept : ∀ captured ∈ captures, captured ∈ more) :
    ChannelPaired more channel channelState queue := by
  obtain ⟨prevStart, last, holds, isPaired, awaited⟩ := paired
  exact ⟨prevStart, last, fun cycle own => kept _ (holds cycle own), isPaired, awaited⟩

theorem Measured.Computed.mono {captures more : List Captured} {measured : Measured}
    (computed : measured.Computed captures)
    (kept : ∀ captured ∈ captures, captured ∈ more) : measured.Computed more := by
  obtain ⟨start, isStart, isStop, result⟩ := computed
  exact ⟨start, kept _ isStart, kept _ isStop, result⟩

/-- A message without an unwrapped capture may be put in. -/
theorem queued_offer {captures : List Captured} {state : State} {posted : Posted}
    (queued : ∀ other ∈ state.queue, ∀ kept, other.capture = some kept →
      kept ∈ captures)
    (own : ∀ kept, state.hasRoom setup = true → posted.capture = some kept →
      kept ∈ captures) :
    ∀ other ∈ (state.offer setup posted).queue, ∀ kept, other.capture = some kept →
      kept ∈ captures := by
  intro other member kept isCapture
  rw [offer_queue] at member
  split at member
  · rename_i room
    rcases List.mem_append.mp member with before | last
    · exact queued other before kept isCapture
    · rw [List.mem_singleton.mp last] at isCapture
      exact own kept room isCapture
  · exact queued other member kept isCapture

/-- A step on a channel keeps the start capture, and the stop capture that is
awaited after it was awaited before, in the same cycle. -/
theorem perform_awaitsStop {op : ChannelOp} {before : ChannelState}
    {controller : FreqmeterController}
    (performs : op.perform before.controller = some controller)
    {captures : List Captured} {queue : List Posted} {channel : FChannel}
    (paired : ChannelPaired captures channel before queue) :
    ChannelPaired captures channel
      { controller := controller, trace := before.trace.after op } queue := by
  obtain ⟨prevStart, last, holds, isPaired, awaited⟩ := paired
  cases op with
  | coldStart =>
      cases performs
      exact ⟨prevStart, last, holds, isPaired,
        fun ⟨_, opm, _⟩ => absurd opm Bool.false_ne_true⟩
  | stopCounter =>
      cases performs
      exact ⟨prevStart, last, holds, isPaired,
        fun ⟨cen, _⟩ => absurd cen Bool.false_ne_true⟩
  | setTarget32 target =>
      obtain ⟨freqmeter, sets, rfl⟩ := Option.map_eq_some_iff.mp performs
      rw [InCounter.setTarget32] at sets
      split at sets
      · cases sets
      · obtain ⟨_, _, rfl⟩ := Option.map_eq_some_iff.mp sets
        exact ⟨prevStart, last, holds, isPaired, awaited⟩
  | _ =>
      cases performs
      exact ⟨prevStart, last, holds, isPaired, awaited⟩

/-! ## Handling a message -/

/-- A message that is no unwrapped capture of the channel may be taken. -/
theorem ChannelPaired.skip {captures : List Captured} {channel : FChannel}
    {channelState : ChannelState} {posted : Posted} {rest : List Posted}
    (paired : ChannelPaired captures channel channelState (posted :: rest))
    (other : posted.unwraped channel = none) :
    ChannelPaired captures channel channelState rest := by
  obtain ⟨prevStart, last, holds, isPaired, awaited⟩ := paired
  obtain ⟨next, isPrev, isPaired⟩ := isPaired.next
  rw [pair_of_other other] at isPrev
  cases isPrev
  exact ⟨prevStart, last, holds, isPaired, awaited⟩

private theorem unwraped_of_other {channel owner : FChannel} (other : owner ≠ channel)
    (event : TimerEvent) (target captured : UInt32) (wraped : Bool)
    (origin : Origin) :
    Posted.unwraped channel
      { command := .readyFChannel owner event target captured wraped
        origin := origin } = none := by
  cases wraped with
  | false => exact if_neg other
  | true => rfl

private theorem unwraped_self (channel : FChannel) (event : TimerEvent)
    (target captured : UInt32) (origin : Origin) :
    Posted.unwraped channel
      { command := .readyFChannel channel event target captured false
        origin := origin } =
      some (event, Posted.cycle
        { command := .readyFChannel channel event target captured false
          origin := origin }) :=
  if_pos rfl

private theorem unwraped_of_noReady {posted : Posted}
    (noReady : ∀ channel event target captured wraped,
      posted.command ≠ .readyFChannel channel event target captured wraped)
    (channel : FChannel) : posted.unwraped channel = none := by
  rw [Posted.unwraped]
  split
  · rename_i isReady
    exact absurd isReady (noReady _ _ _ _ _)
  · rfl

/-- With start and stop captures, the value of an unwrapped start capture is kept, and
a stop capture gives a result. -/
theorem handleReady_integrity (startStop : setup.startStop = true)
    {owner : FChannel} {event : TimerEvent} {target captured : UInt32}
    {wraped : Bool} {origin : Origin} {answer : Answer} {state after : State}
    (handles : handle setup
      { command := .readyFChannel owner event target captured wraped
        origin := origin } answer state = some after)
    (paired : ∀ channel, ChannelPaired state.captures channel (state.channels channel)
      ({ command := .readyFChannel owner event target captured wraped
         origin := origin } :: state.queue))
    (queued : ∀ posted ∈
      ({ command := .readyFChannel owner event target captured wraped
         origin := origin } :: state.queue : List Posted), ∀ kept,
      posted.capture = some kept → kept ∈ state.captures)
    (measured : ∀ measured ∈ state.results, measured.Computed state.captures) :
    Integrity after := by
  have waiting : ∀ posted ∈ state.queue, ∀ kept, posted.capture = some kept →
      kept ∈ state.captures :=
    fun posted member => queued posted (List.mem_cons_of_mem _ member)
  cases wraped with
  | true =>
      cases handles
      exact ⟨fun channel => (paired channel).skip rfl, waiting, measured⟩
  | false =>
      obtain ⟨prevStart, last, holds, isPaired, awaited⟩ := paired owner
      obtain ⟨next, isPrev, isPaired⟩ := isPaired.next
      have isCaptured := queued _ List.mem_cons_self _ rfl
      have others {channel : FChannel} (other : owner ≠ channel) :
          ChannelPaired state.captures channel (state.channels channel) state.queue :=
        (paired channel).skip (unwraped_of_other other ..)
      cases event with
      | start =>
          rw [pair_of_start (unwraped_self ..)] at isPrev
          cases isPrev
          simp only [handle, handleReady, startStop, inputCaptured_start,
            Bool.false_eq_true, if_false] at handles
          cases handles
          refine ⟨fun channel => ?_, waiting, measured⟩
          by_cases own : owner = channel
          · subst own
            rw [setChannel_self]
            refine ⟨_, last, ?_, isPaired, awaited⟩
            rintro cycle ⟨⟩
            exact isCaptured
          · rw [setChannel_other own]
            exact others own
      | stop =>
          obtain ⟨ownStart, rfl⟩ := pair_of_stop (unwraped_self ..) isPrev
          obtain ⟨counterKept, _⟩ :=
            stopCaptured_keeps (state.channels owner).controller captured
          simp only [handle, handleReady, startStop, inputCaptured_stop,
            Bool.false_eq_true, if_false] at handles
          split at handles
          · cases handles
            refine ⟨fun channel => ?_, waiting, fun result member => ?_⟩
            · change ChannelPaired state.captures channel
                ((state.setChannel owner _).channels channel) state.queue
              by_cases own : owner = channel
              · subst own
                rw [setChannel_self]
                refine ⟨none, last, fun _ impossible => ?_, isPaired, ?_⟩
                · cases impossible
                · rw [ChannelState.awaitsStop, counterKept]
                  exact awaited
              · rw [setChannel_other own]
                exact others own
            · rcases List.mem_append.mp member with before | new
              · exact measured result before
              · rw [List.mem_singleton.mp new]
                -- `prev` is the value of the start capture of the same cycle
                exact ⟨_, holds _ ownStart, isCaptured,
                  FreqmeterController.stopCaptured_result _ captured⟩
          · cases handles

/-- Only captures are measured. -/
theorem handle_unmeasured {posted : Posted} {answer : Answer}
    {state after : State}
    (noReady : ∀ channel event target captured wraped,
      posted.command ≠ .readyFChannel channel event target captured wraped)
    (handles : handle setup posted answer state = some after) :
    after.channels = state.channels ∧ after.queue = state.queue ∧
      after.captures = state.captures ∧ after.results = state.results := by
  obtain ⟨command, origin⟩ := posted
  cases command with
  | start target count =>
      cases target with
      | fChannel owner =>
          cases handles
          rw [handleStart]
          split
          · exact ⟨rfl, rfl, rfl, rfl⟩
          · exact ⟨rfl, rfl, rfl, rfl⟩
      | aChannel _ =>
          cases handles
          exact ⟨rfl, rfl, rfl, rfl⟩
  | stop target =>
      cases target with
      | fChannel owner =>
          cases handles
          exact ⟨rfl, rfl, rfl, rfl⟩
      | aChannel _ =>
          cases handles
          exact ⟨rfl, rfl, rfl, rfl⟩
  | readyFChannel owner event target captured wraped =>
      exact absurd rfl (noReady owner event target captured wraped)
  | readAChannel _ =>
      cases handles
      exact ⟨rfl, rfl, rfl, rfl⟩
  | timeoutFChannel owner guardTicks =>
      change handleTimeout setup owner answer state = some after at handles
      rw [handleTimeout] at handles
      split at handles
      · cases handles
        exact ⟨rfl, rfl, rfl, rfl⟩
      · cases handles

private theorem receive_integrity (startStop : setup.startStop = true) {answer : Answer}
    {state after : State} (integrity : Integrity state)
    (receives : receive setup answer state = some after) : Integrity after := by
  obtain ⟨posted, rest, _, isNext, handles⟩ := receive_eq receives
  have paired := integrity.paired
  have queued := integrity.queued
  rw [isNext] at paired queued
  by_cases ready : ∃ channel event target captured wraped,
      posted.command = .readyFChannel channel event target captured wraped
  · obtain ⟨channel, event, target, captured, wraped, isReady⟩ := ready
    obtain ⟨command, origin⟩ := posted
    cases isReady
    exact handleReady_integrity startStop handles paired queued integrity.measured
  · have noReady : ∀ channel event target captured wraped, posted.command ≠
        .readyFChannel channel event target captured wraped :=
      fun channel event target captured wraped isReady =>
        ready ⟨channel, event, target, captured, wraped, isReady⟩
    obtain ⟨channels, queue, captures, results⟩ := handle_unmeasured noReady handles
    refine ⟨fun channel => ?_, ?_, ?_⟩
    · rw [channels, queue, captures]
      exact (paired channel).skip (unwraped_of_noReady noReady channel)
    · rw [queue, captures]
      exact fun other member => queued other (List.mem_cons_of_mem _ member)
    · rw [results, captures]
      exact integrity.measured

/-! ## The other steps -/

private theorem perform_integrity {state after : State} (integrity : Integrity state)
    (posts : PostsStarts state.todo)
    (performs : perform setup state = some after) : Integrity after := by
  obtain ⟨op, rest, isNext, performs⟩ := perform_eq performs
  cases op with
  | on owner op =>
      obtain ⟨controller, changes, rfl⟩ := Option.map_eq_some_iff.mp performs
      refine ⟨fun channel => ?_, integrity.queued, integrity.measured⟩
      by_cases own : owner = channel
      · subst own
        rw [setChannel_self]
        exact perform_awaitsStop changes (integrity.paired owner)
      · rw [setChannel_other own]
        exact integrity.paired channel
  | post command =>
      cases performs
      rw [isNext] at posts
      obtain ⟨started, count, rfl⟩ := posts command List.mem_cons_self
      refine ⟨fun channel => ?_, ?_, ?_⟩
      · rw [offer_channels, offer_captures]
        apply ChannelPaired.offer
        · exact integrity.paired channel
        · rfl
      · rw [offer_captures]
        exact queued_offer integrity.queued (fun _ _ impossible => by cases impossible)
      · rw [offer_results, offer_captures]
        exact integrity.measured
  | settled owner =>
      cases performs
      exact ⟨integrity.paired, integrity.queued, integrity.measured⟩

/-- A capture that is wrapped or finds no room is not let through. -/
theorem Paired.heldBack {channel : FChannel} {prevStart last : Option Nat}
    {state : State} (paired : Paired channel prevStart state.queue last)
    {event : TimerEvent} {target captured : UInt32} {wraped : Bool}
    {origin : Origin}
    (heldBack : (!wraped && state.hasRoom setup) = false) :
    Paired channel prevStart
      (state.offer setup
        { command := .readyFChannel channel event target captured wraped
          origin := origin }).queue last := by
  rw [offer_queue]
  split
  · rename_i room
    rw [room, Bool.and_true, Bool.not_eq_false'] at heldBack
    subst heldBack
    exact paired.append (pair_of_other rfl last)
  · exact paired

/-- The first capture of a cycle is kept, or known not to be. -/
theorem captured_paired_start {captures : List Captured} {owner : FChannel}
    {state : State} {before : ChannelState} {controller : FreqmeterController}
    {trace : Trace} (samePrev : controller.prev = before.controller.prev)
    {target captured : UInt32} {wraped : Bool}
    (paired : ChannelPaired captures owner before state.queue)
    (kept : trace.startKept = (!wraped && state.hasRoom setup)) :
    ChannelPaired captures owner { controller := controller, trace := trace }
      (state.offer setup
        { command := .readyFChannel owner .start target captured wraped
          origin := .capture trace.cycle }).queue := by
  obtain ⟨prevStart, last, holds, isPaired, _⟩ := paired
  rw [← samePrev] at holds
  cases through : !wraped && state.hasRoom setup with
  | false =>
      refine ⟨prevStart, last, holds, isPaired.heldBack through, fun ⟨_, _, isKept⟩ => ?_⟩
      rw [kept, through] at isKept
      cases isKept
  | true =>
      obtain ⟨notWraped, room⟩ := Bool.and_eq_true_iff.mp through
      rw [Bool.not_eq_true'] at notWraped
      subst notWraped
      refine ⟨prevStart, some trace.cycle, holds, ?_, fun _ => rfl⟩
      rw [offer_queue, if_pos room]
      exact isPaired.append (pair_of_start (unwraped_self ..) last)

/-- The second capture of a cycle is let through only after the first one. -/
theorem captured_paired_stop {captures : List Captured} {owner : FChannel}
    {state : State} {before : ChannelState} {controller : FreqmeterController}
    {trace : Trace} (samePrev : controller.prev = before.controller.prev)
    (sameTrace : trace = before.trace)
    (stopped : controller.freqmeter.cen = false)
    {target captured : UInt32} {wraped : Bool}
    (paired : ChannelPaired captures owner before state.queue)
    (complete : (!wraped && state.hasRoom setup) = true → before.awaitsStop) :
    ChannelPaired captures owner { controller := controller, trace := trace }
      (state.offer setup
        { command := .readyFChannel owner .stop target captured wraped
          origin := .capture trace.cycle }).queue := by
  obtain ⟨prevStart, last, holds, isPaired, awaited⟩ := paired
  rw [← samePrev] at holds
  subst sameTrace
  have notAwaited (channelState : ChannelState)
      (same : channelState.controller = controller) :
      ¬ channelState.awaitsStop := by
    rintro ⟨running, _⟩
    rw [same, stopped] at running
    cases running
  cases through : !wraped && state.hasRoom setup with
  | false =>
      exact ⟨prevStart, last, holds, isPaired.heldBack through,
        fun awaits => absurd awaits (notAwaited _ rfl)⟩
  | true =>
      have ownStart := awaited (complete through)
      obtain ⟨notWraped, room⟩ := Bool.and_eq_true_iff.mp through
      rw [Bool.not_eq_true'] at notWraped
      subst notWraped
      refine ⟨prevStart, none, holds, ?_,
        fun awaits => absurd awaits (notAwaited _ rfl)⟩
      rw [offer_queue, if_pos room]
      apply isPaired.append
      rw [pair, unwraped_self, ownStart]
      exact if_pos rfl

/-- The start capture of a cycle is followed by its stop capture, unless one of
them does not get into the queue unwrapped. -/
theorem capture_integrity {owner : FChannel} {captured : UInt32} {wraped : Bool}
    {state after : State} (integrity : Integrity state)
    (complete : CompleteCycles setup state (.capture owner captured wraped))
    (captures : capture setup owner captured wraped state = some after) :
    Integrity after := by
  obtain ⟨freqmeter, event, isCaptured, running, rfl⟩ := capture_eq captures
  have more : ∀ before ∈ state.captures, before ∈ state.captures ++
      [{ channel := owner
         cycle := (state.channels owner).trace.cycle
         event := event
         value := captured
         kept := !wraped && state.hasRoom setup }] :=
    fun _ member => List.mem_append_left _ member
  refine ⟨fun channel => ?_, ?_, ?_⟩
  · rw [offer_channels, offer_captures]
    by_cases own : owner = channel
    · subst own
      rw [setChannel_self]
      have paired := (integrity.paired owner).mono more
      by_cases second : (state.channels owner).controller.freqmeter.opm = true
      · rw [InCounter.captured, if_pos second] at isCaptured
        cases isCaptured
        refine captured_paired_stop ?_ ?_ ?_ paired (fun through => ?_)
        · rfl
        · rfl
        · rfl
        obtain ⟨notWraped, room⟩ := Bool.and_eq_true_iff.mp through
        rcases complete second with kept | isWraped | full
        · exact ⟨running, second, kept⟩
        · rw [isWraped] at notWraped
          cases notWraped
        · exact absurd (full.symm.trans room) Bool.false_ne_true
      · rw [InCounter.captured, if_neg second] at isCaptured
        cases isCaptured
        refine captured_paired_start ?_ paired ?_
        · rfl
        · rfl
    · rw [setChannel_other own]
      apply ChannelPaired.offer
      · exact (integrity.paired channel).mono more
      · exact unwraped_of_other own ..
  · rw [offer_captures]
    apply queued_offer
    · exact fun other member kept isCapture =>
        more _ (integrity.queued other member kept isCapture)
    · intro kept room isCapture
      cases wraped with
      | true => cases isCapture
      | false =>
          cases isCapture
          change state.hasRoom setup = true at room
          rw [room]
          exact List.mem_append_right _ List.mem_cons_self
  · rw [offer_results, offer_captures]
    exact fun measured member => (integrity.measured measured member).mono more

/-- A step that leaves the counter alone and sends no capture. -/
theorem ChannelPaired.same {captures : List Captured} {channel : FChannel}
    {before after : ChannelState} {queue : List Posted}
    (paired : ChannelPaired captures channel before queue)
    (samePrev : after.controller.prev = before.controller.prev)
    (same : after.controller.freqmeter = before.controller.freqmeter ∧
      after.trace = before.trace) : ChannelPaired captures channel after queue := by
  obtain ⟨prevStart, last, holds, isPaired, awaited⟩ := paired
  obtain ⟨sameCounter, sameTrace⟩ := same
  refine ⟨prevStart, last, ?_, isPaired, ?_⟩
  · rw [samePrev]
    exact holds
  · rw [ChannelState.awaitsStop, sameCounter, sameTrace]
    exact awaited

private theorem setGuard_same (state : State) (owner : FChannel) (guard : Guard)
    (channel : FChannel) :
    ((state.setGuard owner guard).channels channel).controller.freqmeter =
        (state.channels channel).controller.freqmeter ∧
      ((state.setGuard owner guard).channels channel).trace =
        (state.channels channel).trace := by
  rw [State.setGuard]
  by_cases own : owner = channel
  · subst own
    rw [setChannel_self]
    exact ⟨rfl, rfl⟩
  · rw [setChannel_other own]
    exact ⟨rfl, rfl⟩

private theorem setGuard_prev (state : State) (owner : FChannel) (guard : Guard)
    (channel : FChannel) :
    ((state.setGuard owner guard).channels channel).controller.prev =
      (state.channels channel).controller.prev := by
  rw [State.setGuard]
  by_cases own : owner = channel
  · subst own
    rw [setChannel_self]
  · rw [setChannel_other own]

theorem step_integrity (startStop : setup.startStop = true) {label : Label}
    {state after : State} (integrity : Integrity state)
    (posts : PostsStarts state.todo)
    (complete : CompleteCycles setup state label)
    (steps : step setup state label = some after) : Integrity after := by
  cases label with
  | receive answer => exact receive_integrity startStop integrity steps
  | perform => exact perform_integrity integrity posts steps
  | capture channel captured wraped =>
      exact capture_integrity integrity complete steps
  | guardObeys owner =>
      obtain ⟨guard, _, rfl⟩ := guardObeys_eq steps
      exact ⟨fun channel =>
        (integrity.paired channel).same (setGuard_prev state owner guard channel)
          (setGuard_same state owner guard channel),
        integrity.queued, integrity.measured⟩
  | guardExpires owner =>
      obtain ⟨_, rfl⟩ := guardExpires_eq steps
      refine ⟨fun channel => ?_, ?_, ?_⟩
      · rw [offer_channels, offer_captures]
        apply ChannelPaired.offer
        · exact (integrity.paired channel).same (setGuard_prev state owner _ channel)
            (setGuard_same state owner _ channel)
        · rfl
      · rw [offer_captures]
        refine queued_offer ?_ (fun _ _ impossible => by cases impossible)
        exact integrity.queued
      · rw [offer_results, offer_captures]
        exact integrity.measured
  | send request =>
      obtain ⟨_, rfl⟩ := send_eq steps
      refine ⟨fun channel => ?_, ?_, integrity.measured⟩
      · obtain ⟨prevStart, last, holds, isPaired, awaited⟩ := integrity.paired channel
        refine ⟨prevStart, last, holds, isPaired.append (pair_of_other ?_ last), awaited⟩
        cases request with
        | start _ => rfl
        | stop _ => rfl
      · intro posted member kept isCapture
        rcases List.mem_append.mp member with before | last
        · exact integrity.queued posted before kept isCapture
        · rw [List.mem_singleton.mp last] at isCapture
          cases request with
          | start _ => cases isCapture
          | stop _ => cases isCapture
  | analogReady channel =>
      cases steps
      refine ⟨fun channel => ?_, ?_, ?_⟩
      · rw [offer_channels, offer_captures]
        exact (integrity.paired channel).offer rfl
      · rw [offer_captures]
        apply queued_offer integrity.queued
        exact fun _ _ impossible => by cases impossible
      · rw [offer_results, offer_captures]
        exact integrity.measured

/-! ## One start and one stop capture in a cycle -/

/-- What was captured lies in cycles that have begun, at most one capture of each kind
in a cycle. -/
structure Recorded (state : State) : Prop where
  begun : ∀ captured ∈ state.captures,
    captured.cycle ≤ (state.channels captured.channel).trace.cycle
  current : ∀ captured ∈ state.captures,
    captured.cycle = (state.channels captured.channel).trace.cycle →
      (state.channels captured.channel).controller.freqmeter.opm = true ∧
        (captured.event = .stop →
          (state.channels captured.channel).controller.freqmeter.cen = false)
  once : ∀ first ∈ state.captures, ∀ second ∈ state.captures,
    first.channel = second.channel → first.cycle = second.cycle →
      first.event = second.event → first = second

/-- Nothing is captured, and the counters are left alone. -/
theorem Recorded.same {state after : State} (recorded : Recorded state)
    (captures : after.captures = state.captures)
    (same : ∀ channel,
      (after.channels channel).controller.freqmeter =
          (state.channels channel).controller.freqmeter ∧
        (after.channels channel).trace = (state.channels channel).trace) :
    Recorded after := by
  constructor
  · rw [captures]
    intro captured member
    rw [(same captured.channel).2]
    exact recorded.begun captured member
  · rw [captures]
    intro captured member
    rw [(same captured.channel).1, (same captured.channel).2]
    exact recorded.current captured member
  · rw [captures]
    exact recorded.once

private theorem receive_recorded {answer : Answer} {state after : State}
    (recorded : Recorded state)
    (receives : receive setup answer state = some after) : Recorded after := by
  obtain ⟨posted, rest, _, _, handles⟩ := receive_eq receives
  by_cases ready : ∃ channel event target captured wraped,
      posted.command = .readyFChannel channel event target captured wraped
  · obtain ⟨owner, event, target, captured, wraped, isReady⟩ := ready
    obtain ⟨command, origin⟩ := posted
    cases isReady
    obtain ⟨counterKept, _⟩ := inputCaptured_keeps setup.startStop
      (state.channels owner).controller event captured
    have kept (channel : FChannel) (others : FChannel → ChannelState)
        (isOther : others = Function.update state.channels owner
          { state.channels owner with
            controller := ((state.channels owner).controller.inputCaptured
              setup.startStop event captured).1 }) :
        (others channel).controller.freqmeter =
            (state.channels channel).controller.freqmeter ∧
          (others channel).trace = (state.channels channel).trace := by
      rw [isOther]
      by_cases own : channel = owner
      · subst own
        rw [Function.update_self]
        exact ⟨counterKept, rfl⟩
      · rw [Function.update_of_ne own]
        exact ⟨rfl, rfl⟩
    change handleReady setup owner event target captured wraped _ answer
      { state with queue := rest } = some after at handles
    rw [handleReady] at handles
    split at handles
    · cases handles
      exact recorded.same rfl (fun _ => ⟨rfl, rfl⟩)
    · simp only at handles
      split at handles
      · cases handles
        exact recorded.same rfl (fun channel => kept channel _ rfl)
      · split at handles
        · cases handles
          exact recorded.same rfl (fun channel => kept channel _ rfl)
        · cases handles
  · have noReady : ∀ channel event target captured wraped, posted.command ≠
        .readyFChannel channel event target captured wraped :=
      fun channel event target captured wraped isReady =>
        ready ⟨channel, event, target, captured, wraped, isReady⟩
    obtain ⟨channels, _, captures, _⟩ := handle_unmeasured noReady handles
    exact recorded.same captures (fun channel => by rw [channels]; exact ⟨rfl, rfl⟩)

/-- A channel goes on to a later cycle, or it stays in its cycle with the counter in
one-pulse mode as before and stopped where it was stopped. -/
theorem Recorded.setChannel {state : State} (recorded : Recorded state)
    {owner : FChannel} {after : ChannelState}
    (grows : (state.channels owner).trace.cycle ≤ after.trace.cycle)
    (keeps : after.trace.cycle = (state.channels owner).trace.cycle →
      after.controller.freqmeter.opm = (state.channels owner).controller.freqmeter.opm ∧
        ((state.channels owner).controller.freqmeter.cen = false →
          after.controller.freqmeter.cen = false)) :
    Recorded (state.setChannel owner after) := by
  constructor
  · intro captured member
    have begun := recorded.begun captured member
    by_cases own : owner = captured.channel
    · rw [← own, setChannel_self]
      rw [← own] at begun
      exact Nat.le_trans begun grows
    · rw [setChannel_other own]
      exact begun
  · intro captured member isCurrent
    have begun := recorded.begun captured member
    have current := recorded.current captured member
    by_cases own : owner = captured.channel
    · rw [← own, setChannel_self] at isCurrent ⊢
      rw [← own] at begun current
      have sameCycle : after.trace.cycle = (state.channels owner).trace.cycle := by
        omega
      obtain ⟨opm, cen⟩ := keeps sameCycle
      obtain ⟨second, stopped⟩ := current (isCurrent.trans sameCycle)
      exact ⟨opm.trans second, fun isStop => cen (stopped isStop)⟩
    · rw [setChannel_other own] at isCurrent ⊢
      exact current isCurrent
  · exact recorded.once

/-- A cold start begins a cycle in which nothing is captured yet. -/
theorem perform_recorded {state after : State} (recorded : Recorded state)
    (performs : perform setup state = some after) : Recorded after := by
  obtain ⟨op, rest, _, performs⟩ := perform_eq performs
  have recorded : Recorded { state with todo := rest } :=
    recorded.same rfl (fun _ => ⟨rfl, rfl⟩)
  cases op with
  | on owner op =>
      obtain ⟨controller, changes, rfl⟩ := Option.map_eq_some_iff.mp performs
      cases op with
      | coldStart =>
          cases changes
          refine recorded.setChannel (Nat.le_succ _) (fun same => ?_)
          exact absurd same (Nat.succ_ne_self _)
      | stopCounter =>
          cases changes
          exact recorded.setChannel (Nat.le_refl _) (fun _ => ⟨rfl, fun _ => rfl⟩)
      | setTarget32 target =>
          obtain ⟨freqmeter, sets, rfl⟩ := Option.map_eq_some_iff.mp changes
          rw [InCounter.setTarget32] at sets
          split at sets
          · cases sets
          · obtain ⟨_, _, rfl⟩ := Option.map_eq_some_iff.mp sets
            exact recorded.setChannel (Nat.le_refl _)
              (fun _ => ⟨rfl, fun stopped => stopped⟩)
      | _ =>
          cases changes
          exact recorded.setChannel (Nat.le_refl _)
            (fun _ => ⟨rfl, fun stopped => stopped⟩)
  | post command =>
      cases performs
      refine recorded.same (offer_captures ..) (fun channel => ?_)
      rw [offer_channels]
      exact ⟨rfl, rfl⟩
  | settled owner =>
      cases performs
      exact recorded.same rfl (fun _ => ⟨rfl, rfl⟩)

/-- After a capture the counter is in one-pulse mode, and after a stop capture it
stands still. -/
theorem captured_second {counter freqmeter : InCounter} {event : TimerEvent}
    (isCaptured : counter.captured true = (freqmeter, event)) :
    freqmeter.opm = true ∧ (event = .stop → freqmeter.cen = false) := by
  rw [InCounter.captured] at isCaptured
  split at isCaptured
  · rename_i second
    cases isCaptured
    exact ⟨second, fun _ => rfl⟩
  · cases isCaptured
    exact ⟨rfl, fun impossible => by cases impossible⟩

/-- A capture is the first of its kind in its cycle: the counter switches to one-pulse
mode at the start capture and stops at the stop capture. -/
theorem Recorded.first {state : State} (recorded : Recorded state) {owner : FChannel}
    {freqmeter : InCounter} {event : TimerEvent} {startStop : Bool}
    (isCaptured : (state.channels owner).controller.freqmeter.captured startStop =
      (freqmeter, event))
    (running : (state.channels owner).controller.freqmeter.cen = true)
    {before : Captured} (member : before ∈ state.captures)
    (own : before.channel = owner)
    (isCurrent : before.cycle = (state.channels owner).trace.cycle) :
    before.event ≠ event := by
  subst own
  intro sameEvent
  obtain ⟨second, stopped⟩ := recorded.current before member isCurrent
  rw [InCounter.captured, if_pos second] at isCaptured
  cases isCaptured
  exact absurd ((stopped sameEvent).symm.trans running) Bool.false_ne_true

theorem capture_recorded (startStop : setup.startStop = true) {owner : FChannel}
    {value : UInt32} {wraped : Bool} {state after : State}
    (recorded : Recorded state)
    (captures : capture setup owner value wraped state = some after) :
    Recorded after := by
  obtain ⟨freqmeter, event, isCaptured, running, rfl⟩ := capture_eq captures
  rw [startStop] at isCaptured
  obtain ⟨second, stopped⟩ := captured_second isCaptured
  constructor
  · rw [offer_captures, offer_channels]
    intro other member
    rcases List.mem_append.mp member with before | new
    · have begun := recorded.begun other before
      by_cases own : owner = other.channel
      · subst own
        rw [setChannel_self]
        exact begun
      · rw [setChannel_other own]
        exact begun
    · apply Nat.le_of_eq
      rw [List.mem_singleton.mp new, setChannel_self]
  · rw [offer_captures, offer_channels]
    intro other member isCurrent
    by_cases own : owner = other.channel
    · subst own
      rw [setChannel_self] at isCurrent ⊢
      refine ⟨second, fun isStop => stopped ?_⟩
      rcases List.mem_append.mp member with before | new
      · obtain ⟨wasSecond, _⟩ := recorded.current other before isCurrent
        rw [InCounter.captured, if_pos wasSecond] at isCaptured
        cases isCaptured
        rfl
      · rw [List.mem_singleton.mp new] at isStop
        exact isStop
    · rw [setChannel_other own] at isCurrent ⊢
      rcases List.mem_append.mp member with before | new
      · exact recorded.current other before isCurrent
      · rw [List.mem_singleton.mp new] at own
        exact absurd rfl own
  · rw [offer_captures]
    intro one isOne two isTwo sameChannel sameCycle sameEvent
    rcases List.mem_append.mp isOne with oneBefore | oneNew
    · rcases List.mem_append.mp isTwo with twoBefore | twoNew
      · exact recorded.once one oneBefore two twoBefore sameChannel sameCycle sameEvent
      · rw [List.mem_singleton.mp twoNew] at sameChannel sameCycle sameEvent
        exact absurd sameEvent
          (recorded.first isCaptured running oneBefore sameChannel sameCycle)
    · rw [List.mem_singleton.mp oneNew] at sameChannel sameCycle sameEvent ⊢
      rcases List.mem_append.mp isTwo with twoBefore | twoNew
      · exact absurd sameEvent.symm
          (recorded.first isCaptured running twoBefore sameChannel.symm sameCycle.symm)
      · exact (List.mem_singleton.mp twoNew).symm

theorem step_recorded (startStop : setup.startStop = true) {label : Label}
    {state after : State} (recorded : Recorded state)
    (steps : step setup state label = some after) : Recorded after := by
  cases label with
  | receive answer => exact receive_recorded recorded steps
  | perform => exact perform_recorded recorded steps
  | capture channel captured wraped => exact capture_recorded startStop recorded steps
  | guardObeys owner =>
      obtain ⟨guard, _, rfl⟩ := guardObeys_eq steps
      exact recorded.same rfl (setGuard_same state owner guard)
  | guardExpires owner =>
      obtain ⟨_, rfl⟩ := guardExpires_eq steps
      refine recorded.same (offer_captures ..) (fun channel => ?_)
      rw [offer_channels]
      exact setGuard_same state owner _ channel
  | send request =>
      obtain ⟨_, rfl⟩ := send_eq steps
      exact recorded.same rfl (fun _ => ⟨rfl, rfl⟩)
  | analogReady channel =>
      cases steps
      refine recorded.same (offer_captures ..) (fun owner => ?_)
      rw [offer_channels]
      exact ⟨rfl, rfl⟩

/-! ## Whole runs -/

theorem initialState_integrity (setup : Setup) :
    Integrity (initialState setup) where
  paired _ := by
    refine ⟨none, none, fun cycle impossible => ?_, rfl, fun awaited => ?_⟩
    · cases impossible
    · exact absurd awaited.1 Bool.false_ne_true
  queued _ member := absurd member List.not_mem_nil
  measured _ member := absurd member List.not_mem_nil

theorem initialState_recorded (setup : Setup) :
    Recorded (initialState setup) where
  begun _ member := absurd member List.not_mem_nil
  current _ member := absurd member List.not_mem_nil
  once _ member := absurd member List.not_mem_nil

/-- The result is computed from a start and a stop capture that were both let through,
and these are all that the counter captured in that cycle. -/
def Measured.OfOneCycle (captures : List Captured) (measured : Measured) : Prop :=
  ∃ start,
    keptCapture measured.channel measured.cycle .start start ∈ captures ∧
    keptCapture measured.channel measured.cycle .stop measured.captured ∈ captures ∧
    measured.result =
      FreqmeterController.betweenCaptures measured.prevDiff start measured.captured ∧
    ∀ captured ∈ captures, captured.channel = measured.channel →
      captured.cycle = measured.cycle →
        captured = keptCapture measured.channel measured.cycle .start start ∨
          captured = keptCapture measured.channel measured.cycle .stop measured.captured

theorem Recorded.ofOneCycle {state : State} (recorded : Recorded state)
    {measured : Measured} (computed : measured.Computed state.captures) :
    measured.OfOneCycle state.captures := by
  obtain ⟨start, isStart, isStop, result⟩ := computed
  refine ⟨start, isStart, isStop, result, fun captured member channel cycle => ?_⟩
  cases isEvent : captured.event with
  | start => exact Or.inl (recorded.once captured member _ isStart channel cycle isEvent)
  | stop => exact Or.inr (recorded.once captured member _ isStop channel cycle isEvent)

/-- In a run in which no stop capture gets through without the start capture of
its cycle, every result is computed from the two captures of one cycle. -/
theorem results_of_one_cycle (setup : Setup) (startStop : setup.startStop = true)
    {state : State}
    (reaches : (sensorProcessor setup).Reaches (CompleteCycles setup) state) :
    ∀ measured ∈ state.results, measured.OfOneCycle state.captures := by
  have kept : Integrity state ∧ PostsStarts state.todo ∧ Recorded state :=
    Machine.Reaches.invariant
      (I := fun state => Integrity state ∧ PostsStarts state.todo ∧ Recorded state)
      ⟨initialState_integrity setup, .nil, initialState_recorded setup⟩
      (fun _ _ _ ⟨integrity, posts, recorded⟩ complete steps =>
        ⟨step_integrity startStop integrity posts complete steps,
          step_postsStarts posts steps, step_recorded startStop recorded steps⟩)
      reaches
  obtain ⟨integrity, _, recorded⟩ := kept
  exact fun measured member => recorded.ofOneCycle (integrity.measured measured member)

/-- A channel is started and measured once. -/
theorem results_of_one_cycle_measured :
    ∃ state : State,
      state.results = [
        { channel := .pressure, cycle := 1, captured := 73000, prevDiff := none,
          result := 72000 }] ∧
      ∀ measured ∈ state.results, measured.OfOneCycle state.captures :=
  let setup := recorderSetup (fun _ => 4500)
  ⟨_, rfl, results_of_one_cycle setup rfl
    (Machine.Reaches.runWithin
      (startLabels .pressure ++
        [.capture .pressure 1000 false, .receive ⟨true, none⟩,
          .capture .pressure 73000 false, .receive ⟨true, none⟩])
      .start rfl)⟩

/-- The start capture of the first cycle is wrapped, so that the cycle is
restarted; its stop capture is in the queue already and gives a result without a
start capture. -/
theorem result_without_start_capture :
    let setup := recorderSetup (fun _ => 4500)
    ∃ state, (sensorProcessor setup).Reachable state ∧
      ∃ measured ∈ state.results, measured.channel = .pressure ∧ measured.cycle = 1 ∧
        measured.result = 73000 ∧ ¬ measured.OfOneCycle state.captures := by
  let setup := recorderSetup (fun _ => 4500)
  have runs : ∃ state, (sensorProcessor setup).Reachable state ∧
      state.results = [
        { channel := .pressure, cycle := 1, captured := 73000, prevDiff := none,
          result := 73000 }] ∧
      state.captures = [
        { channel := .pressure, cycle := 1, event := .start, value := 1000,
          kept := false },
        { channel := .pressure, cycle := 1, event := .stop, value := 73000,
          kept := true }] :=
    ⟨_, Machine.Reaches.run
      (startLabels .pressure ++
        [.capture .pressure 1000 true, .capture .pressure 73000 false,
          .receive ⟨true, none⟩, .perform, .perform, .perform, .perform,
          .receive ⟨true, none⟩])
      .start rfl, by decide, by decide⟩
  obtain ⟨state, reachable, results, captures⟩ := runs
  refine ⟨state, reachable, ⟨.pressure, 1, 73000, none, 73000⟩, ?_, rfl, rfl, rfl, ?_⟩
  · rw [results]
    exact List.mem_cons_self
  · rintro ⟨start, isStart, _⟩
    rw [captures] at isStart
    rcases List.mem_cons.mp isStart with wraped | stop
    · cases congrArg Captured.kept wraped
    · cases congrArg Captured.event (List.mem_singleton.mp stop)

end SelfWriter.Sensors
