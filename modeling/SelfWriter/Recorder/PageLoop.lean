import SelfWriter.Recorder.Schedule
import SelfWriter.Storage.Measurements

/-!
# The page loop of the recorder

`RecorderProcessor::controller` (`workmodes/processing/recorder_processor.rs`) around
the acquisition loop: a page is created, gets its header, is filled and is written.
The commands for the sensor task and the waits between are left out here.

The order of the channels in a page follows from the configuration, so a reader that
knows it has the result of every scheduled sample.
-/

namespace SelfWriter.Recorder

universe u

open SelfWriter.Lib SelfWriter.Lib.DifferenceCoding SelfWriter.Storage

/-! ## What is scheduled -/

def FChCfg.due (cfg : FChCfg) (time : Nat) (ch : FChannel) : Bool :=
  (cfg.plan ch).enabled && decide (time % (cfg.plan ch).period = 0)

/-- The channels that are sampled at a page time, in their order. -/
def FChCfg.channelsAt (cfg : FChCfg) (time : Nat) : List FChannel :=
  [FChannel.pressure, FChannel.temperature].filter (cfg.due time)

/-- The channels of the samples of the first `count` instants of a page. -/
def FChCfg.channelOrder (cfg : FChCfg) (count : Nat) : List FChannel :=
  (List.range' 0 count).flatMap cfg.channelsAt

section Scheduled

variable (cfg : FChCfg) (results : Nat → FChannel → Option UInt32)

def callsAt (time : Nat) : List PushCall :=
  (cfg.channelsAt time).map (fun ch => (results time ch, ch))

def callsFrom (time count : Nat) : List PushCall :=
  (List.range' time count).flatMap (callsAt cfg results)

/-- The samples of the first `count` instants: what is known of the channel then. -/
def scheduledCalls (count : Nat) : List PushCall :=
  callsFrom cfg results 0 count

private theorem map_snd_scheduledCalls (count : Nat) :
    (scheduledCalls cfg results count).map Prod.snd = cfg.channelOrder count := by
  have instant : ∀ time, (callsAt cfg results time).map Prod.snd = cfg.channelsAt time := by
    intro time
    rw [callsAt, List.map_map]
    exact List.map_id _
  simp only [scheduledCalls, callsFrom, FChCfg.channelOrder, List.map_flatMap, instant]

private theorem callsFrom_succ (time count : Nat) :
    callsFrom cfg results time (count + 1) =
      callsAt cfg results time ++ callsFrom cfg results (time + 1) count := by
  rw [callsFrom, List.range'_succ, List.flatMap_cons]
  rfl

/-- More instants only add samples. -/
theorem scheduledCalls_prefix {count more : Nat} (longer : count ≤ more) :
    scheduledCalls cfg results count <+: scheduledCalls cfg results more := by
  obtain ⟨extra, rfl⟩ := Nat.exists_eq_add_of_le longer
  unfold scheduledCalls callsFrom
  rw [← List.range'_append_1, List.flatMap_append]
  exact List.prefix_append _ _

end Scheduled

/-! ## What is pushed -/

def Action.call : Action → Option PushCall
  | .push channel result _ => some (result, channel)
  | .send _ => none

def pushesOf (log : List (Nat × Action)) : List PushCall :=
  log.filterMap (fun entry => entry.2.call)

private theorem pushesOf_append (first second : List (Nat × Action)) :
    pushesOf (first ++ second) = pushesOf first ++ pushesOf second :=
  List.filterMap_append

private theorem pushesOf_stamp (time : Nat) (actions : List Action) :
    pushesOf (stamp time actions) = actions.filterMap Action.call := by
  rw [pushesOf, stamp, List.filterMap_map]
  rfl

private theorem pushesOf_enableChannel (time : Nat) (channel : FChannel) (enabled : Bool) :
    pushesOf (stamp time (enableChannel channel enabled)) = [] := by
  cases enabled <;> rfl

private theorem pushesOf_exitWakeUp (cfg : FChCfg) (log : List (Nat × Action)) :
    pushesOf (exitWakeUp cfg log) = [] := by
  unfold exitWakeUp
  split
  · exact pushesOf_enableChannel _ _ _
  · exact pushesOf_enableChannel _ _ _
  · rfl

section Pushed

variable {Packer : Type u} [DataBlockPacker Packer]

/-- The page of the recorder; a full packer panics, where the answer here does not
matter. -/
instance : DataPage (DataBlock Packer) where
  pushData page result channel := (page.pushData result channel).getD (page, true)

variable {cfg : FChCfg} {results : Nat → FChannel → Option UInt32}

/-- One channel at one instant pushes its sample, if it is due. -/
theorem channelInstant_calls {Page : Type u} [DataPage Page]
    (now : FChannel → Option UInt32) (time : Nat) (page : Page) (ch : FChannel) :
    (channelInstant (cfg.plan ch) now time page ch).log.filterMap Action.call =
      if cfg.due time ch then [(now ch, ch)] else [] := by
  unfold channelInstant FChCfg.due
  cases enabled : (cfg.plan ch).enabled with
  | false => rfl
  | true =>
      by_cases sampled : time % (cfg.plan ch).period = 0
      · simp only [sampled, if_true, decide_true, Bool.and_true]
        split <;> rfl
      · simp only [sampled, if_true, if_false, decide_false, Bool.and_false]
        split <;> rfl

private theorem callsAt_eq (time : Nat) :
    callsAt cfg results time =
      (if cfg.due time .pressure then [(results time .pressure, .pressure)] else []) ++
        (if cfg.due time .temperature then [(results time .temperature, .temperature)]
          else []) := by
  unfold callsAt FChCfg.channelsAt
  cases p : cfg.due time .pressure <;> cases t : cfg.due time .temperature <;>
    simp [p, t]

/-- An instant pushes the samples that are due, up to the one that fills the page. -/
theorem instant_calls {Page : Type u} [DataPage Page] (cfg : FChCfg)
    (results : Nat → FChannel → Option UInt32) (time : Nat) (page : Page) :
    pushesOf (instant cfg (results time) time page).log <+: callsAt cfg results time ∧
      ((instant cfg (results time) time page).full = false →
        pushesOf (instant cfg (results time) time page).log =
          callsAt cfg results time) := by
  rw [callsAt_eq, instant]
  cases full : (channelInstant (cfg.plan .pressure) (results time) time page
      .pressure).full with
  | true =>
      simp only [if_true]
      rw [pushesOf_stamp, channelInstant_calls]
      exact ⟨List.prefix_append _ _, fun impossible => by cases impossible⟩
  | false =>
      simp only [Bool.false_eq_true, if_false]
      rw [pushesOf_stamp, List.filterMap_append, channelInstant_calls,
        channelInstant_calls]
      exact ⟨List.prefix_refl _, fun _ => rfl⟩

/-- The schedule pushes a beginning of the samples of its instants. -/
theorem schedule_pushes {Page : Type u} [DataPage Page] (count : Nat) :
    ∀ (time : Nat) (page : Page),
      pushesOf (schedule cfg results count time page).log <+:
        callsFrom cfg results time count := by
  induction count with
  | zero =>
      intro time page
      exact List.prefix_refl []
  | succ count inductionHypothesis =>
      intro time page
      obtain ⟨begins, whole⟩ := instant_calls cfg results time page
      rw [callsFrom_succ, schedule]
      cases full : (instant cfg (results time) time page).full with
      | true =>
          simp only [if_true]
          exact begins.trans (List.prefix_append _ _)
      | false =>
          simp only [Bool.false_eq_true, if_false]
          rw [pushesOf_append, whole full]
          exact (List.prefix_append_right_inj _).2 (inductionHypothesis (time + 1) _)

/-! ## The page that is left -/

private theorem pushAll_append {page after : DataBlock Packer} {first second : List PushCall}
    (kept : page.pushAll (first ++ second) = some after) :
    ∃ between, page.pushAll first = some between ∧ between.pushAll second = some after := by
  rw [DataBlock.pushAll, List.foldlM_append] at kept
  exact Option.bind_eq_some_iff.1 kept

private theorem pushAll_single {page after : DataBlock Packer} {call : PushCall}
    (kept : page.pushAll [call] = some after) : page.pushKept call = some after := by
  rw [DataBlock.pushAll, List.foldlM_cons] at kept
  obtain ⟨next, first, rest⟩ := Option.bind_eq_some_iff.1 kept
  cases rest
  exact first

private theorem channelInstant_page {now : FChannel → Option UInt32} {time : Nat}
    {page after : DataBlock Packer} {ch : FChannel}
    (kept : page.pushAll ((channelInstant (cfg.plan ch) now time page ch).log.filterMap
      Action.call) = some after) :
    (channelInstant (cfg.plan ch) now time page ch).page = after := by
  rw [channelInstant_calls] at kept
  unfold FChCfg.due at kept
  unfold channelInstant
  cases enabled : (cfg.plan ch).enabled with
  | false =>
      rw [enabled] at kept
      cases kept
      rfl
  | true =>
      rw [enabled] at kept
      by_cases sampled : time % (cfg.plan ch).period = 0
      · rw [decide_eq_true sampled] at kept
        obtain ⟨full, pushes⟩ := pushData_of_pushKept (pushAll_single kept)
        have answers : DataPage.pushData page (now ch) ch = (after, full) := by
          change (page.pushData (now ch) ch).getD (page, true) = _
          rw [pushes]
          rfl
        simp only [if_true, if_pos sampled, answers]
      · rw [decide_eq_false sampled] at kept
        cases kept
        simp only [if_true, if_neg sampled]
        split <;> rfl

private theorem instant_page {time : Nat} {page after : DataBlock Packer}
    (kept : page.pushAll (pushesOf (instant cfg (results time) time page).log) =
      some after) : (instant cfg (results time) time page).page = after := by
  rw [instant] at kept ⊢
  cases full : (channelInstant (cfg.plan .pressure) (results time) time page
      .pressure).full with
  | true =>
      simp only [full, if_true, pushesOf_stamp] at kept ⊢
      exact channelInstant_page kept
  | false =>
      simp only [full, Bool.false_eq_true, if_false, pushesOf_stamp,
        List.filterMap_append] at kept ⊢
      obtain ⟨between, first, second⟩ := pushAll_append kept
      have same := channelInstant_page first
      rw [← same] at second
      exact channelInstant_page second

private theorem schedule_page (count : Nat) :
    ∀ (time : Nat) {page after : DataBlock Packer},
      page.pushAll (pushesOf (schedule cfg results count time page).log) = some after →
        (schedule cfg results count time page).page = after := by
  induction count with
  | zero =>
      intro time page after kept
      cases kept
      rfl
  | succ count inductionHypothesis =>
      intro time page after kept
      rw [schedule] at kept ⊢
      cases full : (instant cfg (results time) time page).full with
      | true =>
          simp only [full, if_true] at kept ⊢
          exact instant_page kept
      | false =>
          simp only [full, Bool.false_eq_true, if_false, pushesOf_append] at kept ⊢
          obtain ⟨between, first, second⟩ := pushAll_append kept
          have same := instant_page first
          rw [← same] at second
          exact inductionHypothesis (time + 1) second

/-- The acquisition loop, as long as its events are handled within their tick and the
packer keeps the results: the page has what was pushed, and that is a beginning of what
is scheduled. -/
theorem acquire_pushes (positive : cfg.Positive) {env : Environment} {tickCount : UInt32}
    {iterations : Nat} {page after : DataBlock Packer}
    (dones : ∀ done ∈ (acquire cfg env tickCount iterations page).dones, done = 1)
    (small : (acquire cfg env tickCount iterations page).state.pageTime < 2 ^ 32)
    (kept : page.pushAll (pushesOf (acquire cfg env tickCount iterations page).log) =
      some after) :
    (acquire cfg env tickCount iterations page).state.page = after ∧
      ∃ count, pushesOf (acquire cfg env tickCount iterations page).log <+:
        scheduledCalls cfg env.results count := by
  obtain ⟨count, performs⟩ := run_refines positive iterations (.begin cfg tickCount page)
    (begin_tracks positive tickCount page) dones small
  have sameLog : pushesOf (acquire cfg env tickCount iterations page).log =
      pushesOf (schedule cfg env.results count 0 page).log := by
    have log := congrArg pushesOf performs.log_eq
    rw [pushesOf_append] at log
    refine log.trans ?_
    split
    · rw [pushesOf_exitWakeUp, List.append_nil]
      rfl
    · exact List.append_nil _
  rw [sameLog] at kept ⊢
  exact ⟨performs.page_eq.trans (schedule_page count 0 kept), count,
    schedule_pushes count 0 page⟩

end Pushed

/-! ## The loop -/

/-- Where the loop is. -/
inductive Phase where
  | creating
  | header
  | acquiring
  | writing
  /-- In `halt_cpu`. -/
  | halted
  deriving DecidableEq, Repr

/-- The results of the channels over the time of a page. -/
abbrev Results := Nat → FChannel → Option UInt32

/-- The loop, with what the outstanding block is filled from, and what each entry of
the log was; `none` is a cut block. -/
structure PageLoop (Packer : Type u) where
  measuring : Measuring Packer
  seriesPageCounter : UInt32
  phase : Phase
  current : Results
  sources : List (Option Results)

inductive PageEvent where
  | tryCreateNewPage (call : CreateCall)
  | writeHeader (output : HeaderOutput) (batteryLow : Bool)
  /-- The acquisition loop, up to the result that fills the page. -/
  | acquire (env : Environment) (tickCount : UInt32) (iterations : Nat)
  | write (outcome : FlashDiffWriter.WriteOutcome)
  | powerLoss (programs : Option Nat) (locks : CacheLocks)

section Loop

variable {Packer : Type u} [DataBlockPacker Packer]
variable (pages : Nat) (crc : List UInt8 → UInt32) (cfg : FChCfg)

namespace PageLoop

variable (state : PageLoop Packer)

def create (call : CreateCall) : PageLoop Packer :=
  let counter := state.seriesPageCounter
  let after := { state with
    measuring := state.measuring.step pages crc (.tryCreateNewPage call counter) }
  match (state.measuring.recorder.create pages call counter).1 with
  | .ok _ => { after with seriesPageCounter := counter + 1, phase := .header }
  | .error .outOfMemory => { after with phase := .halted }
  | .error .mutexTimeout => after

/-- The header, and the check of the battery behind it. -/
def writeHeader (output : HeaderOutput) (batteryLow : Bool) : PageLoop Packer :=
  { state with
    measuring := state.measuring.step pages crc (.writeHeader output)
    phase := if batteryLow then .halted else .acquiring }

def acquired (block : DataBlock Packer) (env : Environment) (tickCount : UInt32)
    (iterations : Nat) : Option (PageLoop Packer) :=
  let run := acquire cfg env tickCount iterations block
  if run.full then
    some { state with
      measuring := { state.measuring with
        recorder := { state.measuring.recorder with block := some run.state.page }
        outstanding := state.measuring.outstanding ++ pushesOf run.log }
      phase := .writing
      current := env.results }
  else
    none

/-- A write, or a power loss: the next page is created. -/
def leave (event : Storage.Event) (counter : UInt32) (source : Option Results) :
    PageLoop Packer :=
  { state with
    measuring := state.measuring.step pages crc event
    seriesPageCounter := counter
    phase := .creating
    sources := state.sources ++
      (state.measuring.recorder.appended crc event).map (fun _ => source) }

def step : PageEvent → Option (PageLoop Packer)
  | .tryCreateNewPage call =>
      if state.phase = .creating then some (state.create pages crc call) else none
  | .writeHeader output batteryLow =>
      if state.phase = .header then some (state.writeHeader pages crc output batteryLow)
      else none
  | .acquire env tickCount iterations =>
      if state.phase = .acquiring then
        state.measuring.recorder.block.bind
          (fun block => state.acquired cfg block env tickCount iterations)
      else
        none
  | .write outcome =>
      if state.phase = .writing then
        some (state.leave pages crc (.write outcome) state.seriesPageCounter
          (some state.current))
      else
        none
  | .powerLoss none locks => some (state.leave pages crc (.powerLoss none locks) 0 none)
  | .powerLoss (some programs) locks =>
      if state.phase = .writing then
        some (state.leave pages crc (.powerLoss (some programs) locks) 0 none)
      else
        none

end PageLoop

/-- The recorder from erased cells on. -/
def pageLoop (locks : CacheLocks) : Machine (PageLoop Packer) PageEvent where
  start :=
    { measuring := (measuringRecorder pages crc locks).start
      seriesPageCounter := 0
      phase := .creating
      current := fun _ _ => none
      sources := [] }
  step := PageLoop.step pages crc cfg

/-- Events are handled within their tick, the packer keeps every result, and no write
fails. -/
def Timely (state : PageLoop Packer) : PageEvent → Prop
  | .acquire env tickCount iterations =>
      ∀ block, state.measuring.recorder.block = some block →
        let run := acquire cfg env tickCount iterations block
        (∀ done ∈ run.dones, done = 1) ∧ run.state.pageTime < 2 ^ 32 ∧
          (block.pushAll (pushesOf run.log)).isSome
  | .write outcome => Untroubled crc state.measuring.recorder (.write outcome)
  | _ => True

/-! ## What the loop keeps -/

/-- The calls for a block are a beginning of the samples that are scheduled. -/
def Sampled : Option (List PushCall) → Option Results → Prop
  | some calls, some results => ∃ count, calls <+: scheduledCalls cfg results count
  | none, none => True
  | _, _ => False

structure Paged (values : Packer → List UInt32) (state : PageLoop Packer) : Prop where
  measures : Measures pages crc values state.measuring
  sources : List.Forall₂ (Sampled cfg) state.measuring.pushed state.sources
  fresh : state.phase = .header ∨ state.phase = .acquiring →
    state.measuring.outstanding = []
  filled : state.phase = .writing →
    ∃ count, state.measuring.outstanding <+: scheduledCalls cfg state.current count

variable {pages crc cfg} {values : Packer → List UInt32}
variable {unpack : List UInt8 → Option (List UInt32)}
variable {state after : PageLoop Packer}

/-- An entry that is appended has the source of its block. -/
theorem Paged.leave_sources (paged : Paged pages crc cfg values state)
    {event : Storage.Event} {source : Option Results}
    (sampled : Sampled cfg (state.measuring.finished event) source) :
    List.Forall₂ (Sampled cfg) (state.measuring.step pages crc event).pushed
      (state.sources ++
        (state.measuring.recorder.appended crc event).map (fun _ => source)) := by
  refine List.rel_append paged.sources ?_
  rw [List.forall₂_map_left_iff, List.forall₂_map_right_iff, List.forall₂_same]
  exact fun _ _ => sampled

/-- Nothing is appended outside of a write. -/
theorem Paged.keep_sources (paged : Paged pages crc cfg values state)
    (event : Storage.Event) (silent : state.measuring.recorder.appended crc event = []) :
    List.Forall₂ (Sampled cfg) (state.measuring.step pages crc event).pushed
      state.sources := by
  have same : (state.measuring.step pages crc event).pushed = state.measuring.pushed := by
    simp only [Measuring.step, silent, List.map_nil, List.append_nil]
  rw [same]
  exact paged.sources

/-- Outside of a page there is no more to keep. -/
theorem Paged.of_outside (measures : Measures pages crc values state.measuring)
    (sources : List.Forall₂ (Sampled cfg) state.measuring.pushed state.sources)
    (outside : state.phase = .creating ∨ state.phase = .halted) :
    Paged pages crc cfg values state where
  measures := measures
  sources := sources
  fresh := by
    intro inside
    rcases outside with isPhase | isPhase
    · rw [isPhase] at inside
      rcases inside with impossible | impossible <;> cases impossible
    · rw [isPhase] at inside
      rcases inside with impossible | impossible <;> cases impossible
  filled := by
    intro isWriting
    rw [isWriting] at outside
    rcases outside with impossible | impossible <;> cases impossible

variable [LawfulPacker Packer]

theorem Paged.leave (unpacks : Unpacks crc values unpack)
    (paged : Paged pages crc cfg values state) {event : Storage.Event} (counter : UInt32)
    {source : Option Results} (kept : Kept crc state.measuring event)
    (sampled : Sampled cfg (state.measuring.finished event) source) :
    Paged pages crc cfg values (state.leave pages crc event counter source) :=
  .of_outside (paged.measures.step unpacks event kept) (paged.leave_sources sampled) (.inl rfl)

theorem Paged.create (unpacks : Unpacks crc values unpack)
    (paged : Paged pages crc cfg values state) (creating : state.phase = .creating)
    (call : CreateCall) : Paged pages crc cfg values (state.create pages crc call) := by
  have measures := paged.measures.step unpacks
    (.tryCreateNewPage call state.seriesPageCounter) ⟨trivial, trivial⟩
  have sources := paged.keep_sources (.tryCreateNewPage call state.seriesPageCounter) rfl
  unfold PageLoop.create
  cases answer : (state.measuring.recorder.create pages call state.seriesPageCounter).1 with
  | ok block =>
      have free : state.measuring.recorder.block = none := by
        cases create_creates paged.measures.logs.allocates call state.seriesPageCounter with
        | outstanding taken refused => rw [refused] at answer; cases answer
        | full free => exact free
        | locked free => exact free
        | handedOut free => exact free
      simp only [answer]
      exact
        { measures := measures
          sources := sources
          fresh := by
            intro _
            simp only [Measuring.step, Measuring.collected, free, Option.isSome_none,
              Bool.false_eq_true, if_false]
          filled := fun impossible => by cases impossible }
  | error error =>
      cases error with
      | outOfMemory =>
          simp only [answer]
          exact .of_outside measures sources (.inr rfl)
      | mutexTimeout =>
          simp only [answer]
          exact .of_outside measures sources (.inl creating)

theorem Paged.writeHeader (unpacks : Unpacks crc values unpack)
    (paged : Paged pages crc cfg values state) (atHeader : state.phase = .header)
    (output : HeaderOutput) (batteryLow : Bool) :
    Paged pages crc cfg values (state.writeHeader pages crc output batteryLow) where
  measures := paged.measures.step unpacks (.writeHeader output) ⟨trivial, trivial⟩
  sources := paged.keep_sources (.writeHeader output) rfl
  fresh := fun _ => paged.fresh (.inl atHeader)
  filled := by
    intro impossible
    cases batteryLow <;> cases impossible

theorem Paged.acquired (unpacks : Unpacks crc values unpack) (positive : cfg.Positive)
    (paged : Paged pages crc cfg values state) (acquiring : state.phase = .acquiring)
    {block : DataBlock Packer} (outstanding : state.measuring.recorder.block = some block)
    {env : Environment} {tickCount : UInt32} {iterations : Nat}
    (timely : Timely crc cfg state (.acquire env tickCount iterations))
    (acquires : state.acquired cfg block env tickCount iterations = some after) :
    Paged pages crc cfg values after := by
  obtain ⟨dones, small, keeps⟩ := timely block outstanding
  obtain ⟨page, kept⟩ := Option.isSome_iff_exists.1 keeps
  obtain ⟨isPage, count, begins⟩ := acquire_pushes positive dones small kept
  have fresh := paged.fresh (.inr acquiring)
  have measures := paged.measures.pushAll unpacks _ outstanding kept
  unfold PageLoop.acquired at acquires
  simp only at acquires
  split at acquires
  · cases acquires
    rw [← isPage] at measures
    exact
      { measures := measures
        sources := paged.sources
        fresh := by
          rintro (impossible | impossible)
          · cases impossible
          · cases impossible
        filled := by
          intro _
          refine ⟨count, ?_⟩
          change state.measuring.outstanding ++ _ <+: _
          rw [fresh, List.nil_append]
          exact begins }
  · cases acquires

theorem Paged.step (unpacks : Unpacks crc values unpack) (positive : cfg.Positive)
    (paged : Paged pages crc cfg values state) {event : PageEvent}
    (timely : Timely crc cfg state event) (steps : state.step pages crc cfg event = some after) :
    Paged pages crc cfg values after := by
  cases event with
  | tryCreateNewPage call =>
      rw [PageLoop.step] at steps
      split at steps
      · rename_i creating
        cases steps
        exact paged.create unpacks creating call
      · cases steps
  | writeHeader output batteryLow =>
      rw [PageLoop.step] at steps
      split at steps
      · rename_i atHeader
        cases steps
        exact paged.writeHeader unpacks atHeader output batteryLow
      · cases steps
  | acquire env tickCount iterations =>
      rw [PageLoop.step] at steps
      split at steps
      · rename_i acquiring
        obtain ⟨block, outstanding, acquires⟩ := Option.bind_eq_some_iff.1 steps
        exact paged.acquired unpacks positive acquiring outstanding timely acquires
      · cases steps
  | write outcome =>
      rw [PageLoop.step] at steps
      split at steps
      · rename_i writing
        cases steps
        exact paged.leave unpacks _ ⟨timely, trivial⟩ (paged.filled writing)
      · cases steps
  | powerLoss programs locks =>
      cases programs with
      | none =>
          cases steps
          exact paged.leave unpacks _ ⟨trivial, trivial⟩ trivial
      | some programs =>
          rw [PageLoop.step] at steps
          split at steps
          · cases steps
            exact paged.leave unpacks _ ⟨trivial, trivial⟩ trivial
          · cases steps

theorem pageLoop_paged {locks : CacheLocks} (unpacks : Unpacks crc values unpack)
    (positive : cfg.Positive)
    (reaches : (pageLoop pages crc cfg locks).Reaches (Timely crc cfg) state) :
    Paged pages crc cfg values state := by
  apply reaches.invariant (I := Paged pages crc cfg values)
  · exact
      { measures := measuringRecorder_measures unpacks .start
        sources := .nil
        fresh := fun _ => rfl
        filled := fun impossible => by cases impossible }
  · intro before event after paged timely steps
    exact paged.step unpacks positive timely steps

/-! ## What a reader makes of a page -/

/-- The page unpacks to values that the order of the channels turns into the results
at the scheduled times, missing ones in the place of the last result of their channel. -/
def RecoversSamples (cfg : FChCfg) (unpack : List UInt8 → Option (List UInt32))
    (page : List UInt8) : Option Results → Prop
  | some results => ∃ stream, unpack page = some stream ∧
      ∀ count, stream.length ≤ (cfg.channelOrder count).length →
        decode (fun _ => 0) ((cfg.channelOrder count).take stream.length) stream =
          (expected (fun _ => 0) (scheduledCalls cfg results count)).take stream.length
  | none => True

/-- A page that begins with scheduled calls needs no more of the schedule. -/
theorem take_scheduledCalls {results : Results} {calls : List PushCall} {reached count : Nat}
    (begins : calls <+: scheduledCalls cfg results reached)
    (enough : calls.length ≤ (cfg.channelOrder count).length) :
    calls <+: scheduledCalls cfg results count := by
  have same : (scheduledCalls cfg results count).length = (cfg.channelOrder count).length := by
    rw [← map_snd_scheduledCalls cfg results count, List.length_map]
  rw [← same] at enough
  have long := scheduledCalls_prefix cfg results (Nat.le_max_left reached count)
  have other := scheduledCalls_prefix cfg results (Nat.le_max_right reached count)
  exact List.prefix_of_prefix_length_le (begins.trans long) other enough

omit [DataBlockPacker Packer] [LawfulPacker Packer] in
theorem decode_scheduled {results : Results} {calls : List PushCall} {count : Nat}
    (begins : calls <+: scheduledCalls cfg results count) :
    decode (fun _ => 0) ((cfg.channelOrder count).take calls.length)
        (code (fun _ => 0) calls) =
      (expected (fun _ => (0 : UInt32)) (scheduledCalls cfg results count)).take
        calls.length := by
  obtain ⟨rest, same⟩ := begins
  have channels : (cfg.channelOrder count).take calls.length = calls.map Prod.snd := by
    rw [← map_snd_scheduledCalls cfg results count, ← same, List.map_append,
      List.take_left' (List.length_map _)]
  rw [channels, decode_code, ← same, expected_append,
    List.take_left' (length_expected calls _)]

omit [LawfulPacker Packer] in
theorem recoversSamples_of_packs (unpacks : Unpacks crc values unpack) {entry : List UInt8}
    {pushed : Option (List PushCall)} {source : Option Results}
    (packs : Packs crc values entry pushed) (sampled : Sampled cfg pushed source) :
    RecoversSamples cfg unpack (padPage entry) source := by
  cases source with
  | none => trivial
  | some results =>
      cases pushed with
      | none => exact sampled.elim
      | some calls =>
          obtain ⟨packer, packed, holds⟩ := packs
          obtain ⟨reached, begins⟩ := sampled
          have length : (values packer).length = calls.length := by
            rw [holds, length_code]
          refine ⟨values packer, unpacks.unpacks packer entry packed, ?_⟩
          intro count enough
          rw [length] at enough ⊢
          rw [holds]
          exact decode_scheduled (take_scheduledCalls begins enough)

private theorem forall₂_comp {α β γ : Type*} {R : α → β → Prop} {S : β → γ → Prop}
    {T : α → γ → Prop}
    (combine : ∀ first second third, R first second → S second third → T first third)
    {firsts : List α} {seconds : List β} (left : List.Forall₂ R firsts seconds) :
    ∀ {thirds : List γ}, List.Forall₂ S seconds thirds → List.Forall₂ T firsts thirds := by
  induction left with
  | nil =>
      intro thirds right
      cases right
      exact .nil
  | cons related _ inductionHypothesis =>
      intro thirds right
      cases right with
      | cons next rest => exact .cons (combine _ _ _ related next) (inductionHypothesis rest)

omit [LawfulPacker Packer] in
/-- The pages of the log give the results at the scheduled times back. -/
theorem Paged.recovers (unpacks : Unpacks crc values unpack)
    (paged : Paged pages crc cfg values state) :
    List.Forall₂ (RecoversSamples cfg unpack)
      (cutPages (state.measuring.log.flatMap padPage)) state.sources := by
  rw [cutPages_log state.measuring.log paged.measures.logs.entries,
    List.forall₂_map_left_iff]
  have combine : ∀ entry pushed source, Packs crc values entry pushed →
      Sampled cfg pushed source → RecoversSamples cfg unpack (padPage entry) source :=
    fun _ _ _ packs sampled => recoversSamples_of_packs unpacks packs sampled
  exact forall₂_comp combine paged.measures.entries paged.sources

end Loop

end SelfWriter.Recorder
