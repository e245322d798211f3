import SelfWriter.Lib.Machine
import SelfWriter.Recorder.Schedule

/-!
# The power of the frequency channels

`RecorderProcessor::controller` over any number of pages, with the commands it
has sent and the samples it has taken.  The channels are heated once before the
first page; from then on a channel is stopped after a sample and started again
one preheat time before the next, and the start is found by exact equality of
the time to the write and the preheat time.  The handling of the events is
accounted for in one piece: when it carries the counters past the preheat
instant of a channel that sleeps, the write instant finds the channel asleep.
-/

namespace SelfWriter.Recorder

universe u

open SelfWriter.Lib

/-! ## The controller -/

/-- What the controller has done: an action, or the beginning of the
acquisition loop of a page. -/
inductive Entry where
  | did (action : Action)
  | loopBegins
  deriving DecidableEq, Repr

/-- The log with the actions, latest first. -/
def record (log : List Entry) (actions : List Action) : List Entry :=
  actions.foldl (fun earlier action => .did action :: earlier) log

/-- The first heating; the channel with the longer preheat time goes first. -/
def heatChannels (cfg : FChCfg) : List Action :=
  if cfg.pPreheatTimeMs ≠ cfg.tPreheatTimeMs then
    if cfg.pPreheatTimeMs < cfg.tPreheatTimeMs then
      enableChannel .temperature cfg.tEn ++ enableChannel .pressure cfg.pEn
    else
      enableChannel .pressure cfg.pEn ++ enableChannel .temperature cfg.tEn
  else
    enableChannel .pressure cfg.pEn ++ enableChannel .temperature cfg.tEn

def startAnalogChannels (tcpuEn vbatEn : Bool) : List Action :=
  (if tcpuEn then [.send (.start (.aChannel .tcpu) 0)] else []) ++
    (if vbatEn then [.send (.start (.aChannel .vbat) 0)] else [])

/-- Between two pages there is no loop. -/
structure ControllerState (Page : Type u) where
  loop : Option (AcquisitionState Page)
  log : List Entry

/-- A page was created and its header written, or the loop goes round once:
with the results it finds, and the ticks that handling the events takes. -/
inductive ControllerLabel (Page : Type u) where
  | newPage (page : Page) (tickCount : UInt32)
  | iterate (results : FChannel → Option UInt32) (processing : Nat)

section Controller

variable {Page : Type u} [DataPage Page]

def controllerStep (cfg : FChCfg) (state : ControllerState Page) :
    ControllerLabel Page → Option (ControllerState Page)
  | .newPage page tickCount =>
      match state.loop with
      | some _ => none
      | none =>
          some
            { loop := some (.begin cfg tickCount page)
              log := .loopBegins ::
                record state.log (startAnalogChannels cfg.tcpuEn cfg.vbatEn) }
  | .iterate results processing =>
      match state.loop with
      | none => none
      | some head =>
          if cfg.DividesByZero then
            none
          else
            match iteration cfg
              { results := fun _ => results
                processing := fun _ => processing } head with
            | .pageFull _ log =>
                some
                  { loop := none
                    log := record state.log (log.map Prod.snd) }
            | .continues next log _ =>
                some
                  { loop := some next
                    log := record state.log (log.map Prod.snd) }

def controller (cfg : FChCfg) :
    Machine (ControllerState Page) (ControllerLabel Page) where
  start := { loop := none, log := record [] (heatChannels cfg) }
  step := controllerStep cfg

end Controller

/-! ## Powered samples -/

/-- The last command sent for the channel is a start. -/
def powered (ch : FChannel) : List Entry → Bool
  | [] => false
  | .did (.send (.start (.fChannel other) _)) :: earlier =>
      if other = ch then true else powered ch earlier
  | .did (.send (.stop (.fChannel other))) :: earlier =>
      if other = ch then false else powered ch earlier
  | _ :: earlier => powered ch earlier

def FChCfg.enabled (cfg : FChCfg) : FChannel → Bool
  | .pressure => cfg.pEn
  | .temperature => cfg.tEn

/-- The enabled channels are on. -/
def PoweredOn (cfg : FChCfg) (log : List Entry) : Prop :=
  ∀ ch, cfg.enabled ch = true → powered ch log = true

instance (cfg : FChCfg) (log : List Entry) : Decidable (PoweredOn cfg log) :=
  decidable_of_iff
    ((cfg.enabled .pressure = true → powered .pressure log = true) ∧
      (cfg.enabled .temperature = true → powered .temperature log = true))
    ⟨fun both ch => (by cases ch; exacts [both.1, both.2]),
      fun all => ⟨all .pressure, all .temperature⟩⟩

/-- Every sample was taken from a powered channel, and every acquisition loop
began with its channels powered. -/
def SampledPowered (cfg : FChCfg) : List Entry → Prop
  | [] => True
  | .did (.push ch _ _) :: earlier =>
      powered ch earlier = true ∧ SampledPowered cfg earlier
  | .did (.send _) :: earlier => SampledPowered cfg earlier
  | .loopBegins :: earlier => PoweredOn cfg earlier ∧ SampledPowered cfg earlier

instance decidableSampledPowered (cfg : FChCfg) :
    ∀ log, Decidable (SampledPowered cfg log)
  | [] => inferInstanceAs (Decidable True)
  | .did (.push ch _ _) :: earlier =>
      have := decidableSampledPowered cfg earlier
      inferInstanceAs (Decidable (powered ch earlier = true ∧
        SampledPowered cfg earlier))
  | .did (.send _) :: earlier => decidableSampledPowered cfg earlier
  | .loopBegins :: earlier =>
      have := decidableSampledPowered cfg earlier
      inferInstanceAs (Decidable (PoweredOn cfg earlier ∧
        SampledPowered cfg earlier))

/-! ## The reading of a sleeping channel -/

/-- The write instant of a channel that is still switched off. -/
def ToWriteCounter.SleepsAtWrite (self : ToWriteCounter) : Prop :=
  self.chEnabled = true ∧ self.mode = .heatMeasureStop ∧
    self.curState = .sleeping ∧ self.toWrite = 0 ∧ self.preheatTimeMs ≠ 0

instance (waiter : ToWriteCounter) : Decidable waiter.SleepsAtWrite :=
  inferInstanceAs (Decidable (_ ∧ _))

/-- The event of the channel is a sample, and it fills the page. -/
def FillsPage {Page : Type u} [DataPage Page]
    (results : FChannel → Option UInt32) (waiter : ToWriteCounter) (page : Page)
    (ch : FChannel) : Prop :=
  (waiter.isEvent = some .measure ∨ waiter.isEvent = some .measureAndSleep) ∧
    (DataPage.pushData page (results ch) ch).2 = true

instance {Page : Type u} [DataPage Page] (results : FChannel → Option UInt32)
    (waiter : ToWriteCounter) (page : Page) (ch : FChannel) :
    Decidable (FillsPage results waiter page ch) :=
  inferInstanceAs (Decidable (_ ∧ _))

/-- The iteration wakes up at a write instant of a channel that is switched
off.  Temperature is not handled when pressure fills the page. -/
def AcquisitionState.MeasuresAsleep {Page : Type u} [DataPage Page]
    (head : AcquisitionState Page) (results : FChannel → Option UInt32) : Prop :=
  head.atNextEvent.toPWrite.SleepsAtWrite ∨
    (¬ FillsPage results head.atNextEvent.toPWrite head.atNextEvent.page
        .pressure ∧
      head.atNextEvent.toTWrite.SleepsAtWrite)

instance {Page : Type u} [DataPage Page] (head : AcquisitionState Page)
    (results : FChannel → Option UInt32) :
    Decidable (head.MeasuresAsleep results) :=
  inferInstanceAs (Decidable (_ ∨ _))

def MeasuresAsleep {Page : Type u} [DataPage Page]
    (state : ControllerState Page) : ControllerLabel Page → Prop
  | .newPage _ _ => False
  | .iterate results _ =>
      ∃ head ∈ state.loop, AcquisitionState.MeasuresAsleep head results

instance {Page : Type u} [DataPage Page] (state : ControllerState Page) :
    ∀ label, Decidable (MeasuresAsleep state label)
  | .newPage _ _ => inferInstanceAs (Decidable False)
  | .iterate results _ =>
      inferInstanceAs (Decidable (∃ head ∈ state.loop,
        AcquisitionState.MeasuresAsleep head results))

/-! ## The log -/

private theorem record_append (log : List Entry) (first second : List Action) :
    record log (first ++ second) = record (record log first) second :=
  List.foldl_append

@[simp] theorem record_nil (log : List Entry) : record log [] = log := rfl

@[simp] theorem record_cons (log : List Entry) (action : Action)
    (actions : List Action) :
    record log (action :: actions) = record (.did action :: log) actions := rfl

@[simp] theorem powered_push (ch other : FChannel) (result : Option UInt32)
    (full : Bool) (log : List Entry) :
    powered ch (.did (.push other result full) :: log) = powered ch log := rfl

@[simp] theorem powered_loopBegins (ch : FChannel) (log : List Entry) :
    powered ch (.loopBegins :: log) = powered ch log := rfl

@[simp] theorem powered_start (ch other : FChannel) (log : List Entry) :
    powered ch (.did (.send (startCommand other)) :: log) =
      if other = ch then true else powered ch log := rfl

@[simp] theorem powered_stop (ch other : FChannel) (log : List Entry) :
    powered ch (.did (.send (stopCommand other)) :: log) =
      if other = ch then false else powered ch log := rfl

@[simp] theorem sampledPowered_push (cfg : FChCfg) (ch : FChannel)
    (result : Option UInt32) (full : Bool) (log : List Entry) :
    SampledPowered cfg (.did (.push ch result full) :: log) ↔
      powered ch log = true ∧ SampledPowered cfg log := Iff.rfl

@[simp] theorem sampledPowered_send (cfg : FChCfg) (command : Command)
    (log : List Entry) :
    SampledPowered cfg (.did (.send command) :: log) ↔
      SampledPowered cfg log := Iff.rfl

/-- An unpowered sample stays in the log. -/
theorem SampledPowered.of_record {cfg : FChCfg} (actions : List Action) :
    ∀ {log : List Entry},
      SampledPowered cfg (record log actions) → SampledPowered cfg log := by
  induction actions with
  | nil =>
      intro log sampled
      exact sampled
  | cons action actions inductionHypothesis =>
      intro log sampled
      have latest := inductionHypothesis sampled
      cases action with
      | send command => exact latest
      | push ch result full => exact latest.2

/-- Starting an enabled channel powers it, and no other channel. -/
theorem powered_enableChannel (ch other : FChannel) (enabled : Bool)
    (log : List Entry) :
    powered ch (record log (enableChannel other enabled)) =
      if other = ch ∧ enabled = true then true else powered ch log := by
  cases enabled with
  | false => simp [enableChannel]
  | true => simp [enableChannel]

private theorem sampledPowered_enableChannel {cfg : FChCfg} {log : List Entry}
    (sampled : SampledPowered cfg log) (ch : FChannel) (enabled : Bool) :
    SampledPowered cfg (record log (enableChannel ch enabled)) := by
  cases enabled with
  | false => exact sampled
  | true => exact sampled

/-- The analog channels have their own power. -/
theorem powered_startAnalogChannels (ch : FChannel) (tcpuEn vbatEn : Bool)
    (log : List Entry) :
    powered ch (record log (startAnalogChannels tcpuEn vbatEn)) =
      powered ch log := by
  cases tcpuEn <;> cases vbatEn <;> rfl

private theorem sampledPowered_startAnalogChannels {cfg : FChCfg} {log : List Entry}
    (sampled : SampledPowered cfg log) (tcpuEn vbatEn : Bool) :
    SampledPowered cfg (record log (startAnalogChannels tcpuEn vbatEn)) := by
  cases tcpuEn <;> cases vbatEn <;> exact sampled

/-! ## One channel -/

/-- A sampling event that is no reading of a sleeping channel. -/
theorem ToWriteCounter.isEvent_cases {waiter : ToWriteCounter} {event : Event}
    (due : waiter.isEvent = some event) :
    waiter.chEnabled = true ∧
      ((event = .preheat ∧ waiter.mode = .heatMeasureStop) ∨
        (event = .measure ∧ waiter.mode = .measureOnly) ∨
        (event = .measureAndSleep ∧ waiter.mode = .heatMeasureStop ∧
          (waiter.curState = .sleeping → waiter.SleepsAtWrite))) := by
  cases enabled : waiter.chEnabled with
  | false => simp [isEvent, enabled] at due
  | true =>
      refine ⟨rfl, ?_⟩
      cases mode : waiter.mode with
      | measureOnly =>
          simp only [isEvent, enabled, mode, if_true] at due
          split at due
          · cases due
            exact .inr (.inl ⟨rfl, rfl⟩)
          · cases due
      | heatMeasureStop =>
          cases state : waiter.curState with
          | ready =>
              simp only [isEvent, enabled, mode, state, if_true] at due
              split at due
              · cases due
                exact .inr (.inr ⟨rfl, rfl, CurrentChState.noConfusion⟩)
              · cases due
          | heating =>
              simp only [isEvent, enabled, mode, state, if_true] at due
              split at due
              · cases due
                exact .inr (.inr ⟨rfl, rfl, CurrentChState.noConfusion⟩)
              · cases due
          | sleeping =>
              simp only [isEvent, enabled, mode, state, if_true] at due
              split at due
              · cases due
                exact .inl ⟨rfl, rfl⟩
              · rename_i unheated
                split at due
                · rename_i write
                  cases due
                  refine .inr (.inr ⟨rfl, rfl, fun _ => ?_⟩)
                  exact ⟨enabled, mode, state, write,
                    fun zero => unheated (write.trans zero.symm)⟩
                · cases due

theorem ToWriteCounter.SleepsAtWrite.isEvent {waiter : ToWriteCounter}
    (sleeps : waiter.SleepsAtWrite) :
    waiter.isEvent = some .measureAndSleep := by
  obtain ⟨enabled, mode, state, write, unheated⟩ := sleeps
  simp [ToWriteCounter.isEvent, enabled, mode, state, write, unheated.symm]

/-- What the counter of a channel says of its power. -/
structure Knows (waiter : ToWriteCounter) (enabled power : Bool) : Prop where
  enabled_eq : waiter.chEnabled = enabled
  powered_iff : enabled = true → (power = true ↔ waiter.curState ≠ .sleeping)
  awake : waiter.mode = .measureOnly → waiter.curState ≠ .sleeping

theorem Knows.tick {waiter : ToWriteCounter} {enabled power : Bool}
    (knows : Knows waiter enabled power) (timeMs : UInt32) :
    Knows (waiter.tick timeMs) enabled power :=
  ⟨knows.enabled_eq, knows.powered_iff, knows.awake⟩

theorem Knows.channelHeated (writePeriodMs preheatTimeMs : UInt32)
    {enabled power : Bool} (on : enabled = true → power = true) :
    Knows (.channelHeated writePeriodMs preheatTimeMs enabled) enabled power where
  enabled_eq := rfl
  powered_iff isEnabled := iff_of_true (on isEnabled) CurrentChState.noConfusion
  awake _ := CurrentChState.noConfusion

section Handling

variable {Page : Type u} [DataPage Page] {cfg : FChCfg} {log : List Entry}

/-- What handling the event of one channel leaves. -/
structure PoweredAfter (cfg : FChCfg) (enabled : Bool) (ch : FChannel)
    (log : List Entry) (handled : Handled Page) : Prop where
  knows : Knows handled.waiter enabled (powered ch (record log handled.actions))
  others : ∀ other, other ≠ ch →
    powered other (record log handled.actions) = powered other log
  sampled : SampledPowered cfg (record log handled.actions)
  full : handled.full = true →
    powered ch (record log handled.actions) = true

/-- A channel that is awake at its write instants is sampled while powered,
and is left powered when it fills the page. -/
theorem processSensorEvent_powered {waiter : ToWriteCounter} {enabled : Bool}
    {ch : FChannel} (knows : Knows waiter enabled (powered ch log))
    (sampled : SampledPowered cfg log) (awake : ¬ waiter.SleepsAtWrite)
    (results : FChannel → Option UInt32) (page : Page) :
    PoweredAfter cfg enabled ch log
      (processSensorEvent results waiter page ch) := by
  cases due : waiter.isEvent with
  | none =>
      simp only [processSensorEvent, due]
      exact ⟨knows, fun _ _ => rfl, sampled, fun full => (by cases full)⟩
  | some event =>
      obtain ⟨isEnabled, cases'⟩ := ToWriteCounter.isEvent_cases due
      rcases cases' with ⟨rfl, mode⟩ | ⟨rfl, mode⟩ | ⟨rfl, mode, onlyAsleep⟩
      · simp only [processSensorEvent, due]
        refine ⟨⟨knows.enabled_eq, ?_, ?_⟩, ?_, sampled, fun full => (by cases full)⟩
        · simp [ToWriteCounter.acceptState]
        · simp [ToWriteCounter.acceptState]
        · intro other different
          simp [different.symm]
      · have on : powered ch log = true :=
          (knows.powered_iff (knows.enabled_eq.symm.trans isEnabled)).mpr
            (knows.awake mode)
        simp only [processSensorEvent, due]
        refine ⟨⟨?_, ?_, ?_⟩, fun _ _ => rfl, ⟨on, sampled⟩, fun _ => on⟩
        · split
          · exact knows.enabled_eq
          · exact knows.enabled_eq
        · split
          · exact knows.powered_iff
          · exact fun _ => iff_of_true on CurrentChState.noConfusion
        · split
          · exact knows.awake
          · exact fun _ => CurrentChState.noConfusion
      · have notAsleep : waiter.curState ≠ .sleeping :=
          fun asleep => awake (onlyAsleep asleep)
        have on : powered ch log = true :=
          (knows.powered_iff (knows.enabled_eq.symm.trans isEnabled)).mpr
            notAsleep
        simp only [processSensorEvent, due]
        cases full : (DataPage.pushData page (results ch) ch).2 with
        | true =>
            simp only [if_true]
            exact ⟨⟨knows.enabled_eq,
              fun _ => iff_of_true on CurrentChState.noConfusion,
              fun _ => CurrentChState.noConfusion⟩,
              fun _ _ => rfl, ⟨on, sampled⟩, fun _ => on⟩
        | false =>
            simp only [Bool.false_eq_true, if_false]
            refine ⟨⟨knows.enabled_eq, ?_, ?_⟩, ?_, ⟨on, sampled⟩,
              fun full => (by cases full)⟩
            · simp [ToWriteCounter.acceptState]
            · intro measureOnly
              cases mode.symm.trans measureOnly
            · intro other different
              simp [different.symm]

/-- The reading of a sleeping channel is an unpowered sample. -/
theorem processSensorEvent_unpowered (cfg : FChCfg) {waiter : ToWriteCounter} {enabled : Bool}
    {ch : FChannel} (knows : Knows waiter enabled (powered ch log))
    (sleeps : waiter.SleepsAtWrite)
    (results : FChannel → Option UInt32) (page : Page) :
    ¬ SampledPowered cfg
      (record log (processSensorEvent results waiter page ch).actions) := by
  have due := sleeps.isEvent
  obtain ⟨isEnabled, _, state, _⟩ := sleeps
  have off : ¬ powered ch log = true := by
    rw [knows.powered_iff (knows.enabled_eq.symm.trans isEnabled)]
    exact not_not_intro state
  simp only [processSensorEvent, due]
  split
  · exact fun sampled => off sampled.1
  · exact fun sampled => off sampled.1

private theorem processSensorEvent_full_iff (results : FChannel → Option UInt32)
    (waiter : ToWriteCounter) (page : Page) (ch : FChannel) :
    (processSensorEvent results waiter page ch).full = true ↔
      FillsPage results waiter page ch := by
  cases due : waiter.isEvent with
  | none => simp [processSensorEvent, FillsPage, due]
  | some event =>
      cases event with
      | preheat => simp [processSensorEvent, FillsPage, due]
      | measure => simp [processSensorEvent, FillsPage, due]
      | measureAndSleep =>
          simp only [processSensorEvent, FillsPage, due]
          split <;> simp_all

end Handling

/-! ## One iteration -/

section Loop

variable {Page : Type u} [DataPage Page] {cfg : FChCfg}

/-- Both counters know the power of their channels. -/
structure HeadKnows (cfg : FChCfg) (log : List Entry)
    (head : AcquisitionState Page) : Prop where
  pressure : Knows head.toPWrite cfg.pEn (powered .pressure log)
  temperature : Knows head.toTWrite cfg.tEn (powered .temperature log)

omit [DataPage Page] in
theorem HeadKnows.sleep {log : List Entry} {head : AcquisitionState Page}
    (knows : HeadKnows cfg log head) (timeMs : UInt32) :
    HeadKnows cfg log (head.sleep timeMs) :=
  ⟨knows.pressure.tick timeMs, knows.temperature.tick timeMs⟩

omit [DataPage Page] in
theorem HeadKnows.atNextEvent {log : List Entry} {head : AcquisitionState Page}
    (knows : HeadKnows cfg log head) : HeadKnows cfg log head.atNextEvent := by
  rw [AcquisitionState.atNextEvent]
  split
  · exact knows.sleep _
  · exact knows

/-- One iteration that finds no channel asleep at its write instant. -/
theorem iteration_powered {log : List Entry} {head : AcquisitionState Page}
    (env : Environment) (knows : HeadKnows cfg log head)
    (sampled : SampledPowered cfg log)
    (awake : ¬ head.MeasuresAsleep (env.results head.atNextEvent.pageTime)) :
    match iteration cfg env head with
    | .pageFull _ done =>
        SampledPowered cfg (record log (done.map Prod.snd)) ∧
          PoweredOn cfg (record log (done.map Prod.snd))
    | .continues next done _ =>
        SampledPowered cfg (record log (done.map Prod.snd)) ∧
          HeadKnows cfg (record log (done.map Prod.snd)) next := by
  have now := knows.atNextEvent
  obtain ⟨pAwake, tAwake⟩ := not_or.mp awake
  rw [← processSensorEvent_full_iff] at tAwake
  have pAfter : PoweredAfter cfg cfg.pEn .pressure log (head.pHandled env) :=
    processSensorEvent_powered now.pressure sampled pAwake _ _
  have tAfter : (head.pHandled env).full = false →
      PoweredAfter cfg cfg.tEn .temperature
        (record log (head.pHandled env).actions) (head.tHandled env) := by
    intro notFull
    have knows := now.temperature
    rw [← pAfter.others .temperature (by decide)] at knows
    refine processSensorEvent_powered knows pAfter.sampled ?_ _ _
    exact fun sleeps => tAwake ⟨Bool.eq_false_iff.mp notFull, sleeps⟩
  have iterates := iteration_iterates cfg env head
  generalize iteration cfg env head = outcome at iterates ⊢
  cases iterates with
  | pressureFills full =>
      simp only [unstamped, record_append]
      refine ⟨sampledPowered_enableChannel pAfter.sampled _ _, ?_⟩
      intro ch enabled
      rw [powered_enableChannel]
      cases ch with
      | pressure => simp [pAfter.full full]
      | temperature =>
          have isEnabled : cfg.tEn = true := enabled
          simp [isEnabled]
  | temperatureFills notFull full =>
      simp only [unstamped, record_append]
      refine ⟨sampledPowered_enableChannel (tAfter notFull).sampled _ _, ?_⟩
      intro ch enabled
      rw [powered_enableChannel]
      cases ch with
      | pressure =>
          have isEnabled : cfg.pEn = true := enabled
          simp [isEnabled]
      | temperature => simp [(tAfter notFull).full full]
  | goesOn pNotFull tNotFull =>
      have pKnows := pAfter.knows
      rw [← (tAfter pNotFull).others .pressure (by decide)] at pKnows
      simp only [unstamped, record_append]
      refine ⟨(tAfter pNotFull).sampled, ?_⟩
      exact ⟨pKnows.tick _, (tAfter pNotFull).knows.tick _⟩

/-- The pressure channel acts first, and the temperature channel next unless the
page is full. -/
theorem iteration_actions (cfg : FChCfg) (env : Environment)
    (head : AcquisitionState Page) :
    ∃ rest, (iteration cfg env head).actions =
      (head.pHandled env).actions ++
        (if (head.pHandled env).full then [] else (head.tHandled env).actions) ++
          rest := by
  have iterates := iteration_iterates cfg env head
  generalize iteration cfg env head = outcome at iterates ⊢
  cases iterates with
  | pressureFills full =>
      refine ⟨enableChannel .temperature cfg.tEn, ?_⟩
      simp [Iteration.actions, unstamped, full]
  | temperatureFills notFull full =>
      refine ⟨enableChannel .pressure cfg.pEn, ?_⟩
      simp [Iteration.actions, unstamped, notFull]
  | goesOn pNotFull tNotFull =>
      refine ⟨[], ?_⟩
      simp [Iteration.actions, unstamped, pNotFull]

/-- An iteration that finds a channel asleep at its write instant samples it
unpowered. -/
theorem iteration_unpowered {log : List Entry} {head : AcquisitionState Page}
    (env : Environment) (knows : HeadKnows cfg log head)
    (sampled : SampledPowered cfg log)
    (asleep : head.MeasuresAsleep (env.results head.atNextEvent.pageTime)) :
    ¬ SampledPowered cfg (record log (iteration cfg env head).actions) := by
  have now := knows.atNextEvent
  obtain ⟨rest, actions⟩ := iteration_actions cfg env head
  rw [actions, record_append, record_append]
  by_cases pSleeps : head.atNextEvent.toPWrite.SleepsAtWrite
  · have unpowered : ¬ SampledPowered cfg
        (record log (head.pHandled env).actions) :=
      processSensorEvent_unpowered cfg now.pressure pSleeps _ _
    exact fun later => unpowered ((later.of_record _).of_record _)
  · obtain ⟨notFull, tSleeps⟩ := asleep.resolve_left pSleeps
    rw [← processSensorEvent_full_iff] at notFull
    have pAfter : PoweredAfter cfg cfg.pEn .pressure log (head.pHandled env) :=
      processSensorEvent_powered now.pressure sampled pSleeps _ _
    have tKnows := now.temperature
    rw [← pAfter.others .temperature (by decide)] at tKnows
    have unpowered : ¬ SampledPowered cfg
        (record (record log (head.pHandled env).actions)
          (head.tHandled env).actions) :=
      processSensorEvent_unpowered cfg tKnows tSleeps _ _
    have goesOn : ¬ (head.pHandled env).full = true := notFull
    rw [if_neg goesOn]
    exact fun later => unpowered (later.of_record _)

end Loop

/-! ## All pages -/

section Pages

variable {Page : Type u} [DataPage Page] {cfg : FChCfg}

/-- In the loop the counters know the power; between pages every enabled
channel is on. -/
structure Heated (cfg : FChCfg) (state : ControllerState Page) : Prop where
  sampled : SampledPowered cfg state.log
  head : ∀ head, state.loop = some head → HeadKnows cfg state.log head
  between : state.loop = none → PoweredOn cfg state.log

private theorem heated_start :
    Heated cfg (controller cfg : Machine (ControllerState Page) _).start := by
  have fresh : SampledPowered cfg [] := trivial
  have sampled : SampledPowered cfg (record [] (heatChannels cfg)) := by
    rw [heatChannels]
    split
    · split
      all_goals
        rw [record_append]
        exact sampledPowered_enableChannel
          (sampledPowered_enableChannel fresh _ _) _ _
    · rw [record_append]
      exact sampledPowered_enableChannel
        (sampledPowered_enableChannel fresh _ _) _ _
  have poweredOn : PoweredOn cfg (record [] (heatChannels cfg)) := by
    intro ch enabled
    rw [heatChannels]
    cases ch with
    | pressure =>
        have isEnabled : cfg.pEn = true := enabled
        split
        · split <;> simp [record_append, powered_enableChannel, isEnabled]
        · simp [record_append, powered_enableChannel, isEnabled]
    | temperature =>
        have isEnabled : cfg.tEn = true := enabled
        split
        · split <;> simp [record_append, powered_enableChannel, isEnabled]
        · simp [record_append, powered_enableChannel, isEnabled]
  exact ⟨sampled, fun head loop => (by cases loop), fun _ => poweredOn⟩

theorem heated_step {state after : ControllerState Page}
    {label : ControllerLabel Page} (heated : Heated cfg state)
    (awake : ¬ MeasuresAsleep state label)
    (steps : (controller cfg).step state label = some after) :
    Heated cfg after := by
  cases label with
  | newPage page tickCount =>
      simp only [controller, controllerStep] at steps
      split at steps
      · cases steps
      · rename_i none'
        cases steps
        have poweredOn := heated.between none'
        have same : ∀ ch,
            powered ch (record state.log
              (startAnalogChannels cfg.tcpuEn cfg.vbatEn)) =
              powered ch state.log :=
          fun ch => powered_startAnalogChannels ch _ _ _
        refine ⟨⟨?_, ?_⟩, ?_, fun loop => (by cases loop)⟩
        · intro ch enabled
          rw [same ch]
          exact poweredOn ch enabled
        · exact sampledPowered_startAnalogChannels heated.sampled _ _
        · rintro head ⟨⟩
          constructor
          · rw [powered_loopBegins, same .pressure]
            exact .channelHeated _ _ (poweredOn .pressure)
          · rw [powered_loopBegins, same .temperature]
            exact .channelHeated _ _ (poweredOn .temperature)
  | iterate results processing =>
      simp only [controller, controllerStep] at steps
      split at steps
      · cases steps
      · rename_i head loop
        split at steps
        · cases steps
        · have step := iteration_powered
            { results := fun _ => results, processing := fun _ => processing }
            (heated.head head loop) heated.sampled
            (fun asleep => awake ⟨head, loop, asleep⟩)
          split at steps
          · rename_i full
            rw [full] at step
            cases steps
            exact ⟨step.1, fun head loop => (by cases loop), fun _ => step.2⟩
          · rename_i goesOn
            rw [goesOn] at step
            cases steps
            refine ⟨step.1, ?_, fun loop => (by cases loop)⟩
            rintro next ⟨⟩
            exact step.2

/-- Over any number of pages, as long as no iteration wakes up at the write
instant of a channel that is still switched off, samples are taken from powered
channels only and every page begins with its channels powered.  The first
iteration that does wake up so takes an unpowered sample. -/
theorem sampled_powered_unless_asleep (cfg : FChCfg) :
    (∀ state : ControllerState Page,
      (controller cfg).Reaches
          (fun state label => ¬ MeasuresAsleep state label) state →
        SampledPowered cfg state.log) ∧
    (∀ (state after : ControllerState Page) (label : ControllerLabel Page),
      (controller cfg).Reaches
          (fun state label => ¬ MeasuresAsleep state label) state →
        MeasuresAsleep state label →
        (controller cfg).step state label = some after →
          ¬ SampledPowered cfg after.log) := by
  have heated : ∀ state : ControllerState Page,
      (controller cfg).Reaches
          (fun state label => ¬ MeasuresAsleep state label) state →
        Heated cfg state := by
    intro state reaches
    exact reaches.invariant (I := Heated cfg) heated_start
      (fun _ _ _ heated awake steps => heated_step heated awake steps)
  constructor
  · intro state reaches
    exact (heated state reaches).sampled
  · intro state after label reaches asleep steps
    have before := heated state reaches
    cases label with
    | newPage page tickCount => exact asleep.elim
    | iterate results processing =>
        obtain ⟨head, member, asleep⟩ := asleep
        have loop : state.loop = some head := member
        have unpowered := iteration_unpowered
          { results := fun _ => results, processing := fun _ => processing }
          (before.head head loop) before.sampled asleep
        simp only [controller, controllerStep, loop] at steps
        split at steps
        · cases steps
        · split at steps
          · rename_i full
            rw [full] at unpowered
            cases steps
            exact unpowered
          · rename_i goesOn
            rw [goesOn] at unpowered
            cases steps
            exact unpowered

end Pages

/-! ## A preheat instant that is jumped over -/

/-- The default settings with a base interval of 251 milliseconds: both channels
are started one millisecond after they have been stopped. -/
def tightCfg : FChCfg where
  pPreheatTimeMs := 250
  tPreheatTimeMs := 250
  pWritePeriodMs := 251
  tWritePeriodMs := 251
  pEn := true
  tEn := true
  tcpuEn := true
  vbatEn := true

def noResults : FChannel → Option UInt32 := fun _ => none

/-- A page of four samples, handled within their ticks, and the next page. -/
theorem sampled_powered_unless_asleep_tightCfg :
    ∃ state : ControllerState RoomPage,
      (controller tightCfg).runWithin
          (fun state label => ¬ MeasuresAsleep state label)
          (controller tightCfg).start
          [.newPage (RoomPage.mk 4) 0, .iterate noResults 0,
            .iterate noResults 0, .iterate noResults 0,
            .newPage (RoomPage.mk 4) 900] = some state ∧
        SampledPowered tightCfg state.log := by
  obtain ⟨state, runs⟩ := Option.isSome_iff_exists.mp
    (show ((controller tightCfg).runWithin
      (fun state label => ¬ MeasuresAsleep state label)
      (controller tightCfg).start
      [.newPage (RoomPage.mk 4) 0, .iterate noResults 0,
        .iterate noResults 0, .iterate noResults 0,
        .newPage (RoomPage.mk 4) 900]).isSome = true by decide)
  exact ⟨state, runs, (sampled_powered_unless_asleep tightCfg).1 state
    (.runWithin _ .start runs)⟩

/-- The first samples take two ticks.  They carry the counters past the instant
at which the channels are to be started, and the next samples are taken from
channels that are switched off. -/
theorem sampled_unpowered_after_slow_handling :
    ∃ state : ControllerState RoomPage,
      (controller tightCfg).Reachable state ∧
        ¬ SampledPowered tightCfg state.log := by
  obtain ⟨state, runs, unpowered⟩ :
      ∃ state ∈ (controller tightCfg).run (controller tightCfg).start
        [.newPage (RoomPage.mk 9) 0, .iterate noResults 2,
          .iterate noResults 0],
        ¬ SampledPowered tightCfg state.log := by
    decide
  exact ⟨state, .run _ .start runs, unpowered⟩

end SelfWriter.Recorder
