import Mathlib.Logic.Relation
import SelfWriter.Recorder.Schedule

/-!
# Page time and real time

The acquisition loop accounts for time in two places: the sleep to the next
event, and `done`, the measured duration of the handling, at least one tick.
The handling has already taken its time when `done` is computed, and the loop
then blocks for `done` ticks more.  So both counters advance by the sleep and
`done`, and real time by the sleep, the handling and `done`.
-/

namespace SelfWriter.Recorder

universe u

open SelfWriter.Lib SelfWriter.Lib.Word32

/-! ## Loop heads -/

/-- The loop head of an iteration, and the ticks since the loop began. -/
structure Head (Page : Type u) where
  state : AcquisitionState Page
  elapsed : Nat

section Heads

variable {Page : Type u}

namespace Head

/-- When the events of the iteration are handled. -/
def moment (head : Head Page) : Nat :=
  head.elapsed + head.state.toNextEvent.toNat

/-- The ticks that handling them takes. -/
def handling (env : Environment) (head : Head Page) : Nat :=
  env.processing head.state.atNextEvent.pageTime

/-- Both counters show the ticks since the loop began. -/
def InTime (head : Head Page) : Prop :=
  head.state.toPWrite.counter.toNat = head.elapsed % 2 ^ 32 ∧
    head.state.toTWrite.counter.toNat = head.elapsed % 2 ^ 32

instance (head : Head Page) : Decidable head.InTime :=
  inferInstanceAs (Decidable (_ ∧ _))

end Head

variable [DataPage Page]

/-- The next loop head, unless the page is full. -/
def nextHead (cfg : FChCfg) (env : Environment) (head : Head Page) :
    Option (Head Page) :=
  if cfg.DividesByZero then
    none
  else
    match iteration cfg env head.state with
    | .pageFull _ _ => none
    | .continues state _ done =>
        some
          { state := state
            elapsed := head.moment + head.handling env + done.toNat }

/-- The heads of the iterations that follow. -/
def Follows (cfg : FChCfg) (env : Environment) :
    Head Page → Head Page → Prop :=
  Relation.ReflTransGen (fun head next => nextHead cfg env head = some next)

def firstHead (cfg : FChCfg) (tickCount : UInt32) (page : Page) : Head Page where
  state := .begin cfg tickCount page
  elapsed := 0

/-- Handling takes no time, up to a turn of the tick counter, wherever the loop
goes on after it. -/
def HandlesAtOnce (cfg : FChCfg) (env : Environment) (first : Head Page) : Prop :=
  ∀ head next, Follows cfg env first head → nextHead cfg env head = some next →
    head.handling env % 2 ^ 32 = 0

def Action.pushes (ch : FChannel) : Action → Bool
  | .push other _ _ => other = ch
  | .send _ => false

/-- The moments at which the channel is sampled in a number of iterations. -/
def samples (cfg : FChCfg) (env : Environment) (ch : FChannel) :
    Nat → Head Page → List Nat
  | 0, _ => []
  | iterations + 1, head =>
      (if (iteration cfg env head.state).actions.any (Action.pushes ch) then
        [head.moment] else []) ++
      match nextHead cfg env head with
      | none => []
      | some next => samples cfg env ch iterations next

end Heads

/-! ## What an iteration accounts for -/

section Accounting

variable {Page : Type u} [DataPage Page] {cfg : FChCfg} {env : Environment}

@[simp] theorem processSensorEvent_counter (results : FChannel → Option UInt32)
    (waiter : ToWriteCounter) (page : Page) (ch : FChannel) :
    (processSensorEvent results waiter page ch).waiter.counter =
      waiter.counter := by
  cases due : waiter.isEvent with
  | none => simp only [processSensorEvent, due]
  | some event =>
      cases event with
      | preheat => simp [processSensorEvent, due, ToWriteCounter.acceptState]
      | measure =>
          simp only [processSensorEvent, due]
          split <;> rfl
      | measureAndSleep =>
          simp only [processSensorEvent, due]
          split <;> rfl

/-- What is accounted for when the loop goes on. -/
structure Accounted (env : Environment) (head : Head Page) (next : Head Page)
    (done : UInt32) : Prop where
  done_eq : done = cmpMax
    (absDiff (head.state.atNextEvent.tickCount + UInt32.ofNat (head.handling env))
      head.state.atNextEvent.tickCount) 1
  pCounter : next.state.toPWrite.counter =
    head.state.atNextEvent.toPWrite.counter + done
  tCounter : next.state.toTWrite.counter =
    head.state.atNextEvent.toTWrite.counter + done
  tickCount : next.state.tickCount = head.state.atNextEvent.tickCount +
    UInt32.ofNat (head.handling env) + done
  elapsed : next.elapsed = head.moment + head.handling env + done.toNat

private theorem nextHead_accounted {head next : Head Page}
    (goesOn : nextHead cfg env head = some next) :
    ∃ log done, iteration cfg env head.state = .continues next.state log done ∧
      Accounted env head next done := by
  rw [nextHead] at goesOn
  split at goesOn
  · cases goesOn
  · split at goesOn
    · cases goesOn
    · rename_i state log done outcome
      cases goesOn
      refine ⟨log, done, outcome, ?_⟩
      have iterates := iteration_iterates cfg env head.state
      rw [outcome] at iterates
      cases iterates with
      | goesOn pNotFull tNotFull =>
          constructor
          · rfl
          · simp [AcquisitionState.sleep, AcquisitionState.pHandled,
              ToWriteCounter.tick]
          · simp [AcquisitionState.sleep, AcquisitionState.tHandled,
              ToWriteCounter.tick]
          · rfl
          · rfl

omit [DataPage Page] in
/-- The sleep to the next event, which may be none, is in both counters. -/
theorem atNextEvent_accounted (state : AcquisitionState Page) :
    state.atNextEvent.toPWrite.counter =
        state.toPWrite.counter + state.toNextEvent ∧
      state.atNextEvent.toTWrite.counter =
        state.toTWrite.counter + state.toNextEvent ∧
      state.atNextEvent.tickCount = state.tickCount + state.toNextEvent := by
  rw [AcquisitionState.atNextEvent]
  split
  · exact ⟨rfl, rfl, rfl⟩
  · rename_i none'
    have zero : state.toNextEvent = 0 :=
      UInt32.le_zero_iff.mp (UInt32.not_lt.mp none')
    simp [zero]

omit [DataPage Page] in
theorem Head.inTime_iff (head : Head Page) :
    head.InTime ↔ head.state.toPWrite.counter = UInt32.ofNat head.elapsed ∧
      head.state.toTWrite.counter = UInt32.ofNat head.elapsed := by
  simp only [Head.InTime, ← UInt32.toNat_inj, UInt32.toNat_ofNat']

private theorem ofNat_eq_zero_iff (ticks : Nat) :
    UInt32.ofNat ticks = 0 ↔ ticks % 2 ^ 32 = 0 := by
  rw [eq_zero_iff_toNat, UInt32.toNat_ofNat']

omit [DataPage Page] in
/-- Real time runs ahead of both counters by the handling. -/
theorem Accounted.ofNat_elapsed {head next : Head Page} {done : UInt32}
    (accounted : Accounted env head next done) :
    UInt32.ofNat next.elapsed = UInt32.ofNat head.elapsed +
      head.state.toNextEvent + UInt32.ofNat (head.handling env) + done := by
  rw [accounted.elapsed, Head.moment]
  simp only [UInt32.ofNat_add, UInt32.ofNat_toNat]

/-- An iteration that begins in time ends in time exactly when handling its
events took no time. -/
theorem inTime_next_iff {head next : Head Page} (inTime : head.InTime)
    (goesOn : nextHead cfg env head = some next) :
    next.InTime ↔ head.handling env % 2 ^ 32 = 0 := by
  obtain ⟨log, done, _, accounted⟩ := nextHead_accounted goesOn
  obtain ⟨pSleep, tSleep, _⟩ := atNextEvent_accounted head.state
  obtain ⟨pInTime, tInTime⟩ := head.inTime_iff.mp inTime
  rw [next.inTime_iff, accounted.ofNat_elapsed, accounted.pCounter,
    accounted.tCounter, pSleep, tSleep, pInTime, tInTime, and_self,
    ← ofNat_eq_zero_iff]
  constructor
  · intro same
    have cancelled := (UInt32.add_left_inj done).mp same
    exact (UInt32.left_eq_add).mp cancelled
  · intro zero
    rw [zero, UInt32.add_zero]

/-- Every head is in time exactly when handling never takes time. -/
theorem all_inTime_iff {first : Head Page} (initially : first.InTime) :
    (∀ head, Follows cfg env first head → head.InTime) ↔
      HandlesAtOnce cfg env first := by
  constructor
  · intro inTime head next follows goesOn
    exact (inTime_next_iff (inTime head follows) goesOn).mp
      (inTime next (follows.tail goesOn))
  · intro atOnce head follows
    induction follows with
    | refl => exact initially
    | tail follows goesOn inductionHypothesis =>
        exact (inTime_next_iff inductionHypothesis goesOn).mpr
          (atOnce _ _ follows goesOn)

end Accounting

/-! ## The moments of the samples -/

section Samples

variable {Page : Type u} [DataPage Page] {cfg : FChCfg} {env : Environment}

private theorem channelInstant_pushes (plan : ChannelPlan)
    (results : FChannel → Option UInt32) (time : Nat) (page : Page)
    (handled ch : FChannel) :
    (channelInstant plan results time page handled).log.any
        (Action.pushes ch) = true ↔
      handled = ch ∧ plan.enabled = true ∧ time % plan.period = 0 := by
  rw [channelInstant]
  by_cases enabled : plan.enabled = true
  · by_cases write : time % plan.period = 0
    · rw [if_pos enabled, if_pos write]
      dsimp only
      split <;> simp [Action.pushes, enabled, write]
    · rw [if_pos enabled, if_neg write]
      split <;> simp [Action.pushes, write]
  · rw [if_neg enabled]
    simp [enabled]

/-- Only write instants of enabled channels take samples. -/
theorem instant_pushes {results : FChannel → Option UInt32} {time : Nat}
    {page : Page} {ch : FChannel}
    (pushed : ((instant cfg results time page).log.map Prod.snd).any
      (Action.pushes ch) = true) :
    (cfg.plan ch).enabled = true ∧ time % (cfg.plan ch).period = 0 := by
  simp only [instant] at pushed
  split at pushed
  · simp only [unstamped] at pushed
    obtain ⟨rfl, due⟩ := (channelInstant_pushes _ _ _ _ _ _).mp pushed
    exact due
  · simp only [unstamped, List.any_append, Bool.or_eq_true] at pushed
    rcases pushed with pushed | pushed
    · obtain ⟨rfl, due⟩ := (channelInstant_pushes _ _ _ _ _ _).mp pushed
      exact due
    · obtain ⟨rfl, due⟩ := (channelInstant_pushes _ _ _ _ _ _).mp pushed
      exact due

/-- As long as the page does not fill up, no write instant is left out. -/
theorem instant_pushes_of_due {results : FChannel → Option UInt32} {time : Nat}
    {page : Page} {ch : FChannel}
    (notFull : (instant cfg results time page).full = false)
    (due : (cfg.plan ch).enabled = true ∧ time % (cfg.plan ch).period = 0) :
    ((instant cfg results time page).log.map Prod.snd).any
      (Action.pushes ch) = true := by
  simp only [instant] at notFull ⊢
  split at notFull
  · cases notFull
  · rename_i pNotFull
    rw [if_neg pNotFull]
    simp only [unstamped, List.any_append, Bool.or_eq_true]
    cases ch with
    | pressure => exact .inl ((channelInstant_pushes _ _ _ _ _ _).mpr ⟨rfl, due⟩)
    | temperature =>
        exact .inr ((channelInstant_pushes _ _ _ _ _ _).mpr ⟨rfl, due⟩)

private theorem exitWakeUp_pushes (log : List (Nat × Action)) (ch : FChannel) :
    ((exitWakeUp cfg log).map Prod.snd).any (Action.pushes ch) = false := by
  have starts : ∀ other enabled,
      (enableChannel other enabled).any (Action.pushes ch) = false := by
    intro other enabled
    cases enabled <;> rfl
  rw [exitWakeUp]
  split
  · rw [unstamped, starts]
  · rw [unstamped, starts]
  · rfl

/-- What the samples of one iteration are. -/
theorem iteration_pushes (env : Environment) {head : AcquisitionState Page}
    (tracks : HeadTracks cfg head.atNextEvent) {ch : FChannel}
    (pushed : (iteration cfg env head).actions.any (Action.pushes ch) = true) :
    (cfg.plan ch).enabled = true ∧
      head.atNextEvent.pageTime % (cfg.plan ch).period = 0 := by
  have spec := iteration_spec env tracks
  cases outcome : iteration cfg env head with
  | pageFull state log =>
      rw [outcome] at spec pushed
      obtain ⟨_, _, rfl⟩ := spec
      simp only [Iteration.actions, List.map_append, List.any_append,
        exitWakeUp_pushes, Bool.or_false] at pushed
      exact instant_pushes pushed
  | continues state log done =>
      rw [outcome] at spec pushed
      obtain ⟨_, _, rfl, _⟩ := spec
      exact instant_pushes pushed

omit [DataPage Page] in
theorem Accounted.done_of_atOnce {head next : Head Page} {done : UInt32}
    (accounted : Accounted env head next done)
    (atOnce : head.handling env % 2 ^ 32 = 0) : done = 1 := by
  rw [accounted.done_eq, (ofNat_eq_zero_iff _).mpr atOnce, UInt32.add_zero,
    absDiff, if_neg (UInt32.lt_irrefl _), UInt32.sub_self]
  decide

/-- A head whose counters agree with its page time, which is real time. -/
structure OnTime (cfg : FChCfg) (head : Head Page) : Prop where
  tracks : HeadTracks cfg head.state
  elapsed_eq : head.elapsed = head.state.pageTime

omit [DataPage Page] in
theorem OnTime.moment_eq {head : Head Page} (onTime : OnTime cfg head) :
    head.moment = head.state.atNextEvent.pageTime := by
  rw [Head.moment, onTime.elapsed_eq, atNextEvent_pageTime]

omit [DataPage Page] in
theorem OnTime.atNextEvent {head : Head Page} (onTime : OnTime cfg head)
    (small : head.moment < 2 ^ 32) : HeadTracks cfg head.state.atNextEvent := by
  apply atNextEvent_tracks onTime.tracks
  rw [Head.moment, onTime.elapsed_eq] at small
  exact small

/-- Handled at once, an iteration that does not fill the page takes one tick,
and takes the samples that are due. -/
structure OnTimeStep (cfg : FChCfg) (env : Environment)
    (head next : Head Page) : Prop where
  onTime : OnTime cfg next
  elapsed_eq : next.elapsed = head.moment + 1
  takes : ∀ ch, (cfg.plan ch).enabled = true →
    head.moment % (cfg.plan ch).period = 0 →
    (iteration cfg env head.state).actions.any (Action.pushes ch) = true

theorem OnTime.step {head next : Head Page} (onTime : OnTime cfg head)
    (goesOn : nextHead cfg env head = some next)
    (atOnce : head.handling env % 2 ^ 32 = 0) (small : next.elapsed < 2 ^ 32) :
    OnTimeStep cfg env head next := by
  obtain ⟨log, done, outcome, accounted⟩ := nextHead_accounted goesOn
  have one := accounted.done_of_atOnce atOnce
  have elapsed := accounted.elapsed
  rw [one, show (1 : UInt32).toNat = 1 from rfl] at elapsed
  have zero : head.handling env = 0 := by omega
  have spec := iteration_spec env (onTime.atNextEvent (by omega))
  have time := iteration_pageTime cfg env head.state
  rw [outcome] at spec time
  obtain ⟨notFull, _, logged, tracks⟩ := spec
  obtain ⟨time, _⟩ := time
  rw [one, show (1 : UInt32).toNat = 1 from rfl] at time
  have moment := onTime.moment_eq
  refine ⟨⟨tracks one (by omega), by omega⟩, by omega, ?_⟩
  intro ch enabled due
  rw [outcome]
  simp only [Iteration.actions, logged]
  exact instant_pushes_of_due notFull ⟨enabled, moment ▸ due⟩

/-- Samples are taken at or after the first moment. -/
theorem moment_le_of_mem_samples {ch : FChannel} {time : Nat}
    (iterations : Nat) :
    ∀ {head : Head Page}, time ∈ samples cfg env ch iterations head →
      head.moment ≤ time := by
  induction iterations with
  | zero =>
      intro head member
      cases member
  | succ iterations inductionHypothesis =>
      intro head member
      rw [samples, List.mem_append] at member
      rcases member with now | later
      · split at now
        · rw [List.mem_singleton] at now
          exact Nat.le_of_eq now.symm
        · cases now
      · cases goesOn : nextHead cfg env head with
        | none => simp [goesOn] at later
        | some next =>
            rw [goesOn] at later
            have after := inductionHypothesis later
            obtain ⟨log, done, _, accounted⟩ := nextHead_accounted goesOn
            have elapsed := accounted.elapsed
            rw [Head.moment] at after
            omega

omit [DataPage Page] in
/-- The sleep ends before the next write instant or at it. -/
theorem OnTime.untilMultiple_moment {head : Head Page}
    (onTime : OnTime cfg head) {ch : FChannel}
    (enabled : (cfg.plan ch).enabled = true) :
    head.state.toNextEvent.toNat ≤
        untilMultiple (cfg.plan ch).period head.elapsed ∧
      untilMultiple (cfg.plan ch).period head.moment =
        untilMultiple (cfg.plan ch).period head.elapsed -
          head.state.toNextEvent.toNat := by
  have within : head.state.toNextEvent.toNat ≤
      untilMultiple (cfg.plan ch).period head.elapsed := by
    have gap : (cfg.plan ch).gap head.elapsed ≤
        untilMultiple (cfg.plan ch).period head.elapsed := by
      rw [ChannelPlan.gap]
      split
      · exact Nat.sub_le _ _
      · exact Nat.le_refl _
    have bound := onTime.tracks.toNextEvent_le
    rw [← onTime.elapsed_eq] at bound
    cases ch with
    | pressure => exact Nat.le_trans (bound.1 enabled) gap
    | temperature => exact Nat.le_trans (bound.2 enabled) gap
  have positive : 1 ≤ (cfg.plan ch).period := by
    cases ch with
    | pressure => exact onTime.tracks.pressure.positive
    | temperature => exact onTime.tracks.temperature.positive
  exact ⟨within, untilMultiple_add positive within⟩

/-- An iteration that samples a channel handles its next write instant. -/
theorem OnTime.moment_of_takes {head : Head Page} (onTime : OnTime cfg head)
    (small : head.moment < 2 ^ 32) {ch : FChannel}
    (positive : 1 ≤ (cfg.plan ch).period)
    (takes : (iteration cfg env head.state).actions.any
      (Action.pushes ch) = true) :
    (cfg.plan ch).enabled = true ∧
      untilMultiple (cfg.plan ch).period head.moment = 0 ∧
      head.moment =
        head.elapsed + untilMultiple (cfg.plan ch).period head.elapsed := by
  obtain ⟨enabled, due⟩ := iteration_pushes env (onTime.atNextEvent small) takes
  rw [← onTime.moment_eq, ← untilMultiple_eq_zero_iff positive] at due
  obtain ⟨within, ahead⟩ := onTime.untilMultiple_moment enabled
  refine ⟨enabled, due, ?_⟩
  rw [Head.moment]
  omega

/-- After a sample the next write instant is one period further. -/
theorem OnTimeStep.next_of_takes {head next : Head Page}
    (step : OnTimeStep cfg env head next) {ch : FChannel}
    (positive : 1 ≤ (cfg.plan ch).period)
    (due : untilMultiple (cfg.plan ch).period head.moment = 0) :
    next.elapsed + untilMultiple (cfg.plan ch).period next.elapsed =
      head.moment + (cfg.plan ch).period := by
  rw [step.elapsed_eq, untilMultiple_succ_of_zero positive due]
  omega

/-- Without a sample the next write instant stays the same. -/
theorem OnTimeStep.next_of_not_takes {head next : Head Page}
    (onTime : OnTime cfg head) (step : OnTimeStep cfg env head next)
    {ch : FChannel} (positive : 1 ≤ (cfg.plan ch).period)
    (enabled : (cfg.plan ch).enabled = true)
    (skips : ¬ (iteration cfg env head.state).actions.any
      (Action.pushes ch) = true) :
    next.elapsed + untilMultiple (cfg.plan ch).period next.elapsed =
      head.elapsed + untilMultiple (cfg.plan ch).period head.elapsed := by
  obtain ⟨within, ahead⟩ := onTime.untilMultiple_moment enabled
  have notDue : untilMultiple (cfg.plan ch).period head.moment ≠ 0 := by
    intro due
    exact skips (step.takes ch enabled
      ((untilMultiple_eq_zero_iff positive _).mp due))
  rw [step.elapsed_eq, untilMultiple_add positive (by omega), ahead, Head.moment]
  omega

theorem HandlesAtOnce.next {head next : Head Page}
    (atOnce : HandlesAtOnce cfg env head)
    (goesOn : nextHead cfg env head = some next) :
    HandlesAtOnce cfg env next :=
  fun later afterwards follows => atOnce later afterwards (.head goesOn follows)

/-- The samples after an iteration are those from a next head on time. -/
theorem OnTime.later_samples {head : Head Page} (onTime : OnTime cfg head)
    (atOnce : HandlesAtOnce cfg env head) {ch : FChannel}
    {iterations k time : Nat} (small : time < 2 ^ 32)
    (sample : (match nextHead cfg env head with
      | none => []
      | some next => samples cfg env ch iterations next)[k]? = some time) :
    ∃ next, OnTimeStep cfg env head next ∧ HandlesAtOnce cfg env next ∧
      (samples cfg env ch iterations next)[k]? = some time := by
  cases goesOn : nextHead cfg env head with
  | none => simp [goesOn] at sample
  | some next =>
      rw [goesOn] at sample
      have after := moment_le_of_mem_samples iterations
        (List.mem_of_getElem? sample)
      rw [Head.moment] at after
      exact ⟨next, onTime.step goesOn (atOnce head next .refl goesOn) (by omega),
        atOnce.next goesOn, sample⟩

/-- Handled at once, the samples of a channel are one write period apart. -/
theorem samples_periodic {ch : FChannel} (positive : 1 ≤ (cfg.plan ch).period)
    (iterations : Nat) :
    ∀ {head : Head Page}, OnTime cfg head → HandlesAtOnce cfg env head →
      ∀ {k time : Nat},
        (samples cfg env ch iterations head)[k]? = some time →
        time < 2 ^ 32 →
          (cfg.plan ch).enabled = true ∧
            time = head.elapsed +
              untilMultiple (cfg.plan ch).period head.elapsed +
              k * (cfg.plan ch).period := by
  induction iterations with
  | zero =>
      intro head _ _ k time sample
      cases sample
  | succ iterations inductionHypothesis =>
      intro head onTime atOnce k time sample small
      have now := moment_le_of_mem_samples (iterations + 1)
        (List.mem_of_getElem? sample)
      rw [samples] at sample
      by_cases takes :
          (iteration cfg env head.state).actions.any (Action.pushes ch) = true
      · obtain ⟨enabled, due, moment⟩ :=
          onTime.moment_of_takes (by omega) positive takes
        rw [if_pos takes] at sample
        cases k with
        | zero =>
            simp only [List.cons_append, List.getElem?_cons_zero,
              Option.some.injEq] at sample
            exact ⟨enabled, by omega⟩
        | succ k =>
            simp only [List.cons_append, List.nil_append,
              List.getElem?_cons_succ] at sample
            obtain ⟨next, step, nextAtOnce, sample⟩ :=
              onTime.later_samples atOnce small sample
            obtain ⟨_, time_eq⟩ :=
              inductionHypothesis step.onTime nextAtOnce sample small
            refine ⟨enabled, ?_⟩
            rw [time_eq, step.next_of_takes positive due, moment, Nat.succ_mul]
            omega
      · rw [if_neg takes, List.nil_append] at sample
        obtain ⟨next, step, nextAtOnce, sample⟩ :=
          onTime.later_samples atOnce small sample
        obtain ⟨enabled, time_eq⟩ :=
          inductionHypothesis step.onTime nextAtOnce sample small
        refine ⟨enabled, ?_⟩
        rw [time_eq, step.next_of_not_takes onTime positive enabled takes]

/-- Page time is real time exactly when handling the events never takes time;
then the `k`-th sample of a channel is taken `k` write periods after the loop
began. -/
theorem page_time_exact_iff (cfg : FChCfg) (env : Environment)
    (tickCount : UInt32) (page : Page) :
    ((∀ head, Follows cfg env (firstHead cfg tickCount page) head →
        head.InTime) ↔
      HandlesAtOnce cfg env (firstHead cfg tickCount page)) ∧
    (cfg.Positive → HandlesAtOnce cfg env (firstHead cfg tickCount page) →
      ∀ (ch : FChannel) (iterations k time : Nat),
        (samples cfg env ch iterations
          (firstHead cfg tickCount page))[k]? = some time →
        time < 2 ^ 32 → time = k * (cfg.plan ch).period) := by
  constructor
  · exact all_inTime_iff ⟨rfl, rfl⟩
  · intro positive atOnce ch iterations k time sample small
    have onTime : OnTime cfg (firstHead cfg tickCount page) :=
      ⟨begin_tracks positive tickCount page, rfl⟩
    obtain ⟨_, time_eq⟩ := samples_periodic (positive.period ch) iterations
      onTime atOnce sample small
    have begins : untilMultiple (cfg.plan ch).period 0 = 0 :=
      (untilMultiple_eq_zero_iff (positive.period ch) 0).mpr (Nat.zero_mod _)
    rw [time_eq, show (firstHead cfg tickCount page).elapsed = 0 from rfl,
      begins, Nat.zero_add]

end Samples

/-- Pressure sleeps between its samples; its third sample is two periods after
the first. -/
theorem page_time_exact_iff_mixedCfg :
    (samples mixedCfg idleEnvironment .pressure 9
      (firstHead mixedCfg 7 (RoomPage.mk 9)))[2]? = some 6 ∧
    6 = 2 * (mixedCfg.plan .pressure).period := by
  have sample : (samples mixedCfg idleEnvironment .pressure 9
      (firstHead mixedCfg 7 (RoomPage.mk 9)))[2]? = some 6 := by decide
  exact ⟨sample, (page_time_exact_iff mixedCfg idleEnvironment 7
    (RoomPage.mk 9)).2 mixedCfg_positive (fun _ _ _ _ => rfl) .pressure 9 2 6
    sample (by decide)⟩

/-- The periods of the default settings: a sample every 20 milliseconds, and
channels that never sleep. -/
def defaultPeriodsCfg : FChCfg where
  pPreheatTimeMs := 250
  tPreheatTimeMs := 250
  pWritePeriodMs := 20
  tWritePeriodMs := 20
  pEn := true
  tEn := true
  tcpuEn := true
  vbatEn := true

/-- Handling always takes one tick. -/
def tickEnvironment : Environment where
  results := fun _ _ => none
  processing := fun _ => 1

/-- After one iteration the counters are one tick behind, and every sample is
one tick later than its period says. -/
theorem page_time_drifts :
    (∃ head, Follows defaultPeriodsCfg tickEnvironment
        (firstHead defaultPeriodsCfg 0 (RoomPage.mk 99)) head ∧
      ¬ head.InTime) ∧
    samples defaultPeriodsCfg tickEnvironment .pressure 6
        (firstHead defaultPeriodsCfg 0 (RoomPage.mk 99)) =
      [0, 21, 42, 63, 84, 105] := by
  constructor
  · obtain ⟨head, goesOn, late⟩ :
        ∃ head ∈ nextHead defaultPeriodsCfg tickEnvironment
          (firstHead defaultPeriodsCfg 0 (RoomPage.mk 99)), ¬ head.InTime := by
      decide
    exact ⟨head, .single goesOn, late⟩
  · decide

end SelfWriter.Recorder
