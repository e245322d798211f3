import SelfWriter.Lib.NextMultiple
import SelfWriter.Lib.Word32
import SelfWriter.Recorder.Acquisition

/-!
# The reference schedule of one page

The acquisition loop sleeps a minimum of two distances and takes an extra
millisecond per iteration.  Its purpose is simpler: at every page time `t` a
channel is pushed when `t` is a multiple of its write period, and a channel
that sleeps between its samples is started one preheat time before each of
them.  `schedule` says that instant by instant, and `acquire_refines_schedule`
shows that the loop does exactly this until the page is full.
-/

namespace SelfWriter.Recorder

universe u

open SelfWriter.Lib SelfWriter.Lib.Word32

/-! ## The abstract schedule -/

/-- What the schedule knows of one channel. -/
structure ChannelPlan where
  period : Nat
  preheat : Nat
  enabled : Bool
  deriving DecidableEq, Repr

/-- The channel is switched off between its samples. -/
def ChannelPlan.Sleeps (plan : ChannelPlan) : Prop :=
  plan.preheat < plan.period

instance (plan : ChannelPlan) : Decidable plan.Sleeps :=
  inferInstanceAs (Decidable (plan.preheat < plan.period))

def FChCfg.plan (cfg : FChCfg) : FChannel → ChannelPlan
  | .pressure =>
      { period := cfg.pWritePeriodMs.toNat
        preheat := cfg.pPreheatTimeMs.toNat
        enabled := cfg.pEn }
  | .temperature =>
      { period := cfg.tWritePeriodMs.toNat
        preheat := cfg.tPreheatTimeMs.toNat
        enabled := cfg.tEn }

/-- The actions of one or more instants, and the page they leave. -/
structure Scheduled (Page : Type u) (Entry : Type) where
  page : Page
  full : Bool
  log : List Entry

section Schedule

variable {Page : Type u} [DataPage Page]

/-- One channel at page time `time`. -/
def channelInstant (plan : ChannelPlan) (results : FChannel → Option UInt32)
    (time : Nat) (page : Page) (ch : FChannel) : Scheduled Page Action :=
  if plan.enabled then
    if time % plan.period = 0 then
      let pushed := DataPage.pushData page (results ch) ch
      { page := pushed.1
        full := pushed.2
        log := .push ch (results ch) pushed.2 ::
          (if pushed.2 = false ∧ plan.Sleeps then
            [.send (stopCommand ch)] else []) }
    else if plan.Sleeps ∧ (time + plan.preheat) % plan.period = 0 then
      { page := page, full := false, log := [.send (startCommand ch)] }
    else
      { page := page, full := false, log := [] }
  else
    { page := page, full := false, log := [] }

/-- Pressure before temperature; a page filled by pressure ends the instant. -/
def instant (cfg : FChCfg) (results : FChannel → Option UInt32)
    (time : Nat) (page : Page) : Scheduled Page (Nat × Action) :=
  let p := channelInstant (cfg.plan .pressure) results time page .pressure
  if p.full then
    { page := p.page, full := true, log := stamp time p.log }
  else
    let t := channelInstant (cfg.plan .temperature) results time p.page
      .temperature
    { page := t.page, full := t.full, log := stamp time (p.log ++ t.log) }

/-- The `count` instants from `time` on, up to the push that fills the page. -/
def schedule (cfg : FChCfg) (results : Nat → FChannel → Option UInt32) :
    (count time : Nat) → Page → Scheduled Page (Nat × Action)
  | 0, _, page => { page := page, full := false, log := [] }
  | count + 1, time, page =>
      let now := instant cfg (results time) time page
      if now.full then
        now
      else
        let later := schedule cfg results count (time + 1) now.page
        { later with log := now.log ++ later.log }

end Schedule

/-- The command with which the loop leaves a page filled by one channel: the
other channel, if enabled, is woken for the next page. -/
def exitWakeUp (cfg : FChCfg) (log : List (Nat × Action)) :
    List (Nat × Action) :=
  match log.getLast? with
  | some (time, .push .pressure _ true) =>
      stamp time (enableChannel .temperature cfg.tEn)
  | some (time, .push .temperature _ true) =>
      stamp time (enableChannel .pressure cfg.pEn)
  | _ => []

/-! ## What one counter does at a given page time -/

/-- The loop's own view of a channel at page time `time`: the counter shows
the page time, and the channel sleeps exactly while its next preheat is ahead. -/
structure Tracks (waiter : ToWriteCounter) (plan : ChannelPlan) (time : Nat) :
    Prop where
  positive : 1 ≤ plan.period
  heated : 1 ≤ plan.preheat
  period_eq : waiter.writePeriodMs.toNat = plan.period
  preheat_eq : waiter.preheatTimeMs.toNat = plan.preheat
  enabled_eq : waiter.chEnabled = plan.enabled
  counter_eq : waiter.counter.toNat = time
  mode_eq : waiter.mode =
    if plan.Sleeps then .heatMeasureStop else .measureOnly
  sleeping_iff : plan.enabled = true → plan.Sleeps →
    (waiter.curState = .sleeping ↔
      plan.preheat ≤ untilMultiple plan.period time)

/-- Time from `time` to the channel's next action. -/
def ChannelPlan.gap (plan : ChannelPlan) (time : Nat) : Nat :=
  if plan.Sleeps ∧ plan.preheat ≤ untilMultiple plan.period time then
    untilMultiple plan.period time - plan.preheat
  else
    untilMultiple plan.period time

private theorem toWrite_toNat_aux {waiter : ToWriteCounter}
    (positive : 1 ≤ waiter.writePeriodMs.toNat) :
    waiter.toWrite.toNat =
      untilMultiple waiter.writePeriodMs.toNat waiter.counter.toNat := by
  have small : waiter.counter.toNat % waiter.writePeriodMs.toNat <
      waiter.writePeriodMs.toNat := Nat.mod_lt _ positive
  have zero_iff : waiter.counter % waiter.writePeriodMs = 0 ↔
      waiter.counter.toNat % waiter.writePeriodMs.toNat = 0 := by
    rw [← UInt32.toNat_inj, UInt32.toNat_mod]
    rfl
  unfold ToWriteCounter.toWrite untilMultiple
  by_cases onMultiple : waiter.counter % waiter.writePeriodMs = 0
  · rw [if_pos onMultiple, if_pos (zero_iff.1 onMultiple), onMultiple]
    rfl
  · rw [if_neg onMultiple, if_neg (mt zero_iff.2 onMultiple)]
    have below : waiter.counter % waiter.writePeriodMs ≤ waiter.writePeriodMs := by
      rw [UInt32.le_iff_toNat_le, UInt32.toNat_mod]
      omega
    rw [UInt32.toNat_sub_of_le _ _ below, UInt32.toNat_mod]

namespace Tracks

variable {waiter : ToWriteCounter} {plan : ChannelPlan} {time : Nat}

private theorem toWrite_toNat (tracks : Tracks waiter plan time) :
    waiter.toWrite.toNat = untilMultiple plan.period time := by
  have positive : 1 ≤ waiter.writePeriodMs.toNat := by
    rw [tracks.period_eq]
    exact tracks.positive
  rw [toWrite_toNat_aux positive, tracks.period_eq, tracks.counter_eq]

private theorem toWrite_eq_zero_iff (tracks : Tracks waiter plan time) :
    waiter.toWrite = 0 ↔ untilMultiple plan.period time = 0 := by
  rw [eq_zero_iff_toNat, tracks.toWrite_toNat]

private theorem toWrite_eq_preheat_iff (tracks : Tracks waiter plan time) :
    waiter.toWrite = waiter.preheatTimeMs ↔
      untilMultiple plan.period time = plan.preheat := by
  rw [eq_iff_toNat, tracks.toWrite_toNat, tracks.preheat_eq]

private theorem preheat_le_toWrite_iff (tracks : Tracks waiter plan time) :
    waiter.preheatTimeMs ≤ waiter.toWrite ↔
      plan.preheat ≤ untilMultiple plan.period time := by
  rw [UInt32.le_iff_toNat_le, tracks.toWrite_toNat, tracks.preheat_eq]

/-- The sleep computed by an enabled channel ends at its next action. -/
theorem toNextEvent_toNat (tracks : Tracks waiter plan time)
    (enabled : plan.enabled = true) :
    waiter.toNextEvent.toNat = plan.gap time := by
  unfold ToWriteCounter.toNextEvent ChannelPlan.gap
  rw [tracks.enabled_eq, enabled, tracks.mode_eq, if_pos rfl]
  by_cases sleeps : plan.Sleeps
  · have sleeping := tracks.sleeping_iff enabled sleeps
    simp only [sleeps, if_true, true_and]
    cases state : waiter.curState with
    | ready =>
        have early : ¬ plan.preheat ≤ untilMultiple plan.period time := by
          rw [← sleeping, state]
          exact CurrentChState.noConfusion
        simp only [if_neg early, tracks.toWrite_toNat]
    | heating =>
        have early : ¬ plan.preheat ≤ untilMultiple plan.period time := by
          rw [← sleeping, state]
          exact CurrentChState.noConfusion
        simp only [if_neg early, tracks.toWrite_toNat]
    | sleeping =>
        have ahead : plan.preheat ≤ untilMultiple plan.period time :=
          sleeping.1 state
        have reached := tracks.preheat_le_toWrite_iff.2 ahead
        simp only [if_pos ahead, if_pos reached]
        rw [UInt32.toNat_sub_of_le _ _ reached, tracks.toWrite_toNat,
          tracks.preheat_eq]
  · simp only [sleeps, if_false, false_and]
    exact tracks.toWrite_toNat

/-- Sleeping no longer than the gap keeps the view. -/
theorem tick (tracks : Tracks waiter plan time) {slept : UInt32}
    (within : plan.enabled = true → slept.toNat ≤ plan.gap time)
    (small : time + slept.toNat < 2 ^ 32) :
    Tracks (waiter.tick slept) plan (time + slept.toNat) where
  positive := tracks.positive
  heated := tracks.heated
  period_eq := tracks.period_eq
  preheat_eq := tracks.preheat_eq
  enabled_eq := tracks.enabled_eq
  counter_eq := by
    rw [← tracks.counter_eq] at small ⊢
    exact toNat_add_of_lt small
  mode_eq := tracks.mode_eq
  sleeping_iff := by
    intro enabled sleeps
    have bound := within enabled
    have before := tracks.sleeping_iff enabled sleeps
    unfold ChannelPlan.gap at bound
    simp only [sleeps, true_and] at bound
    rw [show (waiter.tick slept).curState = waiter.curState from rfl, before]
    have nearer : untilMultiple plan.period (time + slept.toNat) =
        untilMultiple plan.period time - slept.toNat := by
      apply untilMultiple_add tracks.positive
      split at bound <;> omega
    rw [nearer]
    split at bound <;> omega

/-- The event a channel sees at its current page time. -/
theorem isEvent_eq (tracks : Tracks waiter plan time) :
    waiter.isEvent =
      if plan.enabled then
        if untilMultiple plan.period time = 0 then
          some (if plan.Sleeps then .measureAndSleep else .measure)
        else if plan.Sleeps ∧ untilMultiple plan.period time = plan.preheat then
          some .preheat
        else
          none
      else
        none := by
  unfold ToWriteCounter.isEvent
  rw [tracks.enabled_eq]
  cases enabled : plan.enabled with
  | false => rfl
  | true =>
      have heated := tracks.heated
      simp only [if_true, tracks.mode_eq, tracks.toWrite_eq_zero_iff,
        tracks.toWrite_eq_preheat_iff]
      by_cases sleeps : plan.Sleeps
      · have sleeping := tracks.sleeping_iff enabled sleeps
        simp only [sleeps, if_true, true_and]
        cases state : waiter.curState with
        | ready =>
            have early : ¬ plan.preheat ≤ untilMultiple plan.period time := by
              rw [← sleeping, state]
              exact CurrentChState.noConfusion
            have notPreheat : untilMultiple plan.period time ≠ plan.preheat := by
              omega
            simp only [if_neg notPreheat]
        | heating =>
            have early : ¬ plan.preheat ≤ untilMultiple plan.period time := by
              rw [← sleeping, state]
              exact CurrentChState.noConfusion
            have notPreheat : untilMultiple plan.period time ≠ plan.preheat := by
              omega
            simp only [if_neg notPreheat]
        | sleeping =>
            have ahead : plan.preheat ≤ untilMultiple plan.period time :=
              sleeping.1 state
            have notZero : untilMultiple plan.period time ≠ 0 := by omega
            simp only [if_neg notZero]
      · simp only [sleeps, if_false, false_and]

/-- One accounted millisecond after a handled instant, with the state that the
handling leaves, the view holds again. -/
private theorem next_of_state (tracks : Tracks waiter plan time)
    (state : CurrentChState)
    (small : time + 1 < 2 ^ 32)
    (settled : plan.enabled = true → plan.Sleeps →
      (state = .sleeping ↔
        plan.preheat ≤ untilMultiple plan.period (time + 1))) :
    Tracks ((waiter.acceptState state).tick 1) plan (time + 1) where
  positive := tracks.positive
  heated := tracks.heated
  period_eq := tracks.period_eq
  preheat_eq := tracks.preheat_eq
  enabled_eq := tracks.enabled_eq
  counter_eq := by
    rw [← tracks.counter_eq] at small ⊢
    exact toNat_add_of_lt small
  mode_eq := tracks.mode_eq
  sleeping_iff := settled

end Tracks

/-! ## One channel handled at one page time -/

section Handling

variable {Page : Type u} [DataPage Page]
variable {waiter : ToWriteCounter} {plan : ChannelPlan} {time : Nat}

/-- Without an action due the channel's instant is empty. -/
theorem channelInstant_of_quiet (positive : 1 ≤ plan.period)
    (results : FChannel → Option UInt32) (page : Page) (ch : FChannel)
    (quiet : plan.enabled = true → 0 < plan.gap time) :
    channelInstant plan results time page ch =
      { page := page, full := false, log := [] } := by
  unfold channelInstant
  cases enabled : plan.enabled with
  | false => rfl
  | true =>
      have ahead := quiet enabled
      unfold ChannelPlan.gap at ahead
      have notWrite : ¬ time % plan.period = 0 := by
        rw [← untilMultiple_eq_zero_iff positive]
        intro zero
        rw [zero] at ahead
        split at ahead <;> omega
      have notPreheat :
          ¬ (plan.Sleeps ∧ (time + plan.preheat) % plan.period = 0) := by
        rintro ⟨sleeps, reached⟩
        rw [(untilMultiple_eq_iff positive time plan.preheat sleeps).2 reached]
          at ahead
        simp only [sleeps, Nat.le_refl, and_self, if_true, Nat.sub_self,
          Nat.lt_irrefl] at ahead
      simp only [if_true, if_neg notWrite, if_neg notPreheat]

/-- The loop's handling of a channel is the channel's instant. -/
theorem channelInstant_eq (tracks : Tracks waiter plan time)
    (results : FChannel → Option UInt32) (page : Page) (ch : FChannel) :
    channelInstant plan results time page ch =
      { page := (processSensorEvent results waiter page ch).page
        full := (processSensorEvent results waiter page ch).full
        log := (processSensorEvent results waiter page ch).actions } := by
  have zero_iff := untilMultiple_eq_zero_iff tracks.positive time
  have heated := tracks.heated
  unfold processSensorEvent channelInstant
  rw [tracks.isEvent_eq]
  cases enabled : plan.enabled with
  | false => rfl
  | true =>
      simp only [if_true, zero_iff]
      by_cases write : time % plan.period = 0
      · simp only [if_pos write]
        by_cases sleeps : plan.Sleeps
        · simp only [sleeps, if_true, and_true]
          cases (DataPage.pushData page (results ch) ch).2 <;> rfl
        · simp only [sleeps, if_false, and_false]
      · simp only [if_neg write]
        by_cases sleeps : plan.Sleeps
        · have preheat_iff :=
            untilMultiple_eq_iff tracks.positive time plan.preheat sleeps
          simp only [sleeps, true_and, preheat_iff]
          by_cases reached : (time + plan.preheat) % plan.period = 0
          · simp only [if_pos reached]
          · simp only [if_neg reached]
        · simp only [sleeps, false_and, if_false]

/-- The handling that fills the page does nothing else. -/
theorem processSensorEvent_actions_of_full (waiter : ToWriteCounter)
    (results : FChannel → Option UInt32) (page : Page) (ch : FChannel)
    (full : (processSensorEvent results waiter page ch).full = true) :
    (processSensorEvent results waiter page ch).actions =
      [.push ch (results ch) true] := by
  revert full
  unfold processSensorEvent
  cases waiter.isEvent with
  | none => exact fun full => absurd full Bool.false_ne_true
  | some event =>
      cases event with
      | preheat => exact fun full => absurd full Bool.false_ne_true
      | measure =>
          intro full
          simp only at full ⊢
          rw [full]
      | measureAndSleep =>
          simp only
          split
          · exact fun _ => rfl
          · exact fun full => absurd full Bool.false_ne_true

/-- After handling an instant without filling the page, one accounted
millisecond restores the loop's view. -/
theorem processSensorEvent_tracks (tracks : Tracks waiter plan time)
    (results : FChannel → Option UInt32) (page : Page) (ch : FChannel)
    (notFull : (processSensorEvent results waiter page ch).full = false)
    (small : time + 1 < 2 ^ 32) :
    Tracks ((processSensorEvent results waiter page ch).waiter.tick 1)
      plan (time + 1) := by
  have heated := tracks.heated
  revert notFull
  unfold processSensorEvent
  rw [tracks.isEvent_eq]
  cases enabled : plan.enabled with
  | false =>
      intro _
      exact tracks.next_of_state waiter.curState small
        (fun contradiction => by rw [enabled] at contradiction; cases contradiction)
  | true =>
      simp only [if_true]
      by_cases write : untilMultiple plan.period time = 0
      · have afterwards := untilMultiple_succ_of_zero tracks.positive write
        simp only [if_pos write]
        by_cases sleeps : plan.Sleeps
        · have shorter : plan.preheat < plan.period := sleeps
          simp only [sleeps, if_true]
          split
          · intro contradiction
            cases contradiction
          · intro _
            refine tracks.next_of_state .sleeping small (fun _ _ => ?_)
            rw [afterwards]
            exact ⟨fun _ => by omega, fun _ => rfl⟩
        · simp only [sleeps, if_false]
          intro notFull
          rw [notFull]
          exact tracks.next_of_state .ready small
            (fun _ sleeping => absurd sleeping sleeps)
      · have nearer : untilMultiple plan.period (time + 1) =
            untilMultiple plan.period time - 1 :=
          untilMultiple_add tracks.positive (by omega)
        simp only [if_neg write]
        by_cases due :
            plan.Sleeps ∧ untilMultiple plan.period time = plan.preheat
        · simp only [if_pos due]
          intro _
          refine tracks.next_of_state .heating small (fun _ _ => ?_)
          rw [nearer, due.2]
          exact ⟨CurrentChState.noConfusion, fun ahead => by omega⟩
        · simp only [if_neg due]
          intro _
          refine tracks.next_of_state waiter.curState small
            (fun _ sleeps => ?_)
          have apart : untilMultiple plan.period time ≠ plan.preheat :=
            fun same => due ⟨sleeps, same⟩
          rw [tracks.sleeping_iff enabled sleeps, nearer]
          omega

end Handling

/-! ## The loop head -/

/-- Both counters agree with the page time. -/
structure HeadTracks {Page : Type u} (cfg : FChCfg)
    (head : AcquisitionState Page) : Prop where
  pressure : Tracks head.toPWrite (cfg.plan .pressure) head.pageTime
  temperature : Tracks head.toTWrite (cfg.plan .temperature) head.pageTime

/-- Periods and preheat times are positive. -/
structure FChCfg.Positive (cfg : FChCfg) : Prop where
  period : ∀ ch, 1 ≤ (cfg.plan ch).period
  preheat : ∀ ch, 1 ≤ (cfg.plan ch).preheat

section Head

variable {Page : Type u} {cfg : FChCfg}

private theorem channelHeated_tracks (period preheat : UInt32) (enabled : Bool)
    (positive : 1 ≤ period.toNat) (heated : 1 ≤ preheat.toNat) :
    Tracks (ToWriteCounter.channelHeated period preheat enabled)
      { period := period.toNat, preheat := preheat.toNat, enabled := enabled }
      0 where
  positive := positive
  heated := heated
  period_eq := rfl
  preheat_eq := rfl
  enabled_eq := rfl
  counter_eq := rfl
  mode_eq := by
    show (if preheat < period then _ else _) =
      (if preheat.toNat < period.toNat then _ else _)
    by_cases shorter : preheat < period
    · rw [if_pos shorter, if_pos (UInt32.lt_iff_toNat_lt.1 shorter)]
    · rw [if_neg shorter, if_neg (mt UInt32.lt_iff_toNat_lt.2 shorter)]
  sleeping_iff := by
    intro _ _
    have onMultiple : untilMultiple period.toNat 0 = 0 :=
      (untilMultiple_eq_zero_iff positive 0).2 (Nat.zero_mod _)
    rw [onMultiple]
    exact ⟨CurrentChState.noConfusion,
      fun ahead => absurd ahead (Nat.not_le.2 heated)⟩

theorem begin_tracks (positive : cfg.Positive) (tickCount : UInt32)
    (page : Page) :
    HeadTracks cfg (AcquisitionState.begin cfg tickCount page) where
  pressure := channelHeated_tracks _ _ _ (positive.period .pressure)
    (positive.preheat .pressure)
  temperature := channelHeated_tracks _ _ _ (positive.period .temperature)
    (positive.preheat .temperature)

/-- The sleep at the loop head ends no later than either channel's action. -/
theorem HeadTracks.toNextEvent_le {head : AcquisitionState Page}
    (tracks : HeadTracks cfg head) :
    ((cfg.plan .pressure).enabled = true →
      head.toNextEvent.toNat ≤ (cfg.plan .pressure).gap head.pageTime) ∧
    ((cfg.plan .temperature).enabled = true →
      head.toNextEvent.toNat ≤ (cfg.plan .temperature).gap head.pageTime) := by
  have shared : head.toNextEvent.toNat =
      min head.toPWrite.toNextEvent.toNat head.toTWrite.toNextEvent.toNat :=
    toNat_cmpMin _ _
  constructor
  · intro enabled
    rw [shared, ← tracks.pressure.toNextEvent_toNat enabled]
    exact Nat.min_le_left _ _
  · intro enabled
    rw [shared, ← tracks.temperature.toNextEvent_toNat enabled]
    exact Nat.min_le_right _ _

theorem atNextEvent_pageTime (head : AcquisitionState Page) :
    head.atNextEvent.pageTime = head.pageTime + head.toNextEvent.toNat := by
  unfold AcquisitionState.atNextEvent
  by_cases waits : 0 < head.toNextEvent
  · rw [if_pos waits]
    rfl
  · have zero : head.toNextEvent.toNat = 0 := by
      have := mt UInt32.lt_iff_toNat_lt.2 waits
      simp only [UInt32.toNat_zero] at this
      omega
    rw [if_neg waits, zero, Nat.add_zero]

private theorem atNextEvent_page (head : AcquisitionState Page) :
    head.atNextEvent.page = head.page := by
  unfold AcquisitionState.atNextEvent
  split <;> rfl

theorem atNextEvent_tracks {head : AcquisitionState Page}
    (tracks : HeadTracks cfg head)
    (small : head.pageTime + head.toNextEvent.toNat < 2 ^ 32) :
    HeadTracks cfg head.atNextEvent := by
  unfold AcquisitionState.atNextEvent
  by_cases waits : 0 < head.toNextEvent
  · rw [if_pos waits]
    exact
      { pressure := tracks.pressure.tick tracks.toNextEvent_le.1 small
        temperature := tracks.temperature.tick tracks.toNextEvent_le.2 small }
  · rw [if_neg waits]
    exact tracks

/-- Before its next action a channel comes nearer to it step by step. -/
theorem ChannelPlan.gap_succ {plan : ChannelPlan} {time : Nat}
    (positive : 1 ≤ plan.period) (ahead : 0 < plan.gap time) :
    plan.gap (time + 1) = plan.gap time - 1 := by
  unfold ChannelPlan.gap at ahead ⊢
  have nearer : untilMultiple plan.period (time + 1) =
      untilMultiple plan.period time - 1 := by
    apply untilMultiple_add positive
    split at ahead <;> omega
  rw [nearer]
  by_cases sleeps : plan.Sleeps
  · simp only [sleeps, true_and] at ahead ⊢
    split at ahead <;> split <;> omega
  · simp only [sleeps, false_and, if_false] at ahead ⊢

end Head

/-! ## The schedule skips quiet instants -/

section Loop

variable {Page : Type u} [DataPage Page]
variable {cfg : FChCfg} {env : Environment}

private theorem instant_of_quiet (positive : cfg.Positive)
    (results : FChannel → Option UInt32) {time : Nat} (page : Page)
    (quiet : ∀ ch, (cfg.plan ch).enabled = true → 0 < (cfg.plan ch).gap time) :
    instant cfg results time page =
      { page := page, full := false, log := [] } := by
  unfold instant
  rw [channelInstant_of_quiet (positive.period .pressure) results page
    .pressure (quiet .pressure)]
  simp only [Bool.false_eq_true, if_false]
  rw [channelInstant_of_quiet (positive.period .temperature) results page
    .temperature (quiet .temperature)]
  rfl

private theorem schedule_of_quiet (positive : cfg.Positive)
    (results : Nat → FChannel → Option UInt32) (page : Page) (count : Nat) :
    ∀ (waited time : Nat),
      (∀ ch, (cfg.plan ch).enabled = true →
        waited ≤ (cfg.plan ch).gap time) →
      schedule cfg results (waited + count) time page =
        schedule cfg results count (time + waited) page := by
  intro waited
  induction waited with
  | zero =>
      intro time _
      rw [Nat.zero_add, Nat.add_zero]
  | succ waited inductionHypothesis =>
      intro time within
      have quiet : instant cfg (results time) time page =
          { page := page, full := false, log := [] } := by
        apply instant_of_quiet positive
        intro ch enabled
        have := within ch enabled
        omega
      have later : ∀ ch, (cfg.plan ch).enabled = true →
          waited ≤ (cfg.plan ch).gap (time + 1) := by
        intro ch enabled
        have bound := within ch enabled
        rw [ChannelPlan.gap_succ (positive.period ch) (by omega)]
        omega
      rw [Nat.add_right_comm, schedule, quiet]
      simp only [Bool.false_eq_true, if_false, List.nil_append]
      rw [inductionHypothesis (time + 1) later,
        show time + 1 + waited = time + (waited + 1) by omega]

/-! ## One iteration -/

private theorem getLast?_stamp_push (time : Nat) (before : List Action)
    (ch : FChannel) (result : Option UInt32) (full : Bool) :
    (stamp time (before ++ [.push ch result full])).getLast? =
      some (time, .push ch result full) := by
  simp only [stamp, List.map_append, List.map_cons, List.map_nil,
    List.getLast?_append, List.getLast?_singleton, Option.some_or]

/-- The actions of one instant, without their times. -/
theorem unstamped (time : Nat) (actions : List Action) :
    (stamp time actions).map Prod.snd = actions := by
  simp [stamp, Function.comp_def]

private theorem stamp_append (time : Nat) (first second : List Action) :
    stamp time (first ++ second) = stamp time first ++ stamp time second :=
  List.map_append

/-- The instant at which an iteration handles its events. -/
theorem instant_eq {head : AcquisitionState Page}
    (tracks : HeadTracks cfg head) (results : FChannel → Option UInt32) :
    instant cfg results head.pageTime head.page =
      let p := processSensorEvent results head.toPWrite head.page .pressure
      if p.full then
        { page := p.page, full := true, log := stamp head.pageTime p.actions }
      else
        let t := processSensorEvent results head.toTWrite p.page .temperature
        { page := t.page
          full := t.full
          log := stamp head.pageTime (p.actions ++ t.actions) } := by
  unfold instant
  simp only [channelInstant_eq tracks.pressure,
    channelInstant_eq tracks.temperature]

/-- How the iteration handles the pressure channel. -/
def AcquisitionState.pHandled (head : AcquisitionState Page)
    (env : Environment) : Handled Page :=
  processSensorEvent (env.results head.atNextEvent.pageTime)
    head.atNextEvent.toPWrite head.atNextEvent.page .pressure

/-- How it handles the temperature channel, unless pressure fills the page. -/
def AcquisitionState.tHandled (head : AcquisitionState Page)
    (env : Environment) : Handled Page :=
  processSensorEvent (env.results head.atNextEvent.pageTime)
    head.atNextEvent.toTWrite (head.pHandled env).page .temperature

/-- When the events are handled. -/
def AcquisitionState.endMoment (head : AcquisitionState Page)
    (env : Environment) : UInt32 :=
  head.atNextEvent.tickCount +
    UInt32.ofNat (env.processing head.atNextEvent.pageTime)

/-- The ticks accounted for handling them. -/
def AcquisitionState.done (head : AcquisitionState Page)
    (env : Environment) : UInt32 :=
  cmpMax (absDiff (head.endMoment env) head.atNextEvent.tickCount) 1

/-- The three ends of an iteration. -/
inductive Iterates (cfg : FChCfg) (env : Environment)
    (head : AcquisitionState Page) : Iteration Page → Prop
  | pressureFills (full : (head.pHandled env).full = true) :
      Iterates cfg env head (.pageFull
        { head.atNextEvent with
          toPWrite := (head.pHandled env).waiter
          page := (head.pHandled env).page }
        (stamp head.atNextEvent.pageTime
          ((head.pHandled env).actions ++ enableChannel .temperature cfg.tEn)))
  | temperatureFills (notFull : (head.pHandled env).full = false)
      (full : (head.tHandled env).full = true) :
      Iterates cfg env head (.pageFull
        { head.atNextEvent with
          toPWrite := (head.pHandled env).waiter
          toTWrite := (head.tHandled env).waiter
          page := (head.tHandled env).page }
        (stamp head.atNextEvent.pageTime
          ((head.pHandled env).actions ++ (head.tHandled env).actions ++
            enableChannel .pressure cfg.pEn)))
  | goesOn (pNotFull : (head.pHandled env).full = false)
      (tNotFull : (head.tHandled env).full = false) :
      Iterates cfg env head (.continues
        (AcquisitionState.sleep
          { head.atNextEvent with
            toPWrite := (head.pHandled env).waiter
            toTWrite := (head.tHandled env).waiter
            page := (head.tHandled env).page
            tickCount := head.endMoment env }
          (head.done env))
        (stamp head.atNextEvent.pageTime
          ((head.pHandled env).actions ++ (head.tHandled env).actions))
        (head.done env))

theorem iteration_iterates (cfg : FChCfg) (env : Environment)
    (head : AcquisitionState Page) :
    Iterates cfg env head (iteration cfg env head) := by
  cases pFull : (head.pHandled env).full with
  | true =>
      have outcome : iteration cfg env head = _ := if_pos pFull
      rw [outcome]
      exact .pressureFills pFull
  | false =>
      have pNotFull : ¬ (head.pHandled env).full = true := by simp [pFull]
      cases tFull : (head.tHandled env).full with
      | true =>
          have outcome : iteration cfg env head = _ :=
            (if_neg pNotFull).trans (if_pos tFull)
          rw [outcome]
          exact .temperatureFills pFull tFull
      | false =>
          have tNotFull : ¬ (head.tHandled env).full = true := by simp [tFull]
          have outcome : iteration cfg env head = _ :=
            (if_neg pNotFull).trans (if_neg tNotFull)
          rw [outcome]
          exact .goesOn pFull tFull

/-- What one iteration does, in terms of the instant at which its events are
handled. -/
theorem iteration_spec (env : Environment) {head : AcquisitionState Page}
    (tracks : HeadTracks cfg head.atNextEvent) :
    let now := head.atNextEvent.pageTime
    let scheduled := instant cfg (env.results now) now head.page
    match iteration cfg env head with
    | .pageFull state log =>
        scheduled.full = true ∧ state.page = scheduled.page ∧
          log = scheduled.log ++ exitWakeUp cfg scheduled.log
    | .continues state log done =>
        scheduled.full = false ∧ state.page = scheduled.page ∧
          log = scheduled.log ∧
            (done = 1 → now + 1 < 2 ^ 32 → HeadTracks cfg state) := by
  intro now scheduled
  have planned : scheduled =
      if (head.pHandled env).full then
        { page := (head.pHandled env).page
          full := true
          log := stamp now (head.pHandled env).actions }
      else
        { page := (head.tHandled env).page
          full := (head.tHandled env).full
          log := stamp now
            ((head.pHandled env).actions ++ (head.tHandled env).actions) } := by
    have atEvents := instant_eq tracks (env.results now)
    rw [atNextEvent_page] at atEvents
    simpa only [AcquisitionState.tHandled, AcquisitionState.pHandled,
      atNextEvent_page] using atEvents
  have iterates := iteration_iterates cfg env head
  generalize iteration cfg env head = outcome at iterates ⊢
  cases iterates with
  | pressureFills full =>
      rw [if_pos full] at planned
      rw [planned]
      refine ⟨rfl, rfl, ?_⟩
      have actions : (head.pHandled env).actions =
          [.push .pressure (env.results now .pressure) true] :=
        processSensorEvent_actions_of_full _ _ _ _ full
      have wakeUp := getLast?_stamp_push now [] .pressure
        (env.results now .pressure) true
      rw [List.nil_append] at wakeUp
      rw [actions, stamp_append]
      simp only [exitWakeUp, now, wakeUp]
  | temperatureFills notFull full =>
      rw [if_neg (by simp [notFull])] at planned
      rw [planned]
      refine ⟨full, rfl, ?_⟩
      have actions : (head.tHandled env).actions =
          [.push .temperature (env.results now .temperature) true] :=
        processSensorEvent_actions_of_full _ _ _ _ full
      rw [actions, stamp_append]
      simp only [exitWakeUp, now, getLast?_stamp_push]
  | goesOn pNotFull tNotFull =>
      rw [if_neg (by simp [pNotFull])] at planned
      rw [planned]
      refine ⟨tNotFull, rfl, rfl, ?_⟩
      intro one small
      rw [one]
      exact
        { pressure := processSensorEvent_tracks tracks.pressure _ _ _ pNotFull
            small
          temperature := processSensorEvent_tracks tracks.temperature _ _ _
            tNotFull small }

/-! ## Whole runs -/

private theorem schedule_succ_of_full (results : Nat → FChannel → Option UInt32)
    (count : Nat) {time : Nat} {page : Page}
    (full : (instant cfg (results time) time page).full = true) :
    schedule cfg results (count + 1) time page =
      instant cfg (results time) time page := by
  rw [schedule]
  exact if_pos full

private theorem schedule_succ_of_not_full (results : Nat → FChannel → Option UInt32)
    (count : Nat) {time : Nat} {page : Page}
    (notFull : (instant cfg (results time) time page).full = false) :
    schedule cfg results (count + 1) time page =
      let now := instant cfg (results time) time page
      let later := schedule cfg results count (time + 1) now.page
      { later with log := now.log ++ later.log } := by
  rw [schedule]
  exact if_neg (by rw [notFull]; exact Bool.false_ne_true)

/-- An iteration sleeps to its events and then accounts for `done ≥ 1`
milliseconds. -/
theorem iteration_pageTime (cfg : FChCfg) (env : Environment)
    (head : AcquisitionState Page) :
    match iteration cfg env head with
    | .pageFull state _ => state.pageTime = head.atNextEvent.pageTime
    | .continues state _ done =>
        state.pageTime = head.atNextEvent.pageTime + done.toNat ∧
          1 ≤ done.toNat := by
  have iterates := iteration_iterates cfg env head
  generalize iteration cfg env head = outcome at iterates ⊢
  cases iterates with
  | pressureFills full => rfl
  | temperatureFills notFull full => rfl
  | goesOn pNotFull tNotFull =>
      refine ⟨rfl, ?_⟩
      rw [AcquisitionState.done, toNat_cmpMax]
      exact Nat.le_max_right _ _

theorem run_succ_of_pageFull (iterations : Nat)
    {head state : AcquisitionState Page} {log : List (Nat × Action)}
    (outcome : iteration cfg env head = .pageFull state log) :
    run cfg env (iterations + 1) head =
      { state := state, full := true, log := log, dones := [] } := by
  rw [run, outcome]

theorem run_succ_of_continues (iterations : Nat)
    {head state : AcquisitionState Page} {log : List (Nat × Action)}
    {done : UInt32}
    (outcome : iteration cfg env head = .continues state log done) :
    run cfg env (iterations + 1) head =
      { run cfg env iterations state with
        log := log ++ (run cfg env iterations state).log
        dones := done :: (run cfg env iterations state).dones } := by
  rw [run, outcome]

private theorem atNextEvent_le_of_succ {iterations : Nat}
    (later : ∀ head : AcquisitionState Page,
      head.pageTime ≤ (run cfg env iterations head).state.pageTime)
    (head : AcquisitionState Page) :
    head.atNextEvent.pageTime ≤
      (run cfg env (iterations + 1) head).state.pageTime := by
  have elapsed := iteration_pageTime cfg env head
  cases outcome : iteration cfg env head with
  | pageFull state log =>
      rw [outcome] at elapsed
      rw [run_succ_of_pageFull iterations outcome]
      exact Nat.le_of_eq elapsed.symm
  | continues state log done =>
      rw [outcome] at elapsed
      rw [run_succ_of_continues iterations outcome]
      have bound := later state
      simp only at elapsed ⊢
      omega

/-- The loop never turns page time back. -/
theorem pageTime_le_run (cfg : FChCfg) (env : Environment) (iterations : Nat) :
    ∀ head : AcquisitionState Page,
      head.pageTime ≤ (run cfg env iterations head).state.pageTime := by
  induction iterations with
  | zero =>
      intro head
      exact Nat.le_refl _
  | succ iterations inductionHypothesis =>
      intro head
      have advanced := atNextEvent_pageTime head
      have bound := atNextEvent_le_of_succ inductionHypothesis head
      omega

theorem atNextEvent_le_run (iterations : Nat) (head : AcquisitionState Page) :
    head.atNextEvent.pageTime ≤
      (run cfg env (iterations + 1) head).state.pageTime :=
  atNextEvent_le_of_succ (pageTime_le_run cfg env iterations) head

private theorem channelInstant_log_of_full {plan : ChannelPlan}
    {results : FChannel → Option UInt32} {time : Nat} {page : Page}
    {ch : FChannel}
    (full : (channelInstant plan results time page ch).full = true) :
    (channelInstant plan results time page ch).log ≠ [] := by
  unfold channelInstant at full ⊢
  by_cases enabled : plan.enabled = true
  · by_cases write : time % plan.period = 0
    · simp only [if_pos enabled, if_pos write]
      exact List.cons_ne_nil _ _
    · simp only [if_pos enabled, if_neg write] at full
      split at full <;> cases full
  · simp only [if_neg enabled] at full
    cases full

/-- A full page was filled by a push, which is in the log. -/
theorem instant_log_of_full {results : FChannel → Option UInt32}
    {time : Nat} {page : Page}
    (full : (instant cfg results time page).full = true) :
    (instant cfg results time page).log ≠ [] := by
  unfold instant at full ⊢
  cases pFull : (channelInstant (cfg.plan .pressure) results time page
      .pressure).full with
  | true =>
      simp only [pFull, if_true]
      intro empty
      exact channelInstant_log_of_full pFull (List.map_eq_nil_iff.1 empty)
  | false =>
      simp only [pFull, Bool.false_eq_true, if_false] at full ⊢
      intro empty
      have both := List.append_eq_nil_iff.1 (List.map_eq_nil_iff.1 empty)
      exact channelInstant_log_of_full full both.2

private theorem schedule_log_of_full (results : Nat → FChannel → Option UInt32)
    (count : Nat) :
    ∀ (time : Nat) (page : Page),
      (schedule cfg results count time page).full = true →
        (schedule cfg results count time page).log ≠ [] := by
  induction count with
  | zero =>
      intro time page full
      cases full
  | succ count inductionHypothesis =>
      intro time page full
      cases nowFull : (instant cfg (results time) time page).full with
      | true =>
          rw [schedule_succ_of_full results count nowFull]
          exact instant_log_of_full nowFull
      | false =>
          rw [schedule_succ_of_not_full results count nowFull] at full ⊢
          intro empty
          exact inductionHypothesis _ _ full (List.append_eq_nil_iff.1 empty).2

/-- Only the last entry decides which channel is woken. -/
theorem exitWakeUp_append {earlier later : List (Nat × Action)}
    (nonempty : later ≠ []) :
    exitWakeUp cfg (earlier ++ later) = exitWakeUp cfg later := by
  have lastEntry : (earlier ++ later).getLast? = later.getLast? := by
    rw [List.getLast?_append, List.getLast?_eq_some_getLast nonempty,
      Option.some_or]
  unfold exitWakeUp
  rw [lastEntry]

/-- A run that has handled `count` instants from its head on has performed
their schedule; a full page adds the command with which it is left. -/
structure Performs (cfg : FChCfg) (env : Environment) (iterations : Nat)
    (head : AcquisitionState Page) (count : Nat) : Prop where
  reached : (run cfg env iterations head).state.pageTime +
      (if (run cfg env iterations head).full then 1 else 0) =
    head.pageTime + count
  full_eq : (run cfg env iterations head).full =
    (schedule cfg env.results count head.pageTime head.page).full
  page_eq : (run cfg env iterations head).state.page =
    (schedule cfg env.results count head.pageTime head.page).page
  log_eq : (run cfg env iterations head).log =
    (schedule cfg env.results count head.pageTime head.page).log ++
      (if (run cfg env iterations head).full then
        exitWakeUp cfg
          (schedule cfg env.results count head.pageTime head.page).log
      else [])
  progress : (run cfg env iterations head).full = false → iterations ≤ count

/-- The instants that the sleep to the next event passes are quiet. -/
theorem schedule_atNextEvent (env : Environment) (positive : cfg.Positive)
    {head : AcquisitionState Page} (tracks : HeadTracks cfg head) (count : Nat) :
    schedule cfg env.results (head.toNextEvent.toNat + count) head.pageTime
        head.page =
      schedule cfg env.results count head.atNextEvent.pageTime head.page := by
  rw [atNextEvent_pageTime head]
  apply schedule_of_quiet positive
  intro ch enabled
  cases ch with
  | pressure => exact tracks.toNextEvent_le.1 enabled
  | temperature => exact tracks.toNextEvent_le.2 enabled

/-- An iteration that fills the page ends the schedule at its instant. -/
theorem performs_of_pageFull (positive : cfg.Positive) (iterations : Nat)
    {head : AcquisitionState Page} (tracks : HeadTracks cfg head)
    (small : head.atNextEvent.pageTime < 2 ^ 32)
    {state : AcquisitionState Page} {log : List (Nat × Action)}
    (outcome : iteration cfg env head = .pageFull state log) :
    Performs cfg env (iterations + 1) head (head.toNextEvent.toNat + 1) := by
  have advanced := atNextEvent_pageTime head
  have elapsed := iteration_pageTime cfg env head
  have spec := iteration_spec env (atNextEvent_tracks tracks (advanced ▸ small))
  rw [outcome] at elapsed spec
  obtain ⟨full, page, logged⟩ := spec
  have ran := run_succ_of_pageFull iterations outcome
  have planned := schedule_atNextEvent env positive tracks 1
  rw [schedule_succ_of_full env.results 0 full] at planned
  constructor
  · rw [ran]
    simp only at elapsed ⊢
    simp only [if_true]
    omega
  · rw [ran, planned, full]
  · rw [ran, planned, page]
  · rw [ran, planned, logged]
    simp only [if_true]
  · rw [ran]
    intro contradiction
    cases contradiction

/-- An iteration after which the loop goes on performs one more instant. -/
theorem performs_of_continues (positive : cfg.Positive) {iterations count : Nat}
    {head : AcquisitionState Page} (tracks : HeadTracks cfg head)
    (small : head.atNextEvent.pageTime < 2 ^ 32)
    {state : AcquisitionState Page} {log : List (Nat × Action)}
    (outcome : iteration cfg env head = .continues state log 1)
    (performs : Performs cfg env iterations state count) :
    Performs cfg env (iterations + 1) head
      (head.toNextEvent.toNat + (count + 1)) := by
  have advanced := atNextEvent_pageTime head
  have elapsed := iteration_pageTime cfg env head
  have spec := iteration_spec env (atNextEvent_tracks tracks (advanced ▸ small))
  rw [outcome] at elapsed spec
  obtain ⟨notFull, page, logged, _⟩ := spec
  have ran := run_succ_of_continues iterations outcome
  have stateTime : state.pageTime = head.atNextEvent.pageTime + 1 := elapsed.1
  have planned := schedule_atNextEvent env positive tracks (count + 1)
  rw [schedule_succ_of_not_full env.results count notFull] at planned
  simp only [← stateTime, ← page, ← logged] at planned
  constructor
  · rw [ran]
    have reached := performs.reached
    simp only at reached ⊢
    omega
  · rw [ran, planned]
    exact performs.full_eq
  · rw [ran, planned]
    exact performs.page_eq
  · rw [ran, planned]
    simp only
    rw [performs.log_eq, List.append_assoc]
    cases full : (run cfg env iterations state).full with
    | false => rfl
    | true =>
        have laterFull := performs.full_eq
        rw [full] at laterFull
        rw [exitWakeUp_append (schedule_log_of_full env.results count
          _ _ laterFull.symm)]
  · rw [ran]
    intro running
    have bound := performs.progress running
    omega

/-- From any head at which the counters agree with the page time, the loop
performs the schedule of the instants it passes. -/
theorem run_refines (positive : cfg.Positive) (iterations : Nat) :
    ∀ head : AcquisitionState Page,
      HeadTracks cfg head →
      (∀ done ∈ (run cfg env iterations head).dones, done = 1) →
      (run cfg env iterations head).state.pageTime < 2 ^ 32 →
      ∃ count, Performs cfg env iterations head count := by
  induction iterations with
  | zero =>
      intro head _ _ _
      exact ⟨0, rfl, rfl, rfl, rfl, fun _ => Nat.le_refl _⟩
  | succ iterations inductionHypothesis =>
      intro head tracks dones small
      have nowSmall : head.atNextEvent.pageTime < 2 ^ 32 :=
        Nat.lt_of_le_of_lt (atNextEvent_le_run iterations head) small
      cases outcome : iteration cfg env head with
      | pageFull state log =>
          exact ⟨_, performs_of_pageFull positive iterations tracks nowSmall
            outcome⟩
      | continues state log done =>
          rw [run_succ_of_continues iterations outcome] at dones small
          have one : done = 1 := dones done List.mem_cons_self
          subst one
          have later := pageTime_le_run cfg env iterations state
          have spec := iteration_spec env
            (atNextEvent_tracks tracks (atNextEvent_pageTime head ▸ nowSmall))
          have elapsed := iteration_pageTime cfg env head
          rw [outcome] at spec elapsed
          obtain ⟨_, _, _, next⟩ := spec
          have stateTime : state.pageTime = head.atNextEvent.pageTime + 1 :=
            elapsed.1
          simp only at small
          obtain ⟨count, performs⟩ := inductionHypothesis state
            (next rfl (by omega))
            (fun other member => dones other (List.mem_cons_of_mem _ member))
            small
          exact ⟨_, performs_of_continues positive tracks nowSmall outcome
            performs⟩

/-- The whole loop of one page: until the page is full it performs the
reference schedule from page time zero, instant by instant. -/
theorem acquire_refines_schedule (positive : cfg.Positive)
    (tickCount : UInt32) (iterations : Nat) (page : Page)
    (dones : ∀ done ∈ (acquire cfg env tickCount iterations page).dones,
      done = 1)
    (small :
      (acquire cfg env tickCount iterations page).state.pageTime < 2 ^ 32) :
    ∃ count,
      (acquire cfg env tickCount iterations page).state.pageTime +
          (if (acquire cfg env tickCount iterations page).full then 1 else 0) =
        count ∧
      (acquire cfg env tickCount iterations page).full =
        (schedule cfg env.results count 0 page).full ∧
      (acquire cfg env tickCount iterations page).state.page =
        (schedule cfg env.results count 0 page).page ∧
      (acquire cfg env tickCount iterations page).log =
        (schedule cfg env.results count 0 page).log ++
          (if (acquire cfg env tickCount iterations page).full then
            exitWakeUp cfg (schedule cfg env.results count 0 page).log
          else []) ∧
      ((acquire cfg env tickCount iterations page).full = false →
        iterations ≤ count) := by
  obtain ⟨count, performs⟩ := run_refines positive iterations
    (.begin cfg tickCount page) (begin_tracks positive tickCount page)
    dones small
  refine ⟨count, ?_, performs.full_eq, performs.page_eq, performs.log_eq,
    performs.progress⟩
  rw [show count = (AcquisitionState.begin cfg tickCount page).pageTime + count
    from (Nat.zero_add count).symm, ← performs.reached]
  rfl

end Loop

/-! ## Concrete pages -/

/-- A page that only knows how many values it still takes. -/
structure RoomPage where
  room : Nat
  deriving DecidableEq, Repr

instance : DataPage RoomPage where
  pushData page _ _ := ({ room := page.room - 1 }, decide (page.room ≤ 1))

/-- No result yet, and events are handled within their tick. -/
def idleEnvironment : Environment where
  results := fun _ _ => none
  processing := fun _ => 0

/-- Pressure sleeps between its samples, temperature never does. -/
def mixedCfg : FChCfg where
  pPreheatTimeMs := 2
  tPreheatTimeMs := 4
  pWritePeriodMs := 3
  tWritePeriodMs := 4
  pEn := true
  tEn := true
  tcpuEn := false
  vbatEn := false

theorem mixedCfg_positive : mixedCfg.Positive where
  period := by intro ch; cases ch <;> decide
  preheat := by intro ch; cases ch <;> decide

/-- Pressure fills the page at its third sample, after four full iterations. -/
theorem acquire_mixedCfg_dones :
    (acquire mixedCfg idleEnvironment 7 9 (RoomPage.mk 5)).dones =
      List.replicate 4 1 := by
  decide

theorem acquire_refines_schedule_mixedCfg :
    ∃ count,
      (acquire mixedCfg idleEnvironment 7 9 (RoomPage.mk 5)).state.pageTime +
          (if (acquire mixedCfg idleEnvironment 7 9 (RoomPage.mk 5)).full
            then 1 else 0) = count ∧
      (acquire mixedCfg idleEnvironment 7 9 (RoomPage.mk 5)).full =
        (schedule mixedCfg idleEnvironment.results count 0
          (RoomPage.mk 5)).full ∧
      (acquire mixedCfg idleEnvironment 7 9 (RoomPage.mk 5)).state.page =
        (schedule mixedCfg idleEnvironment.results count 0
          (RoomPage.mk 5)).page ∧
      (acquire mixedCfg idleEnvironment 7 9 (RoomPage.mk 5)).log =
        (schedule mixedCfg idleEnvironment.results count 0
            (RoomPage.mk 5)).log ++
          (if (acquire mixedCfg idleEnvironment 7 9 (RoomPage.mk 5)).full then
            exitWakeUp mixedCfg (schedule mixedCfg idleEnvironment.results
              count 0 (RoomPage.mk 5)).log
          else []) ∧
      ((acquire mixedCfg idleEnvironment 7 9 (RoomPage.mk 5)).full = false →
        9 ≤ count) :=
  acquire_refines_schedule mixedCfg_positive 7 9 (RoomPage.mk 5)
    (fun _ member => List.eq_of_mem_replicate
      (acquire_mixedCfg_dones ▸ member))
    (by decide)

/-- Neither channel sleeps, and every millisecond has both samples. -/
def everyMillisecondCfg : FChCfg where
  pPreheatTimeMs := 1
  tPreheatTimeMs := 1
  pWritePeriodMs := 1
  tWritePeriodMs := 1
  pEn := true
  tEn := true
  tcpuEn := false
  vbatEn := false

/-- When pressure fills the page at once, temperature is started inside the
loop although it never sleeps, and no number of scheduled instants has that
command. -/
theorem acquire_adds_start_to_schedule :
    everyMillisecondCfg.Positive ∧
    ¬ (everyMillisecondCfg.plan .temperature).Sleeps ∧
    (acquire everyMillisecondCfg idleEnvironment 0 1 (RoomPage.mk 1)).dones =
      [] ∧
    (acquire everyMillisecondCfg idleEnvironment 0 1
      (RoomPage.mk 1)).state.pageTime = 0 ∧
    (acquire everyMillisecondCfg idleEnvironment 0 1 (RoomPage.mk 1)).log =
      [(0, .push .pressure none true),
        (0, .send (startCommand .temperature))] ∧
    ∀ count,
      (acquire everyMillisecondCfg idleEnvironment 0 1 (RoomPage.mk 1)).log ≠
        (schedule everyMillisecondCfg idleEnvironment.results count 0
          (RoomPage.mk 1)).log := by
  have logged : (acquire everyMillisecondCfg idleEnvironment 0 1
      (RoomPage.mk 1)).log =
      [(0, .push .pressure none true),
        (0, .send (startCommand .temperature))] := by decide
  refine ⟨⟨?_, ?_⟩, by decide, by decide, by decide, logged, ?_⟩
  · intro ch
    cases ch <;> decide
  · intro ch
    cases ch <;> decide
  · intro count
    rw [logged]
    cases count with
    | zero => exact List.cons_ne_nil _ _
    | succ count =>
        rw [schedule_succ_of_full idleEnvironment.results count (by decide)]
        decide

end SelfWriter.Recorder
