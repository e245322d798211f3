import SelfWriter.Sensors.MasterCounter

/-!
# The uptime

A task reads the master counter, the extender and the pending bit of the
overflow interrupt one after the other (`uptime_ms`, `value64` and
`wrap_result_if_ovf_common` of `sensors/freqmeter/master_counter.rs`), without
a critical section; that the counter has wrapped is found out and dropped.
Interrupts may run between the reads, or be about to run.
-/

namespace SelfWriter.Sensors.Uptime

open SelfWriter.Lib SelfWriter.Lib.Word32 SelfWriter.Sensors.Master

/-! ## The value -/

/-- The counter register without the overflow flag. -/
def counterValue (count : Nat) (uif : Bool) : UInt32 :=
  latch count uif &&& 0xFFFF

def wrapResultIfOvf64 (extander : UInt32) (irqPending : Bool) (value : UInt32) :
    UInt64 × Bool :=
  let (extWraped, value, wasWraped) :=
    wrapResultIfOvfCommon extander irqPending value
  (value.toUInt64 ||| (extWraped.toUInt64 <<< 16), wasWraped)

def uptimeMs (fRef : UInt32) (value64 : UInt64) : UInt64 :=
  value64 / (fRef / 1000).toUInt64

private theorem toNat_counterValue (count : Nat) (uif : Bool) :
    (counterValue count uif).toNat = count % 2 ^ 16 := by
  have mask : (0xFFFF : UInt32).toNat = 2 ^ 16 - 1 := rfl
  rw [counterValue, UInt32.toNat_and, mask, Nat.and_two_pow_sub_one_eq_mod, latch]
  cases uif with
  | false =>
      rw [if_neg Bool.false_ne_true, toNat_low, Nat.mod_mod]
  | true =>
      have flag : uifCpyMask.toNat = 2 ^ 16 * 2 ^ 15 := by decide
      rw [if_pos rfl, UInt32.toNat_or, toNat_low, flag, Nat.or_mod_two_pow,
        Nat.mul_mod_right, Nat.or_zero, Nat.mod_mod]

/-- The halves are put together, whatever the pending bit says. -/
theorem toNat_wrapResultIfOvf64 (extander : UInt32) (irqPending : Bool)
    {value : UInt32} (small : value.toNat < 2 ^ 16) :
    (wrapResultIfOvf64 extander irqPending value).1.toNat =
      extander.toNat * 2 ^ 16 + value.toNat := by
  have high := extander.toNat_lt
  have shifted : (extander.toUInt64 <<< 16).toNat = extander.toNat <<< 16 := by
    rw [UInt64.toNat_shiftLeft, UInt32.toNat_toUInt64, Nat.shiftLeft_eq, Nat.shiftLeft_eq]
    change extander.toNat * 2 ^ 16 % 2 ^ 64 = _
    exact Nat.mod_eq_of_lt (by omega)
  change ((value &&& ~~~uifCpyMask).toUInt64 ||| _).toNat = _
  rw [uifCpyMask, and_not_topBit (by omega), UInt64.toNat_or, UInt32.toNat_toUInt64,
    shifted, Nat.or_comm, ← Nat.shiftLeft_add_eq_or_of_lt small, Nat.shiftLeft_eq]

/-! ## The reading task -/

/-- What is known of a call of `uptime_ms` beyond what the program keeps: the
count when the counter was read, whether an overflow was outstanding then, and
how many the interrupt counted before the extender was read. -/
structure Reading where
  taken : Nat
  outstanding : Bool
  countedSince : Nat
  deriving DecidableEq, Repr

/-- Where a call of `uptime_ms` is. -/
inductive Reader where
  | idle
  | counterRead (value : UInt32) (reading : Reading)
  | extanderRead (value extander : UInt32) (reading : Reading)
  deriving DecidableEq, Repr

/-- A returned uptime, and the value that it was computed from. -/
structure Returned where
  reading : Reading
  value64 : UInt64
  uptime : UInt64
  deriving DecidableEq, Repr

structure State where
  master : Master.State
  reader : Reader
  returned : List Returned

/-- A task runs only while no interrupt does; one may be pending. -/
def State.taskRuns (state : State) : Bool :=
  state.master.ovfHandler = .idle && state.master.captureHandler.isIdle

/-- Any tick, also one that overflows while an overflow is outstanding. -/
def tick (master : Master.State) : Master.State :=
  if (master.count + 1) % 2 ^ 16 = 0 then
    { master with count := master.count + 1, uif := true, irqPending := true }
  else
    { master with count := master.count + 1 }

/-- The extender is about to be incremented. -/
def incrementing (master : Master.State) (label : Master.Label) : Bool :=
  label = .ovfIrq && master.ovfHandler = .incrementing

/-- An overflow is counted during a call, or is not. -/
def Reader.sees (counted : Bool) : Reader → Reader
  | .counterRead value reading =>
      .counterRead value
        { reading with countedSince := reading.countedSince + counted.toNat }
  | reader => reader

/-- What a call reads, in this order. -/
inductive Place where
  | counter
  | extander
  | pending
  deriving DecidableEq, Repr

inductive Label where
  | tick
  | master (label : Master.Label)
  | read (place : Place)
  deriving DecidableEq, Repr

section Machine

variable (fRef : UInt32)

/-- The steps of the task.  `none` is also the panic of the division, with a
clock below one kilohertz. -/
def read (state : State) : Place → Option State
  | .counter =>
      match state.reader with
      | .idle =>
          some { state with
            reader := .counterRead
              (counterValue state.master.count state.master.uif)
              { taken := state.master.count
                outstanding := state.master.outstanding
                countedSince := 0 } }
      | _ => none
  | .extander =>
      match state.reader with
      | .counterRead value reading =>
          some { state with
            reader := .extanderRead value state.master.extander reading }
      | _ => none
  | .pending =>
      match state.reader with
      | .extanderRead value extander reading =>
          if fRef / 1000 = 0 then
            none
          else
            let value64 :=
              (wrapResultIfOvf64 extander state.master.irqPending value).1
            some { state with
              reader := .idle
              returned := state.returned ++
                [{ reading := reading
                   value64 := value64
                   uptime := uptimeMs fRef value64 }] }
      | _ => none

def step (state : State) : Label → Option State
  | .tick => some { state with master := tick state.master }
  | .master .tick => none
  | .master label =>
      (Master.step state.master label).map (fun master =>
        { state with
          master := master
          reader := state.reader.sees (incrementing state.master label) })
  | .read place => if state.taskRuns then read fRef state place else none

def initialState : State where
  master := Master.initialState
  reader := .idle
  returned := []

def uptimeMachine : Machine State Label where
  start := initialState
  step := step fRef

end Machine

/-! ## Conditions on a run -/

/-- Fewer than 2^48 ticks are counted, and no overflow comes before the one
before it was counted. -/
def KeepsUp (state : State) : Label → Prop
  | .tick => state.master.count + 1 < 2 ^ 48 ∧
      ((state.master.count + 1) % 2 ^ 16 = 0 → state.master.outstanding = false)
  | _ => True

instance (state : State) : ∀ label, Decidable (KeepsUp state label)
  | .tick => inferInstanceAs (Decidable (_ ∧ _))
  | .master _ | .read _ => inferInstanceAs (Decidable True)

/-- Between the reads of the counter and of the extender, the interrupt counts
the overflow that was outstanding at the first of them, and no other. -/
def Reader.Undivided : Reader → Prop
  | .counterRead _ reading => reading.countedSince = reading.outstanding.toNat
  | _ => True

instance : ∀ reader : Reader, Decidable reader.Undivided
  | .counterRead _ _ => inferInstanceAs (Decidable (_ = _))
  | .idle | .extanderRead _ _ _ => inferInstanceAs (Decidable True)

/-- The condition on a step. -/
def Orderly (state : State) (label : Label) : Prop :=
  KeepsUp state label ∧ (label = .read .extander → state.reader.Undivided)

instance (state : State) (label : Label) : Decidable (Orderly state label) :=
  inferInstanceAs (Decidable (_ ∧ _))

/-! ## What one step keeps -/

/-- Everything but a tick leaves the count, and an overflow stays outstanding
until it is counted. -/
theorem outstanding_step {high : Nat} {before after : Master.State}
    (counts : Counts high before) {label : Master.Label} (other : label ≠ .tick)
    (steps : Master.step before label = some after) :
    after.count = before.count ∧
      before.outstanding.toNat =
        after.outstanding.toNat + (incrementing before label).toNat := by
  cases label with
  | tick => exact absurd rfl other
  | capture channel =>
      cases steps
      exact ⟨rfl, rfl⟩
  | serve channel =>
      change serve channel before = some after at steps
      rw [serve] at steps
      split at steps
      · cases steps
        exact ⟨rfl, rfl⟩
      · cases steps
  | capturing =>
      change capturing before = some after at steps
      rw [capturing] at steps
      split at steps
      · cases steps
      all_goals
        cases steps
        exact ⟨rfl, rfl⟩
  | ovfIrq =>
      have flags := counts.flags
      obtain ⟨_, handled⟩ := ovfIrq_steps steps
      rw [FlagsMatch] at flags
      cases handled with
      | clears handler =>
          rw [handler] at flags
          refine ⟨rfl, ?_⟩
          simp [State.outstanding, incrementing, handler, flags]
      | increments handler =>
          rw [handler] at flags
          refine ⟨rfl, ?_⟩
          simp [State.outstanding, incrementing, handler, flags]
      | enters handler _ | locks handler | unpends handler | unlocks handler
      | returns handler =>
          refine ⟨rfl, ?_⟩
          simp [State.outstanding, incrementing, handler]

/-- The overflows that were counted go up by those that are counted in the
step. -/
theorem step_counted {high : Nat} {before after : Master.State}
    (counts : Counts high before) (isExact : ResultsExact before)
    {label : Master.Label} (other : label ≠ .tick)
    (steps : Master.step before label = some after) :
    Counts (high + (incrementing before label).toNat) after ∧ ResultsExact after ∧
      after.count = before.count := by
  obtain ⟨sameCount, outstanding⟩ := outstanding_step counts other steps
  obtain ⟨⟨high', countsAfter⟩, isExactAfter⟩ := step_counts counts isExact steps
  have count := counts.count
  have countAfter := countsAfter.count
  have known : high' = high + (incrementing before label).toNat := by
    rw [sameCount] at countAfter
    omega
  rw [← known]
  exact ⟨countsAfter, isExactAfter, sameCount⟩

/-- A tick that keeps up is one of the counter's steps. -/
theorem tick_keepsUp {state : State} (keepsUp : KeepsUp state .tick) :
    Master.step state.master .tick = some (tick state.master) := by
  change Master.tick state.master = _
  rw [Master.tick, tick]
  split
  · rename_i overflows
    rw [keepsUp.2 overflows, if_neg Bool.false_ne_true]
  · rfl

/-! ## The invariant -/

/-- What a call has read so far, after `high` counted overflows. -/
def Reader.Consistent (high count : Nat) : Reader → Prop
  | .idle => True
  | .counterRead value reading =>
      value.toNat = reading.taken % 2 ^ 16 ∧ reading.taken ≤ count ∧
        high + reading.outstanding.toNat =
          reading.taken / 2 ^ 16 + reading.countedSince
  | .extanderRead value extander reading =>
      value.toNat = reading.taken % 2 ^ 16 ∧ reading.taken ≤ count ∧
        extander.toNat + reading.outstanding.toNat =
          reading.taken / 2 ^ 16 + reading.countedSince

/-- The count that the next returned value is about, or at least. -/
def State.latest (state : State) : Nat :=
  match state.reader with
  | .idle => state.master.count
  | .counterRead _ reading | .extanderRead _ _ reading => reading.taken

/-- A returned value misses the count by the overflows that were outstanding
when the counter was read, and those that were counted until the extender was
read. -/
def Returned.Consistent (fRef : UInt32) (returned : Returned) : Prop :=
  returned.value64.toNat + 2 ^ 16 * returned.reading.outstanding.toNat =
      returned.reading.taken + 2 ^ 16 * returned.reading.countedSince ∧
    returned.uptime = uptimeMs fRef returned.value64

structure Consistent (fRef : UInt32) (high : Nat) (state : State) : Prop where
  counts : Counts high state.master
  captures : ResultsExact state.master
  bounded : state.master.count < 2 ^ 48
  reader : state.reader.Consistent high state.master.count
  returned : ∀ returned ∈ state.returned, returned.Consistent fRef
  ordered : state.returned.Pairwise
    (fun earlier later => earlier.reading.taken ≤ later.reading.taken)
  latest : ∀ returned ∈ state.returned, returned.reading.taken ≤ state.latest

private theorem sees_false (reader : Reader) : reader.sees false = reader := by
  cases reader <;> rfl

/-- Ticks and interrupts during a call. -/
theorem Consistent.master {fRef : UInt32} {high : Nat} {state : State}
    (consistent : Consistent fRef high state) {counted : Bool} {master : Master.State}
    (counts : Counts (high + counted.toNat) master) (captures : ResultsExact master)
    (later : state.master.count ≤ master.count) (bounded : master.count < 2 ^ 48) :
    Consistent fRef (high + counted.toNat)
      { state with master := master, reader := state.reader.sees counted } := by
  have reader := consistent.reader
  have latest := consistent.latest
  rw [State.latest] at latest
  refine ⟨counts, captures, bounded, ?_, consistent.returned, consistent.ordered, ?_⟩
  · cases isReader : state.reader with
    | idle => trivial
    | counterRead value reading =>
        rw [isReader] at reader
        obtain ⟨low, before, counting⟩ := reader
        refine ⟨low, Nat.le_trans before later, ?_⟩
        change high + counted.toNat + reading.outstanding.toNat =
          reading.taken / 2 ^ 16 + (reading.countedSince + counted.toNat)
        omega
    | extanderRead value extander reading =>
        rw [isReader] at reader
        obtain ⟨low, before, counting⟩ := reader
        exact ⟨low, Nat.le_trans before later, counting⟩
  · intro returned member
    have before := latest returned member
    rw [State.latest]
    cases isReader : state.reader with
    | idle =>
        rw [isReader] at before
        exact Nat.le_trans before later
    | counterRead value reading =>
        rw [isReader] at before
        exact before
    | extanderRead value extander reading =>
        rw [isReader] at before
        exact before

/-! ### The three reads -/

section Reads

variable {fRef : UInt32} {high : Nat} {state after : State}

theorem Consistent.readCounter (consistent : Consistent fRef high state)
    (reads : read fRef state .counter = some after) :
    Consistent fRef high after := by
  have latest := consistent.latest
  rw [State.latest] at latest
  simp only [read] at reads
  cases isReader : state.reader with
  | idle =>
      rw [isReader] at reads latest
      cases reads
      exact ⟨consistent.counts, consistent.captures, consistent.bounded,
        ⟨toNat_counterValue _ _, Nat.le_refl _, consistent.counts.count.symm⟩,
        consistent.returned, consistent.ordered, latest⟩
  | _ =>
      rw [isReader] at reads
      cases reads

/-- The extender holds what was counted, as long as it does not wrap. -/
theorem Consistent.toNat_extander (consistent : Consistent fRef high state) :
    state.master.extander.toNat = high := by
  have bounded := consistent.bounded
  have count := consistent.counts.count
  rw [consistent.counts.extander, UInt32.toNat_ofNat']
  exact Nat.mod_eq_of_lt (by omega)

theorem Consistent.readExtander (consistent : Consistent fRef high state)
    (reads : read fRef state .extander = some after) :
    Consistent fRef high after := by
  have reader := consistent.reader
  have latest := consistent.latest
  rw [State.latest] at latest
  simp only [read] at reads
  cases isReader : state.reader with
  | counterRead value reading =>
      rw [isReader] at reads reader latest
      cases reads
      obtain ⟨low, before, counting⟩ := reader
      refine ⟨consistent.counts, consistent.captures, consistent.bounded,
        ⟨low, before, ?_⟩, consistent.returned, consistent.ordered, latest⟩
      rw [consistent.toNat_extander]
      exact counting
  | _ =>
      rw [isReader] at reads
      cases reads

theorem Consistent.readPending (consistent : Consistent fRef high state)
    (reads : read fRef state .pending = some after) :
    Consistent fRef high after := by
  have reader := consistent.reader
  have latest := consistent.latest
  rw [State.latest] at latest
  simp only [read] at reads
  cases isReader : state.reader with
  | extanderRead value extander reading =>
      rw [isReader] at reads reader latest
      dsimp only at reads
      split at reads
      · cases reads
      · cases reads
        obtain ⟨low, before, counting⟩ := reader
        refine ⟨consistent.counts, consistent.captures, consistent.bounded, trivial,
          ?_, ?_, ?_⟩
        · intro returned member
          rcases List.mem_append.mp member with earlier | new
          · exact consistent.returned returned earlier
          · rw [List.mem_singleton.mp new]
            refine ⟨?_, rfl⟩
            change UInt64.toNat _ + 2 ^ 16 * reading.outstanding.toNat =
              reading.taken + 2 ^ 16 * reading.countedSince
            rw [toNat_wrapResultIfOvf64 _ _ (by omega), low]
            omega
        · refine List.pairwise_append.mpr
            ⟨consistent.ordered, List.pairwise_singleton _ _, ?_⟩
          intro earlier member new isNew
          rw [List.mem_singleton.mp isNew]
          exact latest earlier member
        · intro returned member
          rcases List.mem_append.mp member with earlier | new
          · exact Nat.le_trans (latest returned earlier) before
          · rw [List.mem_singleton.mp new]
            exact before
  | _ =>
      rw [isReader] at reads
      cases reads

end Reads

/-! ### All steps -/

theorem step_master (fRef : UInt32) (state : State) {label : Master.Label}
    (other : label ≠ .tick) :
    step fRef state (.master label) =
      (Master.step state.master label).map (fun master =>
        { state with
          master := master
          reader := state.reader.sees (incrementing state.master label) }) := by
  cases label with
  | tick => exact absurd rfl other
  | _ => rfl

theorem step_consistent {fRef : UInt32} {high : Nat} {state after : State}
    (consistent : Consistent fRef high state) {label : Label}
    (keepsUp : KeepsUp state label) (steps : step fRef state label = some after) :
    ∃ high', Consistent fRef high' after := by
  cases label with
  | tick =>
      cases steps
      have ticks := tick_keepsUp keepsUp
      have counts := tick_counts consistent.counts ticks
      have captures : ResultsExact (tick state.master) := by
        rw [ResultsExact, results_of_other Master.Label.noConfusion ticks]
        exact consistent.captures
      have next : (tick state.master).count = state.master.count + 1 := by
        rw [tick]
        split <;> rfl
      have keeps := @Consistent.master fRef high state consistent false
        (tick state.master) counts captures (by omega) (by rw [next]; exact keepsUp.1)
      rw [sees_false] at keeps
      exact ⟨high, keeps⟩
  | master label =>
      by_cases isTick : label = .tick
      · rw [isTick] at steps
        cases steps
      · rw [step_master fRef state isTick] at steps
        obtain ⟨master, masterSteps, rfl⟩ := Option.map_eq_some_iff.mp steps
        obtain ⟨counts, captures, sameCount⟩ :=
          step_counted consistent.counts consistent.captures isTick masterSteps
        refine ⟨_, consistent.master counts captures (Nat.le_of_eq sameCount.symm) ?_⟩
        rw [sameCount]
        exact consistent.bounded
  | read place =>
      rw [step] at steps
      split at steps
      · cases place with
        | counter => exact ⟨high, consistent.readCounter steps⟩
        | extander => exact ⟨high, consistent.readExtander steps⟩
        | pending => exact ⟨high, consistent.readPending steps⟩
      · cases steps

/-! ## Whole runs -/

theorem initialState_consistent (fRef : UInt32) : Consistent fRef 0 initialState where
  counts := initialState_counts
  captures _ member := absurd member List.not_mem_nil
  bounded := by decide
  reader := trivial
  returned _ member := absurd member List.not_mem_nil
  ordered := List.Pairwise.nil
  latest _ member := absurd member List.not_mem_nil

theorem reaches_consistent {fRef : UInt32} {state : State}
    (reaches : (uptimeMachine fRef).Reaches KeepsUp state) :
    ∃ high, Consistent fRef high state :=
  Machine.Reaches.invariant (I := fun state => ∃ high, Consistent fRef high state)
    ⟨0, initialState_consistent fRef⟩
    (fun _ _ _ consistent keepsUp steps =>
      step_consistent consistent.choose_spec keepsUp steps)
    reaches

/-- As long as no overflow is missed, a value is the count when the counter was
read exactly when the call was undivided. -/
theorem returned_exact_iff {fRef : UInt32} {state : State}
    (reaches : (uptimeMachine fRef).Reaches KeepsUp state) {returned : Returned}
    (member : returned ∈ state.returned) :
    returned.value64.toNat = returned.reading.taken ↔
      returned.reading.countedSince = returned.reading.outstanding.toNat := by
  obtain ⟨high, consistent⟩ := reaches_consistent reaches
  have value := (consistent.returned returned member).1
  omega

/-- The calls so far were undivided. -/
structure AllUndivided (state : State) : Prop where
  returned : ∀ returned ∈ state.returned,
    returned.reading.countedSince = returned.reading.outstanding.toNat
  reader : ∀ value extander reading,
    state.reader = .extanderRead value extander reading →
      reading.countedSince = reading.outstanding.toNat

private theorem read_allUndivided {fRef : UInt32} {state after : State}
    (undivided : AllUndivided state) {place : Place}
    (orderly : Orderly state (.read place))
    (reads : read fRef state place = some after) : AllUndivided after := by
  cases place with
  | counter =>
      simp only [read] at reads
      split at reads
      · cases reads
        exact ⟨undivided.returned, fun _ _ _ isRead => Reader.noConfusion isRead⟩
      · cases reads
  | extander =>
      simp only [read] at reads
      split at reads
      · rename_i value reading isReader
        have now := orderly.2 rfl
        rw [isReader] at now
        cases reads
        refine ⟨undivided.returned, ?_⟩
        intro _ _ _ isRead
        cases isRead
        exact now
      · cases reads
  | pending =>
      simp only [read] at reads
      split at reads
      · rename_i value extander reading isReader
        split at reads
        · cases reads
        · cases reads
          refine ⟨?_, fun _ _ _ isRead => Reader.noConfusion isRead⟩
          intro returned member
          rcases List.mem_append.mp member with earlier | new
          · exact undivided.returned returned earlier
          · rw [List.mem_singleton.mp new]
            exact undivided.reader value extander reading isReader
      · cases reads

/-- What an interrupt counts after the extender was read is not part of the
call. -/
theorem sees_allUndivided {state : State} (undivided : AllUndivided state)
    (counted : Bool) (master : Master.State) :
    AllUndivided
      { state with master := master, reader := state.reader.sees counted } := by
  refine ⟨undivided.returned, ?_⟩
  intro value extander reading isRead
  apply undivided.reader value extander reading
  cases isReader : state.reader with
  | idle =>
      rw [isReader] at isRead
      cases isRead
  | counterRead _ _ =>
      rw [isReader] at isRead
      cases isRead
  | extanderRead _ _ _ =>
      rw [isReader] at isRead
      exact isRead

theorem step_allUndivided {fRef : UInt32} {state after : State}
    (undivided : AllUndivided state) {label : Label} (orderly : Orderly state label)
    (steps : step fRef state label = some after) : AllUndivided after := by
  cases label with
  | tick =>
      cases steps
      exact ⟨undivided.returned, undivided.reader⟩
  | master label =>
      by_cases isTick : label = .tick
      · rw [isTick] at steps
        cases steps
      · rw [step_master fRef state isTick] at steps
        obtain ⟨master, _, rfl⟩ := Option.map_eq_some_iff.mp steps
        exact sees_allUndivided undivided _ master
  | read place =>
      rw [step] at steps
      split at steps
      · exact read_allUndivided undivided orderly steps
      · cases steps

theorem reaches_allUndivided {fRef : UInt32} {state : State}
    (reaches : (uptimeMachine fRef).Reaches Orderly state) : AllUndivided state :=
  reaches.invariant
    ⟨fun _ member => absurd member List.not_mem_nil,
      fun _ _ _ isRead => Reader.noConfusion isRead⟩
    (fun _ _ _ undivided orderly steps => step_allUndivided undivided orderly steps)

/-- In a run whose calls are undivided, what a call returns is the true count
when it read the counter, in milliseconds. -/
theorem uptime_eq {fRef : UInt32} {state : State}
    (reaches : (uptimeMachine fRef).Reaches Orderly state) {returned : Returned}
    (member : returned ∈ state.returned) :
    returned.uptime.toNat = returned.reading.taken / (fRef / 1000).toNat := by
  have keepsUp := reaches.mono (fun _ _ orderly => orderly.1)
  obtain ⟨high, consistent⟩ := reaches_consistent keepsUp
  have undivided := (reaches_allUndivided reaches).returned returned member
  have value := (returned_exact_iff keepsUp member).mpr undivided
  rw [(consistent.returned returned member).2, uptimeMs, UInt64.toNat_div, value,
    UInt32.toNat_toUInt64]

/-- Uptime never runs backwards, in every run in which no overflow is missed
and no call is divided by the overflow interrupt. -/
theorem uptime_monotone {fRef : UInt32} {state : State}
    (reaches : (uptimeMachine fRef).Reaches Orderly state) :
    state.returned.Pairwise (fun earlier later => earlier.uptime ≤ later.uptime) := by
  obtain ⟨high, consistent⟩ :=
    reaches_consistent (reaches.mono (fun _ _ orderly => orderly.1))
  refine consistent.ordered.imp_of_mem ?_
  intro earlier later isEarlier isLater order
  rw [UInt64.le_iff_toNat_le, uptime_eq reaches isEarlier, uptime_eq reaches isLater]
  exact Nat.div_le_div_right order

/-- Two calls after the first overflow has been counted. -/
theorem uptime_monotone_twice :
    ∃ state : State, state.returned.length = 2 ∧
      state.returned.Pairwise
        (fun earlier later => earlier.uptime ≤ later.uptime) :=
  ⟨_, rfl, uptime_monotone (Machine.Reaches.runWithin
    (List.replicate 7 (.master .ovfIrq) ++
      [.read .counter, .read .extander, .read .pending, .tick,
        .read .counter, .read .extander, .read .pending])
    (Machine.Reaches.start : (uptimeMachine 3000000).Reaches Orderly _) rfl)⟩

/-! ## A wrap between two calls -/

/-- Ticks that do not overflow. -/
theorem run_ticks {fRef : UInt32} (ticks : Nat) :
    ∀ {state : State}, state.master.count % 2 ^ 16 + ticks < 2 ^ 16 →
      (uptimeMachine fRef).run state (List.replicate ticks .tick) =
        some { state with
          master := { state.master with count := state.master.count + ticks } } := by
  induction ticks with
  | zero =>
      intro state _
      rfl
  | succ ticks inductionHypothesis =>
      intro state inside
      have noOverflow : (state.master.count + 1) % 2 ^ 16 ≠ 0 := by omega
      have first : (uptimeMachine fRef).step state .tick =
          some { state with
            master := { state.master with count := state.master.count + 1 } } := by
        change some { state with master := tick state.master } = _
        rw [tick, if_neg noOverflow]
      rw [List.replicate_succ, Machine.run, first, Option.bind_some,
        inductionHypothesis (by dsimp only; omega)]
      dsimp only
      rw [Nat.add_assoc, Nat.add_comm 1]

/-- The first overflow has been counted. -/
def afterBoot (count : Nat) : State :=
  { initialState with
    master := { Master.initialState with
      count := count
      uif := false
      irqPending := false
      extander := 1 } }

/-- The next overflow is one tick away. -/
def beforeWrap : State :=
  afterBoot (65536 + 65535)

theorem reachable_beforeWrap : (uptimeMachine 3000000).Reachable beforeWrap := by
  have counted : (uptimeMachine 3000000).Reachable (afterBoot 65536) :=
    Machine.Reaches.run (List.replicate 7 (.master .ovfIrq)) .start rfl
  have ticks := @run_ticks 3000000 65535 (afterBoot 65536) (by decide)
  exact Machine.Reaches.run _ counted ticks

/-- A call before the wrap, and one behind it before the interrupt has counted
it: 43 milliseconds, and then 21. -/
theorem uptime_backwards :
    ∃ state : State, (uptimeMachine 3000000).Reachable state ∧
      state.master.count < 2 ^ 48 ∧
      state.returned.map Returned.uptime = [43, 21] ∧
      ¬ state.returned.Pairwise
        (fun earlier later => earlier.uptime ≤ later.uptime) := by
  refine ⟨_, Machine.Reaches.run
    [.read .counter, .read .extander, .read .pending, .tick,
      .read .counter, .read .extander, .read .pending]
    reachable_beforeWrap rfl, by decide, rfl, ?_⟩
  decide

end SelfWriter.Sensors.Uptime
