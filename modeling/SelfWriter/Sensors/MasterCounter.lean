import Mathlib.Logic.Function.Basic
import SelfWriter.Command
import SelfWriter.Lib.Machine
import SelfWriter.Lib.Word32

/-!
# The master counter

A 16-bit timer counts the ticks, its overflow interrupt counts the overflows
(`sensors/freqmeter/master_counter.rs`,
`sensors/freqmeter/hw_master/master_l433.rs`).  The timer copies its overflow
flag into bit 31 of the counter register, which the capture channels read.

The capture interrupts are served before the overflow interrupt, and they
preempt it outside of its critical section; at most one overflow is
outstanding.
-/

namespace SelfWriter.Sensors.Master

open SelfWriter.Lib SelfWriter.Lib.Word32

/-! ## Reconstruction of a captured value -/

def uifCpyMask : UInt32 := topBit

/-- The extender, the value without the flag, and whether an overflow was seen. -/
def wrapResultIfOvfCommon (extander : UInt32) (irqPending : Bool)
    (value : UInt32) : UInt32 × UInt32 × Bool :=
  let wasWraped := value &&& uifCpyMask ≠ 0 || irqPending
  (extander, value &&& ~~~uifCpyMask, wasWraped)

def wrapResultIfOvf (extander : UInt32) (irqPending : Bool) (value : UInt32) :
    UInt32 × Bool :=
  let (extWraped, value, wasWraped) :=
    wrapResultIfOvfCommon extander irqPending value
  (value ||| (extWraped <<< 16), wasWraped)

/-- The counter register: the low half of the count, and the overflow flag. -/
def latch (count : Nat) (uif : Bool) : UInt32 :=
  if uif then UInt32.ofNat (count % 2 ^ 16) ||| uifCpyMask
  else UInt32.ofNat (count % 2 ^ 16)

theorem toNat_low (count : Nat) :
    (UInt32.ofNat (count % 2 ^ 16)).toNat = count % 2 ^ 16 := by
  apply Nat.mod_eq_of_lt
  omega

private theorem wrapResultIfOvf_of_uif (extander : UInt32) (irqPending : Bool)
    (count : Nat) :
    (wrapResultIfOvf extander irqPending (latch count true)).2 = true := by
  have flagged : latch count true &&& uifCpyMask ≠ 0 := by
    rw [latch, if_pos rfl, uifCpyMask, or_and_topBit]
    decide
  change (decide _ || _) = true
  rw [decide_eq_true flagged, Bool.true_or]

/-- Without the overflow flag the halves are put together. -/
theorem wrapResultIfOvf_of_not_uif (high : Nat) (irqPending : Bool)
    (count : Nat) :
    (wrapResultIfOvf (UInt32.ofNat high) irqPending
      (latch count false)).1.toNat =
        high % 2 ^ 16 * 2 ^ 16 + count % 2 ^ 16 := by
  have small : (UInt32.ofNat (count % 2 ^ 16)).toNat < 2 ^ 16 := by
    rw [toNat_low]
    omega
  change ((latch count false &&& ~~~uifCpyMask) ||| _).toNat = _
  rw [latch, if_neg Bool.false_ne_true, uifCpyMask,
    and_not_topBit (by omega), toNat_or_shiftLeft16 small, toNat_low,
    UInt32.toNat_ofNat']
  omega

/-! ## States -/

/-- Where the handler of the overflow interrupt is; the critical section is
from `clearing` to `counted`. -/
inductive OvfHandler where
  | idle
  | entered
  | clearing
  | unpending
  | incrementing
  | counted
  | left
  deriving DecidableEq, Repr

/-- What a channel of the DMA controller has latched, and the count at that
time. -/
structure Dma where
  buffer : UInt32
  taken : Nat
  irqPending : Bool

/-- Where the capture interrupt is: before its buffer is read, before the
extender is read, before the pending bit is read, before the end of
`cycle_finished`. -/
inductive CaptureHandler where
  | idle
  | entered (channel : FChannel)
  | called (channel : FChannel) (captured : UInt32) (taken : Nat)
  | extended (channel : FChannel) (captured : UInt32) (taken : Nat)
      (extander : UInt32)
  | sent (channel : FChannel)

/-- An answer of `update_captured_value` to a capture. -/
structure Updated where
  taken : Nat
  value : UInt32
  wraped : Bool
  deriving DecidableEq, Repr

/-- `count` is the true count of ticks. -/
structure State where
  count : Nat
  uif : Bool
  irqPending : Bool
  extander : UInt32
  ovfHandler : OvfHandler
  dma : FChannel → Dma
  captureHandler : CaptureHandler
  results : List Updated

def OvfHandler.critical : OvfHandler → Bool
  | clearing | unpending | incrementing | counted => true
  | idle | entered | left => false

/-- An overflow that the extender does not count yet. -/
def State.outstanding (state : State) : Bool :=
  state.uif || state.ovfHandler = .unpending ||
    state.ovfHandler = .incrementing

def State.captureWaits (state : State) : Bool :=
  (state.dma .pressure).irqPending || (state.dma .temperature).irqPending

def CaptureHandler.isIdle : CaptureHandler → Bool
  | idle => true
  | _ => false

def State.setDma (channel : FChannel) (dma : Dma) (state : State) : State :=
  { state with dma := Function.update state.dma channel dma }

@[simp]
theorem setDma_self (channel : FChannel) (dma : Dma) (state : State) :
    (state.setDma channel dma).dma channel = dma :=
  Function.update_self ..

private theorem setDma_other {channel owner : FChannel} (other : owner ≠ channel)
    (dma : Dma) (state : State) :
    (state.setDma channel dma).dma owner = state.dma owner :=
  Function.update_of_ne other ..

/-! ## Steps -/

def tick (state : State) : Option State :=
  if (state.count + 1) % 2 ^ 16 = 0 then
    if state.outstanding then
      none
    else
      some { state with
        count := state.count + 1
        uif := true
        irqPending := true }
  else
    some { state with count := state.count + 1 }

def capture (channel : FChannel) (state : State) : State :=
  state.setDma channel
    { buffer := latch state.count state.uif
      taken := state.count
      irqPending := true }

/-- The capture interrupt is taken, unless interrupts are disabled. -/
def serve (channel : FChannel) (state : State) : Option State :=
  if (state.dma channel).irqPending && state.captureHandler.isIdle &&
      !state.ovfHandler.critical then
    some { state.setDma channel { state.dma channel with irqPending := false } with
      captureHandler := .entered channel }
  else
    none

/-- The capture interrupt: `call_dma_cb` and `cycle_finished`. -/
def capturing (state : State) : Option State :=
  match state.captureHandler with
  | .idle => none
  | .entered channel =>
      some { state with
        captureHandler :=
          .called channel (state.dma channel).buffer (state.dma channel).taken }
  | .called channel captured taken =>
      some { state with
        captureHandler := .extended channel captured taken state.extander }
  | .extended channel captured taken extander =>
      let answer := wrapResultIfOvf extander state.irqPending captured
      some { state with
        results := state.results ++
          [{ taken := taken, value := answer.1, wraped := answer.2 }]
        captureHandler := .sent channel }
  | .sent channel =>
      some { state.setDma channel
          { state.dma channel with irqPending := false } with
        captureHandler := .idle }

/-- The overflow interrupt, `ovf_irq`.  The line stays pending when the flag is
set again before the handler returns. -/
def ovfIrq (state : State) : Option State :=
  if state.captureHandler.isIdle &&
      (state.ovfHandler.critical || !state.captureWaits) then
    match state.ovfHandler with
    | .idle =>
        if state.irqPending then
          some { state with irqPending := false, ovfHandler := .entered }
        else
          none
    | .entered => some { state with ovfHandler := .clearing }
    | .clearing => some { state with uif := false, ovfHandler := .unpending }
    | .unpending =>
        some { state with irqPending := false, ovfHandler := .incrementing }
    | .incrementing =>
        some { state with
          extander := state.extander + 1
          ovfHandler := .counted }
    | .counted => some { state with ovfHandler := .left }
    | .left => some { state with irqPending := state.uif, ovfHandler := .idle }
  else
    none

inductive Label where
  | tick
  | capture (channel : FChannel)
  | serve (channel : FChannel)
  | capturing
  | ovfIrq
  deriving DecidableEq, Repr

def step (state : State) : Label → Option State
  | .tick => tick state
  | .capture channel => some (capture channel state)
  | .serve channel => serve channel state
  | .capturing => capturing state
  | .ovfIrq => ovfIrq state

/-- The update event that starts the timer sets the overflow flag: it is the
first overflow that is counted. -/
def initialState : State where
  count := 2 ^ 16
  uif := true
  irqPending := true
  extander := 0
  ovfHandler := .idle
  dma _ := { buffer := 0, taken := 0, irqPending := false }
  captureHandler := .idle
  results := []

def masterCounter : Machine State Label where
  start := initialState
  step := step

/-! ## The invariant -/

/-- The overflow interrupt has cleared the flag and not counted the overflow. -/
def OvfHandler.counts : OvfHandler → Bool
  | unpending | incrementing => true
  | _ => false

/-- While the flag is being cleared, every capture that waits has seen it.
Otherwise a capture that has not seen it was taken after as many overflows as
the extender has counted, or is about to. -/
def Latched (high : Nat) (handler : OvfHandler) (buffer : UInt32)
    (taken : Nat) : Prop :=
  buffer = latch taken true ∨
    buffer = latch taken false ∧ handler ≠ .clearing ∧
      taken / 2 ^ 16 = high + handler.counts.toNat

/-- A capture that a running interrupt has read. -/
def CaptureRead (high : Nat) : CaptureHandler → Prop
  | .idle | .entered _ | .sent _ => True
  | .called _ captured taken => Latched high .idle captured taken
  | .extended _ captured taken extander =>
      Latched high .idle captured taken ∧ extander = UInt32.ofNat high

/-- What the flags are while the overflow interrupt runs. -/
def FlagsMatch (state : State) : Prop :=
  match state.ovfHandler with
  | .idle => state.irqPending = true → state.uif = true
  | .entered | .clearing => state.uif = true
  | .unpending | .incrementing => state.uif = false
  | .counted | .left => True

/-- After `high` counted overflows. -/
structure Counts (high : Nat) (state : State) : Prop where
  extander : state.extander = UInt32.ofNat high
  count : state.count / 2 ^ 16 = high + state.outstanding.toNat
  flags : FlagsMatch state
  waiting : ∀ channel, (state.dma channel).irqPending = true ∨
      state.captureHandler = .entered channel →
    Latched high state.ovfHandler (state.dma channel).buffer
      (state.dma channel).taken
  preempts : state.captureHandler.isIdle = false →
    state.ovfHandler.critical = false
  read : CaptureRead high state.captureHandler

/-- What was not flagged is exact. -/
def ResultsExact (state : State) : Prop :=
  ∀ updated ∈ state.results, updated.wraped = false →
    updated.value.toNat = updated.taken % 2 ^ 32

/-! ## What one step keeps -/

private theorem counts_of_not_critical {handler : OvfHandler}
    (outside : handler.critical = false) : handler.counts = false := by
  cases handler with
  | unpending => cases outside
  | incrementing => cases outside
  | _ => rfl

/-- A capture that waits stays right as long as the overflows that are counted,
or about to be, stay the same. -/
theorem Latched.keeps {high high' taken : Nat} {handler after : OvfHandler}
    {buffer : UInt32} (latched : Latched high handler buffer taken)
    (notClearing : after ≠ .clearing)
    (same : high + handler.counts.toNat = high' + after.counts.toNat) :
    Latched high' after buffer taken := by
  rcases latched with flagged | ⟨isLatch, _, epoch⟩
  · exact Or.inl flagged
  · exact Or.inr ⟨isLatch, notClearing, epoch.trans same⟩

/-- Outside of the critical section a capture that waits can be read. -/
theorem Latched.read {high taken : Nat} {handler : OvfHandler} {buffer : UInt32}
    (latched : Latched high handler buffer taken)
    (outside : handler.critical = false) : Latched high .idle buffer taken := by
  apply latched.keeps OvfHandler.noConfusion
  rw [counts_of_not_critical outside]
  rfl

/-- What was captured, the extender that was read with it, and no flag. -/
theorem Latched.answered {high taken : Nat} {captured : UInt32} {irqPending : Bool}
    (latched : Latched high .idle captured taken)
    (notWraped :
      (wrapResultIfOvf (UInt32.ofNat high) irqPending captured).2 = false) :
    (wrapResultIfOvf (UInt32.ofNat high) irqPending captured).1.toNat =
      taken % 2 ^ 32 := by
  rcases latched with rfl | ⟨rfl, _, epoch⟩
  · rw [wrapResultIfOvf_of_uif] at notWraped
    cases notWraped
  · have isHigh : taken / 2 ^ 16 = high := epoch
    rw [wrapResultIfOvf_of_not_uif, ← isHigh]
    omega

/-- What is latched now waits rightly. -/
theorem Counts.latch {high : Nat} {state : State} (counts : Counts high state) :
    Latched high state.ovfHandler (latch state.count state.uif) state.count := by
  have flags := counts.flags
  have count := counts.count
  rw [FlagsMatch] at flags
  rw [State.outstanding] at count
  cases seen : state.uif with
  | true => exact Or.inl rfl
  | false =>
      refine Or.inr ⟨rfl, ?_, ?_⟩
      · intro clearing
        rw [clearing] at flags
        exact absurd (seen.symm.trans flags) Bool.false_ne_true
      · rw [seen] at count
        cases handler : state.ovfHandler with
        | unpending =>
            rw [handler] at count
            exact count
        | incrementing =>
            rw [handler] at count
            exact count
        | _ =>
            rw [handler] at count
            exact count

theorem tick_counts {high : Nat} {state after : State}
    (counts : Counts high state) (ticks : tick state = some after) :
    Counts high after := by
  have count := counts.count
  rw [tick] at ticks
  split at ticks
  · rename_i overflows
    split at ticks
    · cases ticks
    · rename_i nothing
      rw [Bool.not_eq_true] at nothing
      cases ticks
      rw [nothing] at count
      refine ⟨counts.extander, ?_, ?_, counts.waiting, counts.preempts,
        counts.read⟩
      · change (state.count + 1) / 2 ^ 16 = high + 1
        rw [Bool.toNat_false] at count
        omega
      · rw [FlagsMatch]
        cases handler : state.ovfHandler with
        | unpending => simp [State.outstanding, handler] at nothing
        | incrementing => simp [State.outstanding, handler] at nothing
        | idle => exact fun _ => rfl
        | entered => rfl
        | clearing => rfl
        | counted => trivial
        | left => trivial
  · rename_i within
    cases ticks
    refine ⟨counts.extander, ?_, counts.flags, counts.waiting, counts.preempts,
      counts.read⟩
    change (state.count + 1) / 2 ^ 16 = high + state.outstanding.toNat
    omega

private theorem capture_counts {high : Nat} {state : State} (counts : Counts high state)
    (channel : FChannel) : Counts high (capture channel state) := by
  refine ⟨counts.extander, counts.count, counts.flags, ?_, counts.preempts,
    counts.read⟩
  intro owner waits
  rw [capture] at waits ⊢
  by_cases own : owner = channel
  · subst own
    rw [setDma_self]
    exact counts.latch
  · rw [setDma_other own] at waits ⊢
    exact counts.waiting owner waits

private theorem serve_counts {high : Nat} {channel : FChannel} {state after : State}
    (counts : Counts high state) (serves : serve channel state = some after) :
    Counts high after := by
  rw [serve] at serves
  split at serves
  · rename_i enabled
    rw [Bool.and_eq_true, Bool.and_eq_true, Bool.not_eq_true'] at enabled
    obtain ⟨⟨pending, _⟩, outside⟩ := enabled
    cases serves
    refine ⟨counts.extander, counts.count, counts.flags, ?_, fun _ => outside,
      trivial⟩
    intro owner waits
    by_cases own : owner = channel
    · subst own
      simp only [setDma_self]
      exact counts.waiting owner (Or.inl pending)
    · simp only [setDma_other own] at waits ⊢
      rcases waits with waits | entered
      · exact counts.waiting owner (Or.inl waits)
      · cases entered
        exact absurd rfl own
  · cases serves

/-- Once the capture interrupt has read its buffer, only pending ones wait. -/
theorem Counts.waiting_of_read {high : Nat} {state : State}
    (counts : Counts high state) {handler : CaptureHandler}
    (isRead : ∀ channel, handler ≠ .entered channel) {owner : FChannel}
    (waits : (state.dma owner).irqPending = true ∨ handler = .entered owner) :
    Latched high state.ovfHandler (state.dma owner).buffer
      (state.dma owner).taken := by
  rcases waits with waits | entered
  · exact counts.waiting owner (Or.inl waits)
  · exact absurd entered (isRead owner)

/-- The capture interrupt reads its buffer and the extender, both outside of the
critical section. -/
theorem capturing_counts {high : Nat} {state after : State}
    (counts : Counts high state) (isExact : ResultsExact state)
    (captures : capturing state = some after) :
    Counts high after ∧ ResultsExact after := by
  have preempts := counts.preempts
  have read := counts.read
  rw [capturing] at captures
  cases handler : state.captureHandler with
  | idle =>
      rw [handler] at captures
      cases captures
  | entered channel =>
      rw [handler] at captures preempts
      cases captures
      have latched := counts.waiting channel (Or.inr handler)
      refine ⟨⟨counts.extander, counts.count, counts.flags, ?_, preempts,
        latched.read (preempts rfl)⟩, isExact⟩
      intro owner waits
      exact counts.waiting_of_read (fun _ => CaptureHandler.noConfusion) waits
  | called channel captured taken =>
      rw [handler] at captures preempts read
      cases captures
      refine ⟨⟨counts.extander, counts.count, counts.flags, ?_, preempts,
        ⟨read, counts.extander⟩⟩, isExact⟩
      intro owner waits
      exact counts.waiting_of_read (fun _ => CaptureHandler.noConfusion) waits
  | extended channel captured taken extander =>
      rw [handler] at captures preempts read
      cases captures
      obtain ⟨latched, rfl⟩ := read
      refine ⟨⟨counts.extander, counts.count, counts.flags, ?_, preempts,
        trivial⟩, ?_⟩
      · intro owner waits
        exact counts.waiting_of_read (fun _ => CaptureHandler.noConfusion) waits
      · intro updated member notWraped
        rcases List.mem_append.mp member with before | new
        · exact isExact updated before notWraped
        · rw [List.mem_singleton.mp new] at notWraped ⊢
          exact latched.answered notWraped
  | sent channel =>
      rw [handler] at captures preempts
      cases captures
      refine ⟨⟨counts.extander, counts.count, counts.flags, ?_, ?_, trivial⟩,
        isExact⟩
      · intro owner waits
        by_cases own : owner = channel
        · subst own
          simp only [setDma_self] at waits
          rcases waits with waits | entered
          · cases waits
          · cases entered
        · simp only [setDma_other own] at waits ⊢
          exact counts.waiting_of_read (fun _ => CaptureHandler.noConfusion) waits
      · intro busy
        cases busy

/-- The guard of the overflow interrupt: no capture interrupt runs, and none
waits unless interrupts are disabled. -/
structure Undisturbed (state : State) : Prop where
  alone : state.captureHandler.isIdle = true
  served : state.ovfHandler.critical = true ∨ state.captureWaits = false

/-- Nothing waits outside of the critical section. -/
theorem Undisturbed.noneWaits {state : State} (undisturbed : Undisturbed state)
    (outside : state.ovfHandler.critical = false) (channel : FChannel) :
    ¬ ((state.dma channel).irqPending = true ∨
      state.captureHandler = .entered channel) := by
  obtain ⟨alone, served⟩ := undisturbed
  rcases served with critical | nothing
  · exact absurd (outside.symm.trans critical) Bool.false_ne_true
  · rw [State.captureWaits, Bool.or_eq_false_iff] at nothing
    rintro (waits | entered)
    · cases channel with
      | pressure => exact absurd (nothing.1.symm.trans waits) Bool.false_ne_true
      | temperature =>
          exact absurd (nothing.2.symm.trans waits) Bool.false_ne_true
    · rw [entered] at alone
      cases alone

theorem Undisturbed.read {state : State} (undisturbed : Undisturbed state)
    (high : Nat) : CaptureRead high state.captureHandler := by
  have alone := undisturbed.alone
  cases capture : state.captureHandler with
  | called _ _ _ =>
      rw [capture] at alone
      cases alone
  | extended _ _ _ _ =>
      rw [capture] at alone
      cases alone
  | _ => trivial

/-- What the overflow interrupt does at each place in its handler. -/
inductive OvfStep (state : State) : State → Prop where
  | enters (handler : state.ovfHandler = .idle)
      (pending : state.irqPending = true) :
      OvfStep state { state with irqPending := false, ovfHandler := .entered }
  | locks (handler : state.ovfHandler = .entered) :
      OvfStep state { state with ovfHandler := .clearing }
  | clears (handler : state.ovfHandler = .clearing) :
      OvfStep state { state with uif := false, ovfHandler := .unpending }
  | unpends (handler : state.ovfHandler = .unpending) :
      OvfStep state { state with irqPending := false, ovfHandler := .incrementing }
  | increments (handler : state.ovfHandler = .incrementing) :
      OvfStep state
        { state with extander := state.extander + 1, ovfHandler := .counted }
  | unlocks (handler : state.ovfHandler = .counted) :
      OvfStep state { state with ovfHandler := .left }
  | returns (handler : state.ovfHandler = .left) :
      OvfStep state { state with irqPending := state.uif, ovfHandler := .idle }

theorem ovfIrq_steps {state after : State} (handles : ovfIrq state = some after) :
    Undisturbed state ∧ OvfStep state after := by
  rw [ovfIrq] at handles
  split at handles
  · rename_i enabled
    rw [Bool.and_eq_true, Bool.or_eq_true, Bool.not_eq_true'] at enabled
    refine ⟨⟨enabled.1, enabled.2⟩, ?_⟩
    cases handler : state.ovfHandler with
    | idle =>
        simp only [handler] at handles
        split at handles
        · rename_i pending
          cases handles
          exact .enters handler pending
        · cases handles
    | entered =>
        simp only [handler] at handles
        cases handles
        exact .locks handler
    | clearing =>
        simp only [handler] at handles
        cases handles
        exact .clears handler
    | unpending =>
        simp only [handler] at handles
        cases handles
        exact .unpends handler
    | incrementing =>
        simp only [handler] at handles
        cases handles
        exact .increments handler
    | counted =>
        simp only [handler] at handles
        cases handles
        exact .unlocks handler
    | left =>
        simp only [handler] at handles
        cases handles
        exact .returns handler
  · cases handles

/-- A capture that waited since before the overflow is served before the
critical section; one that is latched in it has seen the flag or waits for the
increment. -/
theorem ovfIrq_counts {high : Nat} {state after : State}
    (counts : Counts high state) (handles : ovfIrq state = some after) :
    ∃ high', Counts high' after := by
  obtain ⟨extander, count, flags, waiting, preempts, read⟩ := counts
  obtain ⟨undisturbed, handled⟩ := ovfIrq_steps handles
  have noneWaits := undisturbed.noneWaits
  have idle (handler : OvfHandler) :
      state.captureHandler.isIdle = false → handler.critical = false :=
    fun busy => absurd (busy.symm.trans undisturbed.alone) Bool.false_ne_true
  simp only [FlagsMatch, State.outstanding] at flags count
  cases handled with
  | enters handler pending =>
      simp only [handler] at flags count noneWaits
      have uif := flags pending
      refine ⟨high, extander, ?_, uif,
        fun channel waits => absurd waits (noneWaits rfl channel), idle _,
        read⟩
      simpa [State.outstanding, uif] using count
  | locks handler =>
      simp only [handler] at flags count noneWaits
      refine ⟨high, extander, ?_, flags,
        fun channel waits => absurd waits (noneWaits rfl channel), idle _,
        read⟩
      simpa [State.outstanding, flags] using count
  | clears handler =>
      simp only [handler] at flags count waiting
      refine ⟨high, extander, ?_, rfl, fun channel waits => ?_, idle _, read⟩
      · simpa [State.outstanding, flags] using count
      · -- what is latched while the flag is still set has seen it
        rcases waiting channel waits with flagged | ⟨_, notClearing, _⟩
        · exact Or.inl flagged
        · exact absurd rfl notClearing
  | unpends handler =>
      simp only [handler] at flags count waiting
      refine ⟨high, extander, ?_, flags, fun channel waits =>
        (waiting channel waits).keeps OvfHandler.noConfusion rfl, idle _, read⟩
      simpa [State.outstanding, flags] using count
  | increments handler =>
      simp only [handler] at flags count waiting
      refine ⟨high + 1, ?_, ?_, trivial, fun channel waits =>
        (waiting channel waits).keeps OvfHandler.noConfusion rfl, idle _,
        undisturbed.read _⟩
      · change state.extander + 1 = _
        rw [extander]
        exact (UInt32.ofNat_add ..).symm
      · simpa [State.outstanding, flags] using count
  | unlocks handler =>
      simp only [handler] at flags count waiting
      refine ⟨high, extander, ?_, trivial, fun channel waits =>
        (waiting channel waits).keeps OvfHandler.noConfusion rfl, idle _, read⟩
      simpa [State.outstanding] using count
  | returns handler =>
      simp only [handler] at flags count noneWaits
      refine ⟨high, extander, ?_, fun uif => uif,
        fun channel waits => absurd waits (noneWaits rfl channel), idle _,
        read⟩
      simpa [State.outstanding] using count

/-- Only the capture interrupt answers. -/
theorem results_of_other {label : Label} (other : label ≠ .capturing)
    {state after : State} (steps : step state label = some after) :
    after.results = state.results := by
  cases label with
  | tick =>
      change tick state = some after at steps
      rw [tick] at steps
      split at steps
      · split at steps
        · cases steps
        · cases steps
          rfl
      · cases steps
        rfl
  | capture channel =>
      cases steps
      rfl
  | serve channel =>
      change serve channel state = some after at steps
      rw [serve] at steps
      split at steps
      · cases steps
        rfl
      · cases steps
  | capturing => exact absurd rfl other
  | ovfIrq =>
      obtain ⟨_, handled⟩ := ovfIrq_steps steps
      cases handled <;> rfl

/-! ## Whole runs -/

theorem initialState_counts : Counts 0 initialState where
  extander := rfl
  count := by decide
  flags _ := rfl
  waiting _ waits := by
    rcases waits with waits | entered
    · cases waits
    · cases entered
  preempts busy := by cases busy
  read := trivial

theorem step_counts {high : Nat} {label : Label} {state after : State}
    (counts : Counts high state) (isExact : ResultsExact state)
    (steps : step state label = some after) :
    (∃ high', Counts high' after) ∧ ResultsExact after := by
  have kept (other : label ≠ .capturing) : ResultsExact after := by
    rw [ResultsExact, results_of_other other steps]
    exact isExact
  cases label with
  | tick => exact ⟨⟨high, tick_counts counts steps⟩, kept Label.noConfusion⟩
  | capture channel =>
      refine ⟨⟨high, ?_⟩, kept Label.noConfusion⟩
      cases steps
      exact capture_counts counts channel
  | serve channel =>
      exact ⟨⟨high, serve_counts counts steps⟩, kept Label.noConfusion⟩
  | capturing =>
      obtain ⟨counts, isExact⟩ := capturing_counts counts isExact steps
      exact ⟨⟨high, counts⟩, isExact⟩
  | ovfIrq => exact ⟨ovfIrq_counts counts steps, kept Label.noConfusion⟩

/-- In every run, what `update_captured_value` answers without the flag is the
true count at the capture. -/
theorem captured_exact_or_wraped {state : State}
    (reaches : masterCounter.Reachable state) {updated : Updated}
    (member : updated ∈ state.results) (notWraped : updated.wraped = false) :
    updated.value.toNat = updated.taken % 2 ^ 32 := by
  have kept : (∃ high, Counts high state) ∧ ResultsExact state :=
    Machine.Reaches.invariant
      (I := fun state => (∃ high, Counts high state) ∧ ResultsExact state)
      ⟨⟨0, initialState_counts⟩, fun _ member => absurd member List.not_mem_nil⟩
      (fun _ _ _ kept _ steps => by
        obtain ⟨⟨high, counts⟩, isExact⟩ := kept
        exact step_counts counts isExact steps)
      reaches
  exact kept.2 updated member notWraped

/-- A capture after the first overflow has been counted. -/
theorem captured_exact_or_wraped_counted :
    ∃ updated : Updated, updated.wraped = false ∧ updated.taken = 2 ^ 16 ∧
      updated.value.toNat = updated.taken % 2 ^ 32 :=
  ⟨_, rfl, rfl, captured_exact_or_wraped
    (Machine.Reaches.run
      (List.replicate 7 .ovfIrq ++ [.capture .pressure, .serve .pressure] ++
        List.replicate 4 .capturing)
      .start rfl)
    List.mem_cons_self rfl⟩

end SelfWriter.Sensors.Master
