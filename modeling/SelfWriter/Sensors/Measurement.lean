import SelfWriter.Lib.Word32
import SelfWriter.Sensors.FreqmeterController

/-!
# Measurements

What `input_captured` (`sensors/freqmeter/freqmeter_controller.rs`) answers to a
start and a stop capture: the ticks between them, corrected by one turn of the
16-bit master counter when they look like a spike next to the measurement
before.
-/

namespace SelfWriter.Sensors

open SelfWriter.Lib.Word32

/-! ## The raw difference and the spikes -/

namespace FreqmeterController

/-- The ticks since the last capture, as a stop capture computes them. -/
def rawDiff (self : FreqmeterController) (captured : UInt32) : UInt32 :=
  if self.prev ≤ captured then captured - self.prev
  else 0xFFFFFFFF - self.prev + captured

inductive Spike where
  | down
  | up
  deriving DecidableEq, Repr

/-- The spike that a stop capture detects. -/
def spike (self : FreqmeterController) (captured : UInt32) : Option Spike :=
  match self.prevDiff with
  | none => none
  | some pd =>
      if absDiff pd (self.rawDiff captured) ≤ masterSelfMaxValue + detectWindow ∧
          masterSelfMaxValue - detectWindow ≤ absDiff pd (self.rawDiff captured) then
        if self.rawDiff captured < pd then some .down else some .up
      else
        none

/-- What a stop capture leaves behind and answers. -/
theorem stopCaptured_eq (self : FreqmeterController) (captured : UInt32) :
    self.stopCaptured captured =
      match self.spike captured with
      | none =>
          ({ self with prevDiff := some (self.rawDiff captured), prev := captured },
            self.rawDiff captured)
      | some .down =>
          ({ self with prevDiff := none, prev := captured + masterSelfMaxValue },
            self.rawDiff captured + masterSelfMaxValue)
      | some .up =>
          ({ self with prevDiff := none, prev := captured - masterSelfMaxValue },
            self.rawDiff captured - masterSelfMaxValue) := by
  have unfolded : self.stopCaptured captured =
      match self.prevDiff with
      | none =>
          ({ self with prevDiff := some (self.rawDiff captured), prev := captured },
            self.rawDiff captured)
      | some pd =>
          if absDiff pd (self.rawDiff captured) ≤ masterSelfMaxValue + detectWindow ∧
              masterSelfMaxValue - detectWindow ≤
                absDiff pd (self.rawDiff captured) then
            if self.rawDiff captured < pd then
              ({ self with prevDiff := none, prev := captured + masterSelfMaxValue },
                self.rawDiff captured + masterSelfMaxValue)
            else
              ({ self with prevDiff := none, prev := captured - masterSelfMaxValue },
                self.rawDiff captured - masterSelfMaxValue)
          else
            ({ self with
                prevDiff := some (self.rawDiff captured), prev := captured },
              self.rawDiff captured) := rfl
  rw [unfolded, spike]
  cases self.prevDiff with
  | none => rfl
  | some pd =>
      dsimp only
      split
      · split <;> rfl
      · rfl

private theorem spike_of_fresh {self : FreqmeterController} (fresh : self.prevDiff = none)
    (captured : UInt32) : self.spike captured = none := by
  rw [spike, fresh]

private theorem toNat_rawDiff (self : FreqmeterController) (captured : UInt32) :
    (self.rawDiff captured).toNat =
      if self.prev.toNat ≤ captured.toNat then captured.toNat - self.prev.toNat
      else 2 ^ 32 - 1 - self.prev.toNat + captured.toNat := by
  have largest : (0xFFFFFFFF : UInt32).toNat = 2 ^ 32 - 1 := rfl
  have bound := self.prev.toNat_lt
  rw [rawDiff]
  by_cases order : self.prev ≤ captured
  · rw [if_pos order, if_pos (UInt32.le_iff_toNat_le.1 order),
      UInt32.toNat_sub_of_le _ _ order]
  · have below : self.prev ≤ (0xFFFFFFFF : UInt32) := by
      rw [UInt32.le_iff_toNat_le, largest]
      omega
    have natural : ¬ self.prev.toNat ≤ captured.toNat :=
      mt UInt32.le_iff_toNat_le.2 order
    have rest : ((0xFFFFFFFF : UInt32) - self.prev).toNat =
        2 ^ 32 - 1 - self.prev.toNat := by
      rw [UInt32.toNat_sub_of_le _ _ below, largest]
    rw [if_neg order, if_neg natural, toNat_add_of_lt (by rw [rest]; omega), rest]

private theorem toNat_absDiff (left right : UInt32) :
    (absDiff left right).toNat =
      if left.toNat < right.toNat then right.toNat - left.toNat
      else left.toNat - right.toNat := by
  rw [absDiff]
  by_cases less : left < right
  · rw [if_pos less, if_pos (UInt32.lt_iff_toNat_lt.1 less)]
    apply UInt32.toNat_sub_of_le
    exact UInt32.le_iff_toNat_le.2 (Nat.le_of_lt (UInt32.lt_iff_toNat_lt.1 less))
  · have natural : ¬ left.toNat < right.toNat := mt UInt32.lt_iff_toNat_lt.2 less
    rw [if_neg less, if_neg natural]
    apply UInt32.toNat_sub_of_le
    exact UInt32.le_iff_toNat_le.2 (Nat.le_of_not_lt natural)

/-- A spike in terms of natural numbers. -/
theorem spike_eq {self : FreqmeterController} {pd : UInt32}
    (remembers : self.prevDiff = some pd) (captured : UInt32) :
    self.spike captured =
      if (self.rawDiff captured).toNat + 65036 ≤ pd.toNat ∧
          pd.toNat ≤ (self.rawDiff captured).toNat + 66036 then some .down
      else if pd.toNat + 65036 ≤ (self.rawDiff captured).toNat ∧
          (self.rawDiff captured).toNat ≤ pd.toNat + 66036 then some .up
      else none := by
  have upper : (masterSelfMaxValue + detectWindow).toNat = 66036 := rfl
  have lower : (masterSelfMaxValue - detectWindow).toNat = 65036 := rfl
  rw [spike, remembers]
  have distance := toNat_absDiff pd (self.rawDiff captured)
  simp only [UInt32.le_iff_toNat_le, UInt32.lt_iff_toNat_lt, upper, lower]
  split at distance
  · split_ifs <;> first | rfl | omega
  · split_ifs <;> first | rfl | omega

/-! ## Elapsed ticks -/

/-- The start capture of a measurement is taken as one: the timer tells start
and stop captures apart, or the controller was told to start. -/
def Begins (startStop : Bool) (self : FreqmeterController) : Prop :=
  startStop = true ∨ self.start = true

/-- A start capture and a stop capture. -/
def measure (startStop : Bool) (self : FreqmeterController)
    (start stop : UInt32) : FreqmeterController × Option UInt32 :=
  (self.inputCaptured startStop .start start).1.inputCaptured startStop .stop stop

/-- The start capture is remembered, and the stop capture is compared with it. -/
theorem measure_eq {startStop : Bool} {self : FreqmeterController}
    (begins : Begins startStop self) (start stop : UInt32) :
    ∃ started : FreqmeterController, started.prev = start ∧
      started.prevDiff = self.prevDiff ∧
      self.measure startStop start stop =
        ((started.stopCaptured stop).1, some (started.stopCaptured stop).2) := by
  cases startStop with
  | true => exact ⟨{ self with prev := start }, rfl, rfl, rfl⟩
  | false =>
      have told : self.start = true := begins.resolve_left Bool.false_ne_true
      refine ⟨{ self with start := false, prev := start }, rfl, rfl, ?_⟩
      simp [measure, inputCaptured, told, eventCaptured]

/-- Without a measurement before, the answer is the raw difference, which is one
tick short when the captured values wrap. -/
theorem measure_of_fresh {startStop : Bool} {self : FreqmeterController}
    (begins : Begins startStop self) (fresh : self.prevDiff = none)
    (start stop : UInt32) :
    (self.measure startStop start stop).2.map UInt32.toNat =
      some (if start.toNat ≤ stop.toNat then stop.toNat - start.toNat
        else 2 ^ 32 - 1 - start.toNat + stop.toNat) := by
  obtain ⟨started, prev, remembers, measured⟩ := measure_eq begins start stop
  have noSpike := spike_of_fresh (remembers.trans fresh) stop
  rw [measured, stopCaptured_eq, noSpike, ← prev, ← toNat_rawDiff]
  rfl

/-- The answer to the first measurement is the number of ticks between its
captures exactly when the 32-bit counter does not wrap between them. -/
theorem elapsed_exact_iff {startStop : Bool} {self : FreqmeterController}
    (begins : Begins startStop self) (fresh : self.prevDiff = none)
    {t0 t1 : Nat} (order : t0 ≤ t1) (short : t1 - t0 < 2 ^ 32) :
    (self.measure startStop (UInt32.ofNat t0) (UInt32.ofNat t1)).2.map
        UInt32.toNat = some (t1 - t0) ↔
      t0 % 2 ^ 32 ≤ t1 % 2 ^ 32 := by
  rw [measure_of_fresh begins fresh, UInt32.toNat_ofNat', UInt32.toNat_ofNat',
    Option.some.injEq]
  constructor
  · intro exactly
    apply Nat.le_of_not_lt
    intro wraps
    rw [if_neg (Nat.not_le.mpr wraps)] at exactly
    omega
  · intro before
    rw [if_pos before]
    omega

/-- A controller that was just created. -/
def sampleController : FreqmeterController :=
  .new { cen := false, opm := false, prescaler := 0, reload := 31 } 1000

/-- A measurement that ends just before the counter wraps. -/
theorem elapsed_exact_iff_beforeWrap :
    (sampleController.measure true (UInt32.ofNat 4294967000)
        (UInt32.ofNat 4294967295)).2.map UInt32.toNat =
      some (4294967295 - 4294967000) ↔
    4294967000 % 2 ^ 32 ≤ 4294967295 % 2 ^ 32 :=
  elapsed_exact_iff (.inl rfl) rfl (by decide) (by decide)

/-- One tick across the wrap is measured as none. -/
theorem elapsed_short_across_wrap :
    sampleController.prevDiff = none ∧
    (sampleController.measure true (UInt32.ofNat (2 ^ 32 - 1))
        (UInt32.ofNat (2 ^ 32))).2.map UInt32.toNat ≠
      some (2 ^ 32 - (2 ^ 32 - 1)) := by
  decide

/-! ## Corrections -/

/-- The capture is taken as a stop. -/
def Stops (startStop : Bool) (self : FreqmeterController) (event : TimerEvent) :
    Prop :=
  if startStop then event = .stop else self.start = false

instance (startStop : Bool) (self : FreqmeterController) (event : TimerEvent) :
    Decidable (Stops startStop self event) :=
  inferInstanceAs
    (Decidable (if startStop = true then event = .stop else self.start = false))

private theorem inputCaptured_of_stops {startStop : Bool} {self : FreqmeterController}
    {event : TimerEvent} (stops : Stops startStop self event)
    (captured : UInt32) :
    self.inputCaptured startStop event captured =
      ((self.stopCaptured captured).1, some (self.stopCaptured captured).2) := by
  cases startStop with
  | true =>
      have isStop : event = .stop := stops
      rw [isStop]
      rfl
  | false =>
      have waits : self.start = false := stops
      simp [inputCaptured, waits, eventCaptured]

private theorem inputCaptured_of_not_stops {startStop : Bool}
    {self : FreqmeterController} {event : TimerEvent}
    (starts : ¬ Stops startStop self event) (captured : UInt32) :
    (self.inputCaptured startStop event captured).2 = none := by
  cases startStop with
  | true =>
      cases event with
      | start => rfl
      | stop => exact absurd rfl starts
  | false =>
      have told : self.start = true := by
        cases start : self.start with
        | true => rfl
        | false => exact absurd start starts
      simp [inputCaptured, told, eventCaptured]

/-- What is answered exceeds the raw difference by one turn of the master counter
at most, and a correction adds or takes away exactly one turn, from the
difference and from the capture that is remembered. -/
def CorrectsExactly (startStop : Bool) (self : FreqmeterController)
    (event : TimerEvent) (captured : UInt32) : Prop :=
  ∀ after diff,
    self.inputCaptured startStop event captured = (after, some diff) →
      diff.toNat ≤ (self.rawDiff captured).toNat + 65536 ∧
        match self.spike captured with
        | none => True
        | some .down =>
            diff.toNat = (self.rawDiff captured).toNat + 65536 ∧
              after.prev.toNat = captured.toNat + 65536
        | some .up =>
            diff.toNat + 65536 = (self.rawDiff captured).toNat ∧
              after.prev.toNat + 65536 = captured.toNat

private theorem toNat_add_turn {word : UInt32} :
    (word + masterSelfMaxValue).toNat = word.toNat + 65536 ↔
      word.toNat < 2 ^ 32 - 65536 := by
  have turn : masterSelfMaxValue.toNat = 65536 := rfl
  have bound := word.toNat_lt
  rw [UInt32.toNat_add, turn]
  omega

private theorem toNat_sub_turn {word : UInt32} :
    (word - masterSelfMaxValue).toNat + 65536 = word.toNat ↔
      65536 ≤ word.toNat := by
  have turn : masterSelfMaxValue.toNat = 65536 := rfl
  have bound := word.toNat_lt
  rw [UInt32.toNat_sub, turn]
  omega

/-- A capture is corrected without overflow exactly when it is no spike, or the
raw difference and the capture are a turn away from the end of the 32-bit range
that the correction moves them to. -/
theorem correction_exact_iff (startStop : Bool) (self : FreqmeterController)
    (event : TimerEvent) (captured : UInt32) :
    CorrectsExactly startStop self event captured ↔
      (Stops startStop self event →
        match self.spike captured with
        | none => True
        | some .down =>
            (self.rawDiff captured).toNat < 2 ^ 32 - 65536 ∧
              captured.toNat < 2 ^ 32 - 65536
        | some .up =>
            65536 ≤ (self.rawDiff captured).toNat ∧
              65536 ≤ captured.toNat) := by
  by_cases stops : Stops startStop self event
  · rw [CorrectsExactly, inputCaptured_of_stops stops, stopCaptured_eq]
    cases self.spike captured with
    | none =>
        refine ⟨fun _ _ => trivial, ?_⟩
        rintro _ after diff ⟨⟩
        exact ⟨Nat.le_add_right _ _, trivial⟩
    | some kind =>
        cases kind with
        | down =>
            constructor
            · intro exactly _
              obtain ⟨_, difference, capture⟩ := exactly _ _ rfl
              exact ⟨toNat_add_turn.mp difference, toNat_add_turn.mp capture⟩
            · intro fits after diff answers
              obtain ⟨difference, capture⟩ := fits stops
              simp only [Prod.mk.injEq, Option.some.injEq] at answers
              obtain ⟨rfl, rfl⟩ := answers
              have added := toNat_add_turn.mpr difference
              exact ⟨Nat.le_of_eq added, added, toNat_add_turn.mpr capture⟩
        | up =>
            constructor
            · intro exactly _
              obtain ⟨_, difference, capture⟩ := exactly _ _ rfl
              exact ⟨toNat_sub_turn.mp difference, toNat_sub_turn.mp capture⟩
            · intro fits after diff answers
              obtain ⟨difference, capture⟩ := fits stops
              simp only [Prod.mk.injEq, Option.some.injEq] at answers
              obtain ⟨rfl, rfl⟩ := answers
              have taken := toNat_sub_turn.mpr difference
              have less : (self.rawDiff captured - masterSelfMaxValue).toNat ≤
                  (self.rawDiff captured).toNat := Nat.le.intro taken
              exact ⟨Nat.le_add_right_of_le less, taken,
                toNat_sub_turn.mpr capture⟩
  · have none' := inputCaptured_of_not_stops stops captured
    constructor
    · exact fun _ impossible => absurd impossible stops
    · intro _ after diff answers
      rw [answers] at none'
      cases none'

/-- Before, a measurement took 100 ticks. -/
def shortController : FreqmeterController :=
  { sampleController with prevDiff := some 100 }

/-- A raw difference of 65200 ticks is taken for an upward spike and becomes
greater than four billion. -/
theorem correction_underflows :
    ¬ CorrectsExactly true shortController .stop 65200 := by
  intro exactly
  obtain ⟨bounded, _⟩ := exactly _ _ rfl
  exact absurd bounded (by decide)

/-! ## Isolated spikes -/

/-- The controller after a number of measurements. -/
def measured (self : FreqmeterController) (start stop : Nat → UInt32) :
    Nat → FreqmeterController
  | 0 => self
  | index + 1 =>
      ((self.measured start stop index).measure true (start index)
        (stop index)).1

/-- The answer to the measurement with this index. -/
def result (self : FreqmeterController) (start stop : Nat → UInt32)
    (index : Nat) : Option UInt32 :=
  ((self.measured start stop index).measure true (start index)
    (stop index)).2

/-- Measurements of slowly changing lengths, captured with spikes of one turn of
the master counter, of which no two follow each other. -/
structure IsolatedSpikes (length : Nat → Nat) (turns : Nat → Int)
    (start stop : Nat → UInt32) : Prop where
  long : ∀ index, 65536 + 500 ≤ length index
  below : ∀ index, length index < 2 ^ 32
  steady : ∀ index, length (index + 1) ≤ length index + 500 ∧
    length index ≤ length (index + 1) + 500
  kinds : ∀ index, turns index = -1 ∨ turns index = 0 ∨ turns index = 1
  first : turns 0 = 0
  isolated : ∀ index, turns index = 0 ∨ turns (index + 1) = 0
  ordered : ∀ index, start index ≤ stop index
  raw : ∀ index, ((stop index).toNat : Int) - (start index).toNat =
    length index + 65536 * turns index

/-- Before a measurement the controller remembers the true length of the one
before it, or nothing, and then no spike follows. -/
def Remembers (length : Nat → Nat) (turns : Nat → Int)
    (self : FreqmeterController) (index : Nat) : Prop :=
  (self.prevDiff = none ∧ turns index = 0) ∨
    ∃ before pd, index = before + 1 ∧ self.prevDiff = some pd ∧
      pd.toNat = length before

/-- What one measurement answers, and what is remembered of it. -/
theorem Remembers.next {length : Nat → Nat} {turns : Nat → Int}
    {start stop : Nat → UInt32} {self : FreqmeterController} {index : Nat}
    (spikes : IsolatedSpikes length turns start stop)
    (remembers : Remembers length turns self index) :
    (self.measure true (start index) (stop index)).2.map UInt32.toNat =
        some (length index) ∧
      Remembers length turns (self.measure true (start index) (stop index)).1
        (index + 1) := by
  have begins : Begins true self := .inl rfl
  obtain ⟨started, prev, same, measures⟩ :=
    measure_eq begins (start index) (stop index)
  have raw := spikes.raw index
  have below := spikes.below index
  have ordered := UInt32.le_iff_toNat_le.1 (spikes.ordered index)
  have difference := toNat_rawDiff started (stop index)
  rw [prev, if_pos ordered] at difference
  rw [measures, stopCaptured_eq]
  rcases remembers with ⟨none', clean⟩ | ⟨before, pd, rfl, some', isLength⟩
  · have exactly : (started.rawDiff (stop index)).toNat = length index := by
      rw [clean] at raw
      omega
    rw [spike_of_fresh (same.trans none')]
    exact ⟨congrArg some exactly, .inr ⟨index, _, rfl, rfl, exactly⟩⟩
  · have steady := spikes.steady before
    have long := spikes.long (before + 1)
    rw [spike_eq (same.trans some')]
    rcases spikes.kinds (before + 1) with down | clean | up
    · rw [down] at raw
      rw [if_pos (by omega)]
      have corrected : (started.rawDiff (stop (before + 1)) +
          masterSelfMaxValue).toNat = length (before + 1) := by
        rw [toNat_add_turn.mpr (by omega)]
        omega
      have next := (spikes.isolated (before + 1)).resolve_left (by omega)
      exact ⟨congrArg some corrected, .inl ⟨rfl, next⟩⟩
    · rw [clean] at raw
      have exactly : (started.rawDiff (stop (before + 1))).toNat =
          length (before + 1) := by omega
      rw [if_neg (by omega), if_neg (by omega)]
      exact ⟨congrArg some exactly, .inr ⟨before + 1, _, rfl, rfl, exactly⟩⟩
    · rw [up] at raw
      rw [if_neg (by omega), if_pos (by omega)]
      have corrected : (started.rawDiff (stop (before + 1)) -
          masterSelfMaxValue).toNat = length (before + 1) := by
        have turn := toNat_sub_turn.mpr
          (show 65536 ≤ (started.rawDiff (stop (before + 1))).toNat by omega)
        omega
      have next := (spikes.isolated (before + 1)).resolve_left (by omega)
      exact ⟨congrArg some corrected, .inl ⟨rfl, next⟩⟩

private theorem measured_remembers {length : Nat → Nat} {turns : Nat → Int}
    {start stop : Nat → UInt32} {self : FreqmeterController}
    (spikes : IsolatedSpikes length turns start stop)
    (fresh : self.prevDiff = none) (index : Nat) :
    Remembers length turns (self.measured start stop index) index := by
  induction index with
  | zero => exact .inl ⟨fresh, spikes.first⟩
  | succ index inductionHypothesis => exact (inductionHypothesis.next spikes).2

/-- Isolated spikes are corrected: every measurement is answered with its true
length. -/
theorem isolated_spikes_corrected {length : Nat → Nat} {turns : Nat → Int}
    {start stop : Nat → UInt32} {self : FreqmeterController}
    (spikes : IsolatedSpikes length turns start stop)
    (fresh : self.prevDiff = none) (index : Nat) :
    (self.result start stop index).map UInt32.toNat = some (length index) :=
  ((measured_remembers spikes fresh index).next spikes).1

/-- An upward spike in the second of measurements of 100000 ticks. -/
theorem isolated_spikes_corrected_second :
    (sampleController.result (fun _ => 0)
      (fun index => if index = 1 then 165536 else 100000) 1).map UInt32.toNat =
        some 100000 := by
  have spikes : IsolatedSpikes (fun _ => 100000)
      (fun index => if index = 1 then 1 else 0) (fun _ => 0)
      (fun index => if index = 1 then 165536 else 100000) := by
    refine ⟨fun _ => by decide, fun _ => by decide, fun _ => by decide, ?_, rfl, ?_,
      fun _ => UInt32.zero_le, ?_⟩
    · intro index
      split
      · exact .inr (.inr rfl)
      · exact .inr (.inl rfl)
    · intro index
      split
      · rename_i second
        rw [second]
        exact .inr rfl
      · exact .inl rfl
    · intro index
      split <;> rfl
  exact isolated_spikes_corrected spikes rfl 1

end FreqmeterController

end SelfWriter.Sensors
