import Mathlib.Data.UInt
import SelfWriter.Lib.DifferenceCoding
import SelfWriter.Storage.DiffWriter

/-!
# The values of a block

`DataBlock::push_data` (`main_data_storage/diff_writer.rs`) hands the packer
the difference of a result to the last one of its channel, in 32-bit arithmetic
that wraps.  A reader that knows the order of the channels gets all results
back, as long as the packer keeps what it accepts.
-/

namespace SelfWriter.Storage

universe u

open SelfWriter.Lib.DifferenceCoding

variable {Packer : Type u} [DataBlockPacker Packer]

/-! ## The packer's values -/

/-- What is relied on: a new packer holds nothing, and one that answers success
or that it is full has kept the value behind those it held. -/
structure KeepsValues (values : Packer → List UInt32) : Prop where
  build : ∀ prev this size info, values (DataBlockPacker.build prev this size info) = []
  success : ∀ packer value, (DataBlockPacker.pushVal packer value).2 = .success →
    values (DataBlockPacker.pushVal packer value).1 = values packer ++ [value]
  full : ∀ packer value, (DataBlockPacker.pushVal packer value).2 = .full →
    values (DataBlockPacker.pushVal packer value).1 = values packer ++ [value]

/-! ## One call -/

namespace DataBlock

/-- What the packer answers to a call. -/
def answered (self : DataBlock Packer) (result : Option UInt32)
    (channel : FChannel) : PushResult :=
  (DataBlockPacker.pushVal self.packer (difference self.prevs result channel)).2

/-- A call that is not answered by an overflow; `none` also for the panic. -/
def pushKept (self : DataBlock Packer) (call : Option UInt32 × FChannel) :
    Option (DataBlock Packer) :=
  if self.answered call.1 call.2 = .overflow then none
  else (self.pushData call.1 call.2).map Prod.fst

/-- All calls, in their order. -/
def pushAll (self : DataBlock Packer) (calls : List (Option UInt32 × FChannel)) :
    Option (DataBlock Packer) :=
  calls.foldlM pushKept self

/-- The block behind a call that did not panic. -/
def next (self : DataBlock Packer) (result : Option UInt32) (channel : FChannel) :
    DataBlock Packer :=
  { self with
    packer := (DataBlockPacker.pushVal self.packer
      (difference self.prevs result channel)).1
    counter := self.counter + 1
    prevs := remember self.prevs result channel }

/-- The packer is handed the difference, and the result is remembered. -/
theorem pushData_eq (self : DataBlock Packer) (result : Option UInt32)
    (channel : FChannel) :
    self.pushData result channel =
      match self.answered result channel with
      | .success => some (self.next result channel, false)
      | .full => some (self.next result channel, true)
      | .overflow => some (self.next result channel, false)
      | .finished => none := by
  cases result with
  | none => rfl
  | some r =>
      have same : (fun other => if other = channel then r else self.prevs other) =
          Function.update self.prevs channel r := by
        funext other
        exact (Function.update_apply self.prevs channel r other).symm
      simp only [pushData, same]
      rfl

variable {values : Packer → List UInt32}

/-- A call that is kept adds one difference to the packer's values. -/
theorem pushKept_eq (keeps : KeepsValues values) {self after : DataBlock Packer}
    {result : Option UInt32} {channel : FChannel}
    (pushed : self.pushKept (result, channel) = some after) :
    values after.packer =
        values self.packer ++ [difference self.prevs result channel] ∧
      after.prevs = remember self.prevs result channel := by
  unfold pushKept at pushed
  rw [pushData_eq] at pushed
  cases isAnswered : self.answered result channel with
  | success =>
      rw [isAnswered] at pushed
      cases pushed
      exact ⟨keeps.success _ _ isAnswered, rfl⟩
  | full =>
      rw [isAnswered] at pushed
      cases pushed
      exact ⟨keeps.full _ _ isAnswered, rfl⟩
  | overflow =>
      rw [isAnswered] at pushed
      cases pushed
  | finished =>
      rw [isAnswered] at pushed
      cases pushed

/-! ## All calls -/

/-- The packer holds the code of the calls behind what it held. -/
theorem pushAll_eq (keeps : KeepsValues values)
    (calls : List (Option UInt32 × FChannel)) :
    ∀ {self after : DataBlock Packer}, self.pushAll calls = some after →
      values after.packer = values self.packer ++ code self.prevs calls := by
  induction calls with
  | nil =>
      intro self after pushed
      cases pushed
      exact (List.append_nil _).symm
  | cons call calls inductionHypothesis =>
      intro self after pushed
      obtain ⟨result, channel⟩ := call
      rw [pushAll, List.foldlM_cons] at pushed
      obtain ⟨next, kept, rest⟩ := Option.bind_eq_some_iff.mp pushed
      obtain ⟨added, prevs⟩ := pushKept_eq keeps kept
      rw [inductionHypothesis rest, added, prevs, List.append_assoc]
      rfl

end DataBlock

/-! ## A new block -/

/-- A block that was created has seen no result. -/
theorem tryCreateNewPage_fresh {pages : Nat} {call : CreateCall}
    {cells : SelfWriter.Lib.NorMemory.Cells} {cache : MemoryState}
    {writer : FlashDiffWriter} {pageNumber : UInt32} {block : DataBlock Packer}
    (created : (writer.tryCreateNewPage pages call cells cache pageNumber).answer =
      .ok block) :
    block.prevs = (fun _ => 0) ∧
      ∃ prev this size info,
        block.packer = DataBlockPacker.build prev this size info := by
  unfold FlashDiffWriter.tryCreateNewPage at created
  split at created
  · cases created
  · split at created
    · cases created
    · split at created
      · cases created
      · cases created
        exact ⟨rfl, _, _, _, _, rfl⟩

/-- Difference coding loses nothing.  The values in the packer of a new block,
added up for each channel from zero, give every result back exactly, and for a
missing one the last result of its channel. -/
theorem pushed_results_recovered {values : Packer → List UInt32}
    (keeps : KeepsValues values) {pages : Nat} {call : CreateCall}
    {cells : SelfWriter.Lib.NorMemory.Cells} {cache : MemoryState}
    {writer : FlashDiffWriter} {pageNumber : UInt32} {block after : DataBlock Packer}
    (created : (writer.tryCreateNewPage pages call cells cache pageNumber).answer =
      .ok block)
    {calls : List (Option UInt32 × FChannel)}
    (pushed : block.pushAll calls = some after) :
    (values after.packer).length = calls.length ∧
    ∀ before result channel later, calls = before ++ (result, channel) :: later →
      (decode (fun _ => 0) (calls.map Prod.snd)
          (values after.packer))[before.length]? =
        some (channel,
          match result with
          | some r => r
          | none => lastRecovered channel 0
              ((decode (fun _ => 0) (calls.map Prod.snd)
                (values after.packer)).take before.length)) := by
  obtain ⟨prevs, prev, this, size, info, built⟩ := tryCreateNewPage_fresh created
  have coded : values after.packer = code (fun _ => 0) calls := by
    rw [DataBlock.pushAll_eq keeps calls pushed, prevs, built, keeps.build,
      List.nil_append]
  rw [coded, decode_code]
  refine ⟨length_code calls _, ?_⟩
  rintro before result channel later rfl
  rw [expected_getElem?]
  cases result with
  | none => rfl
  | some r => rfl

/-! ## A packer that keeps its values -/

/-- It has room for a few values. -/
structure ValuesPacker where
  room : Nat
  values : List UInt32

instance : DataBlockPacker ValuesPacker where
  format :=
    { prevBlockId := 12, thisBlockId := 8,
      prev_inside := by decide, this_inside := by decide }
  build _ _ _ _ := { room := 4, values := [] }
  writeHeader packer _ := packer
  pushVal packer value :=
    if packer.room = 0 then (packer, .finished)
    else
      ({ room := packer.room - 1, values := packer.values ++ [value] },
        if packer.room = 1 then .full else .success)
  prevBlockId _ := 0
  thisBlockId _ := 0
  toResultFull _ _ := none

private theorem valuesPacker_kept {packer : ValuesPacker} (value : UInt32)
    (accepted : (DataBlockPacker.pushVal packer value).2 ≠ .finished) :
    (DataBlockPacker.pushVal packer value).1.values = packer.values ++ [value] := by
  by_cases full : packer.room = 0
  · have refused : DataBlockPacker.pushVal packer value = (packer, .finished) :=
      if_pos full
    rw [refused] at accepted
    exact absurd rfl accepted
  · have kept : DataBlockPacker.pushVal packer value =
        ({ room := packer.room - 1, values := packer.values ++ [value] },
          if packer.room = 1 then .full else .success) :=
      if_neg full
    rw [kept]

private theorem valuesPacker_keeps : KeepsValues ValuesPacker.values where
  build _ _ _ _ := rfl
  success := by
    intro packer value answered
    apply valuesPacker_kept value
    rw [answered]
    decide
  full := by
    intro packer value answered
    apply valuesPacker_kept value
    rw [answered]
    decide

/-- The calls of a block that the packer is full of: a great value, one of the
other channel, a missing one and a small one. -/
def fewCalls : List (Option UInt32 × FChannel) :=
  [(some 0xFFFFFFF0, .pressure), (some 7, .temperature), (none, .pressure),
    (some 3, .pressure)]

def firstPage : FlashDiffWriter.Created ValuesPacker :=
  FlashDiffWriter.new.tryCreateNewPage 3
    { locks := { reads := true, writes := true }
      settings := some { timestamp := 0, fRef := 0, baseIntervalMs := 20,
                         interleaveRatio := (1, 1) } }
    (fun _ => 0xFF) (.partialUsed 0) 0

def firstBlock : DataBlock ValuesPacker where
  packer := { room := 4, values := [] }
  counter := 0
  destPage := 0
  prevs := fun _ => 0

theorem pushed_results_recovered_few :
    ∃ after, firstBlock.pushAll fewCalls = some after ∧
      after.packer.values = [0xFFFFFFF0, 7, 0, 19] ∧
      (after.packer.values.length = fewCalls.length ∧
      ∀ before result channel later,
        fewCalls = before ++ (result, channel) :: later →
        (decode (fun _ => 0) (fewCalls.map Prod.snd)
            after.packer.values)[before.length]? =
          some (channel,
            match result with
            | some r => r
            | none => lastRecovered channel 0
                ((decode (fun _ => 0) (fewCalls.map Prod.snd)
                  after.packer.values).take before.length))) := by
  have created : firstPage.answer = .ok firstBlock := rfl
  exact ⟨_, rfl, rfl, pushed_results_recovered valuesPacker_keeps created rfl⟩

end SelfWriter.Storage
