import Mathlib.Data.List.Forall2
import SelfWriter.Storage.PushData
import SelfWriter.Storage.RecordedLog

/-!
# What the log holds of the measurements

Every finished block of the log is packed from the results that were pushed into it,
over any power cycles.  A reader that unpacks the page and adds the differences up has
all of them back; only the block that a power loss cuts is lost.

That the packed page can be unpacked is the other package's part.
-/

namespace SelfWriter.Storage

universe u

open SelfWriter.Lib SelfWriter.Lib.DifferenceCoding

/-- A call of `push_data`. -/
abbrev PushCall := Option UInt32 × FChannel

section Measuring

variable {Packer : Type u} [DataBlockPacker Packer]
variable (pages : Nat) (crc : List UInt8 → UInt32)

/-- What is relied on besides: the header leaves the values alone, and they can be
unpacked from the page of a packed block. -/
structure Unpacks (values : Packer → List UInt32)
    (unpack : List UInt8 → Option (List UInt32)) : Prop extends KeepsValues values where
  writeHeader : ∀ packer output,
    values (DataBlockPacker.writeHeader packer output) = values packer
  unpacks : ∀ packer data, DataBlockPacker.toResultFull packer crc = some data →
    unpack (padPage data) = some (values packer)

/-- The recorder and its log, with the calls for the outstanding block, and the calls
behind each entry of the log; `none` is a cut block. -/
structure Measuring (Packer : Type u) where
  recorder : Recorder Packer
  outstanding : List PushCall
  log : List (List UInt8)
  pushed : List (Option (List PushCall))

namespace Measuring

variable (state : Measuring Packer)

def collected : Event → List PushCall
  | .tryCreateNewPage _ _ => if state.recorder.block.isSome then state.outstanding else []
  | .writeHeader _ => state.outstanding
  | .pushData result channel => state.outstanding ++ [(result, channel)]
  | .write _ => []
  | .powerLoss _ _ => []

def finished : Event → Option (List PushCall)
  | .write _ => some state.outstanding
  | _ => none

def step (event : Event) : Measuring Packer where
  recorder := state.recorder.step pages crc event
  outstanding := state.collected event
  log := state.log ++ state.recorder.appended crc event
  pushed := state.pushed ++
    (state.recorder.appended crc event).map (fun _ => state.finished event)

end Measuring

/-- The recorder from erased cells on. -/
def measuringRecorder (locks : CacheLocks) : Machine (Measuring Packer) Event where
  start :=
    { recorder := boot pages locks (fun _ => SelfWriter.Lib.NorMemory.erasedByte)
      outstanding := []
      log := []
      pushed := [] }
  step state event := some (state.step pages crc event)

/-- No write fails, and every result is kept by the packer. -/
def Kept (state : Measuring Packer) (event : Event) : Prop :=
  Untroubled crc state.recorder event ∧
    match event with
    | .pushData result channel => ∀ block, state.recorder.block = some block →
        (block.pushKept (result, channel)).isSome
    | _ => True

/-! ## What every step keeps -/

/-- An entry of the log is a packed block with the values of its calls. -/
def Packs (values : Packer → List UInt32) (entry : List UInt8) :
    Option (List PushCall) → Prop
  | some calls => ∃ packer : Packer,
      DataBlockPacker.toResultFull packer crc = some entry ∧
        values packer = code (fun _ => 0) calls
  | none => True

/-- The packer and the last results of a block, after its calls. -/
structure Holds (values : Packer → List UInt32) (block : DataBlock Packer)
    (calls : List PushCall) : Prop where
  values : values block.packer = code (fun _ => 0) calls
  prevs : block.prevs = remembered (fun _ => 0) calls

structure Measures (values : Packer → List UInt32) (state : Measuring Packer) :
    Prop where
  logs : Logs pages state.recorder state.log
  block : ∀ block, state.recorder.block = some block → Holds values block state.outstanding
  entries : List.Forall₂ (Packs crc values) state.log state.pushed

variable {pages crc} {values : Packer → List UInt32}
variable {unpack : List UInt8 → Option (List UInt32)}

theorem Holds.push (keeps : KeepsValues values) {block after : DataBlock Packer}
    {calls : List PushCall} (holds : Holds values block calls) {call : PushCall}
    (kept : block.pushKept call = some after) : Holds values after (calls ++ [call]) := by
  obtain ⟨result, channel⟩ := call
  obtain ⟨added, prevs⟩ := DataBlock.pushKept_eq keeps kept
  constructor
  · rw [added, holds.values, holds.prevs, code_concat]
  · rw [prevs, holds.prevs, remembered_concat]

/-- A kept result is pushed. -/
theorem pushData_of_pushKept {block after : DataBlock Packer} {result : Option UInt32}
    {channel : FChannel} (kept : block.pushKept (result, channel) = some after) :
    ∃ full, block.pushData result channel = some (after, full) := by
  unfold DataBlock.pushKept at kept
  split at kept
  · cases kept
  · obtain ⟨⟨pushed, full⟩, pushes, rfl⟩ := Option.map_eq_some_iff.1 kept
    exact ⟨full, pushes⟩

/-- What is appended is packed from the calls for the outstanding block, or cut. -/
theorem Measures.entries_step {state : Measuring Packer}
    (measures : Measures pages crc values state) (event : Event) :
    List.Forall₂ (Packs crc values) (state.recorder.appended crc event)
      ((state.recorder.appended crc event).map (fun _ => state.finished event)) := by
  rw [List.forall₂_map_right_iff, List.forall₂_same]
  intro entry member
  cases event with
  | tryCreateNewPage call pageNumber => trivial
  | writeHeader output => trivial
  | pushData result channel => trivial
  | powerLoss programs locks => trivial
  | write outcome =>
      rw [Recorder.appended] at member
      cases outstanding : state.recorder.block with
      | none =>
          rw [outstanding] at member
          cases member
      | some block =>
          rw [outstanding] at member
          exact
            ⟨block.packer, Option.mem_toList.1 member,
              (measures.block block outstanding).values⟩

variable [LawfulPacker Packer]

/-- A page that is handed out after a create is a new block. -/
theorem create_holds (keeps : KeepsValues values) {state : Recorder Packer}
    (allocates : Allocates pages state) {outstanding : List PushCall}
    (holds : ∀ block, state.block = some block → Holds values block outstanding)
    (call : CreateCall) (pageNumber : UInt32) :
    ∀ block, (state.create pages call pageNumber).2.block = some block →
      Holds values block (if state.block.isSome then outstanding else []) := by
  intro block given
  cases create_creates allocates call pageNumber with
  | outstanding taken answer same =>
      rw [same] at given
      rw [given]
      exact holds block given
  | full free exhausted answer cache agrees after =>
      rw [after, free] at given
      cases given
  | locked free page next answer cache agrees after =>
      rw [after, free] at given
      cases given
  | handedOut free fresh next proper answer cache agrees after =>
      rw [after] at given
      cases given
      obtain ⟨prevs, prev, this, size, info, built⟩ := tryCreateNewPage_fresh answer
      rw [free]
      exact { values := by rw [built, keeps.build]; rfl, prevs := prevs }

theorem Measures.block_step {state : Measuring Packer} (unpacks : Unpacks crc values unpack)
    (measures : Measures pages crc values state) (event : Event)
    (kept : Kept crc state event) :
    ∀ block, (state.recorder.step pages crc event).block = some block →
      Holds values block (state.collected event) := by
  intro block given
  cases event with
  | tryCreateNewPage call pageNumber =>
      exact create_holds unpacks.toKeepsValues measures.logs.allocates measures.block call
        pageNumber block given
  | writeHeader output =>
      obtain ⟨before, outstanding, rfl⟩ := Option.map_eq_some_iff.1 given
      have holds := measures.block before outstanding
      exact
        { values := (unpacks.writeHeader _ _).trans holds.values
          prevs := holds.prevs }
  | pushData result channel =>
      obtain ⟨before, outstanding, same⟩ := Option.map_eq_some_iff.1 given
      obtain ⟨after, isKept⟩ := Option.isSome_iff_exists.1 (kept.2 before outstanding)
      obtain ⟨full, pushes⟩ := pushData_of_pushKept isKept
      rw [pushes] at same
      subst same
      exact (measures.block before outstanding).push unpacks.toKeepsValues isKept
  | write outcome =>
      rw [Recorder.step] at given
      cases outstanding : state.recorder.block with
      | none =>
          rw [outstanding] at given
          rw [outstanding] at given
          cases given
      | some finished =>
          rw [outstanding] at given
          cases given
  | powerLoss programs locks => cases given

theorem Measures.step {state : Measuring Packer} (unpacks : Unpacks crc values unpack)
    (measures : Measures pages crc values state) (event : Event)
    (kept : Kept crc state event) : Measures pages crc values (state.step pages crc event) where
  logs := measures.logs.step event kept.1
  block := measures.block_step unpacks event kept
  entries := List.rel_append measures.entries (measures.entries_step event)

/-- All results of a page one after the other. -/
theorem Measures.pushAll (unpacks : Unpacks crc values unpack) (calls : List PushCall) :
    ∀ {state : Measuring Packer} {block after : DataBlock Packer},
      Measures pages crc values state → state.recorder.block = some block →
      block.pushAll calls = some after →
      Measures pages crc values
        { state with
          recorder := { state.recorder with block := some after }
          outstanding := state.outstanding ++ calls } := by
  induction calls with
  | nil =>
      intro state block after measures outstanding kept
      cases kept
      rw [← outstanding, List.append_nil]
      exact measures
  | cons call calls inductionHypothesis =>
      intro state block after measures outstanding kept
      obtain ⟨result, channel⟩ := call
      rw [DataBlock.pushAll, List.foldlM_cons] at kept
      obtain ⟨next, isKept, rest⟩ := Option.bind_eq_some_iff.1 kept
      obtain ⟨full, pushes⟩ := pushData_of_pushKept isKept
      have stepped := measures.step unpacks (.pushData result channel)
        ⟨trivial, fun other same => by
          rw [outstanding] at same
          cases same
          rw [isKept]
          rfl⟩
      have isStep : state.step pages crc (.pushData result channel) =
          { state with
            recorder := { state.recorder with block := some next }
            outstanding := state.outstanding ++ [(result, channel)] } := by
        simp only [Measuring.step, Measuring.collected, Recorder.step, Recorder.appended,
          outstanding, Option.map_some, pushes, List.append_nil, List.map_nil]
      rw [isStep] at stepped
      have later := inductionHypothesis stepped rfl rest
      rw [List.append_assoc] at later
      exact later

theorem measuringRecorder_measures {locks : CacheLocks}
    (unpacks : Unpacks crc values unpack) {state : Measuring Packer}
    (reaches : (measuringRecorder pages crc locks).Reaches (Kept crc) state) :
    Measures pages crc values state := by
  apply reaches.invariant (I := Measures pages crc values)
  · exact
      { logs := boot_logs locks image_nil.symm (fun _ member => by cases member)
          (fun _ inside => absurd inside (Nat.not_lt_zero _)) (Nat.zero_le _)
        block := fun _ impossible => by cases impossible
        entries := .nil }
  · rintro before event after measures kept ⟨⟩
    exact measures.step unpacks event kept

/-! ## What a reader makes of it -/

/-- The page unpacks to values that give the results of the calls back. -/
def Recovers (unpack : List UInt8 → Option (List UInt32)) (page : List UInt8) :
    Option (List PushCall) → Prop
  | some calls => ∃ stream, unpack page = some stream ∧
      decode (fun _ => 0) (calls.map Prod.snd) stream = expected (fun _ => 0) calls
  | none => True

omit [LawfulPacker Packer] in
theorem Packs.recovers (unpacks : Unpacks crc values unpack) {entry : List UInt8}
    {pushed : Option (List PushCall)} (packs : Packs crc values entry pushed) :
    Recovers unpack (padPage entry) pushed := by
  cases pushed with
  | none => trivial
  | some calls =>
      obtain ⟨packer, packed, holds⟩ := packs
      refine ⟨values packer, unpacks.unpacks packer entry packed, ?_⟩
      rw [holds]
      exact decode_code calls _

/-- The pages of a text. -/
def cutPages (text : List UInt8) : List (List UInt8) :=
  (List.range (text.length / flashPageSize)).map
    (fun page => (text.drop (page * flashPageSize)).take flashPageSize)

end Measuring

private theorem length_padPage {entry : List UInt8} (fits : entry.length ≤ flashPageSize) :
    (padPage entry).length = flashPageSize := by
  rw [padPage, List.length_append, List.length_replicate]
  omega

private theorem cutPages_append {page : List UInt8} (whole : page.length = flashPageSize)
    (text : List UInt8) : cutPages (page ++ text) = page :: cutPages text := by
  have count : (page ++ text).length / flashPageSize = text.length / flashPageSize + 1 := by
    rw [List.length_append, whole]
    unfold flashPageSize
    omega
  rw [cutPages, count, List.range_succ_eq_map, List.map_cons, List.map_map, Nat.zero_mul,
    List.drop_zero, List.take_left' whole, cutPages]
  refine congrArg (List.cons page) (List.map_congr_left ?_)
  intro index _
  have place : (index + 1) * flashPageSize = page.length + index * flashPageSize := by
    rw [whole, Nat.succ_mul, Nat.add_comm]
  change ((page ++ text).drop ((index + 1) * flashPageSize)).take flashPageSize = _
  rw [place, List.drop_length_add_append]

/-- A log is cut into its padded entries. -/
theorem cutPages_log (log : List (List UInt8))
    (fits : ∀ entry ∈ log, entry.length ≤ flashPageSize) :
    cutPages (log.flatMap padPage) = log.map padPage := by
  induction log with
  | nil => rfl
  | cons entry log inductionHypothesis =>
      rw [List.flatMap_cons, List.map_cons,
        cutPages_append (length_padPage (fits entry List.mem_cons_self)),
        inductionHypothesis (fun other member => fits other (List.mem_cons_of_mem _ member))]

section Reading

variable {Packer : Type u} [DataBlockPacker Packer] {pages : Nat}
variable {crc : List UInt8 → UInt32} {values : Packer → List UInt32}
variable {unpack : List UInt8 → Option (List UInt32)} {state : Measuring Packer}

/-- The pages of the log give all results of the finished blocks back. -/
theorem Measures.recovers (unpacks : Unpacks crc values unpack)
    (measures : Measures pages crc values state) :
    List.Forall₂ (Recovers unpack) (cutPages (state.log.flatMap padPage)) state.pushed := by
  rw [cutPages_log state.log measures.logs.entries, List.forall₂_map_left_iff]
  exact measures.entries.imp (fun _ _ packs => packs.recovers unpacks)

end Reading

/-! ## A packer that can be read back -/

/-- The values one after the other, behind the ids and their count; there is room for
four of them. -/
structure PlainPacker where
  prevBlockId : UInt32
  thisBlockId : UInt32
  values : List UInt32

namespace PlainPacker

open SelfWriter.Lib.LittleEndian

def valueBytes (values : List UInt32) : List UInt8 :=
  values.flatMap (fun value => toBytes 4 value.toNat)

def bytes (packer : PlainPacker) : List UInt8 :=
  toBytes 4 packer.thisBlockId.toNat ++ (toBytes 4 packer.prevBlockId.toNat ++
    (toBytes 4 packer.values.length ++ valueBytes packer.values))

def readValues : Nat → List UInt8 → List UInt32
  | 0, _ => []
  | count + 1, bytes =>
      UInt32.ofNat (ofBytes (bytes.take 4)) :: readValues count (bytes.drop 4)

def unpack (page : List UInt8) : Option (List UInt32) :=
  some (readValues (ofBytes ((page.drop 8).take 4)) (page.drop 12))

instance : DataBlockPacker PlainPacker where
  format := DataBlockPacker.format IdPacker
  build prev this _ _ := { prevBlockId := prev, thisBlockId := this, values := [] }
  writeHeader packer _ := packer
  pushVal packer value :=
    if packer.values.length < 3 then
      ({ packer with values := packer.values ++ [value] }, .success)
    else if packer.values.length < 4 then
      ({ packer with values := packer.values ++ [value] }, .full)
    else
      (packer, .overflow)
  prevBlockId packer := packer.prevBlockId
  thisBlockId packer := packer.thisBlockId
  toResultFull packer _ :=
    if packer.values.length ≤ 4 then some packer.bytes else none

private theorem length_valueBytes (values : List UInt32) :
    (valueBytes values).length = 4 * values.length := by
  induction values with
  | nil => rfl
  | cons value values inductionHypothesis =>
      rw [valueBytes, List.flatMap_cons, List.length_append, length_toBytes,
        List.length_cons]
      change 4 + (valueBytes values).length = _
      rw [inductionHypothesis]
      omega

private theorem readValues_valueBytes (values : List UInt32) (rest : List UInt8) :
    readValues values.length (valueBytes values ++ rest) = values := by
  induction values with
  | nil => rfl
  | cons value values inductionHypothesis =>
      have bytes : valueBytes (value :: values) ++ rest =
          toBytes 4 value.toNat ++ (valueBytes values ++ rest) := List.append_assoc _ _ _
      have length := length_toBytes 4 value.toNat
      rw [List.length_cons, readValues, bytes, List.take_left' length,
        List.drop_left' length, inductionHypothesis,
        ofBytes_toBytes value.toNat_lt, UInt32.ofNat_toNat]

private theorem bytes_drop_8 (packer : PlainPacker) (rest : List UInt8) :
    (packer.bytes ++ rest).drop 8 =
      toBytes 4 packer.values.length ++ (valueBytes packer.values ++ rest) := by
  have ids : (toBytes 4 packer.thisBlockId.toNat ++
      toBytes 4 packer.prevBlockId.toNat).length = 8 := by
    rw [List.length_append, length_toBytes, length_toBytes]
  rw [bytes, ← List.append_assoc (toBytes 4 packer.thisBlockId.toNat),
    List.append_assoc, List.drop_left' ids, List.append_assoc]

/-- What follows the packed values does not matter. -/
theorem unpack_bytes (packer : PlainPacker) (small : packer.values.length ≤ 4)
    (rest : List UInt8) : unpack (packer.bytes ++ rest) = some packer.values := by
  have length := length_toBytes 4 packer.values.length
  have behind : (packer.bytes ++ rest).drop 12 = valueBytes packer.values ++ rest := by
    rw [← List.drop_drop (i := 4) (j := 8), bytes_drop_8, List.drop_left' length]
  rw [unpack, behind, bytes_drop_8, List.take_left' length,
    ofBytes_toBytes (by omega), readValues_valueBytes]

theorem length_bytes (packer : PlainPacker) :
    packer.bytes.length = 12 + 4 * packer.values.length := by
  rw [bytes, List.length_append, List.length_append, List.length_append, length_toBytes,
    length_toBytes, length_toBytes, length_valueBytes]
  omega

private theorem of_toResultFull {packer : PlainPacker} {crc : List UInt8 → UInt32}
    {data : List UInt8} (packed : DataBlockPacker.toResultFull packer crc = some data) :
    packer.values.length ≤ 4 ∧ packer.bytes = data := by
  by_cases small : packer.values.length ≤ 4
  · have result : DataBlockPacker.toResultFull packer crc = some packer.bytes :=
      if_pos small
    rw [result] at packed
    cases packed
    exact ⟨small, rfl⟩
  · have result : DataBlockPacker.toResultFull packer crc = none := if_neg small
    rw [result] at packed
    cases packed

private theorem pushVal_cases (packer : PlainPacker) (value : UInt32) :
    DataBlockPacker.pushVal packer value =
        ({ packer with values := packer.values ++ [value] }, .success) ∨
      DataBlockPacker.pushVal packer value =
        ({ packer with values := packer.values ++ [value] }, .full) ∨
      DataBlockPacker.pushVal packer value = (packer, .overflow) := by
  by_cases room : packer.values.length < 3
  · exact .inl (if_pos room)
  · by_cases last : packer.values.length < 4
    · exact .inr (.inl ((if_neg room).trans (if_pos last)))
    · exact .inr (.inr ((if_neg room).trans (if_neg last)))

instance : LawfulPacker PlainPacker where
  build_ids _ _ _ _ := ⟨rfl, rfl⟩
  writeHeader_prev _ _ := rfl
  pushVal_prev := by
    intro packer value
    rcases pushVal_cases packer value with pushed | filled | refused
    · rw [pushed]
      rfl
    · rw [filled]
      rfl
    · rw [refused]
  result_fits := by
    intro packer crc data packed
    obtain ⟨small, rfl⟩ := of_toResultFull packed
    rw [length_bytes, flashPageSize]
    omega
  result_prev := by
    intro packer crc data packed
    obtain ⟨small, rfl⟩ := of_toResultFull packed
    constructor
    · rw [length_bytes]
      exact Nat.le_trans (by decide : 4 + 4 ≤ 12) (Nat.le_add_right _ _)
    · have length := length_toBytes 4 packer.thisBlockId.toNat
      change ofBytes ((packer.bytes.drop 4).take 4) = packer.prevBlockId.toNat
      rw [bytes, List.drop_left' length, List.take_left' (length_toBytes 4 _),
        ofBytes_toBytes packer.prevBlockId.toNat_lt]

theorem unpacks (crc : List UInt8 → UInt32) : Unpacks crc values unpack where
  build _ _ _ _ := rfl
  success := by
    intro packer value answered
    rcases pushVal_cases packer value with pushed | filled | refused
    · rw [pushed]
    · rw [filled] at answered
      cases answered
    · rw [refused] at answered
      cases answered
  full := by
    intro packer value answered
    rcases pushVal_cases packer value with pushed | filled | refused
    · rw [pushed] at answered
      cases answered
    · rw [filled]
    · rw [refused] at answered
      cases answered
  writeHeader _ _ := rfl
  unpacks := by
    intro packer data packed
    obtain ⟨small, rfl⟩ := of_toResultFull packed
    exact unpack_bytes packer small _

end PlainPacker

end SelfWriter.Storage
