import SelfWriter.Command
import SelfWriter.Lib.LittleEndian
import SelfWriter.Lib.NextFree
import SelfWriter.Lib.NorMemory

/-!
# Pages of the data flash and their writer

The search for the next empty page (`main_data_storage/mod.rs`) and
`FlashDiffWriter` (`diff_writer.rs`) over the bytes of the data flash.  A page
is empty when both block ids of its header are all-ones.

The block packer is another package: `DataBlockPacker` is what the writer uses
of it, `LawfulPacker` what it relies on.
-/

namespace SelfWriter.Storage

universe u

open SelfWriter.Lib.NorMemory SelfWriter.Lib.LittleEndian

/-- `flash_page_size()`. -/
def flashPageSize : Nat := 4096

/-- Bytes of one program command. -/
def programSize : Nat := 256

inductive FreeRtosError where
  | outOfMemory
  | mutexTimeout
  deriving DecidableEq, Repr

inductive MemoryState where
  | undefined
  | partialUsed (nextFreePage : Nat)
  | fullUsed
  deriving DecidableEq, Repr

/-! ## The packer -/

/-- Offsets of the two block ids in `DataPacketHeader`; both lie in the first
program of a page. -/
structure HeaderFormat where
  prevBlockId : Nat
  thisBlockId : Nat
  prev_inside : prevBlockId + 4 ≤ programSize
  this_inside : thisBlockId + 4 ≤ programSize

inductive PushResult where
  | success
  | full
  | overflow
  | finished
  deriving DecidableEq, Repr

/-- What the settings and the clock contribute to a new block. -/
structure BlockInfo where
  timestamp : UInt64
  fRef : UInt32
  baseIntervalMs : UInt32
  interleaveRatio : UInt32 × UInt32
  deriving DecidableEq, Repr

/-- The part of the header that is filled from the measured values. -/
structure HeaderOutput where
  targets : UInt32 × UInt32
  tCpu : UInt32
  vBat : UInt32
  deriving DecidableEq, Repr

class DataBlockPacker (Packer : Type u) where
  format : HeaderFormat
  build : (prevBlockId thisBlockId : UInt32) → (size : Nat) → BlockInfo → Packer
  writeHeader : Packer → HeaderOutput → Packer
  pushVal : Packer → UInt32 → Packer × PushResult
  prevBlockId : Packer → UInt32
  thisBlockId : Packer → UInt32
  toResultFull : Packer → (List UInt8 → UInt32) → Option (List UInt8)

/-- The ids stay those of the builder, and a packed block fits its page and
carries them in its header. -/
class LawfulPacker (Packer : Type u) [DataBlockPacker Packer] : Prop where
  build_ids : ∀ prev this size info,
    DataBlockPacker.prevBlockId
        (DataBlockPacker.build prev this size info : Packer) = prev ∧
      DataBlockPacker.thisBlockId
        (DataBlockPacker.build prev this size info : Packer) = this
  writeHeader_prev : ∀ (packer : Packer) output,
    DataBlockPacker.prevBlockId (DataBlockPacker.writeHeader packer output) =
      DataBlockPacker.prevBlockId packer
  pushVal_prev : ∀ (packer : Packer) value,
    DataBlockPacker.prevBlockId (DataBlockPacker.pushVal packer value).1 =
      DataBlockPacker.prevBlockId packer
  result_fits : ∀ (packer : Packer) crc data,
    DataBlockPacker.toResultFull packer crc = some data →
      data.length ≤ flashPageSize
  result_prev : ∀ (packer : Packer) crc data,
    DataBlockPacker.toResultFull packer crc = some data →
      (DataBlockPacker.format Packer).prevBlockId + 4 ≤ data.length ∧
      ofBytes ((data.drop (DataBlockPacker.format Packer).prevBlockId).take 4) =
        (DataBlockPacker.prevBlockId packer).toNat

/-! ## Empty pages -/

/-- A `u32` read through the memory map. -/
def readU32 (cells : Cells) (address : Nat) : Nat :=
  ofBytes ((List.range 4).map (fun index => cells (address + index)))

/-- Both ids are all-ones. -/
def HeaderErased (format : HeaderFormat) (cells : Cells) (page : Nat) : Prop :=
  min (readU32 cells (page * flashPageSize + format.thisBlockId))
      (readU32 cells (page * flashPageSize + format.prevBlockId)) = 2 ^ 32 - 1

instance (format : HeaderFormat) (cells : Cells) (page : Nat) :
    Decidable (HeaderErased format cells page) :=
  inferInstanceAs (Decidable (_ = _))

/-- Whether the cache could be locked for reading and for writing. -/
structure CacheLocks where
  reads : Bool
  writes : Bool
  deriving DecidableEq, Repr

/-- The part of `find_next_empty_page` behind the cache. -/
def scanPages (format : HeaderFormat) (pages : Nat) (locks : CacheLocks)
    (cells : Cells) (cache : MemoryState) (start : Nat) :
    Option Nat × MemoryState :=
  match (List.range' start (pages - start)).find?
      (fun page => HeaderErased format cells page) with
  | some page => (some page, if locks.writes then .partialUsed page else cache)
  | none => (none, if locks.writes then .fullUsed else cache)

def findNextEmptyPage (format : HeaderFormat) (pages : Nat) (locks : CacheLocks)
    (cells : Cells) (cache : MemoryState) (start : Nat) :
    Option Nat × MemoryState :=
  if locks.reads then
    match cache with
    | .partialUsed nextFreePage =>
        if start ≤ nextFreePage then (some nextFreePage, cache)
        else scanPages format pages locks cells cache start
    | .fullUsed => (none, cache)
    | .undefined => scanPages format pages locks cells cache start
  else
    scanPages format pages locks cells cache start

/-! ## The writer -/

structure FlashDiffWriter where
  nextPageNumber : Nat
  pageAqured : Bool
  deriving DecidableEq, Repr

def FlashDiffWriter.new : FlashDiffWriter where
  nextPageNumber := 0
  pageAqured := false

structure DataBlock (Packer : Type u) where
  packer : Packer
  counter : Nat
  destPage : Nat
  prevs : FChannel → UInt32

section Writer

variable {Packer : Type u} [DataBlockPacker Packer]

namespace DataBlock

def writeHeader (self : DataBlock Packer) (output : HeaderOutput) :
    DataBlock Packer :=
  { self with packer := DataBlockPacker.writeHeader self.packer output }

/-- `none` is the panic of `unreachable!`. -/
def pushData (self : DataBlock Packer) (result : Option UInt32)
    (channel : FChannel) : Option (DataBlock Packer × Bool) :=
  let diff := match result with
    | some r => r - self.prevs channel
    | none => 0
  let prevs := match result with
    | some r => fun other => if other = channel then r else self.prevs other
    | none => self.prevs
  let pushed := DataBlockPacker.pushVal self.packer diff
  let after : DataBlock Packer :=
    { self with packer := pushed.1, counter := self.counter + 1, prevs := prevs }
  match pushed.2 with
  | .success => some (after, false)
  | .full => some (after, true)
  | .overflow => some (after, false)
  | .finished => none

end DataBlock

/-- What `try_create_new_page` meets: the locks of the cache, and the settings
if their lock could be taken in time. -/
structure CreateCall where
  locks : CacheLocks
  settings : Option BlockInfo

namespace FlashDiffWriter

/-- The answer, and the writer and the cache it leaves. -/
structure Created (Packer : Type u) where
  answer : Except FreeRtosError (DataBlock Packer)
  writer : FlashDiffWriter
  cache : MemoryState

def tryCreateNewPage (pages : Nat) (call : CreateCall) (cells : Cells)
    (cache : MemoryState) (self : FlashDiffWriter) (pageNumber : UInt32) :
    Created Packer :=
  if self.pageAqured then
    { answer := .error .outOfMemory, writer := self, cache := cache }
  else
    match findNextEmptyPage (DataBlockPacker.format Packer) pages call.locks
        cells cache self.nextPageNumber with
    | (none, cache) =>
        { answer := .error .outOfMemory, writer := self, cache := cache }
    | (some ep, cache) =>
        match call.settings with
        | none =>
            { answer := .error .mutexTimeout
              writer := { self with nextPageNumber := ep }
              cache := cache }
        | some info =>
            { answer := .ok
                { packer := DataBlockPacker.build
                    (if pageNumber = 0 then 0 else pageNumber - 1) pageNumber
                    flashPageSize info
                  destPage := ep
                  counter := 0
                  prevs := fun _ => 0 }
              writer := { nextPageNumber := ep + 1, pageAqured := true }
              cache := cache }

/-- The programs of one page; a program that fails leaves `residue`. -/
inductive WriteOutcome where
  | complete
  | failed (programs : Nat) (residue : Cells)

inductive PageWriteResult where
  | succes (id : UInt32)
  | fail (id : UInt32)
  deriving DecidableEq, Repr

/-- The first programs of a page. -/
def programmed (cells : Cells) (page : Nat) (data : List UInt8)
    (programs : Nat) : Cells :=
  program cells (span (page * flashPageSize) (data.take (programs * programSize)))

/-- The bytes of the next program are replaced by `residue`. -/
def spoiled (cells : Cells) (page : Nat) (data : List UInt8) (programs : Nat)
    (residue : Cells) : Cells := fun address =>
  if page * flashPageSize + programs * programSize ≤ address ∧
      address < page * flashPageSize +
        min ((programs + 1) * programSize) data.length then
    residue address
  else
    programmed cells page data programs address

def write (crc : List UInt8 → UInt32) (outcome : WriteOutcome) (cells : Cells)
    (self : FlashDiffWriter) (page : DataBlock Packer) :
    PageWriteResult × FlashDiffWriter × Cells :=
  let id := DataBlockPacker.thisBlockId page.packer
  let writer := { self with pageAqured := false }
  match DataBlockPacker.toResultFull page.packer crc with
  | some data =>
      match outcome with
      | .complete =>
          (.succes id, writer,
            program cells (span (page.destPage * flashPageSize) data))
      | .failed programs residue =>
          (.fail id, writer,
            spoiled cells page.destPage data programs residue)
  | none => (.fail id, writer, cells)

end FlashDiffWriter

end Writer

end SelfWriter.Storage
