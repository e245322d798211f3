import SelfWriter.Qspi.Addressing
import SelfWriter.Storage.UsedPages
import SelfWriter.Vfs.Directory

/-!
# The callbacks of the virtual files

What the files of the disk show (`threads/vfs/callbacks.rs`): texts packed into
the firmware, the settings and the state of the memory as texts, and the memory
itself.  A callback is given a buffer for one sector and the offset of the sector
in its file.
-/

namespace SelfWriter.Vfs

open SelfWriter.Lib SelfWriter.Qspi

/-- `CompressedData`. -/
structure CompressedData where
  originalSize : Nat
  data : List UInt8
  deriving DecidableEq, Repr

/-- `unpack_reader`; `decode` is the decoder of the packed text. -/
def unpackReader (decode : List UInt8 → List UInt8) (dest : List UInt8) (size : Nat)
    (offset : UInt32) (packed : CompressedData) : List UInt8 :=
  if packed.originalSize < offset.toNat then
    dest
  else
    let toRead :=
      if packed.originalSize < offset.toNat + size then
        packed.originalSize - offset.toNat
      else
        size
    let bytes := ((decode packed.data).drop offset.toNat).take toRead
    bytes ++ dest.drop bytes.length

/-- `store_block_data`: what the text does not fill is filled with spaces. -/
def storeBlockData (text : List UInt8) (dest : List UInt8) (size : Nat)
    (offset : UInt32) : List UInt8 :=
  if offset.toNat < text.length then
    let src := text.drop offset.toNat
    let toWrite := min size src.length
    src.take toWrite ++ List.replicate (size - toWrite) 0x20 ++ dest.drop size
  else
    List.replicate size 0x20 ++ dest.drop size

/-! ## The device behind the files -/

/-- What a callback finds when it is called. -/
structure Device where
  /-- The settings as a text; missing when they are locked or have none. -/
  settingsText : Option (List UInt8)
  memInfo : Storage.MemInfo
  /-- `serde_json::to_string_pretty` for the state of the memory. -/
  toStringPretty : Storage.MemInfo → Option (List UInt8)
  world : World
  /-- The storage driver; missing when its initialisation has failed. -/
  storage : Option QSpiDriver

/-- The state of the memory as a text; missing when it has none. -/
def Device.memInfoText (device : Device) : Option (List UInt8) :=
  device.toStringPretty device.memInfo

/-- `settings_read`. -/
def settingsRead (device : Device) (dest : List UInt8) (size : Nat)
    (offset : UInt32) : List UInt8 :=
  match device.settingsText with
  | some text => storeBlockData text dest size offset
  | none => dest

/-- `meminfo_read`. -/
def meminfoReadCallback (device : Device) (dest : List UInt8) (size : Nat)
    (offset : UInt32) : List UInt8 :=
  match device.memInfoText with
  | some text => storeBlockData text dest size offset
  | none => dest

/-- The part of the USB layer that is not the device's own: `DirectReadHack`, a pointer
and a size written into a buffer behind a magic combination, and what a host gets of a
block when `memory` is what the addresses show while it collects the packets. -/
structure DirectReadHack where
  serialisePtr (pointer size : Nat) (dest : List UInt8) : List UInt8
  send (memory : Nat → UInt8) (block : List UInt8) : List UInt8

/-- What the USB layer promises: where a pointer of 32 bits was written into the buffer
of a block, the packets are read from the place it names. -/
def DirectReadHack.Lawful (hack : DirectReadHack) : Prop :=
  ∀ memory pointer dest, pointer < 2 ^ 32 → dest.length = 512 →
    hack.send memory (hack.serialisePtr pointer 512 dest) =
      (List.range 512).map fun index => memory (pointer + index)

/-- `flash_read`, with nothing as the result of a panic: without a storage the
page size is zero and the offset is divided by it; a pointer that cannot be had
is unwrapped. -/
def flashReadCallback (hack : DirectReadHack) (device : Device) (dest : List UInt8)
    (size : Nat) (offset : UInt32) : Option (List UInt8) :=
  match device.storage with
  | none => none
  | some driver =>
      match QSPIStorage.selectPage device.world
          (offset.toNat / QSPIStorage.flashPageSize) driver with
      | .error _ _ => some dest
      | .ok page selected =>
          match page.mapToMem device.world
              (offset.toNat % QSPIStorage.flashPageSize) selected with
          | .error _ _ => none
          | .ok pointer _ => some (hack.serialisePtr pointer size dest)

inductive Readcb where
  | unpackReader
  | settingsRead
  | meminfoRead
  | flashRead
  deriving DecidableEq, Repr

/-- A callback by its address.  A panic ends the program; the buffer stays as it
was. -/
def serveFile (hack : DirectReadHack) (decode : List UInt8 → List UInt8)
    (device : Device) : Serve Readcb (Option CompressedData) :=
  fun readcb dest size offset userData =>
    match readcb with
    | .unpackReader => (userData.map (unpackReader decode dest size offset)).getD dest
    | .settingsRead => settingsRead device dest size offset
    | .meminfoRead => meminfoReadCallback device dest size offset
    | .flashRead => (flashReadCallback hack device dest size offset).getD dest

/-! ## What the callbacks serve -/

section Serve

variable {dest text : List UInt8} {offset : UInt32}

/-- A text packed into the firmware is unpacked from any offset on. -/
theorem unpackReader_shows {decode : List UInt8 → List UInt8}
    {packed : CompressedData} (isText : decode packed.data = text)
    (isSize : packed.originalSize = text.length) (buffer : dest.length = 512) :
    ShowsText text (unpackReader decode dest 512 offset packed) offset.toNat := by
  unfold unpackReader
  rw [isText, isSize]
  by_cases beyond : text.length < offset.toNat
  · rw [if_pos beyond]
    refine ⟨buffer, ?_⟩
    intro index _ inText
    omega
  · rw [if_neg beyond]
    have taken : (text.drop offset.toNat).take
        (if text.length < offset.toNat + 512 then text.length - offset.toNat
          else 512) = (text.drop offset.toNat).take 512 := by
      split
      · rw [List.take_of_length_le (by rw [List.length_drop]),
          List.take_of_length_le (by rw [List.length_drop]; omega)]
      · rfl
    dsimp only
    rw [taken]
    have size : ((text.drop offset.toNat).take 512).length =
        min 512 (text.length - offset.toNat) := by
      rw [List.length_take, List.length_drop]
    constructor
    · rw [List.length_append, List.length_drop, size]
      omega
    · intro index inSector inText
      rw [List.getElem?_append_left (by omega), List.getElem?_take,
        if_pos inSector, List.getElem?_drop]

/-- A text is served with spaces behind it. -/
theorem storeBlockData_eq (buffer : dest.length = 512) :
    storeBlockData text dest 512 offset =
      ((text ++ List.replicate (offset.toNat + 512) 0x20).drop offset.toNat).take 512 := by
  unfold storeBlockData
  have rest : dest.drop 512 = [] := List.drop_eq_nil_of_le (by omega)
  by_cases inText : offset.toNat < text.length
  · rw [if_pos inText]
    dsimp only
    rw [rest, List.append_nil, List.drop_append_of_le_length (by omega),
      List.take_append, List.length_drop, List.take_replicate]
    congr 1
    · by_cases short : text.length - offset.toNat ≤ 512
      · rw [Nat.min_eq_right short, List.take_of_length_le (by rw [List.length_drop]),
          List.take_of_length_le (by rw [List.length_drop]; omega)]
      · rw [Nat.min_eq_left (by omega)]
    · congr 1
      omega
  · rw [if_neg inText, rest, List.append_nil, List.drop_append,
      List.drop_eq_nil_of_le (by omega), List.nil_append, List.drop_replicate,
      List.take_replicate]
    congr 1
    omega

/-- A text cut to `size` bytes or filled up with spaces. -/
def padTo (size : Nat) (text : List UInt8) : List UInt8 :=
  (text ++ List.replicate size 0x20).take size

theorem length_padTo (size : Nat) (text : List UInt8) :
    (padTo size text).length = size := by
  rw [padTo, List.length_take, List.length_append, List.length_replicate]
  omega

private theorem getElem?_padTo {size index : Nat} (text : List UInt8) (inside : index < size) :
    (padTo size text)[index]? = some (text.getD index 0x20) := by
  rw [padTo, List.getElem?_take, if_pos inside, List.getElem?_append,
    List.getD_eq_getElem?_getD]
  split
  · rename_i inText
    rw [List.getElem?_eq_getElem inText, Option.getD_some]
  · rename_i behind
    rw [List.getElem?_replicate, if_pos (by omega),
      List.getElem?_eq_none (Nat.le_of_not_lt behind), Option.getD_none]

theorem storeBlockData_shows (size : Nat) (text : List UInt8)
    (buffer : dest.length = 512) :
    ShowsText (padTo size text) (storeBlockData text dest 512 offset) offset.toNat := by
  rw [storeBlockData_eq buffer]
  constructor
  · rw [List.length_take, List.length_drop, List.length_append,
      List.length_replicate]
    omega
  · intro index inSector inText
    rw [length_padTo] at inText
    rw [getElem?_padTo text inText, List.getElem?_take, if_pos inSector,
      List.getElem?_drop, ← getElem?_padTo text
        (show offset.toNat + index < offset.toNat + 512 by omega), padTo,
      List.getElem?_take, if_pos (by omega)]

end Serve

/-- Where the storage answers, its pointer is written into the buffer. -/
theorem flashReadCallback_of_ok {hack : DirectReadHack} {device : Device}
    {driver after : QSpiDriver} {pointer size : Nat} {dest : List UInt8} {offset : UInt32}
    (storage : device.storage = some driver)
    (answers : Qspi.flashRead device.world offset.toNat driver = .ok pointer after) :
    flashReadCallback hack device dest size offset =
      some (hack.serialisePtr pointer size dest) := by
  unfold flashReadCallback
  rw [storage]
  unfold Qspi.flashRead at answers
  simp only [bind, EStateM.bind] at answers
  cases selects : QSPIStorage.selectPage device.world
      (offset.toNat / QSPIStorage.flashPageSize) driver with
  | error _ _ => simp [selects] at answers
  | ok page selected =>
      simp only [selects] at answers
      cases maps : page.mapToMem device.world
          (offset.toNat % QSPIStorage.flashPageSize) selected with
      | error _ _ => simp [maps] at answers
      | ok shown mapped =>
          simp only [maps] at answers
          cases drops : page.drop mapped with
          | error _ _ => simp [drops] at answers
          | ok _ dropped =>
              simp only [drops] at answers
              cases answers
              simp [selects, maps]

/-- With a working memory chip the buffer has the place of the sector in the mapped
region. -/
theorem flashReadCallback_points {hack : DirectReadHack} {device : Device}
    {driver : QSpiDriver} {size : Nat} {dest : List UInt8} {offset : UInt32}
    (storage : device.storage = some driver) (reliable : device.world.Reliable)
    (synced : Synced device.world driver)
    (inDevice : offset.toNat < QSPIStorage.flashSize) :
    flashReadCallback hack device dest size offset =
      some (hack.serialisePtr
        (qspiMemoryMappedRegion +
          pageAddr24 (offset.toNat / QSPIStorage.flashPageSize) +
          offset.toNat % QSPIStorage.flashPageSize) size dest) := by
  obtain ⟨pointer, after, answers, _, rfl⟩ := flashRead_shows reliable synced inDevice
  exact flashReadCallback_of_ok storage answers

end SelfWriter.Vfs
