import SelfWriter.Lib.LittleEndian
import SelfWriter.Vfs.Layout

/-!
# Reading a sector of the disk

`emfat_read` makes up every sector when it is asked for: the partition table, the
boot sector, the allocation table from the clusters of the entries, a directory
from its links, and the contents of a file through its callback.  The entry
found last is remembered, and the next search begins there.
-/

namespace SelfWriter.Vfs

open SelfWriter.Lib SelfWriter.Lib.LittleEndian SelfWriter.Lib.IndexList

variable {Readcb UserData : Type}

/-- What a callback leaves in the buffer it is given, of `size` bytes. -/
abbrev Serve (Readcb UserData : Type) :=
  Readcb → List UInt8 → (size : Nat) → (offset : UInt32) → UserData → List UInt8

def zeros (count : Nat) : List UInt8 :=
  List.replicate count 0

/-- The characters of a text without characters beyond ASCII. -/
def ascii (text : String) : List UInt8 :=
  text.toList.map fun character => UInt8.ofNat character.toNat

@[simp]
theorem length_zeros (count : Nat) : (zeros count).length = count :=
  List.length_replicate

@[simp]
theorem length_ascii (text : String) : (ascii text).length = text.length := by
  rw [ascii, List.length_map, String.length_toList]

/-! ## Sectors outside the clusters -/

/-- `lba_to_chs`: sector, cylinder and head. -/
def lbaToChs (lba : Int32) : UInt8 × UInt8 × UInt8 :=
  let sector := lba % 63 + 1
  let head := lba / 63 % 255
  let cylinder := lba / (63 * 255)
  if 1024 ≤ cylinder then
    (0xff, 0xff, 0xff)
  else
    ((sector ||| ((cylinder &&& 0x300) >>> 2)).toUInt32.toUInt8,
      (cylinder &&& 0xff).toUInt32.toUInt8, head.toUInt32.toUInt8)

/-- An entry of the partition table. -/
structure MbrPart where
  status : UInt8
  startHead : UInt8
  startSector : UInt8
  startCylinder : UInt8
  partType : UInt8
  endHead : UInt8
  endSector : UInt8
  endCylinder : UInt8
  startLBA : UInt32
  sizeLBA : UInt32

/-- The fields of `read_mbr_sector`; the other partitions are empty. -/
def MbrPart.sectorFields (part : MbrPart) : List (List UInt8) :=
  [zeros 440,
    toBytes 4 0,                                -- DiskSig
    toBytes 2 0,
    [part.status, part.startHead, part.startSector, part.startCylinder],
    [part.partType],
    [part.endHead, part.endSector, part.endCylinder],
    toBytes 4 part.startLBA.toNat,
    toBytes 4 part.sizeLBA.toNat,
    zeros 48,
    [0x55, 0xAA]]

theorem MbrPart.length_sectorFields (part : MbrPart) :
    part.sectorFields.map List.length = [440, 4, 2, 4, 1, 3, 4, 4, 48, 2] := by
  simp [MbrPart.sectorFields]

def mbrPart (emfat : Emfat Readcb UserData) : MbrPart :=
  let (startSector, startCylinder, startHead) := lbaToChs emfat.bootLba.toInt32
  let (endSector, endCylinder, endHead) :=
    lbaToChs (emfat.diskSectors - 1).toInt32
  { status := 0x80
    startHead := startHead
    startSector := startSector
    startCylinder := startCylinder
    partType := 0x0C
    endHead := endHead
    endSector := endSector
    endCylinder := endCylinder
    startLBA := emfat.bootLba
    sizeLBA := emfat.diskSectors - emfat.bootLba }

/-- `read_mbr_sector`. -/
def readMbrSector (emfat : Emfat Readcb UserData) : List UInt8 :=
  (mbrPart emfat).sectorFields.flatten

/-- The fields of `read_boot_sector`, one after the other. -/
def bootSectorFields (emfat : Emfat Readcb UserData) : List (List UInt8) :=
  [[0xEB, 0x58, 0x90],
    ascii "MSDOS5.0",
    toBytes 2 512,                              -- bytes_per_sec
    [8],                                        -- sec_per_clus
    toBytes 2 2,                                -- reserved_sec_cnt
    [2],                                        -- fat_cnt
    toBytes 2 0,                                -- root_dir_max_cnt
    toBytes 2 0,                                -- tot_sectors
    [0xF8],                                     -- media_desc
    toBytes 2 0,                                -- sec_per_fat_fat16
    toBytes 2 63,                               -- sec_per_track
    toBytes 2 0xFF,                             -- number_of_heads
    toBytes 4 62,                               -- hidden_sec_cnt
    toBytes 4 (emfat.diskSectors - emfat.bootLba).toNat,
    toBytes 4 (emfat.fat2Lba - emfat.fat1Lba).toNat,
    toBytes 2 0,                                -- ext_flags
    [0, 0],                                     -- fs_version
    toBytes 4 2,                                -- root_dir_strt_cluster
    toBytes 2 1,                                -- fs_info_sector
    toBytes 2 0,                                -- backup_boot_sector
    zeros 12,
    [128, 0, 0x29],                             -- drive_number, boot_sig
    [148, 14, 13, 8],                           -- volume_id
    ascii "NO NAME    ",
    ascii "FAT32   ",
    zeros 420,
    [0x55, 0xAA]]

theorem length_bootSectorFields (emfat : Emfat Readcb UserData) :
    (bootSectorFields emfat).map List.length =
      [3, 8, 2, 1, 2, 1, 2, 2, 1, 2, 2, 2, 4, 4, 4, 2, 2, 4, 2, 2, 12, 3, 4, 11, 8,
        420, 2] := by
  simp [bootSectorFields]
  decide

/-- `read_boot_sector`. -/
def readBootSector (emfat : Emfat Readcb UserData) : List UInt8 :=
  (bootSectorFields emfat).flatten

/-- `read_fsinfo_sector`. -/
def readFsinfoSector (emfat : Emfat Readcb UserData) : List UInt8 :=
  toBytes 4 0x41615252 ++ zeros 480 ++ toBytes 4 0x61417272 ++ toBytes 4 0 ++
    toBytes 4 (emfat.numClust + 2).toNat ++ zeros 12 ++ toBytes 4 0xAA550000

/-! ## The entry of a cluster -/

/-- `IS_CLUST_OF`. -/
def isClustOf (clust : UInt32) (entry : Entry Readcb UserData) : Bool :=
  decide (entry.priv.firstClust ≤ clust ∧ clust ≤ entry.priv.lastReserved)

/-- `find_entry`, from an entry that is given. -/
def findEntry (emfat : Emfat Readcb UserData) (clust : UInt32) (nearest : Nat) :
    Option Nat :=
  if clust < (emfat.entries nearest).priv.firstClust then
    -- backward finding
    searchDown (fun i => isClustOf clust (emfat.entries i)) nearest
  else
    -- forward finding
    searchUp (fun i => isClustOf clust (emfat.entries i))
      (emfat.numEntries - nearest) nearest

/-! ## The allocation table -/

def clustFree : UInt32 := 0x00000000
def clustReserved : UInt32 := 0x00000001
def clustRootEnd : UInt32 := 0x0FFFFFF8
def clustEof : UInt32 := 0x0FFFFFFF

/-- What the table says about a cluster of entry `le`. -/
def fatValue (le : Entry Readcb UserData) (curr : UInt32) : UInt32 :=
  if le.dir then
    if curr = le.priv.lastClust then clustEof else curr + 1
  else if curr = le.priv.lastClust then
    clustEof
  else if le.priv.lastClust < curr then
    clustFree
  else
    curr + 1

/-- The loop: `count` values from `curr` on, and the entry reached.  Where no
entry is found, the search goes back to the one remembered before. -/
def readFatValues (emfat : Emfat Readcb UserData) :
    (count : Nat) → (curr : UInt32) → (le : Nat) → List UInt32 × Nat
  | 0, _, le => ([], le)
  | count + 1, curr, le =>
      if isClustOf curr (emfat.entries le) then
        let (values, last) := readFatValues emfat count (curr + 1) le
        (fatValue (emfat.entries le) curr :: values, last)
      else
        match findEntry emfat curr le with
        | none =>
            let (values, last) :=
              readFatValues emfat count (curr + 1) emfat.lastEntry
            (clustReserved :: values, last)
        | some le =>
            let (values, last) := readFatValues emfat count (curr + 1) le
            (fatValue (emfat.entries le) curr :: values, last)

/-- The values of `read_fat_sector` and the entry it remembers. -/
def readFatSector (emfat : Emfat Readcb UserData) (index : UInt32) :
    List UInt32 × Nat :=
  let curr := index * 128
  if curr = 0 then
    let (values, last) :=
      readFatValues emfat (128 - 2) (curr + 2) emfat.lastEntry
    (clustRootEnd :: 0xFFFFFFFF :: values, last)
  else
    readFatValues emfat 128 curr emfat.lastEntry

def valueBytes (values : List UInt32) : List UInt8 :=
  values.flatMap fun value => toBytes 4 value.toNat

/-! ## Directories -/

structure DirEntry where
  name : List UInt8
  attr : UInt8
  reserved : UInt8
  crtTimeTenth : UInt8
  crtTime : UInt16
  crtDate : UInt16
  lstAccessDate : UInt16
  strtClusHword : UInt16
  lstModTime : UInt16
  lstModDate : UInt16
  strtClusLword : UInt16
  size : UInt32
  deriving DecidableEq, Repr

/-- The name has eleven bytes, the last three its extension. -/
def DirEntry.fields (entry : DirEntry) : List (List UInt8) :=
  [entry.name,
    [entry.attr],
    [entry.reserved, entry.crtTimeTenth],
    toBytes 2 entry.crtTime.toNat,
    toBytes 2 entry.crtDate.toNat,
    toBytes 2 entry.lstAccessDate.toNat,
    toBytes 2 entry.strtClusHword.toNat,
    toBytes 2 entry.lstModTime.toNat,
    toBytes 2 entry.lstModDate.toNat,
    toBytes 2 entry.strtClusLword.toNat,
    toBytes 4 entry.size.toNat]

def DirEntry.bytes (entry : DirEntry) : List UInt8 :=
  entry.fields.flatten

def attrRead : UInt8 := 0x01
def attrVolLabel : UInt8 := 0x08
def attrDir : UInt8 := 0x10
def attrArchive : UInt8 := 0x20

/-- The last dot of a name. -/
def dotPos (name : List UInt8) : Option Nat :=
  if name.length = 0 then
    none
  else
    searchDown (fun i => name[i]? == some 0x2E) (name.length - 1)

def upperCase (byte : UInt8) : UInt8 :=
  if 0x61 ≤ byte ∧ byte ≤ 0x7A then byte - 0x20 else byte

/-- At most `width` bytes, filled up with spaces. -/
def padName (width : Nat) (part : List UInt8) : List UInt8 :=
  part.take width ++ List.replicate (width - part.length) 0x20

/-- The eleven bytes `fill_entry` makes of a name.  A directory has no
extension. -/
def shortName (name : List UInt8) (attr : UInt8) : List UInt8 :=
  let dot := if attr &&& attrDir = 0 then dotPos name else none
  let parts :=
    match dot with
    | none => (name, [])
    | some dot => (name.take dot, name.drop (dot + 1))
  (padName 8 parts.1 ++ padName 3 parts.2).map upperCase

/-- `fill_entry`. -/
def fillEntry (name : List UInt8) (attr : UInt8) (clust : UInt32)
    (cma : Option (UInt32 × UInt32 × UInt32)) (size : UInt32) : DirEntry :=
  let (created, modified, accessed) := cma.getD (0, 0, 0)
  { name := shortName name attr
    attr := attr
    reserved := 24
    crtTimeTenth := 0
    crtTime := (created &&& 0xFFFF).toUInt16
    crtDate := (created >>> 16).toUInt16
    lstAccessDate := (accessed >>> 16).toUInt16
    strtClusHword := (clust >>> 16).toUInt16
    lstModTime := (modified &&& 0xFFFF).toUInt16
    lstModDate := (modified >>> 16).toUInt16
    strtClusLword := clust.toUInt16
    size := size }

/-- What a directory says about one of its entries. -/
def childEntry (entry : Entry Readcb UserData) : DirEntry :=
  if entry.dir then
    fillEntry entry.name (attrDir ||| attrRead) entry.priv.firstClust
      (some entry.cmaTime) 0
  else
    fillEntry entry.name (attrArchive ||| attrRead) entry.priv.firstClust
      (some entry.cmaTime) entry.currSize

/-- What a directory begins with: the label in the root, itself and the
directory above elsewhere. -/
def headEntries (emfat : Emfat Readcb UserData) (entry : Entry Readcb UserData) :
    List DirEntry :=
  match entry.priv.top with
  | none => [fillEntry emfat.volLabel attrVolLabel 0 none 0]
  | some top =>
      [fillEntry (ascii ".") (attrDir ||| attrRead) entry.priv.firstClust none 0,
        fillEntry (ascii "..") (attrDir ||| attrRead)
          (emfat.entries top).priv.firstClust none 0]

/-- The entries `fill_dir_sector` writes. -/
def fillDirSector (emfat : Emfat Readcb UserData) (entry : Entry Readcb UserData)
    (relSect : Nat) : List DirEntry :=
  let next := fun i => (emfat.entries i).priv.next
  let heads := headEntries emfat entry
  if relSect = 0 then
    heads ++ (follow next (512 / 32 - heads.length) entry.priv.sub).map
      fun i => childEntry (emfat.entries i)
  else
    let n := relSect * (512 / 32) - if entry.priv.top.isNone then 1 else 2
    (follow next (512 / 32) (skip next n entry.priv.sub)).map
      fun i => childEntry (emfat.entries i)

/-- The bytes of a sector of a directory: nothing behind the last entry. -/
def dirSectorBytes (entries : List DirEntry) : List UInt8 :=
  let bytes := entries.flatMap DirEntry.bytes
  bytes ++ zeros (512 - bytes.length)

/-! ## Clusters -/

/-- The callback's part of `read_data_sector`. -/
def readFileSector (serve : Serve Readcb UserData) (data : List UInt8)
    (le : Entry Readcb UserData) (cluster relSect : UInt32) : List UInt8 :=
  match le.readcb with
  | none => zeros 512
  | some readcb =>
      let offset := (cluster - le.priv.firstClust) * 4096 + relSect * 512
      serve readcb data 512 (offset + le.offset) le.userData

/-- What `read_data_sector` writes once the entry of the cluster is known. -/
def entrySector (serve : Serve Readcb UserData) (emfat : Emfat Readcb UserData)
    (data : List UInt8) (le : Entry Readcb UserData) (cluster relSect : UInt32) :
    List UInt8 :=
  if le.dir then
    dirSectorBytes (fillDirSector emfat le relSect.toNat)
  else
    readFileSector serve data le cluster relSect

def deadBeef : List UInt8 :=
  (List.replicate (512 / 4) (toBytes 4 0xEFBEADDE)).flatten

/-- `read_data_sector`: the sector and the entry remembered. -/
def readDataSector (serve : Serve Readcb UserData) (emfat : Emfat Readcb UserData)
    (data : List UInt8) (relSect : UInt32) : List UInt8 × Nat :=
  let cluster := relSect / 8 + 2
  let relSect := relSect % 8
  if isClustOf cluster (emfat.entries emfat.lastEntry) then
    (entrySector serve emfat data (emfat.entries emfat.lastEntry) cluster relSect,
      emfat.lastEntry)
  else
    match findEntry emfat cluster emfat.lastEntry with
    | none => (deadBeef, emfat.lastEntry)
    | some le =>
        (entrySector serve emfat data (emfat.entries le) cluster relSect, le)

/-! ## The whole disk -/

/-- The body of the loop of `emfat_read`. -/
def readSector (serve : Serve Readcb UserData) (emfat : Emfat Readcb UserData)
    (data : List UInt8) (sector : UInt32) : List UInt8 × Nat :=
  if emfat.rootLba ≤ sector then
    readDataSector serve emfat data (sector - emfat.rootLba)
  else if sector = 0 then
    (readMbrSector emfat, emfat.lastEntry)
  else if sector = emfat.fsinfoLba then
    (readFsinfoSector emfat, emfat.lastEntry)
  else if sector = emfat.bootLba then
    (readBootSector emfat, emfat.lastEntry)
  else if emfat.fat1Lba ≤ sector ∧ sector < emfat.fat2Lba then
    let (values, last) := readFatSector emfat (sector - emfat.fat1Lba)
    (valueBytes values, last)
  else if emfat.fat2Lba ≤ sector ∧ sector < emfat.rootLba then
    let (values, last) := readFatSector emfat (sector - emfat.fat2Lba)
    (valueBytes values, last)
  else
    (zeros 512, emfat.lastEntry)

/-- `emfat_read` into a buffer. -/
def emfatRead (serve : Serve Readcb UserData) (emfat : Emfat Readcb UserData)
    (data : List UInt8) (sector : UInt32) :
    (numSectors : Nat) → List UInt8 × Emfat Readcb UserData
  | 0 => ([], emfat)
  | numSectors + 1 =>
      let (first, last) := readSector serve emfat (data.take 512) sector
      let (rest, emfat) := emfatRead serve { emfat with lastEntry := last }
        (data.drop 512) (sector + 1) numSectors
      (first ++ rest, emfat)

end SelfWriter.Vfs
