import SelfWriter.Qspi.DirectRead
import SelfWriter.Vfs.LoggerDisk

/-!
# What the USB layer sends

A block in which `flash_read` has left a pointer is not sent itself: its packets are
read from where the pointer leads (`usbd_scsi` with `direct-read-hack`).  That happens
when the host collects them, after `read_block`, and the sleep timer may have ended the
mapping by then.
-/

namespace SelfWriter.Vfs

open SelfWriter.Lib SelfWriter.Lib.Fat32 SelfWriter.Lib.LittleEndian
  SelfWriter.Lib.NorMemory SelfWriter.Qspi

/-! ## Blocks and packets -/

/-- What a host has of a disk whose sectors it read at times of their own and collected
later; `memories` is what the addresses showed then. -/
def Receives (hack : DirectReadHack) (decode : List UInt8 → List UInt8)
    (ctx : LoggerEmfat) (devices : Nat → Device) (memories : Nat → Nat → UInt8)
    (received : Disk) : Prop :=
  ∃ disk, Sees hack decode ctx devices disk ∧
    ∀ lba, received lba = hack.send (memories lba) (disk lba)

/-- A callback whose buffer is sent. -/
def DirectReadHack.sent {Readcb UserData : Type} (hack : DirectReadHack)
    (memory : Nat → UInt8) (serve : Serve Readcb UserData) : Serve Readcb UserData :=
  fun readcb dest size offset userData =>
    hack.send memory (serve readcb dest size offset userData)

/-- The disk without what the callbacks serve. -/
def ownSectors (ctx : LoggerEmfat) : Disk :=
  hostDisk (fun _ _ data _ _ _ => data) ctx (fun _ => zeros 512)

/-- Nothing that the disk makes up itself is taken for a pointer: it is sent as it is. -/
def DirectReadHack.Unmistaken (hack : DirectReadHack) (ctx : LoggerEmfat) : Prop :=
  ∀ memory lba, hack.send memory (ownSectors ctx lba) = ownSectors ctx lba

section Sectors

variable {Readcb UserData : Type}
variable {f : List UInt8 → List UInt8} {emfat : Emfat Readcb UserData}

/-- Either a callback fills a sector, or the sector is there without callbacks. -/
theorem readFileSector_map (serve : Serve Readcb UserData) (data : List UInt8)
    (le : Entry Readcb UserData) (cluster relSect : UInt32)
    (kept : f (readFileSector (fun _ data _ _ _ => data) (zeros 512) le cluster relSect) =
      readFileSector (fun _ data _ _ _ => data) (zeros 512) le cluster relSect) :
    readFileSector (fun readcb data size offset userData =>
        f (serve readcb data size offset userData)) data le cluster relSect =
      f (readFileSector serve data le cluster relSect) := by
  unfold readFileSector at kept ⊢
  cases isCallback : le.readcb with
  | none =>
      rw [isCallback] at kept
      exact kept.symm
  | some readcb => rfl

private theorem entrySector_map (serve : Serve Readcb UserData) (data : List UInt8)
    (le : Entry Readcb UserData) (cluster relSect : UInt32)
    (kept : f (entrySector (fun _ data _ _ _ => data) emfat (zeros 512) le cluster relSect) =
      entrySector (fun _ data _ _ _ => data) emfat (zeros 512) le cluster relSect) :
    entrySector (fun readcb data size offset userData =>
        f (serve readcb data size offset userData)) emfat data le cluster relSect =
      f (entrySector serve emfat data le cluster relSect) := by
  unfold entrySector at kept ⊢
  split_ifs at kept ⊢
  · exact kept.symm
  · exact readFileSector_map serve data le cluster relSect kept

private theorem readDataSector_map (serve : Serve Readcb UserData) (data : List UInt8)
    (relSect : UInt32)
    (kept : f (readDataSector (fun _ data _ _ _ => data) emfat (zeros 512) relSect).1 =
      (readDataSector (fun _ data _ _ _ => data) emfat (zeros 512) relSect).1) :
    (readDataSector (fun readcb data size offset userData =>
        f (serve readcb data size offset userData)) emfat data relSect).1 =
      f (readDataSector serve emfat data relSect).1 := by
  unfold readDataSector at kept ⊢
  dsimp only at kept ⊢
  split_ifs at kept ⊢
  · exact entrySector_map serve data _ _ _ kept
  · cases found : findEntry emfat (relSect / 8 + 2) emfat.lastEntry with
    | none =>
        rw [found] at kept
        exact kept.symm
    | some le =>
        rw [found] at kept
        exact entrySector_map serve data _ _ _ kept

private theorem readSector_map (serve : Serve Readcb UserData) (data : List UInt8)
    (sector : UInt32)
    (kept : f (readSector (fun _ data _ _ _ => data) emfat (zeros 512) sector).1 =
      (readSector (fun _ data _ _ _ => data) emfat (zeros 512) sector).1) :
    (readSector (fun readcb data size offset userData =>
        f (serve readcb data size offset userData)) emfat data sector).1 =
      f (readSector serve emfat data sector).1 := by
  unfold readSector at kept ⊢
  split_ifs at kept ⊢
  · exact readDataSector_map serve data _ kept
  all_goals exact kept.symm

end Sectors

section Receives

variable {original : Entries Readcb (Option CompressedData)} {count : Nat}
variable {ctx : LoggerEmfat} {hack : DirectReadHack}
variable {decode : List UInt8 → List UInt8} {devices : Nat → Device}
variable {memories : Nat → Nat → UInt8} {received : Disk}

/-- Whatever was read before, the host has the disk of the table, with what the USB
layer makes of the buffers of the callbacks. -/
theorem DiskLayout.receives (layout : DiskLayout original count ctx)
    (unmistaken : hack.Unmistaken ctx)
    (receives : Receives hack decode ctx devices memories received) :
    ∃ buffers : Nat → List UInt8, (∀ lba, (buffers lba).length = 512) ∧
      received = hostDisk
        (fun lba => hack.sent (memories lba) (serveFile hack decode (devices lba)))
        ctx buffers := by
  obtain ⟨disk, sees, sent⟩ := receives
  obtain ⟨buffers, isBuffer, rfl⟩ := layout.sees sees
  refine ⟨buffers, isBuffer, ?_⟩
  funext lba
  rw [sent lba]
  exact (readSector_map _ _ _ (unmistaken (memories lba) lba)).symm

end Receives

/-! ## Pages that are still mapped -/

/-- What the addresses show is the memory with the page of the offset mapped. -/
def StillMapped (cells : Cells) (memory : Nat → UInt8) (offset : Nat) : Prop :=
  ∃ driver : QSpiDriver, DirectRead.Shows driver offset ∧ driver.chip.cells = cells ∧
    ∀ address, memory address = driver.chip.cells (driver.resolve address)

/-- Until the sleep timer expires, the page of a read that is over stays mapped. -/
theorem stillMapped_of_reaches {world : World} {chip : Chip} {state : DirectRead.State}
    (reaches : (DirectRead.machine world chip).Reaches
      (fun state label => ¬ DirectRead.Expires state label) state)
    {offset pointer : Nat} (returned : state.phase = .returned offset pointer) :
    StillMapped state.driver.chip.cells
      (fun address => state.driver.chip.cells (state.driver.resolve address)) offset :=
  ⟨state.driver, (DirectRead.reaches_served reaches).readable _ _ returned, rfl,
    fun _ => rfl⟩

/-- The host collects every sector of the files of the memory while its page is still
mapped. -/
def Build.CollectedInTime (build : Build) (cells : Cells)
    (memories : Nat → Nat → UInt8) : Prop :=
  ∀ i (inside : i < build.files.length), build.files[i].readcb = some .flashRead →
    ∀ k, 512 * k < build.files[i].currSize.toNat →
      StillMapped cells
        (memories (sectorOf (tableOf build.files) (build.files.length + 1) (i + 1) k))
        (512 * k)

/-- The sector that the pointer of `flash_read` leads to. -/
theorem StillMapped.sector {cells : Cells} {memory : Nat → UInt8} {offset : Nat}
    (mapped : StillMapped cells memory offset) (aligned : 512 ∣ offset)
    (inDevice : offset < QSPIStorage.flashSize) {index : Nat} (inside : index < 512) :
    memory (qspiMemoryMappedRegion + pageAddr24 (offset / QSPIStorage.flashPageSize) +
      offset % QSPIStorage.flashPageSize + index) = cells (offset + index) := by
  obtain ⟨driver, shows, rfl, isMemory⟩ := mapped
  rw [isMemory, (resolve_sector aligned inDevice shows.extender index inside).2]

/-! ## A magic combination -/

def magicCombination : List UInt8 :=
  List.replicate 16 0xA5

def Unmarked (block : List UInt8) : Prop :=
  block.take 16 ≠ magicCombination

/-- A pointer and a size behind the combination. -/
def markedHack : DirectReadHack where
  serialisePtr pointer size dest :=
    magicCombination ++ toBytes 4 pointer ++ toBytes 4 size ++ dest.drop 24
  send memory block :=
    if block.take 16 = magicCombination then
      (List.range block.length).map fun index =>
        memory (ofBytes ((block.drop 16).take 4) + index)
    else
      block

theorem markedHack_lawful : markedHack.Lawful := by
  intro memory pointer dest address buffer
  have mark : magicCombination.length = 16 := List.length_replicate
  have length : (magicCombination ++ (toBytes 4 pointer ++ (toBytes 4 512 ++
      dest.drop 24))).length = 512 := by
    simp only [List.length_append, mark, length_toBytes, List.length_drop, buffer]
  simp only [markedHack, List.append_assoc]
  rw [List.take_left' mark, if_pos rfl, List.drop_left' mark, length,
    List.take_left' (length_toBytes 4 pointer), toBytes, ofBytes_map_byteAt,
    Nat.mod_eq_of_lt (Nat.lt_of_lt_of_eq address (by decide))]

/-- A block is told from a marked one by any of the first bytes. -/
theorem unmarked_of_byte {block : List UInt8} {index : Nat} (inside : index < 16)
    (differs : block[index]? ≠ some 0xA5) : Unmarked block := by
  intro marked
  apply differs
  rw [← List.getElem?_take_of_lt inside, marked, magicCombination,
    List.getElem?_replicate, if_pos inside]

private theorem unmarked_zeros : Unmarked (zeros 512) :=
  unmarked_of_byte (show 0 < 16 by decide) (by decide)

section OwnSectors

variable {Readcb UserData : Type} {emfat : Emfat Readcb UserData}

/-- The entries of a directory all have the same mark in the reserved byte. -/
def Reserved (entry : DirEntry) : Prop :=
  entry.name.length = 11 ∧ entry.reserved = 24

private theorem fillEntry_reserved (name : List UInt8) (attr : UInt8) (clust : UInt32)
    (cma : Option (UInt32 × UInt32 × UInt32)) (size : UInt32) :
    Reserved (fillEntry name attr clust cma size) := by
  refine ⟨?_, rfl⟩
  change (shortName name attr).length = 11
  exact length_shortName name attr

private theorem fillDirSector_reserved (le : Entry Readcb UserData) (relSect : Nat) :
    ∀ entry ∈ fillDirSector emfat le relSect, Reserved entry := by
  have child : ∀ child : Entry Readcb UserData, Reserved (childEntry child) := by
    intro child
    unfold childEntry
    split <;> exact fillEntry_reserved ..
  have heads : ∀ entry ∈ headEntries emfat le, Reserved entry := by
    intro entry member
    unfold headEntries at member
    split at member
    · rw [List.mem_singleton.1 member]
      exact fillEntry_reserved ..
    · simp only [List.mem_cons, List.not_mem_nil, or_false] at member
      rcases member with rfl | rfl <;> exact fillEntry_reserved ..
  intro entry member
  unfold fillDirSector at member
  dsimp only at member
  split at member
  · rcases List.mem_append.1 member with isHead | isChild
    · exact heads entry isHead
    · obtain ⟨_, _, rfl⟩ := List.mem_map.1 isChild
      exact child _
  · obtain ⟨_, _, rfl⟩ := List.mem_map.1 member
    exact child _

private theorem unmarked_dirSectorBytes {entries : List DirEntry}
    (reserved : ∀ entry ∈ entries, Reserved entry) :
    Unmarked (dirSectorBytes entries) := by
  cases entries with
  | nil => exact unmarked_zeros
  | cons entry entries =>
      obtain ⟨length, isReserved⟩ := reserved entry List.mem_cons_self
      apply unmarked_of_byte (show 12 < 16 by decide)
      have bytes : dirSectorBytes (entry :: entries) = entry.name ++ ([entry.attr] ++
          (entry.reserved :: ((entry.crtTimeTenth :: (entry.fields.drop 3).flatten) ++
            entries.flatMap DirEntry.bytes ++
              zeros (512 - ((entry :: entries).flatMap DirEntry.bytes).length)))) := by
        simp [dirSectorBytes, DirEntry.bytes, DirEntry.fields]
      rw [bytes, List.getElem?_append_right (by omega), length, isReserved]
      change some (24 : UInt8) ≠ some 0xA5
      decide

private theorem unmarked_entrySector (le : Entry Readcb UserData) (cluster relSect : UInt32) :
    Unmarked
      (entrySector (fun _ data _ _ _ => data) emfat (zeros 512) le cluster relSect) := by
  unfold entrySector
  split
  · exact unmarked_dirSectorBytes (fillDirSector_reserved le _)
  · unfold readFileSector
    split
    · exact unmarked_zeros
    · exact unmarked_zeros

private theorem unmarked_readDataSector (relSect : UInt32) :
    Unmarked
      (readDataSector (fun _ data _ _ _ => data) emfat (zeros 512) relSect).1 := by
  unfold readDataSector
  dsimp only
  split
  · exact unmarked_entrySector _ _ _
  · split
    · exact unmarked_of_byte (show 0 < 16 by decide) (by
        change some (0xDE : UInt8) ≠ some 0xA5
        decide)
    · exact unmarked_entrySector _ _ _

/-- The first value of a sector of the allocation table. -/
def FirstValue (value : UInt32) : Prop :=
  value.toNat % 256 ≠ 0xA5

private theorem firstValue_succ {curr : UInt32} (first : curr.toNat % 128 = 0) :
    FirstValue (curr + 1) := by
  rw [FirstValue, UInt32.toNat_add]
  have one : (1 : UInt32).toNat = 1 := rfl
  omega

private theorem fatValue_first (le : Entry Readcb UserData) {curr : UInt32}
    (first : curr.toNat % 128 = 0) : FirstValue (fatValue le curr) := by
  have next := firstValue_succ first
  unfold fatValue
  split_ifs
  · exact (by decide : clustEof.toNat % 256 ≠ 0xA5)
  · exact next
  · exact (by decide : clustEof.toNat % 256 ≠ 0xA5)
  · exact (by decide : clustFree.toNat % 256 ≠ 0xA5)
  · exact next

private theorem unmarked_valueBytes {value : UInt32} (values : List UInt32)
    (first : FirstValue value) :
    Unmarked (valueBytes (value :: values)) := by
  apply unmarked_of_byte (show 0 < 16 by decide)
  have byte : (valueBytes (value :: values))[0]? = some (byteAt value.toNat 0) := rfl
  rw [byte, byteAt, Nat.pow_zero, Nat.div_one]
  intro same
  apply first
  have number := congrArg UInt8.toNat (Option.some_inj.1 same)
  rw [UInt8.toNat_ofNat'] at number
  exact number

private theorem unmarked_readFatSector (index : UInt32) :
    Unmarked (valueBytes (readFatSector emfat index).1) := by
  have first : (index * 128).toNat % 128 = 0 := by
    have width : (128 : UInt32).toNat = 128 := rfl
    rw [UInt32.toNat_mul, width]
    omega
  unfold readFatSector
  dsimp only
  split
  · exact unmarked_valueBytes _ (by decide : clustRootEnd.toNat % 256 ≠ 0xA5)
  · rw [readFatValues]
    split
    · exact unmarked_valueBytes _ (fatValue_first _ first)
    · split
      · exact unmarked_valueBytes _ (by decide : clustReserved.toNat % 256 ≠ 0xA5)
      · exact unmarked_valueBytes _ (fatValue_first _ first)

private theorem unmarked_readSector (sector : UInt32) :
    Unmarked
      (readSector (fun _ data _ _ _ => data) emfat (zeros 512) sector).1 := by
  have first : 0 < 16 := by decide
  unfold readSector
  split_ifs
  · exact unmarked_readDataSector _
  · exact unmarked_of_byte first (by
      change some (0 : UInt8) ≠ some 0xA5
      decide)
  · exact unmarked_of_byte first (by
      change some (0x52 : UInt8) ≠ some 0xA5
      decide)
  · exact unmarked_of_byte first (by
      change some (0xEB : UInt8) ≠ some 0xA5
      decide)
  · exact unmarked_readFatSector _
  · exact unmarked_readFatSector _
  · exact unmarked_zeros

end OwnSectors

/-- No sector of the disk begins with the combination. -/
theorem markedHack_unmistaken (ctx : LoggerEmfat) : markedHack.Unmistaken ctx :=
  fun _ lba => if_neg (unmarked_readSector (UInt32.ofNat lba))

end SelfWriter.Vfs
