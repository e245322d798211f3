import SelfWriter.Vfs.Transport

/-!
# What the files of the device contain

The two files of the memory, the texts packed into the firmware and the texts of
its state, read by a host over the directory, the allocation table and the
clusters.  For some numbers of used pages the allocation table is too short for
the last file.
-/

namespace SelfWriter.Vfs

open SelfWriter.Lib SelfWriter.Lib.Fat32 SelfWriter.Lib.NextFree
  SelfWriter.Lib.NorMemory SelfWriter.Qspi SelfWriter.Storage

/-! ## The memory as a file -/

/-- The memory chip works and, whatever has been done with it before, holds
`cells`. -/
def Device.Holds (device : Device) (cells : Cells) : Prop :=
  ∃ (chip : Chip) (steps : List ClientStep),
    chip.programFailure = false ∧ device.world.Reliable ∧
    device.storage = some ((Client.init chip).run device.world steps).driver ∧
    ((Client.init chip).run device.world steps).driver.chip.cells = cells

/-- What a host has received of a device whose memory holds `cells`: the USB layer keeps
its promise and mistakes no sector of the disk itself for a pointer, and the host
collects the sectors of the memory in time. -/
structure CollectsMemory (hack : DirectReadHack) (build : Build) (ctx : LoggerEmfat)
    (cells : Cells) (received : Disk) : Prop where
  lawful : hack.Lawful
  unmistaken : hack.Unmistaken ctx
  collects : ∃ decode devices memories,
    Receives hack decode ctx devices memories received ∧
      (∀ lba, (devices lba).Holds cells) ∧ build.CollectedInTime cells memories

/-- The first bytes of the memory. -/
def memoryBytes (cells : Cells) (size : Nat) : List UInt8 :=
  (List.range size).map cells

section Memory

variable {hack : DirectReadHack} {decode : List UInt8 → List UInt8} {device : Device}
variable {cells : Cells} {memory : Nat → UInt8}
variable {buffer : List UInt8} {name : String} {size k : Nat}

private theorem toNat_sectorOffset (small : 512 * k < 2 ^ 32) :
    (UInt32.ofNat (512 * k) + 0).toNat = 512 * k := by
  rw [UInt32.add_zero, UInt32.toNat_ofNat']
  omega

/-- What the host has of a sector of the memory that it collected in time. -/
theorem fileSector_flashRead (lawful : hack.Lawful) (holds : device.Holds cells)
    (inDevice : 512 * k < QSPIStorage.flashSize) (isBuffer : buffer.length = 512)
    (mapped : StillMapped cells memory (512 * k)) :
    fileSector (hack.sent memory (serveFile hack decode device))
        (fileEntry name size size .flashRead none) buffer k =
      (List.range 512).map fun index => cells (512 * k + index) := by
  obtain ⟨chip, steps, healthy, reliable, storage, rfl⟩ := holds
  have synced : Synced device.world
      ((Client.init chip).run device.world steps).driver :=
    Client.run_synced steps _ (Client.init_synced healthy)
  have aligned : 512 ∣ 512 * k := Nat.dvd_mul_right 512 k
  have offset : (UInt32.ofNat (512 * k) + 0).toNat = 512 * k :=
    toNat_sectorOffset (by rw [flashSize_eq] at inDevice; omega)
  have points := @flashReadCallback_points hack device _ 512 buffer
    (UInt32.ofNat (512 * k) + 0) storage reliable synced (by rw [offset]; exact inDevice)
  obtain ⟨_, shows, _, _⟩ := id mapped
  have inRegion := (resolve_sector aligned inDevice shows.extender 0 (by decide)).1
  rw [Nat.add_zero] at inRegion
  have address := Nat.lt_trans inRegion
    (by decide : qspiMemoryMappedRegion + 2 ^ 24 < 2 ^ 32)
  rw [offset] at points
  change hack.send memory ((flashReadCallback hack device buffer 512
    (UInt32.ofNat (512 * k) + 0)).getD buffer) = _
  rw [points, Option.getD_some, lawful memory _ buffer address isBuffer]
  apply List.map_congr_left
  intro index inside
  exact mapped.sector aligned inDevice (List.mem_range.1 inside)

private theorem memory_showsText (cells : Cells) (size k : Nat) :
    ShowsText (memoryBytes cells size)
      ((List.range 512).map fun index => cells (512 * k + index)) (512 * k) := by
  constructor
  · rw [List.length_map, List.length_range]
  · intro index inSector inside
    rw [memoryBytes, List.length_map, List.length_range] at inside
    rw [memoryBytes, List.getElem?_map, List.getElem?_map,
      List.getElem?_range inSector, List.getElem?_range inside]
    rfl

end Memory

section Read

variable {build : Build} {ctx : LoggerEmfat} {cells : Cells}
variable {hack : DirectReadHack} {decode : List UInt8 → List UInt8}
variable {devices : Nat → Device} {memories : Nat → Nat → UInt8}
variable {buffers : Nat → List UInt8}

/-- A file of the memory is what the memory holds, as long as its chain is
complete. -/
theorem Build.Moderate.read_memoryFile (moderate : build.Moderate)
    (layout : DiskLayout (tableOf build.files) (build.files.length + 1) ctx)
    (isLabel : ctx.volLabel = diskLabel)
    (isBuffer : ∀ lba, (buffers lba).length = 512) (lawful : hack.Lawful)
    (holds : ∀ lba, (devices lba).Holds cells)
    (inTime : build.CollectedInTime cells memories) {i pages : Nat} {name : String}
    (inside : i < build.files.length) (some : 0 < pages)
    (inDevice : 4096 * pages ≤ QSPIStorage.flashSize)
    (isFile : build.files[i] =
      fileEntry name (4096 * pages) (4096 * pages) .flashRead none) :
    readFile (hostDisk
        (fun lba => hack.sent (memories lba) (serveFile hack decode (devices lba)))
        ctx buffers) (listedFile build.files[i]).1 =
      if missingClusters (tableOf build.files) (build.files.length + 1) ≤
          clustersOfFiles (build.files.drop (i + 1)) then
        .some (memoryBytes cells (4096 * pages))
      else
        none := by
  have few := build.files_length_le
  have isSize : build.files[i].currSize.toNat = 4096 * pages := by
    rw [isFile]
    change (UInt32.ofNat _).toNat = _
    rw [flashSize_eq] at inDevice
    rw [UInt32.toNat_ofNat']
    omega
  have isEntry : tableOf build.files (i + 1) = build.files[i] := tableOf_succ inside
  have covered := build.allFiles.covered_file_iff (by omega) inside
    (by rw [isFile]; rfl)
  have isUsed : clustersUsed (tableOf build.files) (build.files.length + 1) (i + 1) =
      pages := by
    rw [build.allFiles.clustersUsed_file inside, isSize, clustersOf,
      if_neg (by omega)]
    omega
  rw [moderate.readFile_eq layout isLabel inside]
  by_cases complete : missingClusters (tableOf build.files) (build.files.length + 1) ≤
      clustersOfFiles (build.files.drop (i + 1))
  · rw [if_pos complete, ← isEntry]
    apply layout.file_shows
      (fun lba => hack.sent (memories lba) (serveFile hack decode (devices lba))) buffers
      moderate.fits moderate.addressable (show i + 1 < _ by omega)
      (build.allFiles.dir inside) (covered.2 complete)
    · rw [isEntry, isSize, memoryBytes, List.length_map, List.length_range]
    · intro k isSector
      rw [isUsed] at isSector
      have mapped := inTime i inside (by rw [isFile]; rfl) k (by rw [isSize]; omega)
      rw [isEntry, isFile, fileSector_flashRead lawful (holds _) (by omega) (isBuffer _)
        mapped]
      exact memory_showsText cells _ k
  · rw [if_neg complete, Volume.file, layout.chainFrom_eq_none _ buffers
      moderate.fits moderate.addressable (show i + 1 < _ by omega)
      (mt covered.1 complete), Option.bind_none]

/-- Pages of the file of the used ones, none where there is no such file. -/
def Build.usedPages (build : Build) : Nat :=
  match build.memory with
  | .undefined => 0
  | .partialUsed pages => pages
  | .fullUsed => 0

/-- Clusters of the disk of a device with a memory: the root, the files of fixed
size and the pages of the memory. -/
def Build.clusters (build : Build) : Nat :=
  3 + clustersOf build.readme.originalSize + clustersOf build.driverInf.originalSize +
    clustersOf build.proto.originalSize + QSPIStorage.flashSizePages + build.usedPages

/-- How many of the last clusters have no value in the allocation table. -/
def Build.missing (build : Build) : Nat :=
  if build.clusters % 128 = 0 then 2 else if build.clusters % 128 = 127 then 1 else 0

private theorem clustersOf_pages {pages : Nat} (some : 0 < pages) :
    clustersOf (4096 * pages) = pages := by
  unfold clustersOf
  split <;> omega

theorem Build.usedFile_eq (build : Build) (storage : build.storage = true)
    (moderate : build.Moderate) :
    build.usedFile = if build.usedPages = 0 then [] else
      [fileEntry "data_use.hs" (4096 * build.usedPages) (4096 * build.usedPages)
        .flashRead none] := by
  have pageSize : build.pageSize = 4096 := by
    rw [Build.pageSize, if_pos storage]
    rfl
  unfold Build.usedFile Build.usedPages
  cases memory : build.memory with
  | undefined => rfl
  | fullUsed => rfl
  | partialUsed pages =>
      have bound := moderate.used_le memory
      rw [pageSize] at bound
      dsimp only
      rw [pageSize, Nat.mod_eq_of_lt (by omega), Nat.mul_comm]

theorem Build.Moderate.usedPages_le (moderate : build.Moderate) :
    build.usedPages ≤ QSPIStorage.flashSizePages := by
  unfold Build.usedPages
  cases memory : build.memory with
  | undefined => exact Nat.zero_le _
  | fullUsed => exact Nat.zero_le _
  | partialUsed pages => exact moderate.memory pages memory

private theorem clustersOfFiles_usedFile (storage : build.storage = true)
    (moderate : build.Moderate) :
    clustersOfFiles build.usedFile = build.usedPages := by
  have bound := moderate.usedPages_le
  rw [flashSizePages_eq] at bound
  rw [build.usedFile_eq storage moderate]
  by_cases unused : build.usedPages = 0
  · rw [if_pos unused, unused]
    rfl
  · rw [if_neg unused, clustersOfFiles, List.map_singleton, List.sum_singleton]
    change clustersOf (UInt32.ofNat _).toNat = _
    rw [UInt32.toNat_ofNat', Nat.mod_eq_of_lt (by omega), clustersOf_pages (by omega)]

theorem Build.Moderate.missingClusters_eq (moderate : build.Moderate)
    (storage : build.storage = true) :
    missingClusters (tableOf build.files) (build.files.length + 1) = build.missing := by
  have few := build.files_length_le
  have readme := moderate.readme
  have driverInf := moderate.driverInf
  have proto := moderate.proto
  have isFlash : build.flashSize = 4096 * QSPIStorage.flashSizePages := by
    rw [Build.flashSize, if_pos storage]
    rfl
  have packed : ∀ name (packed : CompressedData), packed.originalSize ≤ 2 ^ 20 →
      clustersOf (Build.packedFile name packed).maxSize.toNat =
        clustersOf packed.originalSize := by
    intro name packed small
    change clustersOf (UInt32.ofNat _).toNat = _
    rw [UInt32.toNat_ofNat', Nat.mod_eq_of_lt (by omega)]
  have raw : clustersOf (fileEntry "data_raw.hs" build.flashSize build.flashSize
      .flashRead none).maxSize.toNat = QSPIStorage.flashSizePages := by
    change clustersOf (UInt32.ofNat _).toNat = _
    have pages := flashSizePages_eq
    rw [isFlash, UInt32.toNat_ofNat', Nat.mod_eq_of_lt (by omega),
      clustersOf_pages (by omega)]
  have fixed : clustersOf (fileEntry "config.var" 2048 2048 .settingsRead
      none).maxSize.toNat = 1 := by decide
  have state : clustersOf (fileEntry "storage.var" 512 2048 .meminfoRead
      none).maxSize.toNat = 1 := by decide
  have total : totalClusters (tableOf build.files) (build.files.length + 1) =
      build.clusters := by
    rw [build.allFiles.totalClusters_eq (by omega), Build.files, clustersOfFiles_append,
      clustersOfFiles_usedFile storage moderate, Build.clusters]
    simp only [clustersOfFiles, List.map_cons, List.map_nil, List.sum_cons,
      List.sum_nil]
    rw [packed _ _ readme, packed _ _ driverInf, packed _ _ proto, raw, fixed, state]
    omega
  rw [missingClusters, Build.missing, total]

/-- The file of the whole memory. -/
theorem Build.Moderate.read_dataRaw (moderate : build.Moderate)
    (storage : build.storage = true)
    (layout : DiskLayout (tableOf build.files) (build.files.length + 1) ctx)
    (isLabel : ctx.volLabel = diskLabel)
    (isBuffer : ∀ lba, (buffers lba).length = 512) (lawful : hack.Lawful)
    (holds : ∀ lba, (devices lba).Holds cells)
    (inTime : build.CollectedInTime cells memories) :
    readFile (hostDisk
        (fun lba => hack.sent (memories lba) (serveFile hack decode (devices lba)))
        ctx buffers) (ascii "DATA_RAWHS ") =
      if build.missing ≤ build.usedPages then
        some (memoryBytes cells QSPIStorage.flashSize)
      else
        none := by
  have isFlash : QSPIStorage.flashSize = 4096 * QSPIStorage.flashSizePages := rfl
  have pages := flashSizePages_eq
  have inside : 5 < build.files.length := by
    rw [Build.files, List.length_append]
    exact Nat.lt_of_lt_of_le (by decide : 5 < 6) (Nat.le_add_right 6 _)
  have isFile : build.files[5] =
      fileEntry "data_raw.hs" build.flashSize build.flashSize .flashRead none := rfl
  have size : build.flashSize = 4096 * QSPIStorage.flashSizePages := by
    rw [Build.flashSize, if_pos storage, isFlash]
  have behind : build.files.drop 6 = build.usedFile := rfl
  have isName : (listedFile build.files[5]).1 = ascii "DATA_RAWHS " :=
    (by decide : shortName (ascii "data_raw.hs") (attrArchive ||| attrRead) =
      ascii "DATA_RAWHS ")
  rw [← isName, moderate.read_memoryFile layout isLabel isBuffer lawful holds inTime inside
    (by omega) (Nat.le_of_eq isFlash.symm) (by rw [isFile, size]), behind,
    clustersOfFiles_usedFile storage moderate, moderate.missingClusters_eq storage,
    isFlash]

theorem Build.listed_names (build : Build) (unused : build.usedPages = 0) :
    build.listed.map Prod.fst = (rootNames.drop 1).take 6 := by
  unfold Build.usedPages at unused
  unfold Build.listed
  split
  · rfl
  · rename_i pages memory
    rw [memory] at unused
    rw [if_pos unused]
    rfl
  · rfl

/-- The file of the used pages, when there is one. -/
theorem Build.Moderate.read_dataUse (moderate : build.Moderate)
    (storage : build.storage = true)
    (layout : DiskLayout (tableOf build.files) (build.files.length + 1) ctx)
    (isLabel : ctx.volLabel = diskLabel)
    (isBuffer : ∀ lba, (buffers lba).length = 512) (lawful : hack.Lawful)
    (holds : ∀ lba, (devices lba).Holds cells)
    (inTime : build.CollectedInTime cells memories) :
    readFile (hostDisk
        (fun lba => hack.sent (memories lba) (serveFile hack decode (devices lba)))
        ctx buffers) (ascii "DATA_USEHS ") =
      if build.usedPages ≠ 0 ∧ build.missing = 0 then
        some (memoryBytes cells (4096 * build.usedPages))
      else
        none := by
  have isFlash : QSPIStorage.flashSize = 4096 * QSPIStorage.flashSizePages := rfl
  have bound := moderate.usedPages_le
  have isUsed := build.usedFile_eq storage moderate
  by_cases unused : build.usedPages = 0
  · rw [if_neg (fun both => both.1 unused)]
    apply moderate.readFile_eq_none layout isLabel
    rw [build.listed_names unused]
    decide
  · rw [if_neg unused] at isUsed
    have inside : 6 < build.files.length := by
      rw [Build.files, List.length_append, isUsed]
      exact (by decide : 6 < 7)
    have isFile : build.files[6] = fileEntry "data_use.hs" (4096 * build.usedPages)
        (4096 * build.usedPages) .flashRead none := by
      simp only [Build.files, isUsed]
      rfl
    have behind : build.files.drop 7 = [] := by
      rw [Build.files, isUsed]
      rfl
    have isName : (listedFile build.files[6]).1 = ascii "DATA_USEHS " := by
      rw [isFile]
      exact (by decide : shortName (ascii "data_use.hs") (attrArchive ||| attrRead) =
        ascii "DATA_USEHS ")
    have none : clustersOfFiles [] = 0 := rfl
    rw [← isName, moderate.read_memoryFile layout isLabel isBuffer lawful holds inTime inside
      (by omega) (by omega) isFile, behind, moderate.missingClusters_eq storage]
    simp only [none, Nat.le_zero, unused, ne_eq, not_false_eq_true, true_and]

end Read

/-! ## The texts -/

section Texts

variable {build : Build} {ctx : LoggerEmfat}
variable {hack : DirectReadHack} {decode : List UInt8 → List UInt8}
variable {devices : Nat → Device}
variable {buffers : Nat → List UInt8}

private theorem length_le_clustersOfFiles (files : List TableEntry) :
    files.length ≤ clustersOfFiles files := by
  induction files with
  | nil => exact Nat.zero_le _
  | cons file files inductionHypothesis =>
      have positive := clustersOf_pos file.maxSize.toNat
      unfold clustersOfFiles at inductionHypothesis ⊢
      rw [List.map_cons, List.sum_cons, List.length_cons]
      omega

private theorem missingClusters_le (files : List TableEntry) :
    missingClusters (tableOf files) (files.length + 1) ≤ 2 := by
  unfold missingClusters
  split
  · exact Nat.le_refl 2
  · split <;> omega

/-- A file whose callback shows a text of its size is read as that text. -/
theorem Build.Moderate.read_text (moderate : build.Moderate)
    (layout : DiskLayout (tableOf build.files) (build.files.length + 1) ctx)
    (isLabel : ctx.volLabel = diskLabel) {i : Nat} (inside : i < build.files.length)
    (full : clustersOf build.files[i].currSize.toNat =
      clustersOf build.files[i].maxSize.toNat)
    (complete : missingClusters (tableOf build.files) (build.files.length + 1) ≤
      clustersOfFiles (build.files.drop (i + 1)))
    {text : List UInt8} (size : text.length = build.files[i].currSize.toNat)
    (shows : ∀ k < 8 * clustersOf text.length, ∀ lba, ShowsText text
      (fileSector (serveFile hack decode (devices lba)) build.files[i] (buffers lba) k)
      (512 * k)) :
    readFile (hostDisk (fun lba => serveFile hack decode (devices lba)) ctx buffers)
        (listedFile build.files[i]).1 = some text := by
  have few := build.files_length_le
  have isEntry : tableOf build.files (i + 1) = build.files[i] := tableOf_succ inside
  have covered := build.allFiles.covered_file_iff (by omega) inside full
  have isUsed := build.allFiles.clustersUsed_file inside
  rw [moderate.readFile_eq layout isLabel inside, ← isEntry]
  apply layout.file_shows (fun lba => serveFile hack decode (devices lba)) buffers
    moderate.fits moderate.addressable (show i + 1 < _ by omega)
    (build.allFiles.dir inside) (covered.2 complete)
  · rw [isEntry, size]
  · intro k isSector
    rw [isUsed, ← size] at isSector
    rw [isEntry]
    exact shows k isSector _

theorem Build.fixed_inside (build : Build) : 6 ≤ build.files.length := by
  rw [Build.files, List.length_append]
  exact Nat.le_add_right 6 _

/-- The texts packed into the firmware are read as they were packed. -/
theorem Build.Moderate.read_packed (moderate : build.Moderate)
    (layout : DiskLayout (tableOf build.files) (build.files.length + 1) ctx)
    (isLabel : ctx.volLabel = diskLabel)
    (isBuffer : ∀ lba, (buffers lba).length = 512) {i : Nat} (isPacked : i < 3)
    (name : String) {packed : CompressedData}
    (isFile : build.files[i]? = some (Build.packedFile name packed))
    (small : packed.originalSize ≤ 2 ^ 20)
    (unpacks : (decode packed.data).length = packed.originalSize) :
    readFile (hostDisk (fun lba => serveFile hack decode (devices lba)) ctx buffers)
        (shortName (ascii name) (attrArchive ||| attrRead)) =
      some (decode packed.data) := by
  have fixed := build.fixed_inside
  have inside : i < build.files.length := by omega
  have isEntry : build.files[i] = Build.packedFile name packed := by
    rw [List.getElem?_eq_getElem inside] at isFile
    exact Option.some_inj.1 isFile
  have size : build.files[i].currSize.toNat = packed.originalSize := by
    rw [isEntry]
    change (UInt32.ofNat _).toNat = _
    rw [UInt32.toNat_ofNat']
    omega
  have missing := missingClusters_le build.files
  have behind := length_le_clustersOfFiles (build.files.drop (i + 1))
  rw [List.length_drop] at behind
  have isName : shortName (ascii name) (attrArchive ||| attrRead) =
      (listedFile build.files[i]).1 := by
    rw [isEntry]
    rfl
  rw [isName]
  apply moderate.read_text layout isLabel inside
  · rw [isEntry]
    rfl
  · omega
  · rw [unpacks, size]
  · intro k isSector lba
    have bound := clustersOf_mono (show (decode packed.data).length ≤ 2 ^ 20 by omega)
    have largest : clustersOf (2 ^ 20) = 256 := by decide
    have offset := toNat_sectorOffset (show 512 * k < 2 ^ 32 by omega)
    have shows : ShowsText (decode packed.data) (unpackReader decode (buffers lba) 512
        (UInt32.ofNat (512 * k) + 0) packed) (UInt32.ofNat (512 * k) + 0).toNat :=
      unpackReader_shows rfl unpacks.symm (isBuffer lba)
    rw [offset] at shows
    rw [isEntry]
    exact shows

/-- A text of the device is read with spaces behind it, or cut. -/
theorem Build.Moderate.read_padded (moderate : build.Moderate)
    (layout : DiskLayout (tableOf build.files) (build.files.length + 1) ctx)
    (isLabel : ctx.volLabel = diskLabel)
    (isBuffer : ∀ lba, (buffers lba).length = 512) {i size : Nat}
    (inside : i < build.files.length)
    (full : clustersOf build.files[i].currSize.toNat =
      clustersOf build.files[i].maxSize.toNat)
    (complete : missingClusters (tableOf build.files) (build.files.length + 1) ≤
      clustersOfFiles (build.files.drop (i + 1)))
    (isSize : build.files[i].currSize.toNat = size) (small : size ≤ 2048)
    {text : List UInt8}
    (serves : ∀ k lba, fileSector (serveFile hack decode (devices lba)) build.files[i]
      (buffers lba) k = storeBlockData text (buffers lba) 512
        (UInt32.ofNat (512 * k) + 0)) :
    readFile (hostDisk (fun lba => serveFile hack decode (devices lba)) ctx buffers)
        (listedFile build.files[i]).1 = some (padTo size text) := by
  have length := length_padTo size text
  apply moderate.read_text layout isLabel inside full complete
  · rw [length, isSize]
  · intro k isSector lba
    have bound := clustersOf_mono small
    have largest : clustersOf 2048 = 1 := by decide
    rw [length] at isSector
    have offset := toNat_sectorOffset (show 512 * k < 2 ^ 32 by omega)
    have shows : ShowsText (padTo size text) (storeBlockData text (buffers lba) 512
        (UInt32.ofNat (512 * k) + 0)) (UInt32.ofNat (512 * k) + 0).toNat :=
      storeBlockData_shows size text (isBuffer lba)
    rw [offset] at shows
    rw [serves k lba]
    exact shows

section Served

variable {device : Device} {buffer : List UInt8} {name : String} {size maxSize k : Nat}

private theorem fileSector_settingsRead {text : List UInt8}
    (settings : device.settingsText = some text) :
    fileSector (serveFile hack decode device)
        (fileEntry name size maxSize .settingsRead none) buffer k =
      storeBlockData text buffer 512 (UInt32.ofNat (512 * k) + 0) := by
  change settingsRead device buffer 512 (UInt32.ofNat (512 * k) + 0) = _
  rw [settingsRead, settings]

private theorem fileSector_meminfoRead {text : List UInt8}
    (published : device.memInfoText = some text) :
    fileSector (serveFile hack decode device)
        (fileEntry name size maxSize .meminfoRead none) buffer k =
      storeBlockData text buffer 512 (UInt32.ofNat (512 * k) + 0) := by
  change meminfoReadCallback device buffer 512 (UInt32.ofNat (512 * k) + 0) = _
  rw [meminfoReadCallback, published]

end Served

theorem Build.Moderate.read_config (moderate : build.Moderate)
    (layout : DiskLayout (tableOf build.files) (build.files.length + 1) ctx)
    (isLabel : ctx.volLabel = diskLabel)
    (isBuffer : ∀ lba, (buffers lba).length = 512) {text : List UInt8}
    (settings : ∀ lba, (devices lba).settingsText = some text) :
    readFile (hostDisk (fun lba => serveFile hack decode (devices lba)) ctx buffers)
        (ascii "CONFIG  VAR") = some (padTo 2048 text) := by
  have inside : 3 < build.files.length := build.fixed_inside.trans' (by decide)
  have isFile : build.files[3] = fileEntry "config.var" 2048 2048 .settingsRead none :=
    rfl
  have missing := missingClusters_le build.files
  have behind : 2 ≤ clustersOfFiles (build.files.drop 4) := by
    have atLeast := length_le_clustersOfFiles (build.files.drop 4)
    have fixed := build.fixed_inside
    rw [List.length_drop] at atLeast
    omega
  have isName : (listedFile build.files[3]).1 = ascii "CONFIG  VAR" :=
    (by decide : shortName (ascii "config.var") (attrArchive ||| attrRead) =
      ascii "CONFIG  VAR")
  rw [← isName]
  apply moderate.read_padded layout isLabel isBuffer inside
  · rw [isFile]
    rfl
  · exact Nat.le_trans missing behind
  · rw [isFile]
    rfl
  · exact Nat.le_refl _
  · intro k lba
    rw [isFile, fileSector_settingsRead (settings lba)]

theorem Build.Moderate.read_storageState (moderate : build.Moderate)
    (storage : build.storage = true)
    (layout : DiskLayout (tableOf build.files) (build.files.length + 1) ctx)
    (isLabel : ctx.volLabel = diskLabel)
    (isBuffer : ∀ lba, (buffers lba).length = 512) {text : List UInt8}
    (published : ∀ lba, (devices lba).memInfoText = some text)
    (short : text.length ≤ 512) :
    readFile (hostDisk (fun lba => serveFile hack decode (devices lba)) ctx buffers)
        (ascii "STORAGE VAR") =
      some (text ++ List.replicate (512 - text.length) 0x20) := by
  have inside : 4 < build.files.length := build.fixed_inside.trans' (by decide)
  have isFile : build.files[4] = fileEntry "storage.var" 512 2048 .meminfoRead none :=
    rfl
  have missing := missingClusters_le build.files
  have behind : 2 ≤ clustersOfFiles (build.files.drop 5) := by
    have isRaw : clustersOfFiles (build.files.drop 5) =
        clustersOf (UInt32.ofNat build.flashSize).toNat +
          clustersOfFiles build.usedFile := rfl
    have isFlash : build.flashSize = 4096 * QSPIStorage.flashSizePages := by
      rw [Build.flashSize, if_pos storage]
      rfl
    have pages := flashSizePages_eq
    rw [isRaw, isFlash, UInt32.toNat_ofNat', Nat.mod_eq_of_lt (by omega),
      clustersOf_pages (by omega)]
    omega
  have isName : (listedFile build.files[4]).1 = ascii "STORAGE VAR" :=
    (by decide : shortName (ascii "storage.var") (attrArchive ||| attrRead) =
      ascii "STORAGE VAR")
  have isText : padTo 512 text = text ++ List.replicate (512 - text.length) 0x20 := by
    rw [padTo, List.take_append, List.take_of_length_le (by omega),
      List.take_replicate, Nat.min_eq_left (by omega)]
  rw [← isName, ← isText]
  apply moderate.read_padded layout isLabel isBuffer inside
  · rw [isFile]
    exact (by decide : clustersOf (UInt32.ofNat 512).toNat =
      clustersOf (UInt32.ofNat 2048).toNat)
  · exact Nat.le_trans missing behind
  · rw [isFile]
    rfl
  · exact (by decide : 512 ≤ 2048)
  · intro k lba
    rw [isFile, fileSector_meminfoRead (published lba)]

end Texts

/-! ## What a host reads -/

section Host

variable {build : Build}

theorem Build.missing_eq_zero_iff :
    build.missing = 0 ↔ build.clusters % 128 ≠ 0 ∧ build.clusters % 128 ≠ 127 := by
  unfold Build.missing
  split
  · omega
  · split <;> omega

/-- What the search at the start leaves in the cache. -/
theorem Build.usedPages_eq {format : HeaderFormat} {cells : Cells}
    (booted : build.memory = (search format QSPIStorage.flashSizePages freeCall cells
      .undefined 0).2) :
    (∃ pages, build.usedPages = pages ∧
      IsNext (HeaderErased format cells) QSPIStorage.flashSizePages 0 pages) ∨
    build.usedPages = 0 ∧
      Exhausted (HeaderErased format cells) QSPIStorage.flashSizePages 0 := by
  have scans : ¬ Cached freeCall .undefined 0 := fun cached => cached.2
  rw [search_of_not_cached scans] at booted
  change build.memory = (scanPages format QSPIStorage.flashSizePages freeCall.locks
    cells .undefined 0).2 at booted
  unfold Build.usedPages
  rcases isNext_or_exhausted (HeaderErased format cells) QSPIStorage.flashSizePages 0
    with ⟨pages, isNext⟩ | exhausted
  · rw [scanPages_of_isNext isNext] at booted
    rw [booted]
    exact .inl ⟨pages, rfl, isNext⟩
  · rw [scanPages_of_exhausted exhausted] at booted
    rw [booted]
    exact .inr ⟨rfl, exhausted⟩

section Memory

variable {ctx : LoggerEmfat} {cells : Cells} {format : HeaderFormat}
variable {hack : DirectReadHack} {decode : List UInt8 → List UInt8}
variable {devices : Nat → Device} {memories : Nat → Nat → UInt8}
variable {buffers : Nat → List UInt8} {text : List UInt8}

theorem Build.Moderate.dataUse_iff (moderate : build.Moderate)
    (storage : build.storage = true)
    (booted : build.memory = (search format QSPIStorage.flashSizePages freeCall cells
      .undefined 0).2)
    (layout : DiskLayout (tableOf build.files) (build.files.length + 1) ctx)
    (isLabel : ctx.volLabel = diskLabel)
    (isBuffer : ∀ lba, (buffers lba).length = 512) (lawful : hack.Lawful)
    (holds : ∀ lba, (devices lba).Holds cells)
    (inTime : build.CollectedInTime cells memories) :
    readFile (hostDisk
        (fun lba => hack.sent (memories lba) (serveFile hack decode (devices lba)))
        ctx buffers) (ascii "DATA_USEHS ") = some text ↔
      ∃ pages, pages ≠ 0 ∧
        IsNext (HeaderErased format cells) QSPIStorage.flashSizePages 0 pages ∧
        (build.clusters % 128 ≠ 0 ∧ build.clusters % 128 ≠ 127) ∧
        text = memoryBytes cells (4096 * pages) := by
  rw [moderate.read_dataUse storage layout isLabel isBuffer lawful holds inTime,
    ← Build.missing_eq_zero_iff]
  rcases Build.usedPages_eq booted with ⟨pages, isPages, isNext⟩ | ⟨unused, exhausted⟩
  · rw [isPages]
    constructor
    · intro reads
      by_cases readable : pages ≠ 0 ∧ build.missing = 0
      · rw [if_pos readable] at reads
        exact ⟨pages, readable.1, isNext, readable.2, (Option.some_inj.1 reads).symm⟩
      · rw [if_neg readable] at reads
        cases reads
    · rintro ⟨other, some, isOther, complete, rfl⟩
      rw [isOther.unique isNext] at some ⊢
      rw [if_pos ⟨some, complete⟩]
  · rw [if_neg (fun readable => readable.1 unused)]
    refine iff_of_false (fun reads => by cases reads) ?_
    rintro ⟨pages, _, isNext, _⟩
    exact isNext.not_exhausted exhausted

theorem Build.Moderate.dataRaw_iff (moderate : build.Moderate)
    (storage : build.storage = true)
    (layout : DiskLayout (tableOf build.files) (build.files.length + 1) ctx)
    (isLabel : ctx.volLabel = diskLabel)
    (isBuffer : ∀ lba, (buffers lba).length = 512) (lawful : hack.Lawful)
    (holds : ∀ lba, (devices lba).Holds cells)
    (inTime : build.CollectedInTime cells memories) :
    readFile (hostDisk
        (fun lba => hack.sent (memories lba) (serveFile hack decode (devices lba)))
        ctx buffers) (ascii "DATA_RAWHS ") = some text ↔
      (build.clusters % 128 = 0 → 2 ≤ build.usedPages) ∧
      (build.clusters % 128 = 127 → 1 ≤ build.usedPages) ∧
      text = memoryBytes cells QSPIStorage.flashSize := by
  rw [moderate.read_dataRaw storage layout isLabel isBuffer lawful holds inTime]
  have enough : build.missing ≤ build.usedPages ↔
      (build.clusters % 128 = 0 → 2 ≤ build.usedPages) ∧
        (build.clusters % 128 = 127 → 1 ≤ build.usedPages) := by
    unfold Build.missing
    split
    · omega
    · split <;> omega
  rw [← and_assoc, ← enough]
  by_cases readable : build.missing ≤ build.usedPages
  · rw [if_pos readable, Option.some_inj, eq_comm]
    exact (and_iff_right readable).symm
  · rw [if_neg readable]
    exact iff_of_false (fun reads => by cases reads) (fun both => readable both.1)

/-- `data_use.hs` can be read exactly when the first empty page of the memory is not
its first page and the allocation table reaches to the end of the disk; it is then
what stands before the first empty page. -/
theorem dataUse_read_iff (moderate : build.Moderate) (storage : build.storage = true)
    (booted : build.memory = (search format QSPIStorage.flashSizePages freeCall cells
      .undefined 0).2) :
    ∃ ctx, emfatStorageNew build = some ctx ∧
      ∀ hack received, CollectsMemory hack build ctx cells received → ∀ text,
        (readFile received (ascii "DATA_USEHS ") = some text ↔
          ∃ pages, pages ≠ 0 ∧
            IsNext (HeaderErased format cells) QSPIStorage.flashSizePages 0 pages ∧
            (build.clusters % 128 ≠ 0 ∧ build.clusters % 128 ≠ 127) ∧
            text = memoryBytes cells (4096 * pages)) := by
  obtain ⟨ctx, made, isLabel, layout⟩ := moderate.made
  refine ⟨ctx, made, ?_⟩
  intro hack received collected text
  obtain ⟨decode, devices, memories, receives, holds, inTime⟩ := collected.collects
  obtain ⟨buffers, isBuffer, rfl⟩ := layout.receives collected.unmistaken receives
  exact moderate.dataUse_iff storage booted layout isLabel isBuffer collected.lawful holds
    inTime

/-- `data_raw.hs` is the whole memory; it can be read unless more clusters are
missing in the allocation table than `data_use.hs` takes behind it. -/
theorem dataRaw_read_iff (moderate : build.Moderate) (storage : build.storage = true) :
    ∃ ctx, emfatStorageNew build = some ctx ∧
      ∀ hack cells received, CollectsMemory hack build ctx cells received → ∀ text,
        (readFile received (ascii "DATA_RAWHS ") = some text ↔
          (build.clusters % 128 = 0 → 2 ≤ build.usedPages) ∧
          (build.clusters % 128 = 127 → 1 ≤ build.usedPages) ∧
          text = memoryBytes cells QSPIStorage.flashSize) := by
  obtain ⟨ctx, made, isLabel, layout⟩ := moderate.made
  refine ⟨ctx, made, ?_⟩
  intro hack cells received collected text
  obtain ⟨decode, devices, memories, receives, holds, inTime⟩ := collected.collects
  obtain ⟨buffers, isBuffer, rfl⟩ := layout.receives collected.unmistaken receives
  exact moderate.dataRaw_iff storage layout isLabel isBuffer collected.lawful holds inTime

end Memory

/-- The texts are there whatever the number of used pages: those packed into the
firmware as they were packed, the settings with spaces behind them or cut, and the
state of the memory in full. -/
theorem texts_read {build : Build} (moderate : build.Moderate) :
    ∃ ctx, emfatStorageNew build = some ctx ∧
      ∀ hack decode devices disk, Sees hack decode ctx devices disk →
        (∀ name packed, (name, packed) ∈ [(ascii "README  TXT", build.readme),
            (ascii "DRIVER  INF", build.driverInf),
            (ascii "PROTO   PRT", build.proto)] →
          (decode packed.data).length = packed.originalSize →
          readFile disk name = some (decode packed.data)) ∧
        (∀ text, (∀ lba, (devices lba).settingsText = some text) →
          readFile disk (ascii "CONFIG  VAR") = some (padTo 2048 text)) ∧
        ∀ text, build.storage = true → text.length ≤ 512 →
          (∀ lba, (devices lba).memInfoText = some text) →
          readFile disk (ascii "STORAGE VAR") =
            some (text ++ List.replicate (512 - text.length) 0x20) := by
  obtain ⟨ctx, made, isLabel, layout⟩ := moderate.made
  refine ⟨ctx, made, ?_⟩
  intro hack decode devices disk sees
  obtain ⟨buffers, isBuffer, rfl⟩ := layout.sees sees
  refine ⟨?_, ?_, ?_⟩
  · intro name packed member unpacks
    simp only [List.mem_cons, List.not_mem_nil, or_false, Prod.mk.injEq] at member
    rcases member with ⟨rfl, rfl⟩ | ⟨rfl, rfl⟩ | ⟨rfl, rfl⟩
    · exact moderate.read_packed layout isLabel isBuffer (by decide : 0 < 3)
        "Readme.txt" rfl moderate.readme unpacks
    · exact moderate.read_packed layout isLabel isBuffer (by decide : 1 < 3)
        "driver.inf" rfl moderate.driverInf unpacks
    · exact moderate.read_packed layout isLabel isBuffer (by decide : 2 < 3)
        "proto.prt" rfl moderate.proto unpacks
  · intro text settings
    exact moderate.read_config layout isLabel isBuffer settings
  · intro text storage short published
    exact moderate.read_storageState storage layout isLabel isBuffer published short

end Host

/-! ## A device with one recorded page -/

/-- Zeros in the first page, and nothing behind it. -/
def onePageCells : Cells :=
  fun address => if address < 4096 then 0 else erasedByte

def onePageDevice : Device where
  settingsText := some (ascii "settings")
  memInfo :=
    { flashPageSize := 4096
      flashPages := QSPIStorage.flashSizePages
      flashUsedPages := 1 }
  toStringPretty _ := some (ascii "\x7b\x7d")
  world := calmWorld
  storage := some (Client.init { freshChip with cells := onePageCells }).driver

private theorem onePageDevice_holds : onePageDevice.Holds onePageCells :=
  ⟨{ freshChip with cells := onePageCells }, [], rfl,
    ⟨fun _ => rfl, fun _ => rfl⟩, rfl, rfl⟩

private theorem onePage_isNext :
    IsNext (HeaderErased (DataBlockPacker.format IdPacker) onePageCells)
      QSPIStorage.flashSizePages 0 1 where
  reached := by decide
  inside := by decide
  isFree := by decide
  least := by
    intro other _ before
    obtain rfl : other = 0 := by omega
    decide

private theorem onePageBuild_booted :
    onePageBuild.memory = (search (DataBlockPacker.format IdPacker)
      QSPIStorage.flashSizePages freeCall onePageCells .undefined 0).2 := by
  have scans : ¬ Cached freeCall .undefined 0 := fun cached => cached.2
  rw [search_of_not_cached scans]
  change _ = (scanPages (DataBlockPacker.format IdPacker) QSPIStorage.flashSizePages
    freeCall.locks onePageCells .undefined 0).2
  rw [scanPages_of_isNext onePage_isNext]
  rfl

/-- The driver with the page of an offset mapped. -/
def mappedDriver (cells : Cells) (offset : Nat) : QSpiDriver :=
  let driver := (Client.init { freshChip with cells := cells }).driver
  { driver with
    chip := { driver.chip with
      extender := pageExtender (offset / QSPIStorage.flashPageSize) }
    memoryMapped := true }

def mappedMemory (cells : Cells) (offset address : Nat) : UInt8 :=
  cells ((mappedDriver cells offset).resolve address)

private theorem mappedMemory_stillMapped (cells : Cells) (offset : Nat) :
    StillMapped cells (mappedMemory cells offset) offset :=
  ⟨mappedDriver cells offset, ⟨rfl, rfl, rfl⟩, rfl, fun _ => rfl⟩

/-- The place in the memory of a sector of its two files, which begin at the sectors
626 and 262770. -/
def onePageOffset (lba : Nat) : Nat :=
  512 * (lba - if lba < 262770 then 626 else 262770)

/-- Every sector is read first of all and collected at once. -/
def onePageDisk (ctx : LoggerEmfat) (device : Device) (cells : Cells) : Disk :=
  fun lba => markedHack.send (mappedMemory cells (onePageOffset lba))
    (freshDisk markedHack id ctx (fun _ => device) lba)

private theorem onePage_collectedInTime (cells : Cells) :
    onePageBuild.CollectedInTime cells (fun lba => mappedMemory cells (onePageOffset lba)) := by
  intro i inside isFlash k inFile
  have offset : onePageOffset
      (sectorOf (tableOf onePageBuild.files) (onePageBuild.files.length + 1) (i + 1) k) =
      512 * k := by
    have place (start : Nat) (isStart : sectorOf (tableOf onePageBuild.files)
        (onePageBuild.files.length + 1) (i + 1) 0 = start) :
        sectorOf (tableOf onePageBuild.files) (onePageBuild.files.length + 1) (i + 1) k =
          start + k := by
      rw [← isStart]
      rfl
    change i < 7 at inside
    obtain rfl | rfl | rfl | rfl | rfl | rfl | rfl :
      i = 0 ∨ i = 1 ∨ i = 2 ∨ i = 3 ∨ i = 4 ∨ i = 5 ∨ i = 6 := by omega
    · cases isFlash
    · cases isFlash
    · cases isFlash
    · cases isFlash
    · cases isFlash
    · rw [place 626 (by decide +kernel), onePageOffset]
      change 512 * k < 134217728 at inFile
      rw [if_pos (by omega), Nat.add_sub_cancel_left]
    · rw [place 262770 (by decide +kernel), onePageOffset, if_neg (by omega),
        Nat.add_sub_cancel_left]
  dsimp only
  rw [offset]
  exact mappedMemory_stillMapped cells (512 * k)

theorem onePageDisk_collects (ctx : LoggerEmfat) {device : Device} {cells : Cells}
    (holds : device.Holds cells) :
    CollectsMemory markedHack onePageBuild ctx cells (onePageDisk ctx device cells) where
  lawful := markedHack_lawful
  unmistaken := markedHack_unmistaken ctx
  collects := ⟨id, fun _ => device, fun lba => mappedMemory cells (onePageOffset lba),
    ⟨_, sees_freshDisk markedHack id ctx _, fun _ => rfl⟩, fun _ => holds,
    onePage_collectedInTime cells⟩

theorem dataUse_read_iff_onePage :
    ∃ ctx, emfatStorageNew onePageBuild = some ctx ∧
      readFile (onePageDisk ctx onePageDevice onePageCells) (ascii "DATA_USEHS ") =
        some (memoryBytes onePageCells (4096 * 1)) := by
  obtain ⟨ctx, made, reads⟩ :=
    dataUse_read_iff onePageBuild_moderate rfl onePageBuild_booted
  refine ⟨ctx, made, ?_⟩
  exact (reads _ _ (onePageDisk_collects ctx onePageDevice_holds) _).2
    ⟨1, by decide, onePage_isNext, by decide, rfl⟩

theorem dataRaw_read_iff_onePage :
    ∃ ctx, emfatStorageNew onePageBuild = some ctx ∧
      readFile (onePageDisk ctx onePageDevice onePageCells) (ascii "DATA_RAWHS ") =
        some (memoryBytes onePageCells QSPIStorage.flashSize) := by
  obtain ⟨ctx, made, reads⟩ := dataRaw_read_iff onePageBuild_moderate rfl
  refine ⟨ctx, made, ?_⟩
  exact (reads _ _ _ (onePageDisk_collects ctx onePageDevice_holds) _).2
    ⟨by decide, by decide, rfl⟩

theorem texts_read_onePage :
    ∃ ctx, emfatStorageNew onePageBuild = some ctx ∧
      ∀ hack, readFile (freshDisk hack id ctx fun _ => onePageDevice)
        (ascii "CONFIG  VAR") = some (padTo 2048 (ascii "settings")) := by
  obtain ⟨ctx, made, reads⟩ := texts_read onePageBuild_moderate
  refine ⟨ctx, made, fun hack => ?_⟩
  exact (reads hack id _ _ (sees_freshDisk hack id ctx _)).2.1 _ (fun _ => rfl)

end SelfWriter.Vfs
