import SelfWriter.Vfs.FilesTable

/-!
# The disk of the device

`EMfatStorage` as the block device behind the USB layer (`threads/vfs.rs`), and
what a host finds on it: the files of the table under their names, whatever it
has read before and in whatever order it reads.
-/

namespace SelfWriter.Vfs

open SelfWriter.Lib SelfWriter.Lib.Fat32 SelfWriter.Lib.NorMemory SelfWriter.Qspi
  SelfWriter.Storage

/-! ## The block device -/

inductive BlockDeviceError where
  | hardwareError
  | notReady
  deriving DecidableEq, Repr

abbrev LoggerEmfat := Emfat Readcb (Option CompressedData)

/-- One call of the USB layer for a block. -/
structure BlockRead where
  /-- `is_erase_in_progress()`. -/
  eraseInProgress : Bool
  device : Device
  lba : UInt32
  block : List UInt8

/-- `read_block`. -/
def readBlock (hack : DirectReadHack) (decode : List UInt8 → List UInt8)
    (read : BlockRead) (ctx : LoggerEmfat) : Except BlockDeviceError (List UInt8) × LoggerEmfat :=
  if read.eraseInProgress then
    (.error .notReady, ctx)
  else
    let (block, after) :=
      emfatRead (serveFile hack decode read.device) ctx read.block read.lba 1
    (.ok block, after)

/-- `write_block`: the disk is for reading only. -/
def writeBlock (_lba : UInt32) (_block : List UInt8) (ctx : LoggerEmfat) :
    Except BlockDeviceError Unit × LoggerEmfat :=
  (.error .hardwareError, ctx)

inductive BlockCall where
  | read (read : BlockRead)
  | write (lba : UInt32) (block : List UInt8)

def blockDevice (hack : DirectReadHack) (decode : List UInt8 → List UInt8)
    (ctx : LoggerEmfat) :
    Machine LoggerEmfat BlockCall where
  start := ctx
  step
    | state, .read read => some (readBlock hack decode read state).2
    | state, .write lba block => some (writeBlock lba block state).2

/-- Every sector of `disk` is what the block device answered at some time of a
run; `devices` is the device as the sector found it. -/
def Sees (hack : DirectReadHack) (decode : List UInt8 → List UInt8) (ctx : LoggerEmfat)
    (devices : Nat → Device) (disk : Disk) : Prop :=
  ∀ lba, ∃ state read,
    (blockDevice hack decode ctx).Reachable state ∧
    read.device = devices lba ∧ read.lba = UInt32.ofNat lba ∧
    read.block.length = 512 ∧
    (readBlock hack decode read state).1 = .ok (disk lba)

/-- The sectors of a new disk, each read first of all. -/
def freshDisk (hack : DirectReadHack) (decode : List UInt8 → List UInt8) (ctx : LoggerEmfat)
    (devices : Nat → Device) : Disk :=
  fun lba => (emfatRead (serveFile hack decode (devices lba)) ctx (zeros 512)
    (UInt32.ofNat lba) 1).1

/-- The read of a block while nothing is erased. -/
theorem readBlock_ok {hack : DirectReadHack} {decode : List UInt8 → List UInt8} {read : BlockRead}
    {ctx : LoggerEmfat} (idle : read.eraseInProgress = false) :
    (readBlock hack decode read ctx).1 =
      .ok (emfatRead (serveFile hack decode read.device) ctx read.block read.lba 1).1 := by
  rw [readBlock, if_neg (by rw [idle]; exact Bool.false_ne_true)]

theorem sees_freshDisk (hack : DirectReadHack) (decode : List UInt8 → List UInt8)
    (ctx : LoggerEmfat) (devices : Nat → Device) :
    Sees hack decode ctx devices (freshDisk hack decode ctx devices) := by
  intro lba
  exact ⟨ctx,
    { eraseInProgress := false
      device := devices lba
      lba := UInt32.ofNat lba
      block := zeros 512 },
    .start, rfl, rfl, length_zeros 512, readBlock_ok rfl⟩

section BlockDevice

variable {original : Entries Readcb (Option CompressedData)} {count : Nat}
variable {ctx state : LoggerEmfat}
variable {hack : DirectReadHack} {decode : List UInt8 → List UInt8}

/-- The calls change nothing but the remembered entry. -/
theorem DiskLayout.blockDevice (layout : DiskLayout original count ctx)
    (reaches : (blockDevice hack decode ctx).Reachable state) :
    ∃ last < count, state = { ctx with lastEntry := last } := by
  apply reaches.invariant (I := fun state =>
    ∃ last < count, state = { ctx with lastEntry := last })
  · exact ⟨ctx.lastEntry, layout.lastEntry, rfl⟩
  · rintro before call after ⟨last, inside, rfl⟩ _ steps
    cases call with
    | write lba block =>
        cases steps
        exact ⟨last, inside, rfl⟩
    | read read =>
        cases steps
        unfold readBlock
        by_cases erasing : read.eraseInProgress = true
        · rw [if_pos erasing]
          exact ⟨last, inside, rfl⟩
        · rw [if_neg erasing]
          obtain ⟨_, last', inside', isLast⟩ := DiskLayout.emfatRead_eq
            (serveFile hack decode read.device) 1 (layout.remember inside) read.block
            read.lba
          exact ⟨last', inside', isLast⟩

/-- Whatever was read before, the host sees the disk of the table. -/
theorem DiskLayout.sees (layout : DiskLayout original count ctx)
    {devices : Nat → Device} {disk : Disk} (sees : Sees hack decode ctx devices disk) :
    ∃ buffers : Nat → List UInt8, (∀ lba, (buffers lba).length = 512) ∧
      disk = hostDisk (fun lba => serveFile hack decode (devices lba)) ctx buffers := by
  choose states reads reaches isDevice isLba isBlock answers using sees
  refine ⟨fun lba => (reads lba).block, isBlock, ?_⟩
  funext lba
  obtain ⟨last, inside, isState⟩ := layout.blockDevice (reaches lba)
  have answer := answers lba
  unfold readBlock at answer
  by_cases erasing : (reads lba).eraseInProgress = true
  · rw [if_pos erasing] at answer
    cases answer
  · rw [if_neg erasing, isState, isDevice, isLba] at answer
    have bytes := (DiskLayout.emfatRead_eq (serveFile hack decode (devices lba)) 1
      (layout.remember inside) (reads lba).block (UInt32.ofNat lba)).1
    have shown := Except.ok.inj answer
    rw [bytes, sectorsAt_remember, sectorsAt, sectorsAt, List.append_nil,
      List.take_of_length_le (Nat.le_of_eq (isBlock lba))] at shown
    rw [layout.hostDisk_eq]
    exact shown.symm

end BlockDevice

/-! ## The files under their names -/

/-- Name and size of the files of the root directory, as a host lists them. -/
def Build.listed (build : Build) : List (List UInt8 × Nat) :=
  [(ascii "README  TXT", build.readme.originalSize),
    (ascii "DRIVER  INF", build.driverInf.originalSize),
    (ascii "PROTO   PRT", build.proto.originalSize),
    (ascii "CONFIG  VAR", 2048),
    (ascii "STORAGE VAR", 512),
    (ascii "DATA_RAWHS ", build.flashSize)] ++
  match build.memory with
  | .undefined => []
  | .partialUsed pages =>
      if pages = 0 then [] else [(ascii "DATA_USEHS ", pages * build.pageSize)]
  | .fullUsed => []

/-- A file of the table as a host lists it. -/
def listedFile (file : TableEntry) : List UInt8 × Nat :=
  (shortName file.name (attrArchive ||| attrRead), file.currSize.toNat)

section Listing

variable {build : Build}

private theorem listedFile_fileEntry {name : String} {short : List UInt8} {size : Nat}
    (maxSize : Nat) (readcb : Readcb) (userData : Option CompressedData)
    (isShort : shortName (ascii name) (attrArchive ||| attrRead) = short)
    (small : size < 2 ^ 32) :
    listedFile (fileEntry name size maxSize readcb userData) = (short, size) := by
  have isSize : (UInt32.ofNat size).toNat = size := by
    rw [UInt32.toNat_ofNat']
    omega
  exact Prod.ext isShort isSize

theorem Build.Moderate.map_listedFile (moderate : build.Moderate) :
    build.files.map listedFile = build.listed := by
  have readme := moderate.readme
  have driverInf := moderate.driverInf
  have proto := moderate.proto
  have flash := build.flashSize_le
  have used : build.usedFile.map listedFile =
      match build.memory with
      | .undefined => []
      | .partialUsed pages =>
          if pages = 0 then [] else [(ascii "DATA_USEHS ", pages * build.pageSize)]
      | .fullUsed => [] := by
    unfold Build.usedFile
    cases memory : build.memory with
    | undefined => rfl
    | fullUsed => rfl
    | partialUsed pages =>
        have bound := moderate.used_le memory
        dsimp only
        by_cases none : pages = 0
        · rw [if_pos none, if_pos none]
          rfl
        · rw [if_neg none, if_neg none, List.map_singleton,
            Nat.mod_eq_of_lt (by omega),
            listedFile_fileEntry _ _ _ (by decide : _ = ascii "DATA_USEHS ")
              (by omega)]
  rw [Build.files, Build.listed, List.map_append, used]
  simp only [List.map_cons, List.map_nil, Build.packedFile]
  rw [listedFile_fileEntry _ _ _ (by decide : _ = ascii "README  TXT") (by omega),
    listedFile_fileEntry _ _ _ (by decide : _ = ascii "DRIVER  INF") (by omega),
    listedFile_fileEntry _ _ _ (by decide : _ = ascii "PROTO   PRT") (by omega),
    listedFile_fileEntry _ _ _ (by decide : _ = ascii "CONFIG  VAR") (by omega),
    listedFile_fileEntry _ _ _ (by decide : _ = ascii "STORAGE VAR") (by omega),
    listedFile_fileEntry _ _ _ (by decide : _ = ascii "DATA_RAWHS ") (by omega)]

/-- The entry of the root directory for a file. -/
def rootListing (files : List TableEntry) (i : Nat) : FileEntry :=
  listedEntry (tableOf files) (files.length + 1) (i + 1)

theorem AllFiles.rootListing_file {files : List TableEntry} (all : AllFiles files)
    {i : Nat} (inside : i < files.length) :
    ((rootListing files i).name, (rootListing files i).size) = listedFile files[i] := by
  rw [rootListing, listedEntry, if_neg (by rw [all.dir inside]; exact Bool.false_ne_true),
    tableOf_succ inside]
  rfl

theorem AllFiles.listing_root {files : List TableEntry} (all : AllFiles files)
    (label : List UInt8) :
    listing (tableOf files) (files.length + 1) label 0 =
      { name := shortName label attrVolLabel
        attr := 0x08
        cluster := 0
        size := 0 } :: (List.range files.length).map (rootListing files) := by
  rw [listing, all.children_root, List.range'_eq_map_range, List.map_map]
  have same : (listedEntry (tableOf files) (files.length + 1)) ∘ (1 + ·) =
      rootListing files := by
    funext i
    rw [Function.comp_apply, Nat.add_comm 1 i, rootListing]
  rw [same]
  rfl

theorem AllFiles.map_rootListing {files : List TableEntry} (all : AllFiles files) :
    ((List.range files.length).map (rootListing files)).map
        (fun file => (file.name, file.size)) =
      files.map listedFile := by
  apply List.ext_getElem
  · rw [List.length_map, List.length_map, List.length_range, List.length_map]
  · intro i _ inside
    rw [List.length_map] at inside
    simp only [List.getElem_map, List.getElem_range]
    exact all.rootListing_file inside

end Listing

section Root

variable {build : Build} {ctx : LoggerEmfat}
variable {serves : Nat → Serve Readcb (Option CompressedData)}
variable {buffers : Nat → List UInt8}

theorem Build.Moderate.made (moderate : build.Moderate) :
    ∃ ctx, emfatStorageNew build = some ctx ∧ ctx.volLabel = diskLabel ∧
      DiskLayout (tableOf build.files) (build.files.length + 1) ctx :=
  emfatInit_spec diskLabel build.allFiles.nested moderate.fits

/-- The root directory as the host lists it. -/
theorem Build.Moderate.rootDirectory_eq (moderate : build.Moderate)
    (layout : DiskLayout (tableOf build.files) (build.files.length + 1) ctx)
    (isLabel : ctx.volLabel = diskLabel) :
    (volumeOf (tableOf build.files) (build.files.length + 1)).directory
        (hostDisk serves ctx buffers)
        (volumeOf (tableOf build.files) (build.files.length + 1)).rootCluster =
      some (listing (tableOf build.files) (build.files.length + 1) diskLabel 0) := by
  have few := build.files_length_le
  have one := build.allFiles.clustersFor_root (by omega)
  have names : NamesOk (tableOf build.files) (build.files.length + 1) ctx.volLabel := by
    rw [isLabel]
    exact build.namesOk
  have total := build.allFiles.totalClusters_eq (by omega)
  have covered : Covered (tableOf build.files) (build.files.length + 1)
      (lastCluster (tableOf build.files) (build.files.length + 1) 0) := by
    have used : clustersUsed (tableOf build.files) (build.files.length + 1) 0 = 1 := by
      rw [clustersUsed, if_pos (show (tableOf build.files 0).dir = true from rfl), one]
    have sectors : 1 ≤ fatSectors (tableOf build.files) (build.files.length + 1) := by
      unfold fatSectors sizeToNsect
      split <;> omega
    rw [Covered, lastCluster, used]
    change 2 < _
    omega
  have lists := layout.directory_eq serves buffers moderate.fits
    moderate.addressable names (Nat.succ_pos _)
    (show (tableOf build.files 0).dir = true from rfl) covered
  have short : (listing (tableOf build.files) (build.files.length + 1) diskLabel
      0).length ≤ 128 := by
    rw [build.allFiles.listing_root, List.length_cons, List.length_map,
      List.length_range]
    omega
  rw [one, isLabel, List.replicate_one, List.flatten_singleton,
    List.take_of_length_le short] at lists
  exact lists

/-- Whenever and in whatever order it reads, a host finds the files of the table,
with their names and sizes, behind the label of the disk. -/
theorem emfatStorageNew_lists (moderate : build.Moderate) :
    ∃ ctx, emfatStorageNew build = some ctx ∧
      ∀ hack decode devices disk, Sees hack decode ctx devices disk →
        ∃ files, rootDirectory disk = some files ∧
          files.map (fun file => (file.name, file.size)) =
            (ascii "LOGGER     ", 0) :: build.listed := by
  obtain ⟨ctx, made, isLabel, layout⟩ := moderate.made
  refine ⟨ctx, made, ?_⟩
  intro hack decode devices disk sees
  obtain ⟨buffers, _, rfl⟩ := layout.sees sees
  refine ⟨listing (tableOf build.files) (build.files.length + 1) diskLabel 0, ?_, ?_⟩
  · rw [rootDirectory, layout.mount_hostDisk, Option.bind_some]
    exact moderate.rootDirectory_eq layout isLabel
  · rw [build.allFiles.listing_root, List.map_cons, build.allFiles.map_rootListing,
      moderate.map_listedFile]
    exact congrArg (fun name => (name, 0) :: build.listed)
      (by decide : shortName diskLabel attrVolLabel = ascii "LOGGER     ")

/-- Every name the root directory can show. -/
def rootNames : List (List UInt8) :=
  [ascii "LOGGER     ", ascii "README  TXT", ascii "DRIVER  INF",
    ascii "PROTO   PRT", ascii "CONFIG  VAR", ascii "STORAGE VAR",
    ascii "DATA_RAWHS ", ascii "DATA_USEHS "]

private theorem rootNames_nodup : rootNames.Nodup := by decide

theorem Build.nodup_names (build : Build) :
    (ascii "LOGGER     " :: build.listed.map Prod.fst).Nodup := by
  have sublist : (ascii "LOGGER     " :: build.listed.map Prod.fst).Sublist
      rootNames := by
    unfold Build.listed
    split
    · exact List.take_sublist 7 rootNames
    · split
      · exact List.take_sublist 7 rootNames
      · exact List.Sublist.refl rootNames
    · exact List.take_sublist 7 rootNames
  exact rootNames_nodup.sublist sublist

theorem Build.Moderate.map_name_listing (moderate : build.Moderate) :
    (listing (tableOf build.files) (build.files.length + 1) diskLabel 0).map
        FileEntry.name =
      ascii "LOGGER     " :: build.listed.map Prod.fst := by
  have names : ((List.range build.files.length).map (rootListing build.files)).map
      FileEntry.name = build.listed.map Prod.fst := by
    rw [← moderate.map_listedFile, ← build.allFiles.map_rootListing, List.map_map,
      List.map_map, List.map_map]
    rfl
  rw [build.allFiles.listing_root, List.map_cons, names]
  exact congrArg (· :: build.listed.map Prod.fst)
    (by decide : shortName diskLabel attrVolLabel = ascii "LOGGER     ")

/-- A file is found under its name, where the table has put it. -/
theorem Build.Moderate.readFile_eq (moderate : build.Moderate)
    (layout : DiskLayout (tableOf build.files) (build.files.length + 1) ctx)
    (isLabel : ctx.volLabel = diskLabel) {i : Nat} (inside : i < build.files.length) :
    readFile (hostDisk serves ctx buffers) (listedFile build.files[i]).1 =
      (volumeOf (tableOf build.files) (build.files.length + 1)).file
        (hostDisk serves ctx buffers)
        (firstCluster (tableOf build.files) (build.files.length + 1) (i + 1))
        build.files[i].currSize.toNat := by
  have lists := build.allFiles.listing_root diskLabel
  have names : ((listing (tableOf build.files) (build.files.length + 1) diskLabel
      0).map FileEntry.name).Nodup := by
    rw [moderate.map_name_listing]
    exact build.nodup_names
  have member : rootListing build.files i ∈
      listing (tableOf build.files) (build.files.length + 1) diskLabel 0 := by
    rw [lists]
    exact List.mem_cons_of_mem _
      (List.mem_map_of_mem (List.mem_range.2 inside))
  have isFile := build.allFiles.rootListing_file inside
  have isName : (rootListing build.files i).name = (listedFile build.files[i]).1 :=
    congrArg Prod.fst isFile
  have isSize : (rootListing build.files i).size = build.files[i].currSize.toNat :=
    congrArg Prod.snd isFile
  rw [readFile, layout.mount_hostDisk, Option.bind_some,
    moderate.rootDirectory_eq layout isLabel, Option.bind_some, ← isName,
    lookup_eq_some names member, Option.bind_some, isSize, rootListing,
    listedEntry_cluster]

theorem Build.Moderate.readFile_eq_none (moderate : build.Moderate)
    (layout : DiskLayout (tableOf build.files) (build.files.length + 1) ctx)
    (isLabel : ctx.volLabel = diskLabel) {name : List UInt8}
    (missing : name ∉ ascii "LOGGER     " :: build.listed.map Prod.fst) :
    readFile (hostDisk serves ctx buffers) name = none := by
  rw [readFile, layout.mount_hostDisk, Option.bind_some,
    moderate.rootDirectory_eq layout isLabel, Option.bind_some,
    lookup_eq_none (by rw [moderate.map_name_listing]; exact missing),
    Option.bind_none]

end Root

/-- A device whose packed texts are empty and whose first page is recorded. -/
def onePageBuild : Build where
  readme := { originalSize := 0, data := [] }
  driverInf := { originalSize := 0, data := [] }
  proto := { originalSize := 0, data := [] }
  storage := true
  memory := .partialUsed 1

theorem onePageBuild_moderate : onePageBuild.Moderate where
  readme := by decide
  driverInf := by decide
  proto := by decide
  memory := by
    rintro pages ⟨⟩
    decide

/-- Eight entries of the root directory. -/
theorem emfatStorageNew_lists_onePage :
    ∃ ctx, emfatStorageNew onePageBuild = some ctx ∧
      ∀ hack devices, ∃ files,
        rootDirectory (freshDisk hack id ctx devices) = some files ∧
        files.map (fun file => (file.name, file.size)) =
          (ascii "LOGGER     ", 0) :: onePageBuild.listed := by
  obtain ⟨ctx, made, lists⟩ := emfatStorageNew_lists onePageBuild_moderate
  exact ⟨ctx, made, fun hack devices =>
    lists hack id devices _ (sees_freshDisk hack id ctx devices)⟩

/-! ## The chains of the files -/

section Coverage

variable {files : List TableEntry} {i : Nat}

theorem AllFiles.clustersUsed_file (all : AllFiles files) (inside : i < files.length) :
    clustersUsed (tableOf files) (files.length + 1) (i + 1) =
      clustersOf files[i].currSize.toNat := by
  rw [clustersUsed, if_neg (by rw [all.dir inside]; exact Bool.false_ne_true),
    tableOf_succ inside]

/-- The chain of a file without reserve is complete when enough clusters are behind
it. -/
theorem AllFiles.covered_file_iff (all : AllFiles files) (few : files.length ≤ 128)
    (inside : i < files.length)
    (full : clustersOf files[i].currSize.toNat = clustersOf files[i].maxSize.toNat) :
    Covered (tableOf files) (files.length + 1)
        (lastCluster (tableOf files) (files.length + 1) (i + 1)) ↔
      missingClusters (tableOf files) (files.length + 1) ≤
        clustersOfFiles (files.drop (i + 1)) := by
  have total := all.totalClusters_eq few
  have first := all.firstCluster_succ few (show i ≤ files.length by omega)
  have positive := clustersOf_pos files[i].maxSize.toNat
  have split : clustersOfFiles files = clustersOfFiles (files.take i) +
      (clustersOf files[i].maxSize.toNat + clustersOfFiles (files.drop (i + 1))) := by
    rw [← Nat.add_assoc]
    conv_lhs => rw [← List.take_append_drop (i + 1) files]
    rw [clustersOfFiles_append, List.take_succ_eq_append_getElem inside,
      clustersOfFiles_append]
    rfl
  have last : lastCluster (tableOf files) (files.length + 1) (i + 1) + 1 =
      3 + clustersOfFiles (files.take i) + clustersOf files[i].maxSize.toNat := by
    rw [lastCluster, all.clustersUsed_file inside, full, first]
    omega
  rw [covered_iff_missing _ (show 0 < files.length + 1 from Nat.succ_pos _) (by omega)]
  omega

end Coverage

end SelfWriter.Vfs
