import SelfWriter.Vfs.Callbacks

/-!
# The files of the device

The table `EMfatStorage::new` builds when the device is connected to a host
(`threads/vfs.rs`): a root with six or seven files, the last of them the used
part of the memory, when some of it is used and some of it free.
-/

namespace SelfWriter.Vfs

open SelfWriter.Lib SelfWriter.Lib.Fat32 SelfWriter.Lib.NorMemory SelfWriter.Qspi
  SelfWriter.Storage

/-! ## Building the table -/

abbrev TableEntry := Entry Readcb (Option CompressedData)

def zeroPriv : Priv :=
  { firstClust := 0
    lastClust := 0
    lastReserved := 0
    numSubentry := 0
    top := none
    sub := none
    next := none }

/-- `EntryBuilder::new()`. -/
def emptyEntry : TableEntry :=
  { name := []
    dir := false
    level := 0
    offset := 0
    currSize := 0
    maxSize := 0
    userData := none
    cmaTime := (0, 0, 0)
    readcb := none
    priv := zeroPriv }

def rootEntry : TableEntry :=
  { emptyEntry with dir := true }

def fileEntry (name : String) (size maxSize : Nat) (readcb : Readcb)
    (userData : Option CompressedData) : TableEntry :=
  { emptyEntry with
    name := ascii name
    level := 1
    currSize := UInt32.ofNat size
    maxSize := UInt32.ofNat maxSize
    readcb := some readcb
    userData := userData }

/-- What `EMfatStorage::new` finds. -/
structure Build where
  readme : CompressedData
  driverInf : CompressedData
  proto : CompressedData
  /-- The storage has been initialised. -/
  storage : Bool
  memory : MemoryState

namespace Build

variable (build : Build)

def pageSize : Nat :=
  if build.storage then QSPIStorage.flashPageSize else 0

def flashSize : Nat :=
  if build.storage then QSPIStorage.flashSize else 0

def packedFile (name : String) (packed : CompressedData) : TableEntry :=
  fileEntry name packed.originalSize packed.originalSize .unpackReader (some packed)

/-- The file of the used pages, only while some of the pages are used and some
are free. -/
def usedFile : List TableEntry :=
  match build.memory with
  | .undefined => []
  | .partialUsed pages =>
      if pages = 0 then
        []
      else
        let used := pages * build.pageSize % 2 ^ 32
        [fileEntry "data_use.hs" used used .flashRead none]
  | .fullUsed => []

def files : List TableEntry :=
  [packedFile "Readme.txt" build.readme,
    packedFile "driver.inf" build.driverInf,
    packedFile "proto.prt" build.proto,
    fileEntry "config.var" 2048 2048 .settingsRead none,
    fileEntry "storage.var" 512 2048 .meminfoRead none,
    fileEntry "data_raw.hs" build.flashSize build.flashSize .flashRead none] ++
  build.usedFile

end Build

/-- The array of a root and its files; behind them stands the terminator. -/
def tableOf (files : List TableEntry) : Entries Readcb (Option CompressedData) :=
  fun i => (rootEntry :: files).getD i emptyEntry

def diskLabel : List UInt8 := ascii "LOGGER"

/-- `EMfatStorage::new`, with nothing as the result of a failed assertion. -/
def emfatStorageNew (build : Build) : Option (Emfat Readcb (Option CompressedData)) :=
  emfatInit diskLabel (tableOf build.files) (build.files.length + 1)

/-! ## A root and its files -/

section Flat

variable {files : List TableEntry}

theorem tableOf_succ {i : Nat} (inside : i < files.length) :
    tableOf files (i + 1) = files[i] := by
  rw [tableOf, List.getD_cons_succ, List.getD_eq_getElem?_getD,
    List.getElem?_eq_getElem inside]
  rfl

/-- Files in no directory of their own. -/
def AllFiles (files : List TableEntry) : Prop :=
  ∀ file ∈ files, file.level = 1 ∧ file.dir = false

theorem AllFiles.level (all : AllFiles files) {i : Nat} (inside : i < files.length) :
    (tableOf files (i + 1)).level = 1 := by
  rw [tableOf_succ inside]
  exact (all _ (List.getElem_mem inside)).1

theorem AllFiles.dir (all : AllFiles files) {i : Nat} (inside : i < files.length) :
    (tableOf files (i + 1)).dir = false := by
  rw [tableOf_succ inside]
  exact (all _ (List.getElem_mem inside)).2

theorem AllFiles.nested (all : AllFiles files) :
    Nested (fun i => (tableOf files i).level) (fun i => (tableOf files i).dir)
      (files.length + 1) where
  positive := Nat.succ_pos _
  rootLevel := rfl
  rootDir := rfl
  follows := by
    intro j inside
    cases j with
    | zero =>
        refine .inl ⟨?_, rfl⟩
        change (tableOf files (0 + 1)).level = 0 + 1
        rw [all.level (by omega)]
        rfl
    | succ j =>
        refine .inr ⟨?_, .inl ?_⟩
        · change 0 < (tableOf files (j + 1 + 1)).level
          rw [all.level (by omega)]
          exact Int.one_pos
        · change (tableOf files (j + 1 + 1)).level = (tableOf files (j + 1)).level
          rw [all.level (by omega), all.level (by omega)]

/-- Every file is in the root. -/
theorem AllFiles.children_root (all : AllFiles files) :
    children (fun i => (tableOf files i).level) (files.length + 1) 0 =
      List.range' 1 files.length := by
  have isChild : ∀ j ∈ List.range (files.length + 1),
      decide (InDirectory (fun i => (tableOf files i).level) 0 j) = decide (0 < j) := by
    intro j member
    apply decide_eq_decide.2
    constructor
    · intro inRoot
      exact inRoot.1
    · intro positive
      obtain ⟨before, rfl⟩ : ∃ before, j = before + 1 := ⟨j - 1, by omega⟩
      have inside := List.mem_range.1 member
      refine ⟨positive, ?_, ?_⟩
      · change (tableOf files (before + 1)).level = 0 + 1
        rw [all.level (by omega)]
        rfl
      · intro k below above
        obtain ⟨earlier, rfl⟩ : ∃ earlier, k = earlier + 1 := ⟨k - 1, by omega⟩
        change 0 < (tableOf files (earlier + 1)).level
        rw [all.level (by omega)]
        exact Int.one_pos
  rw [children, List.filter_congr isChild, List.range_succ_eq_map,
    List.filter_cons_of_neg (by decide), List.range'_eq_map_range]
  rw [List.filter_eq_self.2]
  · apply List.map_congr_left
    intro k _
    exact Nat.add_comm k 1
  · intro j member
    obtain ⟨k, _, rfl⟩ := List.mem_map.1 member
    exact decide_eq_true (Nat.succ_pos k)

/-- Clusters of the files of a list. -/
def clustersOfFiles (files : List TableEntry) : Nat :=
  (files.map fun file => clustersOf file.maxSize.toNat).sum

theorem clustersOfFiles_append (files more : List TableEntry) :
    clustersOfFiles (files ++ more) = clustersOfFiles files + clustersOfFiles more := by
  rw [clustersOfFiles, List.map_append, List.sum_append]
  rfl

theorem AllFiles.clustersFor_file (all : AllFiles files) {i : Nat}
    (inside : i < files.length) :
    clustersFor (tableOf files) (files.length + 1) (i + 1) =
      clustersOf files[i].maxSize.toNat := by
  rw [clustersFor, if_neg (by rw [all.dir inside]; exact Bool.false_ne_true),
    tableOf_succ inside]

theorem AllFiles.clustersFor_root (all : AllFiles files) (few : files.length ≤ 128) :
    clustersFor (tableOf files) (files.length + 1) 0 = 1 := by
  rw [clustersFor, if_pos (show (tableOf files 0).dir = true from rfl),
    all.children_root, List.length_range', clustersOf]
  split <;> omega

/-- Behind the root the files lie one after the other. -/
theorem AllFiles.firstCluster_succ (all : AllFiles files) (few : files.length ≤ 128)
    {i : Nat} (inside : i ≤ files.length) :
    firstCluster (tableOf files) (files.length + 1) (i + 1) =
      3 + clustersOfFiles (files.take i) := by
  induction i with
  | zero => rw [Vfs.firstCluster_succ, all.clustersFor_root few]; rfl
  | succ i inductionHypothesis =>
      rw [Vfs.firstCluster_succ, inductionHypothesis (by omega),
        all.clustersFor_file (by omega), List.take_succ_eq_append_getElem (by omega),
        clustersOfFiles_append, Nat.add_assoc]
      rfl

theorem AllFiles.totalClusters_eq (all : AllFiles files) (few : files.length ≤ 128) :
    totalClusters (tableOf files) (files.length + 1) = 1 + clustersOfFiles files := by
  rw [totalClusters, all.firstCluster_succ few (Nat.le_refl _), List.take_length]
  omega

end Flat

/-! ## The device's own table -/

/-- Packed texts of moderate size, and no more used pages than there are. -/
structure Build.Moderate (build : Build) : Prop where
  readme : build.readme.originalSize ≤ 2 ^ 20
  driverInf : build.driverInf.originalSize ≤ 2 ^ 20
  proto : build.proto.originalSize ≤ 2 ^ 20
  memory : ∀ pages, build.memory = .partialUsed pages →
    pages ≤ QSPIStorage.flashSizePages

section Table

variable {build : Build}

theorem Build.usedFile_cases (build : Build) :
    build.usedFile = [] ∨ ∃ pages, pages ≠ 0 ∧ build.memory = .partialUsed pages ∧
      build.usedFile = [fileEntry "data_use.hs" (pages * build.pageSize % 2 ^ 32)
        (pages * build.pageSize % 2 ^ 32) .flashRead none] := by
  unfold Build.usedFile
  cases build.memory with
  | undefined => exact .inl rfl
  | fullUsed => exact .inl rfl
  | partialUsed pages =>
      by_cases none : pages = 0
      · exact .inl (if_pos none)
      · exact .inr ⟨pages, none, rfl, if_neg none⟩

theorem Build.allFiles (build : Build) : AllFiles build.files := by
  intro file member
  rcases build.usedFile_cases with none | ⟨pages, _, _, used⟩
  · rw [Build.files, none] at member
    simp only [List.append_nil, List.mem_cons, List.not_mem_nil, or_false] at member
    rcases member with rfl | rfl | rfl | rfl | rfl | rfl <;> exact ⟨rfl, rfl⟩
  · rw [Build.files, used] at member
    simp only [List.cons_append, List.nil_append, List.mem_cons, List.not_mem_nil,
      or_false] at member
    rcases member with rfl | rfl | rfl | rfl | rfl | rfl | rfl <;> exact ⟨rfl, rfl⟩

/-- A property of the files of the table, one by one. -/
theorem Build.forall_files (build : Build) (P : TableEntry → Prop)
    (packed : ∀ name packed, (name, packed) ∈ [("Readme.txt", build.readme),
      ("driver.inf", build.driverInf), ("proto.prt", build.proto)] →
      P (Build.packedFile name packed))
    (config : P (fileEntry "config.var" 2048 2048 .settingsRead none))
    (state : P (fileEntry "storage.var" 512 2048 .meminfoRead none))
    (raw : P (fileEntry "data_raw.hs" build.flashSize build.flashSize .flashRead none))
    (used : ∀ pages, build.memory = .partialUsed pages →
      P (fileEntry "data_use.hs" (pages * build.pageSize % 2 ^ 32)
        (pages * build.pageSize % 2 ^ 32) .flashRead none)) :
    ∀ file ∈ build.files, P file := by
  have fixed : ∀ file ∈ [Build.packedFile "Readme.txt" build.readme,
      Build.packedFile "driver.inf" build.driverInf,
      Build.packedFile "proto.prt" build.proto,
      fileEntry "config.var" 2048 2048 .settingsRead none,
      fileEntry "storage.var" 512 2048 .meminfoRead none,
      fileEntry "data_raw.hs" build.flashSize build.flashSize .flashRead none],
      P file := by
    intro file member
    simp only [List.mem_cons, List.not_mem_nil, or_false] at member
    rcases member with rfl | rfl | rfl | rfl | rfl | rfl
    · exact packed _ _ (by simp)
    · exact packed _ _ (by simp)
    · exact packed _ _ (by simp)
    · exact config
    · exact state
    · exact raw
  intro file member
  rcases List.mem_append.1 member with isFixed | isUsed
  · exact fixed file isFixed
  · rcases build.usedFile_cases with none | ⟨pages, _, isPartial, isFile⟩
    · rw [none] at isUsed
      cases isUsed
    · rw [isFile] at isUsed
      rw [List.mem_singleton.1 isUsed]
      exact used pages isPartial

theorem Build.files_length_le (build : Build) : build.files.length ≤ 7 := by
  rcases build.usedFile_cases with none | ⟨pages, _, _, used⟩
  · rw [Build.files, none]
    exact Nat.le_succ 6
  · rw [Build.files, used]
    exact Nat.le_refl 7

theorem flashSize_eq : QSPIStorage.flashSize = 2 ^ 27 := rfl

theorem Build.flashSize_le (build : Build) : build.flashSize ≤ 2 ^ 27 := by
  unfold Build.flashSize
  split
  · exact Nat.le_of_eq flashSize_eq
  · exact Nat.zero_le _

theorem Build.Moderate.used_le (moderate : build.Moderate) {pages : Nat}
    (isPartial : build.memory = .partialUsed pages) :
    pages * build.pageSize ≤ 2 ^ 27 := by
  have few := moderate.memory pages isPartial
  rw [flashSizePages_eq] at few
  unfold Build.pageSize
  split
  · change pages * 4096 ≤ 2 ^ 27
    omega
  · omega

/-- No size of the table exceeds the size of the memory chip. -/
theorem Build.Moderate.sizes (moderate : build.Moderate) :
    ∀ file ∈ build.files, file.maxSize.toNat ≤ 2 ^ 27 ∧
      file.currSize.toNat ≤ file.maxSize.toNat := by
  have small : ∀ name size readcb userData, size ≤ 2 ^ 27 →
      (fileEntry name size size readcb userData).maxSize.toNat ≤ 2 ^ 27 ∧
        (fileEntry name size size readcb userData).currSize.toNat ≤
          (fileEntry name size size readcb userData).maxSize.toNat := by
    intro name size readcb userData bound
    refine ⟨?_, Nat.le_refl _⟩
    change (UInt32.ofNat size).toNat ≤ _
    rw [UInt32.toNat_ofNat']
    omega
  apply build.forall_files fun file => file.maxSize.toNat ≤ 2 ^ 27 ∧
    file.currSize.toNat ≤ file.maxSize.toNat
  · intro name packed member
    have isPacked : packed.originalSize ≤ 2 ^ 20 := by
      simp only [List.mem_cons, List.not_mem_nil, or_false, Prod.mk.injEq] at member
      rcases member with ⟨_, rfl⟩ | ⟨_, rfl⟩ | ⟨_, rfl⟩
      · exact moderate.readme
      · exact moderate.driverInf
      · exact moderate.proto
    exact small _ _ _ _ (by omega)
  · exact small _ _ _ _ (by omega)
  · constructor <;> decide
  · exact small _ _ _ _ build.flashSize_le
  · intro pages isPartial
    have used := moderate.used_le isPartial
    exact small _ _ _ _ (by omega)

private theorem clustersOfFiles_le {files : List TableEntry} {bound : Nat}
    (small : ∀ file ∈ files, clustersOf file.maxSize.toNat ≤ bound) :
    clustersOfFiles files ≤ bound * files.length := by
  induction files with
  | nil => exact Nat.zero_le _
  | cons file files inductionHypothesis =>
      have first := small file List.mem_cons_self
      have rest := inductionHypothesis fun other member =>
        small other (List.mem_cons_of_mem _ member)
      unfold clustersOfFiles at rest ⊢
      rw [List.map_cons, List.sum_cons, List.length_cons, Nat.mul_succ]
      omega

theorem Build.Moderate.totalClusters_le (moderate : build.Moderate) :
    totalClusters (tableOf build.files) (build.files.length + 1) ≤ 2 ^ 18 := by
  have few := build.files_length_le
  have each : clustersOfFiles build.files ≤ 32768 * build.files.length := by
    apply clustersOfFiles_le
    intro file member
    have size := (moderate.sizes file member).1
    have mono := clustersOf_mono size
    have largest : clustersOf (2 ^ 27) = 32768 := by decide
    omega
  rw [build.allFiles.totalClusters_eq (by omega)]
  omega

theorem Build.Moderate.fits (moderate : build.Moderate) :
    Fits (tableOf build.files) (build.files.length + 1) := by
  have few := build.files_length_le
  have total := moderate.totalClusters_le
  have isFile : ∀ i < build.files.length + 1, (tableOf build.files i).dir = false →
      tableOf build.files i ∈ build.files := by
    intro i inside file
    cases i with
    | zero => cases file
    | succ i =>
        rw [tableOf_succ (by omega)]
        exact List.getElem_mem _
  refine ⟨?_, ?_, by omega, ?_⟩
  · intro i inside file
    exact (moderate.sizes _ (isFile i inside file)).2
  · intro i inside file
    have size := (moderate.sizes _ (isFile i inside file)).1
    omega
  · have sectors : fatSectors (tableOf build.files) (build.files.length + 1) ≤
        (totalClusters (tableOf build.files) (build.files.length + 1) * 4 + 511) / 512 +
          1 := by
      unfold fatSectors sizeToNsect
      split <;> omega
    omega

theorem Build.Moderate.addressable (moderate : build.Moderate) :
    Addressable (tableOf build.files) (build.files.length + 1) := by
  have total := moderate.totalClusters_le
  unfold Addressable
  omega

theorem Build.namesOk (build : Build) :
    NamesOk (tableOf build.files) (build.files.length + 1) diskLabel := by
  have names : ∀ file ∈ build.files, NameOk file.name := by
    apply build.forall_files fun file => NameOk file.name
    · intro name packed member
      simp only [List.mem_cons, List.not_mem_nil, or_false, Prod.mk.injEq] at member
      rcases member with ⟨rfl, _⟩ | ⟨rfl, _⟩ | ⟨rfl, _⟩
      · exact (by decide : NameOk (ascii "Readme.txt"))
      · exact (by decide : NameOk (ascii "driver.inf"))
      · exact (by decide : NameOk (ascii "proto.prt"))
    · exact (by decide : NameOk (ascii "config.var"))
    · exact (by decide : NameOk (ascii "storage.var"))
    · exact (by decide : NameOk (ascii "data_raw.hs"))
    · intro pages _
      exact (by decide : NameOk (ascii "data_use.hs"))
  refine ⟨by decide, ?_⟩
  intro i inside
  cases i with
  | zero => exact (by decide : NameOk rootEntry.name)
  | succ i =>
      rw [tableOf_succ (by omega)]
      exact names _ (List.getElem_mem _)

end Table

end SelfWriter.Vfs
