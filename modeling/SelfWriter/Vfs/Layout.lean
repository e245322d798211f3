import SelfWriter.Lib.ConsecutiveRanges
import SelfWriter.Lib.Word32
import SelfWriter.Vfs.Entries

/-!
# Where the files lie on the disk

`emfat_init` gives every entry of the table its clusters, one entry after the
other from cluster 2 on: as many as its greatest size takes, the ones behind its
present size kept in reserve.  Before the clusters come the boot sector and two
copies of the allocation table.
-/

namespace SelfWriter.Vfs

open SelfWriter.Lib

variable {Readcb UserData : Type}

/-- `emfat_t`. -/
structure Emfat (Readcb UserData : Type) where
  volLabel : List UInt8
  diskSectors : UInt32
  bootLba : UInt32
  fsinfoLba : UInt32
  fat1Lba : UInt32
  fat2Lba : UInt32
  rootLba : UInt32
  numClust : UInt32
  entries : Entries Readcb UserData
  lastEntry : Nat
  numEntries : Nat

/-- `SIZE_TO_NCLUST`. -/
def sizeToNclust (size : UInt32) : UInt32 :=
  if size = 0 then 1 else (size + 4096 - 1) / 4096

/-- `SIZE_TO_NSECT` of a number of 64 bits, too small here to overflow. -/
def sizeToNsect (size : Nat) : Nat :=
  if size = 0 then 1 else (size + 512 - 1) / 512

/-- The body of the loop: entry `e` begins at `clust`. -/
def layEntry (e : Entry Readcb UserData) (clust : UInt32) :
    Entry Readcb UserData :=
  if e.dir then
    let lastClust := clust + sizeToNclust (e.priv.numSubentry * 32) - 1
    { e with
      currSize := 0
      maxSize := 0
      priv :=
        { e.priv with
          firstClust := clust
          lastClust := lastClust
          lastReserved := lastClust } }
  else
    { e with
      priv :=
        { e.priv with
          firstClust := clust
          lastClust := clust + sizeToNclust e.currSize - 1
          lastReserved := clust + sizeToNclust e.maxSize - 1 } }

/-- The loop over the first `count` entries, with the next free cluster. -/
def layEntries (entries : Entries Readcb UserData) :
    Nat → Entries Readcb UserData × UInt32
  | 0 => (entries, 2)
  | count + 1 =>
      let (laid, clust) := layEntries entries count
      let e := layEntry (laid count) clust
      (Function.update laid count e, e.priv.lastReserved + 1)

/-- `emfat_init`. -/
def emfatInit (label : List UInt8) (entries : Entries Readcb UserData)
    (count : Nat) : Option (Emfat Readcb UserData) :=
  (emfatInitEntries entries count).map fun linked =>
    let (laid, next) := layEntries linked count
    let clust := next - 2
    let sectPerFat := UInt32.ofNat (sizeToNsect (clust.toNat * 4))
    { volLabel := label
      diskSectors := clust * 8 + (62 + 1 + 1 + sectPerFat + sectPerFat)
      bootLba := 62
      fsinfoLba := 62 + 1
      fat1Lba := 62 + 1 + 1
      fat2Lba := 62 + 1 + 1 + sectPerFat
      rootLba := 62 + 1 + 1 + sectPerFat + sectPerFat
      numClust := clust
      entries := laid
      lastEntry := 0
      numEntries := count }

/-! ## The layout in natural numbers -/

/-- Clusters that hold `size` bytes; nothing takes one cluster, too. -/
def clustersOf (size : Nat) : Nat :=
  if size = 0 then 1 else (size + 4095) / 4096

theorem clustersOf_pos (size : Nat) : 0 < clustersOf size := by
  unfold clustersOf
  split <;> omega

theorem clustersOf_mono {small large : Nat} (order : small ≤ large) :
    clustersOf small ≤ clustersOf large := by
  unfold clustersOf
  split <;> split <;> omega

/-- The clusters hold that many bytes. -/
theorem le_clustersOf_mul (size : Nat) : size ≤ 4096 * clustersOf size := by
  unfold clustersOf
  split <;> omega

private theorem toNat_sizeToNclust {size : UInt32} (small : size.toNat + 4096 ≤ 2 ^ 32) :
    (sizeToNclust size).toNat = clustersOf size.toNat := by
  unfold sizeToNclust clustersOf
  by_cases empty : size = 0
  · subst empty
    rfl
  · have nonzero : size.toNat ≠ 0 := mt Word32.eq_zero_iff_toNat.2 empty
    have cluster : (4096 : UInt32).toNat = 4096 := rfl
    have one : (1 : UInt32).toNat = 1 := rfl
    have sum : (2 ^ 32 - 1 + (size.toNat + 4096) % 2 ^ 32) % 2 ^ 32 =
        size.toNat + 4095 := by
      omega
    rw [if_neg empty, if_neg nonzero, UInt32.toNat_div, UInt32.toNat_sub,
      UInt32.toNat_add, cluster, one, sum]

/-- The clusters entry `i` of the table takes. -/
def clustersFor (original : Entries Readcb UserData) (count i : Nat) : Nat :=
  if (original i).dir then
    clustersOf
      (32 * ((children (fun j => (original j).level) count i).length - 1))
  else
    clustersOf (original i).maxSize.toNat

/-- The first cluster of entry `i`. -/
def firstCluster (original : Entries Readcb UserData) (count : Nat) : Nat → Nat
  | 0 => 2
  | i + 1 => firstCluster original count i + clustersFor original count i

/-- Clusters of the whole disk, and sectors of one copy of its allocation table. -/
def totalClusters (original : Entries Readcb UserData) (count : Nat) : Nat :=
  firstCluster original count count - 2

def fatSectors (original : Entries Readcb UserData) (count : Nat) : Nat :=
  sizeToNsect (totalClusters original count * 4)

/-- The sizes of the table stay within 32 bits. -/
structure Fits (original : Entries Readcb UserData) (count : Nat) : Prop where
  currSize_le : ∀ i < count, (original i).dir = false →
    (original i).currSize.toNat ≤ (original i).maxSize.toNat
  maxSize_small : ∀ i < count, (original i).dir = false →
    (original i).maxSize.toNat + 4096 ≤ 2 ^ 32
  count_small : 32 * count + 4096 ≤ 2 ^ 32
  disk_small : 64 + 2 * fatSectors original count +
    8 * totalClusters original count < 2 ^ 32

section Clusters

variable (original : Entries Readcb UserData) (count i : Nat)

theorem clustersFor_pos : 0 < clustersFor original count i := by
  unfold clustersFor
  split <;> exact clustersOf_pos _

theorem firstCluster_mono {i j : Nat} (order : i ≤ j) :
    firstCluster original count i ≤ firstCluster original count j := by
  induction j with
  | zero =>
      cases Nat.le_zero.1 order
      exact Nat.le_refl _
  | succ j inductionHypothesis =>
      rcases Nat.lt_or_eq_of_le order with before | same
      · have := inductionHypothesis (Nat.le_of_lt_succ before)
        rw [firstCluster]
        omega
      · cases same
        exact Nat.le_refl _

theorem two_le_firstCluster : 2 ≤ firstCluster original count i :=
  firstCluster_mono original count (Nat.zero_le i)

theorem firstCluster_succ : firstCluster original count (i + 1) =
    firstCluster original count i + clustersFor original count i :=
  rfl

theorem firstCluster_count :
    firstCluster original count count = totalClusters original count + 2 := by
  have start := two_le_firstCluster original count count
  unfold totalClusters
  omega

/-- The clusters of an entry are clusters of the disk. -/
theorem firstCluster_succ_le {i : Nat} (inside : i < count) :
    firstCluster original count i + clustersFor original count i ≤
      totalClusters original count + 2 := by
  rw [← firstCluster_succ, ← firstCluster_count]
  exact firstCluster_mono original count inside

variable {original} {count} {i}

theorem Fits.firstCluster_small (fits : Fits original count) (inside : i ≤ count) :
    firstCluster original count i + 4 < 2 ^ 32 := by
  have bound := fits.disk_small
  have order := firstCluster_mono original count inside
  rw [firstCluster_count] at order
  omega

private theorem children_length_le (level : Nat → Int) (count d : Nat) :
    (children level count d).length ≤ count := by
  have bound := List.length_filter_le
    (fun j => decide (InDirectory level d j)) (List.range count)
  rwa [List.length_range] at bound

end Clusters

/-! ## What the layout is -/

/-- A directory loses the sizes the table gave it. -/
def withoutSize (e : Entry Readcb UserData) : Entry Readcb UserData :=
  if e.dir then { e with currSize := 0, maxSize := 0 } else e

@[simp]
theorem withoutSize_dir (e : Entry Readcb UserData) :
    (withoutSize e).dir = e.dir := by
  unfold withoutSize
  split <;> rfl

/-- Clusters in use of entry `i`; the others are in reserve. -/
def clustersUsed (original : Entries Readcb UserData) (count i : Nat) : Nat :=
  if (original i).dir then clustersFor original count i
  else clustersOf (original i).currSize.toNat

/-- Entry `i` of the table as the disk has it. -/
structure EntryLaid (original : Entries Readcb UserData) (count i : Nat)
    (e : Entry Readcb UserData) : Prop where
  same : e = { withoutSize (original i) with priv := e.priv }
  firstClust : e.priv.firstClust.toNat = firstCluster original count i
  lastClust : e.priv.lastClust.toNat + 1 =
    firstCluster original count i + clustersUsed original count i
  lastReserved : e.priv.lastReserved.toNat + 1 = firstCluster original count (i + 1)

theorem clustersUsed_pos (original : Entries Readcb UserData) (count i : Nat) :
    0 < clustersUsed original count i := by
  unfold clustersUsed
  split
  · exact clustersFor_pos original count i
  · exact clustersOf_pos _

section LayEntry

variable (e : Entry Readcb UserData) (clust : UInt32)

private theorem layEntry_eq :
    layEntry e clust = { withoutSize e with priv := (layEntry e clust).priv } := by
  unfold layEntry withoutSize
  split <;> rfl

@[simp]
theorem layEntry_top : (layEntry e clust).priv.top = e.priv.top := by
  unfold layEntry
  split <;> rfl

@[simp]
theorem layEntry_sub : (layEntry e clust).priv.sub = e.priv.sub := by
  unfold layEntry
  split <;> rfl

@[simp]
theorem layEntry_next : (layEntry e clust).priv.next = e.priv.next := by
  unfold layEntry
  split <;> rfl

end LayEntry

/-- Adding clusters and taking one off, without overflow. -/
theorem toNat_add_sub_one {first clusters : UInt32} (positive : 0 < clusters.toNat)
    (small : first.toNat + clusters.toNat < 2 ^ 32) :
    (first + clusters - 1).toNat + 1 = first.toNat + clusters.toNat := by
  have one : (1 : UInt32).toNat = 1 := rfl
  rw [UInt32.toNat_sub, UInt32.toNat_add, one]
  omega

/-- Where the second copy, the clusters and the end of the disk are. -/
theorem toNat_sectors (sectPerFat clust : UInt32)
    (small : 64 + 2 * sectPerFat.toNat + 8 * clust.toNat < 2 ^ 32) :
    (62 + 1 + 1 + sectPerFat).toNat = 64 + sectPerFat.toNat ∧
    (62 + 1 + 1 + sectPerFat + sectPerFat).toNat = 64 + 2 * sectPerFat.toNat ∧
    (clust * 8 + (62 + 1 + 1 + sectPerFat + sectPerFat)).toNat =
      64 + 2 * sectPerFat.toNat + 8 * clust.toNat := by
  have fat1 : (62 + 1 + 1 : UInt32).toNat = 64 := rfl
  have eight : (8 : UInt32).toNat = 8 := rfl
  have fat2 : (62 + 1 + 1 + sectPerFat).toNat = 64 + sectPerFat.toNat := by
    rw [Word32.toNat_add_of_lt (by omega), fat1]
  have root : (62 + 1 + 1 + sectPerFat + sectPerFat).toNat =
      64 + 2 * sectPerFat.toNat := by
    rw [Word32.toNat_add_of_lt (by omega), fat2]
    omega
  refine ⟨fat2, root, ?_⟩
  rw [UInt32.toNat_add, UInt32.toNat_mul, root, eight]
  omega

section Layout

variable {original linked : Entries Readcb UserData} {count : Nat}

theorem Fits.clustersUsed_le (fits : Fits original count) {i : Nat}
    (inside : i < count) :
    clustersUsed original count i ≤ clustersFor original count i := by
  unfold clustersUsed
  split
  · exact Nat.le_refl _
  · rename_i isFile
    have file : (original i).dir = false := by simpa using isFile
    rw [clustersFor, if_neg isFile]
    exact clustersOf_mono (fits.currSize_le i inside file)


/-- One round of the loop. -/
theorem entryLaid_layEntry (fits : Fits original count)
    (links : LinksDirectories original count linked) {i : Nat} (inside : i < count)
    {clust : UInt32} (begins : clust.toNat = firstCluster original count i) :
    EntryLaid original count i (layEntry (linked i) clust) := by
  have same := links.same i
  have small := fits.firstCluster_small (Nat.succ_le_of_lt inside)
  rw [firstCluster_succ] at small
  have used := fits.clustersUsed_le inside
  have usedPositive := clustersUsed_pos original count i
  have eq : layEntry (linked i) clust =
      { withoutSize (original i) with priv := (layEntry (linked i) clust).priv } := by
    have unsized : withoutSize (linked i) =
        { withoutSize (original i) with priv := (linked i).priv } := by
      rw [same]
      unfold withoutSize
      split <;> rfl
    conv_lhs => rw [layEntry_eq]
    rw [unsized]
  by_cases isDir : (original i).dir = true
  · have dir : (linked i).dir = true := by
      rw [same]
      exact isDir
    have countSmall := fits.count_small
    have childrenSmall :=
      children_length_le (fun j => (original j).level) count i
    have bytes : ((linked i).priv.numSubentry * 32).toNat =
        32 * ((children (fun j => (original j).level) count i).length - 1) := by
      have factor : (32 : UInt32).toNat = 32 := rfl
      rw [links.numSubentry i inside, UInt32.toNat_mul, UInt32.toNat_ofNat', factor,
        Nat.mod_eq_of_lt (by omega), Nat.mod_eq_of_lt (by omega), Nat.mul_comm]
    have clusters : (sizeToNclust ((linked i).priv.numSubentry * 32)).toNat =
        clustersFor original count i := by
      rw [toNat_sizeToNclust (by omega), bytes, clustersFor, if_pos isDir]
    have last : (clust + sizeToNclust ((linked i).priv.numSubentry * 32) - 1).toNat +
        1 = firstCluster original count i + clustersFor original count i := by
      rw [toNat_add_sub_one (by omega) (by omega), begins, clusters]
    refine ⟨eq, ?_, ?_, ?_⟩
    · rw [layEntry, if_pos dir]
      exact begins
    · rw [layEntry, if_pos dir, clustersUsed, if_pos isDir]
      exact last
    · rw [layEntry, if_pos dir]
      exact last
  · have file : (original i).dir = false := by simpa using isDir
    have notDir : ¬ (linked i).dir = true := by
      rw [same]
      exact isDir
    have currSize : (linked i).currSize = (original i).currSize := by rw [same]
    have maxSize : (linked i).maxSize = (original i).maxSize := by rw [same]
    have order := fits.currSize_le i inside file
    have bound := fits.maxSize_small i inside file
    have isUsed : clustersUsed original count i =
        clustersOf (original i).currSize.toNat := by
      rw [clustersUsed, if_neg isDir]
    have isReserved : clustersFor original count i =
        clustersOf (original i).maxSize.toNat := by
      rw [clustersFor, if_neg isDir]
    have current : (sizeToNclust (linked i).currSize).toNat =
        clustersUsed original count i := by
      rw [currSize, toNat_sizeToNclust (by omega), isUsed]
    have greatest : (sizeToNclust (linked i).maxSize).toNat =
        clustersFor original count i := by
      rw [maxSize, toNat_sizeToNclust bound, isReserved]
    refine ⟨eq, ?_, ?_, ?_⟩
    · rw [layEntry, if_neg notDir]
      exact begins
    · rw [layEntry, if_neg notDir]
      change (clust + sizeToNclust (linked i).currSize - 1).toNat + 1 = _
      rw [toNat_add_sub_one (by omega) (by omega), begins, current]
    · rw [layEntry, if_neg notDir]
      change (clust + sizeToNclust (linked i).maxSize - 1).toNat + 1 = _
      rw [toNat_add_sub_one (by omega) (by omega), begins, greatest,
        firstCluster_succ]

/-- The loop has laid the first `m` entries and not touched the others. -/
theorem layEntries_spec (fits : Fits original count)
    (links : LinksDirectories original count linked) {m : Nat} (bound : m ≤ count) :
    (layEntries linked m).2.toNat = firstCluster original count m ∧
    (∀ i < m, ∃ clust, (layEntries linked m).1 i = layEntry (linked i) clust ∧
      EntryLaid original count i (layEntry (linked i) clust)) ∧
    ∀ i, m ≤ i → (layEntries linked m).1 i = linked i := by
  induction m with
  | zero =>
      refine ⟨rfl, ?_, fun _ _ => rfl⟩
      intro i inside
      cases inside
  | succ m inductionHypothesis =>
      obtain ⟨begins, earlier, later⟩ := inductionHypothesis (by omega)
      have laid := entryLaid_layEntry fits links (show m < count by omega) begins
      have small := fits.firstCluster_small bound
      have isLast : layEntries linked (m + 1) =
          (Function.update (layEntries linked m).1 m
            (layEntry (linked m) (layEntries linked m).2),
          (layEntry (linked m) (layEntries linked m).2).priv.lastReserved + 1) := by
        rw [← later m (Nat.le_refl m)]
        rfl
      rw [isLast]
      refine ⟨?_, ?_, ?_⟩
      · have one : (1 : UInt32).toNat = 1 := rfl
        have reserved := laid.lastReserved
        rw [Word32.toNat_add_of_lt (by omega), one, reserved]
      · intro i inside
        rcases Nat.lt_or_eq_of_le (Nat.le_of_lt_succ inside) with before | same
        · obtain ⟨clust, isLaid, entryLaid⟩ := earlier i before
          refine ⟨clust, ?_, entryLaid⟩
          rw [← isLaid]
          exact Function.update_of_ne (Nat.ne_of_lt before) _ _
        · subst same
          exact ⟨_, Function.update_self _ _ _, laid⟩
      · intro i behind
        rw [← later i (by omega)]
        exact Function.update_of_ne (by omega) _ _

/-- The disk of a table: what reading from it relies on. -/
structure DiskLayout (original : Entries Readcb UserData) (count : Nat)
    (emfat : Emfat Readcb UserData) : Prop where
  entryLaid : ∀ i < count, EntryLaid original count i (emfat.entries i)
  top : ∀ j < count, ∀ d, (emfat.entries j).priv.top = some d ↔
    InDirectory (fun i => (original i).level) d j
  links : ∀ d < count, IndexList.Links (fun i => (emfat.entries i).priv.next)
    (emfat.entries d).priv.sub (children (fun i => (original i).level) count d)
  bootLba : emfat.bootLba = 62
  fsinfoLba : emfat.fsinfoLba = 63
  fat1Lba : emfat.fat1Lba.toNat = 64
  fat2Lba : emfat.fat2Lba.toNat = 64 + fatSectors original count
  rootLba : emfat.rootLba.toNat = 64 + 2 * fatSectors original count
  numClust : emfat.numClust.toNat = totalClusters original count
  diskSectors : emfat.diskSectors.toNat =
    64 + 2 * fatSectors original count + 8 * totalClusters original count
  numEntries : emfat.numEntries = count
  lastEntry : emfat.lastEntry < count

/-- A nested table whose sizes stay within 32 bits becomes a disk. -/
theorem emfatInit_spec (label : List UInt8)
    (nested : Nested (fun i => (original i).level) (fun i => (original i).dir) count)
    (fits : Fits original count) :
    ∃ emfat, emfatInit label original count = some emfat ∧
      emfat.volLabel = label ∧ DiskLayout original count emfat := by
  obtain ⟨linked, accepted, links⟩ := (emfatInitEntries_spec original count).1 nested
  obtain ⟨ends, laid, _⟩ := layEntries_spec fits links (Nat.le_refl count)
  have small := fits.disk_small
  have atLeast := two_le_firstCluster original count count
  have clusters : ((layEntries linked count).2 - 2).toNat =
      totalClusters original count := by
    have two : (2 : UInt32).toNat = 2 := rfl
    have bound := (layEntries linked count).2.toNat_lt
    rw [UInt32.toNat_sub, two, ends, totalClusters]
    omega
  have sectors : (UInt32.ofNat
      (sizeToNsect (((layEntries linked count).2 - 2).toNat * 4))).toNat =
      fatSectors original count := by
    rw [clusters, UInt32.toNat_ofNat', fatSectors]
    exact Nat.mod_eq_of_lt (by unfold fatSectors at small; omega)
  obtain ⟨fat2, root, disk⟩ := toNat_sectors
    (UInt32.ofNat (sizeToNsect (((layEntries linked count).2 - 2).toNat * 4)))
    ((layEntries linked count).2 - 2)
    (by rw [sectors, clusters]; exact small)
  rw [sectors] at fat2 root disk
  refine ⟨_, by rw [emfatInit, accepted]; rfl, rfl, ?_⟩
  refine
    { entryLaid := ?_
      top := ?_
      links := ?_
      bootLba := rfl
      fsinfoLba := rfl
      fat1Lba := rfl
      fat2Lba := fat2
      rootLba := root
      numClust := clusters
      diskSectors := disk.trans (by rw [clusters])
      numEntries := rfl
      lastEntry := nested.positive }
  · intro i inside
    obtain ⟨clust, isLaid, entryLaid⟩ := laid i inside
    change EntryLaid original count i ((layEntries linked count).1 i)
    rw [isLaid]
    exact entryLaid
  · intro j inside d
    obtain ⟨clust, isLaid, _⟩ := laid j inside
    change ((layEntries linked count).1 j).priv.top = some d ↔ _
    rw [isLaid, layEntry_top]
    exact links.top j inside d
  · intro d inside
    obtain ⟨clust, isLaid, _⟩ := laid d inside
    change IndexList.Links (fun i => ((layEntries linked count).1 i).priv.next)
      ((layEntries linked count).1 d).priv.sub _
    rw [isLaid, layEntry_sub]
    apply (links.links d inside).congr
    intro item member
    obtain ⟨clust, isLaid, _⟩ := laid item (mem_children.1 member).1
    rw [isLaid, layEntry_next]

theorem DiskLayout.of_emfatInit {label : List UInt8}
    {emfat : Emfat Readcb UserData}
    (nested : Nested (fun i => (original i).level) (fun i => (original i).dir) count)
    (fits : Fits original count) (made : emfatInit label original count = some emfat) :
    emfat.volLabel = label ∧ DiskLayout original count emfat := by
  obtain ⟨other, isMade, isLabel, layout⟩ := emfatInit_spec label nested fits
  rw [made] at isMade
  cases isMade
  exact ⟨isLabel, layout⟩

end Layout

/-! ## A root with one file -/

def oneFile : Entries Unit Unit := fun i =>
  { name := []
    dir := i = 0
    level := if i = 0 then 0 else 1
    offset := 0
    currSize := if i = 0 then 0 else 600
    maxSize := if i = 0 then 0 else 600
    userData := ()
    cmaTime := (0, 0, 0)
    readcb := none
    priv :=
      { firstClust := 0
        lastClust := 0
        lastReserved := 0
        numSubentry := 0
        top := none
        sub := none
        next := none } }

theorem oneFile_nested :
    Nested (fun i => (oneFile i).level) (fun i => (oneFile i).dir) 2 where
  positive := by decide
  rootLevel := rfl
  rootDir := rfl
  follows := by
    intro j inside
    obtain rfl : j = 0 := by omega
    decide

theorem oneFile_fits : Fits oneFile 2 where
  currSize_le := by
    intro i _ _
    exact Nat.le_refl _
  maxSize_small := by decide
  count_small := by decide
  disk_small := by decide

end SelfWriter.Vfs
