import SelfWriter.Vfs.Host

/-!
# The files on the disk

A host that follows the allocation table from the first cluster of an entry finds
the clusters in use of that entry, and in them what the callback of the entry
serves.  A file whose last cluster is not in the allocation table cannot be
followed to its end.
-/

namespace SelfWriter.Vfs

open SelfWriter.Lib SelfWriter.Lib.Fat32

variable {Readcb UserData : Type}
variable {original : Entries Readcb UserData} {count : Nat}
variable {emfat : Emfat Readcb UserData}
variable (serves : Nat → Serve Readcb UserData) (buffers : Nat → List UInt8)

/-! ## Chains -/

/-- The last cluster in use of an entry. -/
def lastCluster (original : Entries Readcb UserData) (count i : Nat) : Nat :=
  firstCluster original count i + clustersUsed original count i - 1

section Chains

variable {i : Nat}

theorem DiskLayout.link_own (layout : DiskLayout original count emfat)
    (fits : Fits original count) (addressable : Addressable original count)
    (inside : i < count) {copy k : Nat} (isCopy : copy < 2)
    (isOwn : k < clustersFor original count i)
    (covered : Covered original count (firstCluster original count i + k)) :
    (volumeOf original count).link (hostDisk serves emfat buffers) copy
        (firstCluster original count i + k) =
      some (if k + 1 < clustersUsed original count i then
        .next (firstCluster original count i + k + 1)
      else if k + 1 = clustersUsed original count i then .last
      else .free) := by
  rw [layout.link_eq serves buffers fits isCopy covered,
    layout.linkOf_fatWord fits addressable inside isOwn]

/-- The chain of an entry is its clusters in use. -/
theorem DiskLayout.chainFrom_eq (layout : DiskLayout original count emfat)
    (fits : Fits original count) (addressable : Addressable original count)
    (inside : i < count)
    (covered : Covered original count (lastCluster original count i)) :
    (volumeOf original count).chainFrom (hostDisk serves emfat buffers)
        (firstCluster original count i) =
      some (List.range' (firstCluster original count i)
        (clustersUsed original count i)) := by
  have usedPositive := clustersUsed_pos original count i
  have used := fits.clustersUsed_le inside
  obtain ⟨before, isUsed⟩ : ∃ before, clustersUsed original count i = before + 1 :=
    ⟨clustersUsed original count i - 1, by omega⟩
  have bound : firstCluster original count i + clustersUsed original count i - 1 <
      128 * fatSectors original count := covered
  rw [isUsed]
  apply chain_consecutive
  · change before < fatSectors original count * 128
    omega
  · intro k earlier
    rw [layout.link_own serves buffers fits addressable inside (by omega) (by omega)
      (show _ < _ by omega), if_pos (by omega)]
  · rw [layout.link_own serves buffers fits addressable inside (by omega) (by omega)
      (show _ < _ by omega), if_neg (by omega), if_pos (by omega)]

/-- Without its last clusters in the table the chain has no end. -/
theorem DiskLayout.chainFrom_eq_none (layout : DiskLayout original count emfat)
    (fits : Fits original count) (addressable : Addressable original count)
    (inside : i < count)
    (missing : ¬ Covered original count (lastCluster original count i)) :
    (volumeOf original count).chainFrom (hostDisk serves emfat buffers)
      (firstCluster original count i) = none := by
  have used := fits.clustersUsed_le inside
  have bound : 128 * fatSectors original count ≤
      firstCluster original count i + clustersUsed original count i - 1 :=
    Nat.le_of_not_lt missing
  apply chain_broken
    (128 * fatSectors original count - firstCluster original count i)
  · intro k earlier
    rw [layout.link_own serves buffers fits addressable inside (by omega) (by omega)
      (show _ < _ by omega), if_pos (by omega)]
  · apply link_of_not_covered
    unfold Covered
    omega

/-- The disk of a table mounts, and the chain of an entry can be followed to its end
exactly when the allocation table reaches that far. -/
theorem chainFrom_eq_some_iff {label : List UInt8}
    (nested : Nested (fun i => (original i).level) (fun i => (original i).dir) count)
    (fits : Fits original count) (addressable : Addressable original count)
    (made : emfatInit label original count = some emfat) (inside : i < count)
    {clusters : List Nat} :
    mount (hostDisk serves emfat buffers) = some (volumeOf original count) ∧
    ((volumeOf original count).chainFrom (hostDisk serves emfat buffers)
        (firstCluster original count i) = some clusters ↔
      Covered original count (lastCluster original count i) ∧
        clusters = List.range' (firstCluster original count i)
          (clustersUsed original count i)) := by
  obtain ⟨_, layout⟩ := DiskLayout.of_emfatInit nested fits made
  refine ⟨layout.mount_hostDisk serves buffers, ?_⟩
  by_cases covered : Covered original count (lastCluster original count i)
  · rw [layout.chainFrom_eq serves buffers fits addressable inside covered,
      Option.some_inj]
    constructor
    · intro same
      exact ⟨covered, same.symm⟩
    · intro same
      exact same.2.symm
  · rw [layout.chainFrom_eq_none serves buffers fits addressable inside covered]
    constructor
    · intro same
      cases same
    · intro same
      exact absurd same.1 covered

/-- The one file of a disk has a chain of one cluster. -/
theorem chainFrom_eq_some_iff_oneFile :
    ∃ emfat, emfatInit (ascii "ONE") oneFile 2 = some emfat ∧
      (volumeOf oneFile 2).chainFrom (plainDisk emfat) 3 = some [3] := by
  obtain ⟨emfat, made, _⟩ := emfatInit_spec (ascii "ONE") oneFile_nested oneFile_fits
  refine ⟨emfat, made, ?_⟩
  exact (chainFrom_eq_some_iff _ _ oneFile_nested oneFile_fits (by decide)
    made (by decide : 1 < 2)).2.2 ⟨by decide, by decide⟩

end Chains

/-! ## Nothing lost, nothing shared -/

private theorem exists_owner_nat (fits : Fits original count) (positive : 0 < count)
    {cluster : Nat} (reached : 2 ≤ cluster)
    (bound : cluster < totalClusters original count + 2) :
    ∃ i k, i < count ∧ k < clustersFor original count i ∧
      cluster = firstCluster original count i + k := by
  have small := fits.disk_small
  have clusterNat : (UInt32.ofNat cluster).toNat = cluster := by
    rw [UInt32.toNat_ofNat']
    omega
  obtain ⟨i, found⟩ := (exists_owner_iff positive).2
      (by rw [clusterNat]; exact ⟨reached, bound⟩)
  obtain ⟨inside, begins, ends⟩ := (owner_eq_some_iff positive).1 found
  rw [clusterNat] at begins ends
  rw [firstCluster_succ] at ends
  exact ⟨i, cluster - firstCluster original count i, inside, by omega, by omega⟩

private theorem owner_nat_unique {i i' k k' : Nat}
    (inside : i < count) (inside' : i' < count)
    (isOwn : k < clustersFor original count i)
    (isOwn' : k' < clustersFor original count i')
    (same : firstCluster original count i + k = firstCluster original count i' + k') :
    i = i' := by
  have owns : ∀ {i k : Nat}, i < count → k < clustersFor original count i →
      (clusterRanges original count).Owns i (firstCluster original count i + k) := by
    intro i k inside isOwn
    refine ⟨inside, Nat.le_add_right _ _, ?_⟩
    change _ ≤ firstCluster original count (i + 1) - 1
    rw [firstCluster_succ]
    omega
  have second := owns inside' isOwn'
  rw [← same] at second
  exact (owns inside isOwn).unique second

/-- With the whole table present, every cluster of the disk is either free and on
no chain, or on the chain of exactly one entry; both copies of the table agree. -/
theorem cluster_accounted {label : List UInt8}
    (nested : Nested (fun i => (original i).level) (fun i => (original i).dir) count)
    (fits : Fits original count) (addressable : Addressable original count)
    (made : emfatInit label original count = some emfat)
    (complete : totalClusters original count % 128 ≠ 0 ∧
      totalClusters original count % 128 ≠ 127)
    {cluster : Nat} (reached : 2 ≤ cluster)
    (bound : cluster < totalClusters original count + 2) :
    (volumeOf original count).link (hostDisk serves emfat buffers) 1 cluster =
        (volumeOf original count).link (hostDisk serves emfat buffers) 0 cluster ∧
    ((volumeOf original count).link (hostDisk serves emfat buffers) 0 cluster =
          some .free ∧
        (∀ i < count, ∀ clusters,
          (volumeOf original count).chainFrom (hostDisk serves emfat buffers)
            (firstCluster original count i) = some clusters → cluster ∉ clusters) ∨
      (volumeOf original count).link (hostDisk serves emfat buffers) 0 cluster ≠
          some .free ∧
        ∃! i, i < count ∧ ∃ clusters,
          (volumeOf original count).chainFrom (hostDisk serves emfat buffers)
            (firstCluster original count i) = some clusters ∧
          cluster ∈ clusters) := by
  obtain ⟨_, layout⟩ := DiskLayout.of_emfatInit nested fits made
  have positive := nested.positive
  have covers := (covered_iff original count positive).2 complete
  have covered := covers cluster bound
  obtain ⟨i, k, inside, isOwn, rfl⟩ := exists_owner_nat fits positive reached bound
  -- a chain is there for every entry, and only the owner's may hold the cluster
  have chains : ∀ j < count,
      (volumeOf original count).chainFrom (hostDisk serves emfat buffers)
        (firstCluster original count j) =
      some (List.range' (firstCluster original count j)
        (clustersUsed original count j)) := by
    intro j insideTable
    apply layout.chainFrom_eq serves buffers fits addressable insideTable
    apply covers
    have used := fits.clustersUsed_le insideTable
    have usedPositive := clustersUsed_pos original count j
    have ends := firstCluster_succ_le original count insideTable
    unfold lastCluster
    omega
  have holds : ∀ j < count, firstCluster original count i + k ∈
      List.range' (firstCluster original count j) (clustersUsed original count j) →
      j = i ∧ k < clustersUsed original count i := by
    intro j insideTable member
    rw [List.mem_range'_1] at member
    have used := fits.clustersUsed_le insideTable
    have same : j = i := owner_nat_unique insideTable inside
      (k := firstCluster original count i + k - firstCluster original count j)
      (by omega) isOwn (by omega)
    subst same
    exact ⟨rfl, by omega⟩
  refine ⟨?_, ?_⟩
  · rw [layout.link_eq serves buffers fits (by omega) covered,
      layout.link_eq serves buffers fits (by omega) covered]
  · rw [layout.link_own serves buffers fits addressable inside (by omega) isOwn covered]
    by_cases inUse : k < clustersUsed original count i
    · refine .inr ⟨?_, i, ⟨inside, _, chains i inside, ?_⟩, ?_⟩
      · by_cases isLast : k + 1 = clustersUsed original count i
        · rw [if_neg (by omega), if_pos isLast]
          intro same
          cases same
        · rw [if_pos (by omega)]
          intro same
          cases same
      · rw [List.mem_range'_1]
        omega
      · rintro j ⟨insideTable, clusters, isChain, member⟩
        rw [chains j insideTable] at isChain
        cases isChain
        exact (holds j insideTable member).1
    · refine .inl ⟨?_, ?_⟩
      · rw [if_neg (by omega), if_neg (by omega)]
      · intro j insideTable clusters isChain member
        rw [chains j insideTable] at isChain
        cases isChain
        exact inUse (holds j insideTable member).2

/-- The cluster of the one file of a disk is on its chain alone. -/
theorem cluster_accounted_oneFile :
    ∃ emfat, emfatInit (ascii "ONE") oneFile 2 = some emfat ∧
      (volumeOf oneFile 2).link (plainDisk emfat) 1 3 =
        (volumeOf oneFile 2).link (plainDisk emfat) 0 3 ∧
      ∃! i, i < 2 ∧ ∃ clusters,
        (volumeOf oneFile 2).chainFrom (plainDisk emfat) (firstCluster oneFile 2 i) =
          some clusters ∧ 3 ∈ clusters := by
  obtain ⟨emfat, made, _, layout⟩ :=
    emfatInit_spec (ascii "ONE") oneFile_nested oneFile_fits
  obtain ⟨agree, accounted⟩ := cluster_accounted (fun _ _ data _ _ _ => data)
    (fun _ => zeros 512) oneFile_nested oneFile_fits (by decide) made (by decide)
    (show 2 ≤ 3 by decide) (by decide)
  refine ⟨emfat, made, agree, ?_⟩
  rcases accounted with ⟨_, onNone⟩ | ⟨_, unique⟩
  · have chain := layout.chainFrom_eq (fun _ _ data _ _ _ => data) (fun _ => zeros 512)
      oneFile_fits (by decide) (show 1 < 2 by decide) (by decide)
    exact absurd (by decide) (onNone 1 (by decide) _ chain)
  · exact unique

/-! ## The contents of a file -/

/-- Sector `k` of a file, as its callback serves it. -/
def fileSector (serve : Serve Readcb UserData) (entry : Entry Readcb UserData)
    (buffer : List UInt8) (k : Nat) : List UInt8 :=
  match entry.readcb with
  | none => zeros 512
  | some readcb =>
      serve readcb buffer 512 (UInt32.ofNat (512 * k) + entry.offset) entry.userData

/-- The first sectors of a file. -/
def fileBytes (serves : Nat → Serve Readcb UserData) (entry : Entry Readcb UserData)
    (buffer : Nat → List UInt8) (sectors : Nat) : List UInt8 :=
  (List.range sectors).flatMap fun k => fileSector (serves k) entry (buffer k) k

private theorem flatMap_clusters {α : Type} (sector : Nat → List α) (first clusters : Nat) :
    (List.range' first clusters).flatMap (fun cluster =>
      (List.range 8).flatMap fun k => sector (8 * (cluster - first) + k)) =
    (List.range (8 * clusters)).flatMap sector := by
  induction clusters with
  | zero => rfl
  | succ clusters inductionHypothesis =>
      rw [List.range'_1_concat, List.flatMap_append, inductionHypothesis,
        Nat.mul_succ, List.range_add, List.flatMap_append, List.flatMap_map,
        List.flatMap_singleton, Nat.add_sub_cancel_left]

/-- A file read over its chain is what its callback serves, cut to its size. -/
theorem DiskLayout.file_eq (layout : DiskLayout original count emfat)
    (fits : Fits original count) (addressable : Addressable original count)
    {i : Nat} (inside : i < count) (isFile : (original i).dir = false)
    (covered : Covered original count (lastCluster original count i)) :
    (volumeOf original count).file (hostDisk serves emfat buffers)
        (firstCluster original count i) (original i).currSize.toNat =
      some ((fileBytes
        (fun k => serves ((volumeOf original count).clusterSector
          (firstCluster original count i) + k))
        (original i)
        (fun k => buffers ((volumeOf original count).clusterSector
          (firstCluster original count i) + k))
        (8 * clustersUsed original count i)).take (original i).currSize.toNat) := by
  have start := two_le_firstCluster original count i
  have used := fits.clustersUsed_le inside
  have next := firstCluster_succ original count i
  have isUsed : clustersUsed original count i =
      clustersOf (original i).currSize.toNat := by
    rw [clustersUsed, if_neg (by rw [isFile]; exact Bool.false_ne_true)]
  have enough := le_clustersOf_mul (original i).currSize.toNat
  have laid := layout.entryLaid i inside
  have small := fits.firstCluster_small (show i + 1 ≤ count by omega)
  have first := laid.firstClust
  have unsized : withoutSize (original i) = original i := by
    rw [withoutSize, if_neg (by rw [isFile]; exact Bool.false_ne_true)]
  have same := laid.same
  rw [unsized] at same
  rw [Volume.file, layout.chainFrom_eq serves buffers fits addressable inside covered,
    Option.bind_some, List.length_range', if_pos (by
      change _ ≤ clustersUsed original count i * (8 * 512)
      omega)]
  congr 2
  rw [fileBytes, ← flatMap_clusters _ (firstCluster original count i)]
  apply List.flatMap_congr
  intro cluster member
  rw [List.mem_range'_1] at member
  apply List.flatMap_congr
  intro k sector
  rw [List.mem_range] at sector
  change k < 8 at sector
  rw [layout.hostDisk_cluster serves buffers fits inside (by omega) (by omega) sector]
  have isSector : (volumeOf original count).clusterSector cluster + k =
      (volumeOf original count).clusterSector (firstCluster original count i) +
        (8 * (cluster - firstCluster original count i) + k) := by
    unfold Volume.clusterSector volumeOf
    dsimp only
    omega
  rw [isSector]
  have file : ¬ (emfat.entries i).dir = true := by
    rw [same, isFile]
    exact Bool.false_ne_true
  have clusterNat : (UInt32.ofNat cluster).toNat = cluster := by
    rw [UInt32.toNat_ofNat']
    omega
  have offset : (UInt32.ofNat cluster - (emfat.entries i).priv.firstClust) * 4096 +
      UInt32.ofNat k * 512 =
      UInt32.ofNat (512 * (8 * (cluster - firstCluster original count i) + k)) := by
    have clusterSize : (4096 : UInt32).toNat = 4096 := rfl
    have sectorSize : (512 : UInt32).toNat = 512 := rfl
    apply UInt32.toNat_inj.1
    rw [UInt32.toNat_add, UInt32.toNat_mul, UInt32.toNat_mul, UInt32.toNat_sub,
      clusterNat, first, clusterSize, sectorSize, UInt32.toNat_ofNat',
      UInt32.toNat_ofNat']
    omega
  rw [entrySector, if_neg file, readFileSector, offset, same]
  rfl

/-- A sector of a text: its bytes as far as the text goes. -/
def ShowsText (text sector : List UInt8) (offset : Nat) : Prop :=
  sector.length = 512 ∧
    ∀ index < 512, offset + index < text.length →
      sector[index]? = text[offset + index]?

/-- Sectors that show a text one after the other make up the text. -/
theorem flatMap_shows {text : List UInt8} {sector : Nat → List UInt8} {sectors : Nat}
    (shows : ∀ k < sectors, ShowsText text (sector k) (512 * k)) :
    ((List.range sectors).flatMap sector).length = 512 * sectors ∧
      ∀ index < 512 * sectors, index < text.length →
        ((List.range sectors).flatMap sector)[index]? = text[index]? := by
  induction sectors with
  | zero =>
      refine ⟨rfl, ?_⟩
      intro index inside
      omega
  | succ sectors inductionHypothesis =>
      obtain ⟨length, same⟩ :=
        inductionHypothesis fun k inside => shows k (Nat.lt_succ_of_lt inside)
      obtain ⟨lengthLast, last⟩ := shows sectors (Nat.lt_succ_self _)
      rw [List.range_succ, List.flatMap_append, List.flatMap_singleton]
      constructor
      · rw [List.length_append, length, lengthLast, Nat.mul_succ]
      · intro index inside inText
        by_cases earlier : index < 512 * sectors
        · rw [List.getElem?_append_left (by omega)]
          exact same index earlier inText
        · rw [List.getElem?_append_right (by omega), length,
            last (index - 512 * sectors) (by omega) (by omega)]
          congr 1
          omega

/-- Where sector `k` of an entry lies on the disk. -/
def sectorOf (original : Entries Readcb UserData) (count i k : Nat) : Nat :=
  (volumeOf original count).clusterSector (firstCluster original count i) + k

/-- A file whose callback shows a text of its size is read as that text. -/
theorem DiskLayout.file_shows (layout : DiskLayout original count emfat)
    (fits : Fits original count) (addressable : Addressable original count)
    {i : Nat} (inside : i < count) (isFile : (original i).dir = false)
    (covered : Covered original count (lastCluster original count i))
    {text : List UInt8} (size : text.length = (original i).currSize.toNat)
    (shows : ∀ k < 8 * clustersUsed original count i, ShowsText text
      (fileSector (serves (sectorOf original count i k)) (original i)
        (buffers (sectorOf original count i k)) k) (512 * k)) :
    (volumeOf original count).file (hostDisk serves emfat buffers)
        (firstCluster original count i) (original i).currSize.toNat = some text := by
  rw [layout.file_eq serves buffers fits addressable inside isFile covered]
  have isUsed : clustersUsed original count i =
      clustersOf (original i).currSize.toNat := by
    rw [clustersUsed, if_neg (by rw [isFile]; exact Bool.false_ne_true)]
  have enough := le_clustersOf_mul (original i).currSize.toNat
  obtain ⟨length, same⟩ := flatMap_shows shows
  apply congrArg some
  apply List.ext_getElem?
  intro index
  rw [List.getElem?_take]
  split
  · exact same index (by omega) (by omega)
  · rw [List.getElem?_eq_none (by omega)]

end SelfWriter.Vfs
