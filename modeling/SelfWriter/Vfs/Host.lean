import SelfWriter.Lib.Fat32
import SelfWriter.Vfs.Lookup

/-!
# What a host finds on the disk

The sectors `emfat` makes up are a FAT32 volume: they mount, and the allocation
table links the clusters of an entry to one chain.  The table has room for as
many values as there are clusters, although its first two values stand for no
cluster; so for some tables of files the values of the last one or two clusters
are missing.
-/

namespace SelfWriter.Vfs

open SelfWriter.Lib SelfWriter.Lib.LittleEndian SelfWriter.Lib.Fat32

variable {Readcb UserData : Type}

/-- The sectors as a host reads them: each at a time of its own, from what the
callbacks serve then, and into a buffer of its own. -/
def hostDisk (serves : Nat → Serve Readcb UserData) (emfat : Emfat Readcb UserData)
    (buffers : Nat → List UInt8) : Disk :=
  fun lba => (readSector (serves lba) emfat (buffers lba) (UInt32.ofNat lba)).1

/-- A disk without callbacks, read into zeroed buffers. -/
def plainDisk (emfat : Emfat Unit Unit) : Disk :=
  hostDisk (fun _ _ data _ _ _ => data) emfat (fun _ => zeros 512)

/-- The volume a table of files becomes. -/
def volumeOf (original : Entries Readcb UserData) (count : Nat) : Volume :=
  { start := 62
    sectorsPerCluster := 8
    reservedSectors := 2
    fats := 2
    sectorsPerFat := fatSectors original count
    rootCluster := 2
    sectors := 2 + 2 * fatSectors original count + 8 * totalClusters original count }

section Sectors

variable {original : Entries Readcb UserData} {count : Nat}
variable {emfat : Emfat Readcb UserData}
variable (serves : Nat → Serve Readcb UserData) (buffers : Nat → List UInt8)

theorem DiskLayout.hostDisk_eq (layout : DiskLayout original count emfat) (lba : Nat) :
    hostDisk serves emfat buffers lba =
      sectorAt original count (serves lba) emfat (buffers lba) (UInt32.ofNat lba) :=
  (layout.readSector_eq (serves lba) (buffers lba) (UInt32.ofNat lba)).1

theorem DiskLayout.rootLba_gt (layout : DiskLayout original count emfat)
    {sector : UInt32} (small : sector.toNat < 64) : ¬ emfat.rootLba ≤ sector := by
  have root := layout.rootLba
  rw [UInt32.le_iff_toNat_le]
  omega

theorem DiskLayout.hostDisk_mbr (layout : DiskLayout original count emfat) :
    hostDisk serves emfat buffers 0 = readMbrSector emfat := by
  have zero : UInt32.ofNat 0 = 0 := rfl
  rw [layout.hostDisk_eq, sectorAt, zero, if_neg (layout.rootLba_gt (by decide)),
    if_pos rfl]

theorem DiskLayout.hostDisk_boot (layout : DiskLayout original count emfat) :
    hostDisk serves emfat buffers 62 = readBootSector emfat := by
  have boot : UInt32.ofNat 62 = 62 := rfl
  rw [layout.hostDisk_eq, sectorAt, boot, if_neg (layout.rootLba_gt (by decide)),
    if_neg (by decide), layout.fsinfoLba, if_neg (by decide), layout.bootLba,
    if_pos rfl]

/-- Both copies of the allocation table. -/
theorem DiskLayout.hostDisk_fat (layout : DiskLayout original count emfat)
    (fits : Fits original count) {copy k : Nat} (isCopy : copy < 2)
    (inside : k < fatSectors original count) :
    hostDisk serves emfat buffers (64 + copy * fatSectors original count + k) =
      valueBytes (fatSectorAt original count emfat (UInt32.ofNat k)) := by
  have small := fits.disk_small
  have fat1 := layout.fat1Lba
  have fat2 := layout.fat2Lba
  have root := layout.rootLba
  have bound : copy * fatSectors original count + k <
      2 * fatSectors original count := by
    have isFirst : copy = 0 ∨ copy = 1 := by omega
    rcases isFirst with rfl | rfl <;> omega
  have lba : (UInt32.ofNat (64 + copy * fatSectors original count + k)).toNat =
      64 + copy * fatSectors original count + k := by
    rw [UInt32.toNat_ofNat']
    omega
  have notRoot : ¬ emfat.rootLba ≤
      UInt32.ofNat (64 + copy * fatSectors original count + k) := by
    rw [UInt32.le_iff_toNat_le, lba]
    omega
  have below : ∀ sector : UInt32, sector.toNat < 64 →
      UInt32.ofNat (64 + copy * fatSectors original count + k) ≠ sector := by
    intro sector before same
    rw [← same, lba] at before
    omega
  rw [layout.hostDisk_eq, sectorAt, if_neg notRoot, if_neg (below 0 (by decide)),
    if_neg (by rw [layout.fsinfoLba]; exact below 63 (by decide)),
    if_neg (by rw [layout.bootLba]; exact below 62 (by decide))]
  have isFirst : copy = 0 ∨ copy = 1 := by omega
  rcases isFirst with rfl | rfl
  · rw [if_pos (by
      rw [UInt32.le_iff_toNat_le, UInt32.lt_iff_toNat_lt, lba]
      omega)]
    congr 2
    apply UInt32.toNat_inj.1
    rw [UInt32.toNat_sub, lba, fat1, UInt32.toNat_ofNat']
    omega
  · rw [if_neg (by
      rw [UInt32.le_iff_toNat_le, UInt32.lt_iff_toNat_lt, lba]
      omega), if_pos (by
      rw [UInt32.le_iff_toNat_le, UInt32.lt_iff_toNat_lt, lba]
      omega)]
    congr 2
    apply UInt32.toNat_inj.1
    rw [UInt32.toNat_sub, lba, fat2, UInt32.toNat_ofNat']
    omega

/-- The sectors of the clusters of an entry. -/
theorem DiskLayout.hostDisk_cluster (layout : DiskLayout original count emfat)
    (fits : Fits original count) {i cluster k : Nat} (inside : i < count)
    (reached : firstCluster original count i ≤ cluster)
    (bound : cluster < firstCluster original count (i + 1)) (sector : k < 8) :
    hostDisk serves emfat buffers ((volumeOf original count).clusterSector cluster + k) =
      entrySector (serves ((volumeOf original count).clusterSector cluster + k)) emfat
        (buffers ((volumeOf original count).clusterSector cluster + k))
        (emfat.entries i) (UInt32.ofNat cluster) (UInt32.ofNat k) := by
  have small := fits.disk_small
  have root := layout.rootLba
  have start := two_le_firstCluster original count i
  have ends := firstCluster_mono original count (show i + 1 ≤ count by omega)
  rw [firstCluster_count] at ends
  have isSector : (volumeOf original count).clusterSector cluster + k =
      64 + 2 * fatSectors original count + ((cluster - 2) * 8 + k) := by
    unfold Volume.clusterSector volumeOf
    dsimp only
    omega
  rw [layout.hostDisk_eq]
  generalize buffers ((volumeOf original count).clusterSector cluster + k) = data
  generalize serves ((volumeOf original count).clusterSector cluster + k) = serve
  rw [isSector]
  have lba : (UInt32.ofNat
      (64 + 2 * fatSectors original count + ((cluster - 2) * 8 + k))).toNat =
      64 + 2 * fatSectors original count + ((cluster - 2) * 8 + k) := by
    rw [UInt32.toNat_ofNat']
    omega
  have relative : (UInt32.ofNat (64 + 2 * fatSectors original count +
      ((cluster - 2) * 8 + k)) - emfat.rootLba).toNat = (cluster - 2) * 8 + k := by
    rw [UInt32.toNat_sub, lba, root]
    omega
  have eight : (8 : UInt32).toNat = 8 := rfl
  have two : (2 : UInt32).toNat = 2 := rfl
  have isCluster : (UInt32.ofNat (64 + 2 * fatSectors original count +
      ((cluster - 2) * 8 + k)) - emfat.rootLba) / 8 + 2 = UInt32.ofNat cluster := by
    apply UInt32.toNat_inj.1
    rw [UInt32.toNat_add, UInt32.toNat_div, relative, eight, two,
      UInt32.toNat_ofNat']
    omega
  have isRest : (UInt32.ofNat (64 + 2 * fatSectors original count +
      ((cluster - 2) * 8 + k)) - emfat.rootLba) % 8 = UInt32.ofNat k := by
    apply UInt32.toNat_inj.1
    rw [UInt32.toNat_mod, relative, eight, UInt32.toNat_ofNat']
    omega
  have clusterSmall : (UInt32.ofNat cluster).toNat = cluster := by
    rw [UInt32.toNat_ofNat']
    omega
  have owned : owner original count (UInt32.ofNat cluster) = some i := by
    apply (owner_eq_some_iff (Nat.lt_of_le_of_lt (Nat.zero_le i) inside)).2
    rw [clusterSmall]
    exact ⟨inside, reached, bound⟩
  rw [sectorAt, if_pos (by rw [UInt32.le_iff_toNat_le, lba]; omega),
    clusterSectorAt, isCluster, isRest, owned]

end Sectors

/-! ## Mounting -/

section Mount

variable {original : Entries Readcb UserData} {count : Nat}
variable {emfat : Emfat Readcb UserData}

theorem DiskLayout.partitionSectors (layout : DiskLayout original count emfat) :
    (emfat.diskSectors - emfat.bootLba).toNat =
      2 + 2 * fatSectors original count + 8 * totalClusters original count := by
  have disk := layout.diskSectors
  have bound := emfat.diskSectors.toNat_lt
  have boot : (62 : UInt32).toNat = 62 := rfl
  rw [layout.bootLba, UInt32.toNat_sub, disk, boot]
  omega

theorem DiskLayout.sectorsPerFat (layout : DiskLayout original count emfat) :
    (emfat.fat2Lba - emfat.fat1Lba).toNat = fatSectors original count := by
  have fat1 := layout.fat1Lba
  have fat2 := layout.fat2Lba
  have bound := emfat.fat2Lba.toNat_lt
  rw [UInt32.toNat_sub, fat1, fat2]
  omega

/-- The fields of the partition table a host reads. -/
theorem field_readMbrSector (emfat : Emfat Readcb UserData) :
    field (readMbrSector emfat) 510 2 = 0xAA55 ∧
    field (readMbrSector emfat) 450 1 = 0x0C ∧
    field (readMbrSector emfat) 454 4 = emfat.bootLba.toNat := by
  have small := emfat.bootLba.toNat_lt
  have lengths := (mbrPart emfat).length_sectorFields
  refine ⟨?_, ?_, ?_⟩
  · exact field_flatten lengths 9 rfl (by decide) rfl
  · exact field_flatten lengths 4 rfl (by decide) rfl
  · exact Eq.trans
      (field_flatten lengths 6 rfl (by decide) (length_toBytes 4 _))
      (ofBytes_toBytes small)

/-- The fields of the boot sector a host reads. -/
theorem field_readBootSector (emfat : Emfat Readcb UserData) :
    field (readBootSector emfat) 510 2 = 0xAA55 ∧
    field (readBootSector emfat) 11 2 = 512 ∧
    field (readBootSector emfat) 13 1 = 8 ∧
    field (readBootSector emfat) 14 2 = 2 ∧
    field (readBootSector emfat) 16 1 = 2 ∧
    field (readBootSector emfat) 17 2 = 0 ∧
    field (readBootSector emfat) 22 2 = 0 ∧
    field (readBootSector emfat) 32 4 = (emfat.diskSectors - emfat.bootLba).toNat ∧
    field (readBootSector emfat) 36 4 = (emfat.fat2Lba - emfat.fat1Lba).toNat ∧
    field (readBootSector emfat) 44 4 = 2 := by
  have sectors := (emfat.diskSectors - emfat.bootLba).toNat_lt
  have fat := (emfat.fat2Lba - emfat.fat1Lba).toNat_lt
  have lengths := length_bootSectorFields emfat
  refine ⟨?_, ?_, ?_, ?_, ?_, ?_, ?_, ?_, ?_, ?_⟩
  · exact field_flatten lengths 26 rfl (by decide) rfl
  · exact field_flatten lengths 2 rfl (by decide) rfl
  · exact field_flatten lengths 3 rfl (by decide) rfl
  · exact field_flatten lengths 4 rfl (by decide) rfl
  · exact field_flatten lengths 5 rfl (by decide) rfl
  · exact field_flatten lengths 6 rfl (by decide) rfl
  · exact field_flatten lengths 9 rfl (by decide) rfl
  · exact Eq.trans
      (field_flatten lengths 13 rfl (by decide) (length_toBytes 4 _))
      (ofBytes_toBytes sectors)
  · exact Eq.trans
      (field_flatten lengths 14 rfl (by decide) (length_toBytes 4 _))
      (ofBytes_toBytes fat)
  · exact field_flatten lengths 17 rfl (by decide) rfl

/-- The disk mounts as the volume the table was laid out for. -/
theorem DiskLayout.mount_hostDisk (layout : DiskLayout original count emfat)
    (serves : Nat → Serve Readcb UserData) (buffers : Nat → List UInt8) :
    mount (hostDisk serves emfat buffers) = some (volumeOf original count) := by
  obtain ⟨signature, partType, start⟩ := field_readMbrSector emfat
  obtain ⟨bootSignature, bytesPerSector, sectorsPerCluster, reserved, fats,
    rootEntries, oldFat, sectors, sectorsPerFat, rootCluster⟩ :=
    field_readBootSector emfat
  have boot : (62 : UInt32).toNat = 62 := rfl
  rw [layout.bootLba, boot] at start
  unfold mount
  simp only [layout.hostDisk_mbr, start, layout.hostDisk_boot]
  rw [if_pos ⟨signature, .inr partType, bootSignature, bytesPerSector, rootEntries,
    oldFat⟩, sectorsPerCluster, reserved, fats, sectorsPerFat, rootCluster, sectors,
    layout.partitionSectors, layout.sectorsPerFat]
  rfl

end Mount

/-! ## The allocation table -/

/-- Value number `cluster` of the allocation table. -/
def fatWord (original : Entries Readcb UserData) (count : Nat)
    (emfat : Emfat Readcb UserData) (cluster : Nat) : UInt32 :=
  if cluster = 0 then clustRootEnd
  else if cluster = 1 then 0xFFFFFFFF
  else fatAt original count emfat (UInt32.ofNat cluster)

/-- Clusters whose value is in the allocation table. -/
def Covered (original : Entries Readcb UserData) (count cluster : Nat) : Prop :=
  cluster < 128 * fatSectors original count

instance (original : Entries Readcb UserData) (count cluster : Nat) :
    Decidable (Covered original count cluster) :=
  inferInstanceAs (Decidable (_ < _))

/-- How many of the last clusters have no value in the allocation table. -/
def missingClusters (original : Entries Readcb UserData) (count : Nat) : Nat :=
  if totalClusters original count % 128 = 0 then 2
  else if totalClusters original count % 128 = 127 then 1
  else 0

private theorem totalClusters_pos (original : Entries Readcb UserData) {count : Nat}
    (positive : 0 < count) : 0 < totalClusters original count := by
  obtain ⟨before, rfl⟩ : ∃ before, count = before + 1 := ⟨count - 1, by omega⟩
  have start := two_le_firstCluster original (before + 1) before
  have last := clustersFor_pos original (before + 1) before
  rw [totalClusters, firstCluster_succ]
  omega

theorem covered_iff_missing (original : Entries Readcb UserData) {count cluster : Nat}
    (positive : 0 < count) (inside : cluster < totalClusters original count + 2) :
    Covered original count cluster ↔
      cluster + missingClusters original count < totalClusters original count + 2 := by
  have some := totalClusters_pos original positive
  have sectors : fatSectors original count =
      (totalClusters original count * 4 + 511) / 512 := by
    rw [fatSectors, sizeToNsect, if_neg (by omega)]
    rfl
  unfold Covered missingClusters
  rw [sectors]
  split
  · omega
  · split <;> omega

/-- The last clusters are missing for two remainders of the number of clusters. -/
theorem covered_iff (original : Entries Readcb UserData) (count : Nat)
    (positive : 0 < count) :
    (∀ cluster < totalClusters original count + 2, Covered original count cluster) ↔
      totalClusters original count % 128 ≠ 0 ∧
        totalClusters original count % 128 ≠ 127 := by
  have last := covered_iff_missing original positive
    (show totalClusters original count + 1 < totalClusters original count + 2 by omega)
  have missing : missingClusters original count = 0 ↔
      totalClusters original count % 128 ≠ 0 ∧
        totalClusters original count % 128 ≠ 127 := by
    unfold missingClusters
    split
    · omega
    · split <;> omega
  rw [← missing]
  constructor
  · intro all
    have covered := last.1 (all _ (by omega))
    omega
  · intro none cluster inside
    exact (covered_iff_missing original positive inside).2 (by omega)

section Links

variable {original : Entries Readcb UserData} {count : Nat}
variable {emfat : Emfat Readcb UserData}
variable (serves : Nat → Serve Readcb UserData) (buffers : Nat → List UInt8)

private theorem length_fatSectorAt (index : UInt32) :
    (fatSectorAt original count emfat index).length = 128 := by
  unfold fatSectorAt
  split <;> simp

/-- The values of sector `k` are those of its clusters. -/
theorem getElem_fatSectorAt {k j : Nat} (small : 128 * k + 128 ≤ 2 ^ 32)
    (inside : j < (fatSectorAt original count emfat (UInt32.ofNat k)).length) :
    (fatSectorAt original count emfat (UInt32.ofNat k))[j] =
      fatWord original count emfat (128 * k + j) := by
  have inSector : j < 128 := by
    rw [length_fatSectorAt] at inside
    exact inside
  have index : (UInt32.ofNat k * 128).toNat = 128 * k := by
    have factor : (128 : UInt32).toNat = 128 := rfl
    rw [UInt32.toNat_mul, UInt32.toNat_ofNat', factor]
    omega
  by_cases first : k = 0
  · subst first
    have start : UInt32.ofNat 0 * 128 = 0 := rfl
    simp only [fatSectorAt, start, if_true]
    match j, inSector with
    | 0, _ => rfl
    | 1, _ => rfl
    | j + 2, inSector =>
        have isWord : fatWord original count emfat (128 * 0 + (j + 2)) =
            fatAt original count emfat (UInt32.ofNat (j + 2)) := by
          unfold fatWord
          rw [if_neg (by omega), if_neg (by omega), Nat.mul_zero, Nat.zero_add]
        rw [isWord]
        simp only [List.getElem_cons_succ, List.getElem_map, List.getElem_range]
        rw [UInt32.ofNat_add, UInt32.add_comm]
        rfl
  · have later : UInt32.ofNat k * 128 ≠ 0 := by
      intro zero
      rw [zero] at index
      have : (0 : UInt32).toNat = 0 := rfl
      omega
    have isWord : fatWord original count emfat (128 * k + j) =
        fatAt original count emfat (UInt32.ofNat (128 * k + j)) := by
      unfold fatWord
      rw [if_neg (by omega), if_neg (by omega)]
    have clust : UInt32.ofNat k * 128 + UInt32.ofNat j = UInt32.ofNat (128 * k + j) := by
      apply UInt32.toNat_inj.1
      rw [UInt32.toNat_add, index, UInt32.toNat_ofNat', UInt32.toNat_ofNat']
      omega
    simp only [fatSectorAt, if_neg later, List.getElem_map, List.getElem_range]
    rw [isWord, clust]

private theorem field_valueBytes {values : List UInt32} {index : Nat}
    (inside : index < values.length) :
    field (valueBytes values) (4 * index) 4 = values[index].toNat := by
  have words : valueBytes values =
      (values.map UInt32.toNat).flatMap (toBytes 4) := by
    rw [List.flatMap_map]
    rfl
  rw [words, field_words _ (by rw [List.length_map]; exact inside), List.getElem_map]
  intro word member
  obtain ⟨value, _, rfl⟩ := List.mem_map.1 member
  exact value.toNat_lt

private theorem fatSectors_small (fits : Fits original count) :
    128 * fatSectors original count + 128 ≤ 2 ^ 32 := by
  have small := fits.disk_small
  have sectors : fatSectors original count ≤
      (totalClusters original count * 4 + 511) / 512 + 1 := by
    unfold fatSectors sizeToNsect
    split <;> omega
  omega

/-- Both copies of the table say the same, and what they say of a cluster is its
value. -/
theorem DiskLayout.link_eq (layout : DiskLayout original count emfat)
    (fits : Fits original count) {copy cluster : Nat} (isCopy : copy < 2)
    (covered : Covered original count cluster) :
    (volumeOf original count).link (hostDisk serves emfat buffers) copy cluster =
      some (linkOf ((fatWord original count emfat cluster).toNat % 2 ^ 28)) := by
  have small := fatSectors_small fits
  have within : cluster < 128 * fatSectors original count := covered
  have sector : (volumeOf original count).fatSector copy + cluster * 4 / 512 =
      64 + copy * fatSectors original count + cluster / 128 := by
    unfold Volume.fatSector volumeOf
    dsimp only
    omega
  have offset : cluster * 4 % 512 = 4 * (cluster % 128) := by omega
  have inside : cluster % 128 <
      (fatSectorAt original count emfat (UInt32.ofNat (cluster / 128))).length := by
    rw [length_fatSectorAt]
    omega
  rw [Volume.link, if_pos (by
    change cluster * 4 < fatSectors original count * 512
    omega), sector, layout.hostDisk_fat serves buffers fits isCopy (by omega), offset,
    field_valueBytes inside, getElem_fatSectorAt (by omega) inside,
    Nat.div_add_mod]

theorem link_of_not_covered {disk : Disk} {copy cluster : Nat}
    (missing : ¬ Covered original count cluster) :
    (volumeOf original count).link disk copy cluster = none := by
  rw [Volume.link, if_neg]
  intro within
  apply missing
  change cluster * 4 < fatSectors original count * 512 at within
  unfold Covered
  omega

/-- Cluster numbers are not taken for marks of the table. -/
def Addressable (original : Entries Readcb UserData) (count : Nat) : Prop :=
  totalClusters original count + 2 ≤ 0x0FFFFFF7

instance (original : Entries Readcb UserData) (count : Nat) :
    Decidable (Addressable original count) :=
  inferInstanceAs (Decidable (_ ≤ _))

/-- What the table says of a cluster of entry `i`: it leads to the next cluster in
use, the last of these ends the chain, and one in reserve is free. -/
theorem DiskLayout.linkOf_fatWord (layout : DiskLayout original count emfat)
    (fits : Fits original count) (addressable : Addressable original count)
    {i k : Nat} (inside : i < count) (isOwn : k < clustersFor original count i) :
    linkOf ((fatWord original count emfat
      (firstCluster original count i + k)).toNat % 2 ^ 28) =
      if k + 1 < clustersUsed original count i then
        .next (firstCluster original count i + k + 1)
      else if k + 1 = clustersUsed original count i then .last
      else .free := by
  have start := two_le_firstCluster original count i
  have next := firstCluster_succ original count i
  have ends := firstCluster_succ_le original count inside
  have bound : totalClusters original count + 2 ≤ 0x0FFFFFF7 := addressable
  have laid := layout.entryLaid i inside
  have dir : (emfat.entries i).dir = (original i).dir := by
    rw [laid.same, withoutSize_dir]
  have used := fits.clustersUsed_le inside
  have usedPositive := clustersUsed_pos original count i
  have last := laid.lastClust
  generalize cluster_eq : firstCluster original count i + k = cluster
  have clusterNat : (UInt32.ofNat cluster).toNat = cluster := by
    rw [UInt32.toNat_ofNat']
    omega
  have owned : owner original count (UInt32.ofNat cluster) = some i := by
    apply (owner_eq_some_iff (Nat.lt_of_le_of_lt (Nat.zero_le i) inside)).2
    rw [clusterNat]
    exact ⟨inside, by omega, by omega⟩
  have isLast : UInt32.ofNat cluster = (emfat.entries i).priv.lastClust ↔
      k + 1 = clustersUsed original count i := by
    rw [Word32.eq_iff_toNat, clusterNat]
    omega
  have isBehind : (emfat.entries i).priv.lastClust < UInt32.ofNat cluster ↔
      clustersUsed original count i < k + 1 := by
    rw [UInt32.lt_iff_toNat_lt, clusterNat]
    omega
  have nextNat : (UInt32.ofNat cluster + 1).toNat = cluster + 1 := by
    have one : (1 : UInt32).toNat = 1 := rfl
    rw [Word32.toNat_add_of_lt (by rw [clusterNat, one]; omega), clusterNat, one]
  have nextLink : k + 1 < clustersUsed original count i →
      linkOf ((UInt32.ofNat cluster + 1).toNat % 2 ^ 28) = .next (cluster + 1) := by
    intro more
    rw [nextNat, Nat.mod_eq_of_lt (by omega), linkOf, if_neg (by omega),
      if_neg (by omega), if_neg (by omega), if_neg (by omega)]
  have value : fatWord original count emfat cluster =
      fatValue (emfat.entries i) (UInt32.ofNat cluster) := by
    unfold fatWord fatAt
    rw [if_neg (by omega), if_neg (by omega), owned]
  rw [value, fatValue, dir]
  by_cases isEnd : k + 1 = clustersUsed original count i
  · simp only [if_pos (isLast.2 isEnd), ite_self]
    rw [if_neg (by omega), if_pos isEnd]
    rfl
  · simp only [if_neg (mt isLast.1 isEnd)]
    by_cases isDir : (original i).dir = true
    · have all : clustersUsed original count i = clustersFor original count i := by
        rw [clustersUsed, if_pos isDir]
      have more : k + 1 < clustersUsed original count i := by omega
      rw [if_pos isDir, if_pos more]
      exact nextLink more
    · rw [if_neg isDir]
      by_cases reserve : clustersUsed original count i < k + 1
      · rw [if_pos (isBehind.2 reserve), if_neg (by omega), if_neg isEnd]
        rfl
      · have more : k + 1 < clustersUsed original count i := by omega
        rw [if_neg (mt isBehind.1 reserve), if_pos more]
        exact nextLink more

end Links

end SelfWriter.Vfs
