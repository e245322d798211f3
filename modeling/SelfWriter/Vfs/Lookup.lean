import SelfWriter.Lib.Machine
import SelfWriter.Vfs.Sectors

/-!
# The entry remembered between reads

A search for the entry of a cluster begins at the entry found last, whichever
file that was.  The clusters of the entries are consecutive, so every search
finds the owner of the cluster, and what a sector holds does not depend on the
reads before.
-/

namespace SelfWriter.Vfs

open SelfWriter.Lib

variable {Readcb UserData : Type}

/-! ## The owner of a cluster -/

/-- The clusters of the entries of a table, reserved ones included. -/
def clusterRanges (original : Entries Readcb UserData) (count : Nat) :
    ConsecutiveRanges where
  count := count
  first := firstCluster original count
  last := fun i => firstCluster original count (i + 1) - 1
  nonempty := by
    intro i _
    have positive := clustersFor_pos original count i
    rw [firstCluster_succ]
    omega
  adjacent := by
    intro i _
    have start := two_le_firstCluster original count (i + 1)
    omega

/-- The entry a cluster belongs to. -/
def owner (original : Entries Readcb UserData) (count : Nat) (clust : UInt32) :
    Option Nat :=
  (clusterRanges original count).searchFrom clust.toNat 0

section Owner

variable {original : Entries Readcb UserData} {count : Nat}
variable {emfat : Emfat Readcb UserData} {clust : UInt32} {i : Nat}

theorem owner_eq_some_iff (positive : 0 < count) :
    owner original count clust = some i ↔
      i < count ∧ firstCluster original count i ≤ clust.toNat ∧
        clust.toNat < firstCluster original count (i + 1) := by
  have start := two_le_firstCluster original count (i + 1)
  unfold owner
  rw [ConsecutiveRanges.searchFrom_eq_some_iff positive]
  change _ ∧ _ ∧ _ ≤ firstCluster original count (i + 1) - 1 ↔ _
  constructor
  · rintro ⟨inside, reached, bound⟩
    exact ⟨inside, reached, by omega⟩
  · rintro ⟨inside, reached, bound⟩
    exact ⟨inside, reached, by omega⟩

/-- The clusters of the disk, and no others, belong to an entry. -/
theorem exists_owner_iff (positive : 0 < count) :
    (∃ i, owner original count clust = some i) ↔
      2 ≤ clust.toNat ∧ clust.toNat < totalClusters original count + 2 := by
  have total := firstCluster_count original count
  unfold owner
  simp only [ConsecutiveRanges.searchFrom_eq_some_iff (show
    0 < (clusterRanges original count).count from positive)]
  rw [ConsecutiveRanges.exists_owns_iff positive]
  change 2 ≤ _ ∧ _ ≤ firstCluster original count (count - 1 + 1) - 1 ↔ _
  rw [Nat.sub_add_cancel positive, total]
  constructor
  · rintro ⟨reached, bound⟩
    exact ⟨reached, by omega⟩
  · rintro ⟨reached, bound⟩
    exact ⟨reached, by omega⟩

theorem DiskLayout.isClustOf_eq (layout : DiskLayout original count emfat)
    (inside : i < count) :
    isClustOf clust (emfat.entries i) =
      (clusterRanges original count).holds clust.toNat i := by
  have laid := layout.entryLaid i inside
  have first := laid.firstClust
  have last := laid.lastReserved
  unfold isClustOf ConsecutiveRanges.holds
  apply decide_eq_decide.2
  rw [UInt32.le_iff_toNat_le, UInt32.le_iff_toNat_le, first]
  change _ ↔ _ ∧ _ ≤ firstCluster original count (i + 1) - 1
  rw [← last, Nat.add_sub_cancel]
  exact Iff.rfl

/-- From any entry the search finds the owner. -/
theorem DiskLayout.findEntry_eq (layout : DiskLayout original count emfat)
    (inside : i < count) :
    findEntry emfat clust i = owner original count clust := by
  have laid := layout.entryLaid i inside
  have begins : clust < (emfat.entries i).priv.firstClust ↔
      clust.toNat < (clusterRanges original count).first i := by
    rw [UInt32.lt_iff_toNat_lt, laid.firstClust]
    exact Iff.rfl
  have found : findEntry emfat clust i =
      (clusterRanges original count).searchFrom clust.toNat i := by
    unfold findEntry ConsecutiveRanges.searchFrom
    rw [layout.numEntries]
    by_cases behind : clust < (emfat.entries i).priv.firstClust
    · rw [if_pos behind, if_pos (begins.1 behind)]
      apply searchDown_congr
      intro index bound
      exact layout.isClustOf_eq (by omega)
    · rw [if_neg behind, if_neg (mt begins.2 behind)]
      apply searchUp_congr
      intro index bound
      exact layout.isClustOf_eq (by omega)
  rw [found]
  exact ConsecutiveRanges.searchFrom_eq inside (Nat.lt_of_le_of_lt (Nat.zero_le i) inside)

/-- An entry that passes the test is the owner. -/
theorem DiskLayout.owner_of_isClustOf (layout : DiskLayout original count emfat)
    (inside : i < count) (passes : isClustOf clust (emfat.entries i) = true) :
    owner original count clust = some i := by
  rw [layout.isClustOf_eq inside] at passes
  exact (ConsecutiveRanges.searchFrom_eq_some_iff
    (Nat.lt_of_le_of_lt (Nat.zero_le i) inside)).2
      (ConsecutiveRanges.owns_iff.2 ⟨inside, passes⟩)

end Owner

/-! ## Sectors by owner -/

/-- What the allocation table says about a cluster. -/
def fatAt (original : Entries Readcb UserData) (count : Nat)
    (emfat : Emfat Readcb UserData) (clust : UInt32) : UInt32 :=
  match owner original count clust with
  | none => clustReserved
  | some i => fatValue (emfat.entries i) clust

/-- The values of a sector of the allocation table. -/
def fatSectorAt (original : Entries Readcb UserData) (count : Nat)
    (emfat : Emfat Readcb UserData) (index : UInt32) : List UInt32 :=
  if index * 128 = 0 then
    clustRootEnd :: 0xFFFFFFFF ::
      (List.range 126).map fun k =>
        fatAt original count emfat (2 + UInt32.ofNat k)
  else
    (List.range 128).map fun k =>
      fatAt original count emfat (index * 128 + UInt32.ofNat k)

/-- A sector of a cluster. -/
def clusterSectorAt (original : Entries Readcb UserData) (count : Nat)
    (serve : Serve Readcb UserData) (emfat : Emfat Readcb UserData)
    (data : List UInt8) (relSect : UInt32) : List UInt8 :=
  match owner original count (relSect / 8 + 2) with
  | none => deadBeef
  | some i =>
      entrySector serve emfat data (emfat.entries i) (relSect / 8 + 2) (relSect % 8)

section Sectors

variable {original : Entries Readcb UserData} {count : Nat}
variable {emfat : Emfat Readcb UserData}

theorem DiskLayout.readFatValues_eq (layout : DiskLayout original count emfat)
    (values : Nat) : ∀ (curr : UInt32) (le : Nat), le < count →
      (readFatValues emfat values curr le).1 =
        ((List.range values).map fun k =>
          fatAt original count emfat (curr + UInt32.ofNat k)) ∧
      (readFatValues emfat values curr le).2 < count := by
  induction values with
  | zero =>
      intro curr le inside
      exact ⟨rfl, inside⟩
  | succ values inductionHypothesis =>
      intro curr le inside
      have next : (List.range (values + 1)).map
            (fun k => fatAt original count emfat (curr + UInt32.ofNat k)) =
          fatAt original count emfat curr ::
            (List.range values).map fun k =>
              fatAt original count emfat (curr + 1 + UInt32.ofNat k) := by
        rw [List.range_succ_eq_map, List.map_cons, List.map_map]
        congr 1
        · rw [show curr + UInt32.ofNat 0 = curr from UInt32.add_zero curr]
        · apply List.map_congr_left
          intro k _
          change fatAt original count emfat (curr + UInt32.ofNat (k + 1)) = _
          rw [UInt32.ofNat_add, UInt32.add_assoc, UInt32.add_comm 1]
          rfl
      rw [next, readFatValues]
      by_cases passes : isClustOf curr (emfat.entries le) = true
      · obtain ⟨rest, bound⟩ := inductionHypothesis (curr + 1) le inside
        simp only [passes, if_true]
        rw [rest, fatAt, layout.owner_of_isClustOf inside passes]
        exact ⟨rfl, bound⟩
      · simp only [passes, Bool.false_eq_true, if_false]
        rw [layout.findEntry_eq inside, fatAt]
        cases found : owner original count curr with
        | none =>
            obtain ⟨rest, bound⟩ :=
              inductionHypothesis (curr + 1) emfat.lastEntry layout.lastEntry
            exact ⟨congrArg (List.cons clustReserved) rest, bound⟩
        | some i =>
            have isOwner :=
              (owner_eq_some_iff (Nat.lt_of_le_of_lt (Nat.zero_le le) inside)).1 found
            obtain ⟨rest, bound⟩ := inductionHypothesis (curr + 1) i isOwner.1
            exact ⟨congrArg (List.cons (fatValue (emfat.entries i) curr)) rest, bound⟩

theorem DiskLayout.readFatSector_eq (layout : DiskLayout original count emfat)
    (index : UInt32) :
    (readFatSector emfat index).1 = fatSectorAt original count emfat index ∧
      (readFatSector emfat index).2 < count := by
  unfold readFatSector fatSectorAt
  by_cases first : index * 128 = 0
  · obtain ⟨values, bound⟩ :=
      layout.readFatValues_eq (128 - 2) (index * 128 + 2) emfat.lastEntry
        layout.lastEntry
    simp only [if_pos first]
    rw [values, first]
    exact ⟨rfl, by rw [first] at bound; exact bound⟩
  · simp only [if_neg first]
    exact layout.readFatValues_eq 128 (index * 128) emfat.lastEntry layout.lastEntry

theorem DiskLayout.readDataSector_eq (layout : DiskLayout original count emfat)
    (serve : Serve Readcb UserData) (data : List UInt8) (relSect : UInt32) :
    (readDataSector serve emfat data relSect).1 =
      clusterSectorAt original count serve emfat data relSect ∧
    (readDataSector serve emfat data relSect).2 < count := by
  have inside := layout.lastEntry
  unfold readDataSector clusterSectorAt
  by_cases passes :
      isClustOf (relSect / 8 + 2) (emfat.entries emfat.lastEntry) = true
  · simp only [passes, if_true]
    rw [layout.owner_of_isClustOf inside passes]
    exact ⟨rfl, inside⟩
  · simp only [passes, Bool.false_eq_true, if_false]
    rw [layout.findEntry_eq inside]
    cases found : owner original count (relSect / 8 + 2) with
    | none => exact ⟨rfl, inside⟩
    | some i =>
        have isOwner :=
          (owner_eq_some_iff (Nat.lt_of_le_of_lt (Nat.zero_le _) inside)).1 found
        exact ⟨rfl, isOwner.1⟩

/-- A sector by its number, without an entry remembered. -/
def sectorAt (original : Entries Readcb UserData) (count : Nat)
    (serve : Serve Readcb UserData) (emfat : Emfat Readcb UserData)
    (data : List UInt8) (sector : UInt32) : List UInt8 :=
  if emfat.rootLba ≤ sector then
    clusterSectorAt original count serve emfat data (sector - emfat.rootLba)
  else if sector = 0 then
    readMbrSector emfat
  else if sector = emfat.fsinfoLba then
    readFsinfoSector emfat
  else if sector = emfat.bootLba then
    readBootSector emfat
  else if emfat.fat1Lba ≤ sector ∧ sector < emfat.fat2Lba then
    valueBytes (fatSectorAt original count emfat (sector - emfat.fat1Lba))
  else if emfat.fat2Lba ≤ sector ∧ sector < emfat.rootLba then
    valueBytes (fatSectorAt original count emfat (sector - emfat.fat2Lba))
  else
    zeros 512

theorem DiskLayout.readSector_eq (layout : DiskLayout original count emfat)
    (serve : Serve Readcb UserData) (data : List UInt8) (sector : UInt32) :
    (readSector serve emfat data sector).1 =
      sectorAt original count serve emfat data sector ∧
    (readSector serve emfat data sector).2 < count := by
  unfold readSector sectorAt
  split_ifs
  · exact layout.readDataSector_eq serve data _
  · exact ⟨rfl, layout.lastEntry⟩
  · exact ⟨rfl, layout.lastEntry⟩
  · exact ⟨rfl, layout.lastEntry⟩
  · obtain ⟨values, bound⟩ := layout.readFatSector_eq (sector - emfat.fat1Lba)
    exact ⟨congrArg valueBytes values, bound⟩
  · obtain ⟨values, bound⟩ := layout.readFatSector_eq (sector - emfat.fat2Lba)
    exact ⟨congrArg valueBytes values, bound⟩
  · exact ⟨rfl, layout.lastEntry⟩

/-- Remembering another entry leaves the disk as it is. -/
theorem DiskLayout.remember (layout : DiskLayout original count emfat) {last : Nat}
    (inside : last < count) :
    DiskLayout original count { emfat with lastEntry := last } :=
  { layout with lastEntry := inside }

/-- The sectors of a read one after the other. -/
def sectorsAt (original : Entries Readcb UserData) (count : Nat)
    (serve : Serve Readcb UserData) (emfat : Emfat Readcb UserData) :
    (data : List UInt8) → (sector : UInt32) → (numSectors : Nat) → List UInt8
  | _, _, 0 => []
  | data, sector, numSectors + 1 =>
      sectorAt original count serve emfat (data.take 512) sector ++
        sectorsAt original count serve emfat (data.drop 512) (sector + 1) numSectors

theorem sectorsAt_remember (serve : Serve Readcb UserData)
    (emfat : Emfat Readcb UserData) (last : Nat) (numSectors : Nat) :
    ∀ data sector,
      sectorsAt original count serve { emfat with lastEntry := last } data sector
        numSectors =
      sectorsAt original count serve emfat data sector numSectors := by
  induction numSectors with
  | zero =>
      intro data sector
      rfl
  | succ numSectors inductionHypothesis =>
      intro data sector
      rw [sectorsAt, sectorsAt, inductionHypothesis]
      rfl

theorem DiskLayout.emfatRead_eq (serve : Serve Readcb UserData) (numSectors : Nat) :
    ∀ {emfat : Emfat Readcb UserData}, DiskLayout original count emfat →
      ∀ data sector,
      (emfatRead serve emfat data sector numSectors).1 =
        sectorsAt original count serve emfat data sector numSectors ∧
      ∃ last < count, (emfatRead serve emfat data sector numSectors).2 =
        { emfat with lastEntry := last } := by
  induction numSectors with
  | zero =>
      intro emfat layout data sector
      exact ⟨rfl, emfat.lastEntry, layout.lastEntry, rfl⟩
  | succ numSectors inductionHypothesis =>
      intro emfat layout data sector
      obtain ⟨first, inside⟩ := layout.readSector_eq serve (data.take 512) sector
      obtain ⟨rest, last, bound, isLast⟩ := inductionHypothesis
        (layout.remember inside) (data.drop 512) (sector + 1)
      rw [emfatRead, sectorsAt, ← first]
      rw [sectorsAt_remember] at rest
      exact ⟨congrArg _ rest, last, bound, isLast⟩

end Sectors

/-! ## Any history of reads -/

/-- One call of `emfat_read`; the callbacks see the device as it is at the time. -/
structure Request (Readcb UserData : Type) where
  serve : Serve Readcb UserData
  data : List UInt8
  sector : UInt32
  numSectors : Nat

def Request.read (request : Request Readcb UserData)
    (emfat : Emfat Readcb UserData) : List UInt8 × Emfat Readcb UserData :=
  emfatRead request.serve emfat request.data request.sector request.numSectors

/-- The disk under reads. -/
def diskReads (emfat : Emfat Readcb UserData) :
    Machine (Emfat Readcb UserData) (Request Readcb UserData) where
  start := emfat
  step state request := some (request.read state).2

/-- After any reads, a read answers what it answers on the disk just made. -/
theorem read_of_reachable {original : Entries Readcb UserData} {count : Nat}
    {label : List UInt8} {emfat : Emfat Readcb UserData}
    (nested : Nested (fun i => (original i).level) (fun i => (original i).dir) count)
    (fits : Fits original count) (made : emfatInit label original count = some emfat)
    {state : Emfat Readcb UserData} (reaches : (diskReads emfat).Reachable state)
    (request : Request Readcb UserData) :
    (request.read state).1 = (request.read emfat).1 := by
  obtain ⟨_, layout⟩ := DiskLayout.of_emfatInit nested fits made
  have same : ∃ last < count, state = { emfat with lastEntry := last } := by
    apply reaches.invariant (I := fun state => ∃ last < count,
      state = { emfat with lastEntry := last })
    · exact ⟨emfat.lastEntry, layout.lastEntry, rfl⟩
    · rintro before label after ⟨last, bound, rfl⟩ _ steps
      obtain ⟨_, last', bound', isLast⟩ := DiskLayout.emfatRead_eq label.serve
        label.numSectors (layout.remember bound) label.data label.sector
      cases steps
      exact ⟨last', bound', isLast⟩
  obtain ⟨last, bound, rfl⟩ := same
  rw [Request.read, Request.read,
    (DiskLayout.emfatRead_eq request.serve request.numSectors
      (layout.remember bound) request.data request.sector).1,
    (DiskLayout.emfatRead_eq request.serve request.numSectors
      layout request.data request.sector).1, sectorsAt_remember]

/-- The two sectors of the one file, and the next. -/
def oneFileRequest : Request Unit Unit where
  serve _ data _ _ _ := data
  data := zeros 1536
  sector := 74
  numSectors := 3

/-- A disk of one file, after a read of its sectors. -/
theorem read_of_reachable_oneFile :
    ∃ emfat, emfatInit (ascii "ONE") oneFile 2 = some emfat ∧
      (oneFileRequest.read (oneFileRequest.read emfat).2).1 =
        (oneFileRequest.read emfat).1 := by
  obtain ⟨emfat, made, _⟩ := emfatInit_spec (ascii "ONE") oneFile_nested oneFile_fits
  exact ⟨emfat, made, read_of_reachable oneFile_nested oneFile_fits made
    (.step oneFileRequest .start trivial rfl) oneFileRequest⟩

end SelfWriter.Vfs
