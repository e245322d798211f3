import Mathlib.Tactic.Common
import SelfWriter.Lib.LittleEndian

/-!
# Reading a FAT32 volume

What a host makes of the sectors of a disk: the partition table and the boot
sector say where the allocation table and the clusters are, the table links the
clusters of a file to a chain, and a directory is a file of entries of 32 bytes.
Sectors have 512 bytes.
-/

namespace SelfWriter.Lib.Fat32

open SelfWriter.Lib.LittleEndian

/-- The bytes of every sector. -/
abbrev Disk := Nat → List UInt8

/-! ## Fields -/

/-- The number of `width` bytes at `offset`. -/
def field (bytes : List UInt8) (offset width : Nat) : Nat :=
  ofBytes ((bytes.drop offset).take width)

section Fields

variable {left right : List UInt8} {offset width value : Nat}

theorem field_append_right (behind : left.length ≤ offset) :
    field (left ++ right) offset width = field right (offset - left.length) width := by
  rw [field, List.drop_append, List.drop_eq_nil_of_le behind, List.nil_append]
  rfl

theorem field_append_left (within : offset + width ≤ left.length) :
    field (left ++ right) offset width = field left offset width := by
  rw [field, List.drop_append_of_le_length (by omega),
    List.take_append_of_le_length (by rw [List.length_drop]; omega)]
  rfl

theorem field_toBytes (start : offset = 0) (small : value < 256 ^ width) :
    field (toBytes width value) offset width = value := by
  subst start
  rw [field, List.drop_zero, List.take_of_length_le (by rw [length_toBytes])]
  exact ofBytes_toBytes small

/-- A field of a record whose fields have known lengths. -/
theorem field_flatten {fields : List (List UInt8)} {lengths : List Nat}
    (known : fields.map List.length = lengths) (index : Nat) {bytes : List UInt8}
    (isField : fields[index]? = some bytes)
    (isOffset : (lengths.take index).sum = offset) (isWidth : bytes.length = width) :
    field fields.flatten offset width = ofBytes bytes := by
  subst known
  induction fields generalizing index offset with
  | nil => cases isField
  | cons first fields inductionHypothesis =>
      rw [List.flatten_cons]
      cases index with
      | zero =>
          have atStart : offset = 0 := isOffset.symm
          cases isField
          subst atStart
          rw [field_append_left (by omega), field, List.drop_zero,
            List.take_of_length_le (by omega)]
      | succ index =>
          rw [List.map_cons, List.take_succ_cons, List.sum_cons] at isOffset
          rw [field_append_right (by omega)]
          exact inductionHypothesis index isField (by omega)

/-- A field in an array of words of four bytes. -/
theorem field_words {values : List Nat} (small : ∀ word ∈ values, word < 256 ^ 4)
    {index : Nat} (inside : index < values.length) :
    field (values.flatMap (toBytes 4)) (4 * index) 4 = values[index] := by
  induction values generalizing index with
  | nil => cases inside
  | cons word values inductionHypothesis =>
      rw [List.flatMap_cons]
      cases index with
      | zero =>
          rw [field_append_left (Nat.le_of_eq (length_toBytes 4 word).symm)]
          exact field_toBytes rfl (small word List.mem_cons_self)
      | succ index =>
          rw [field_append_right (by rw [length_toBytes]; omega), length_toBytes,
            show 4 * (index + 1) - 4 = 4 * index by omega]
          exact inductionHypothesis
            (fun other member => small other (List.mem_cons_of_mem _ member))
            (Nat.lt_of_succ_lt_succ inside)

end Fields

/-! ## Mounting -/

structure Volume where
  start : Nat
  sectorsPerCluster : Nat
  reservedSectors : Nat
  fats : Nat
  sectorsPerFat : Nat
  rootCluster : Nat
  sectors : Nat
  deriving DecidableEq, Repr

/-- The volume of the first partition. -/
def mount (disk : Disk) : Option Volume :=
  let mbr := disk 0
  let partType := field mbr 450 1
  let start := field mbr 454 4
  let boot := disk start
  if field mbr 510 2 = 0xAA55 ∧ (partType = 0x0B ∨ partType = 0x0C) ∧
      field boot 510 2 = 0xAA55 ∧ field boot 11 2 = 512 ∧
      field boot 17 2 = 0 ∧ field boot 22 2 = 0 then
    some
      { start := start
        sectorsPerCluster := field boot 13 1
        reservedSectors := field boot 14 2
        fats := field boot 16 1
        sectorsPerFat := field boot 36 4
        rootCluster := field boot 44 4
        sectors := field boot 32 4 }
  else
    none

namespace Volume

variable (volume : Volume)

/-- The first sector of a copy of the allocation table. -/
def fatSector (copy : Nat) : Nat :=
  volume.start + volume.reservedSectors + copy * volume.sectorsPerFat

/-- The first sector of a cluster. -/
def clusterSector (cluster : Nat) : Nat :=
  volume.start + volume.reservedSectors + volume.fats * volume.sectorsPerFat +
    (cluster - 2) * volume.sectorsPerCluster

end Volume

/-! ## The allocation table -/

inductive Link where
  | free
  | reserved
  | bad
  | next (cluster : Nat)
  | last
  deriving DecidableEq, Repr

def linkOf (value : Nat) : Link :=
  if value = 0 then .free
  else if value = 1 then .reserved
  else if value = 0x0FFFFFF7 then .bad
  else if 0x0FFFFFF8 ≤ value then .last
  else .next value

/-- The link of a cluster, missing where the table is too short for it.  The upper
four bits of a value do not count. -/
def Volume.link (volume : Volume) (disk : Disk) (copy cluster : Nat) : Option Link :=
  if cluster * 4 < volume.sectorsPerFat * 512 then
    some (linkOf (field (disk (volume.fatSector copy + cluster * 4 / 512))
      (cluster * 4 % 512) 4 % 2 ^ 28))
  else
    none

/-- The chain that begins at a cluster; a chain leads to its last cluster over
clusters in use. -/
def chain (link : Nat → Option Link) : (fuel cluster : Nat) → Option (List Nat)
  | 0, _ => none
  | fuel + 1, cluster =>
      match link cluster with
      | some .last => some [cluster]
      | some (.next following) => (chain link fuel following).map (cluster :: ·)
      | _ => none

section Chain

variable {link : Nat → Option Link}

/-- Clusters linked one to the next make one chain. -/
theorem chain_consecutive {count : Nat} :
    ∀ {fuel first : Nat}, count < fuel →
      (∀ k < count, link (first + k) = some (.next (first + k + 1))) →
      link (first + count) = some .last →
      chain link fuel first = some (List.range' first (count + 1)) := by
  induction count with
  | zero =>
      intro fuel first enough _ ends
      obtain ⟨fuel, rfl⟩ := Nat.exists_eq_succ_of_ne_zero (Nat.ne_of_gt enough)
      rw [Nat.add_zero] at ends
      rw [chain, ends]
      rfl
  | succ count inductionHypothesis =>
      intro fuel first enough links ends
      obtain ⟨fuel, rfl⟩ := Nat.exists_eq_succ_of_ne_zero (show fuel ≠ 0 by omega)
      have begins : link first = some (.next (first + 1)) :=
        links 0 (Nat.succ_pos count)
      have rest := @inductionHypothesis fuel (first + 1)
        (by omega)
        (fun k inside => by
          rw [Nat.add_assoc, Nat.add_comm 1 k, Nat.add_assoc first (k + 1) 1]
          exact links (k + 1) (by omega))
        (by rw [Nat.add_assoc, Nat.add_comm 1 count]; exact ends)
      rw [chain, begins, List.range'_succ]
      exact congrArg (Option.map (first :: ·)) rest

/-- A chain that reaches a cluster without a link has no end. -/
theorem chain_broken (count : Nat) :
    ∀ {fuel first : Nat},
      (∀ k < count, link (first + k) = some (.next (first + k + 1))) →
      link (first + count) = none → chain link fuel first = none := by
  induction count with
  | zero =>
      intro fuel first _ ends
      rw [Nat.add_zero] at ends
      cases fuel with
      | zero => rfl
      | succ fuel => rw [chain, ends]
  | succ count inductionHypothesis =>
      intro fuel first links ends
      cases fuel with
      | zero => rfl
      | succ fuel =>
          have begins : link first = some (.next (first + 1)) :=
            links 0 (Nat.succ_pos count)
          have rest := @inductionHypothesis fuel (first + 1)
            (fun k inside => by
              rw [Nat.add_assoc, Nat.add_comm 1 k, Nat.add_assoc first (k + 1) 1]
              exact links (k + 1) (by omega))
            (by rw [Nat.add_assoc, Nat.add_comm 1 count]; exact ends)
          rw [chain, begins]
          exact congrArg (Option.map (first :: ·)) rest

end Chain

namespace Volume

variable (volume : Volume) (disk : Disk)

/-- Links of as many clusters as the table has room for are enough for a chain. -/
def chainFrom (cluster : Nat) : Option (List Nat) :=
  chain (volume.link disk 0) (volume.sectorsPerFat * 128) cluster

def clusterBytes (cluster : Nat) : List UInt8 :=
  (List.range volume.sectorsPerCluster).flatMap fun k =>
    disk (volume.clusterSector cluster + k)

/-- The contents of a file of a given size; its chain must have clusters
enough. -/
def file (cluster size : Nat) : Option (List UInt8) :=
  (volume.chainFrom disk cluster).bind fun clusters =>
    if size ≤ clusters.length * (volume.sectorsPerCluster * 512) then
      some ((clusters.flatMap (volume.clusterBytes disk)).take size)
    else
      none

end Volume

/-! ## Directories -/

structure FileEntry where
  name : List UInt8
  attr : Nat
  cluster : Nat
  size : Nat
  deriving DecidableEq, Repr

def parseEntry (bytes : List UInt8) : FileEntry :=
  { name := bytes.take 11
    attr := field bytes 11 1
    cluster := field bytes 20 2 * 2 ^ 16 + field bytes 26 2
    size := field bytes 28 4 }

/-- At most `slots` entries: a first byte of zero ends the directory, `0xE5`
marks a deleted entry. -/
def parseEntries : (slots : Nat) → List UInt8 → List FileEntry
  | 0, _ => []
  | slots + 1, bytes =>
      if field bytes 0 1 = 0 then []
      else if field bytes 0 1 = 0xE5 then parseEntries slots (bytes.drop 32)
      else parseEntry (bytes.take 32) :: parseEntries slots (bytes.drop 32)

/-- The bytes of an entry that is present. -/
structure Present (bytes : List UInt8) : Prop where
  length_eq : bytes.length = 32
  used : field bytes 0 1 ≠ 0
  kept : field bytes 0 1 ≠ 0xE5

theorem parseEntries_cons {bytes rest : List UInt8} {slots : Nat}
    (present : Present bytes) :
    parseEntries (slots + 1) (bytes ++ rest) =
      parseEntry bytes :: parseEntries slots rest := by
  have size := present.length_eq
  have first : field (bytes ++ rest) 0 1 = field bytes 0 1 :=
    field_append_left (by omega)
  rw [parseEntries, first, if_neg present.used, if_neg present.kept,
    List.take_append_of_le_length (by omega), List.take_of_length_le (by omega),
    List.drop_append, List.drop_eq_nil_of_le (by omega), List.nil_append,
    show 32 - bytes.length = 0 by omega, List.drop_zero]

/-- Entries written one after the other are read back. -/
theorem parseEntries_flatten (entries : List (List UInt8)) (rest : List UInt8)
    (slots : Nat) (present : ∀ entry ∈ entries, Present entry) :
    parseEntries (entries.length + slots) (entries.flatten ++ rest) =
      entries.map parseEntry ++ parseEntries slots rest := by
  induction entries with
  | nil => rw [List.length_nil, Nat.zero_add]; rfl
  | cons entry entries inductionHypothesis =>
      rw [List.flatten_cons, List.append_assoc, List.length_cons,
        Nat.add_right_comm, parseEntries_cons (present entry List.mem_cons_self),
        inductionHypothesis
          (fun other member => present other (List.mem_cons_of_mem _ member))]
      rfl

theorem parseEntries_end {bytes : List UInt8} {slots : Nat}
    (ends : field bytes 0 1 = 0) : parseEntries slots bytes = [] := by
  cases slots with
  | zero => rfl
  | succ slots => rw [parseEntries, if_pos ends]

/-- The entries of a directory. -/
def Volume.directory (volume : Volume) (disk : Disk) (cluster : Nat) :
    Option (List FileEntry) :=
  (volume.chainFrom disk cluster).map fun clusters =>
    parseEntries (clusters.length * (volume.sectorsPerCluster * 16))
      (clusters.flatMap (volume.clusterBytes disk))

/-! ## Files by name -/

def lookup (files : List FileEntry) (name : List UInt8) : Option FileEntry :=
  files.find? fun entry => entry.name = name

/-- Where no name occurs twice an entry is found under its name. -/
theorem lookup_eq_some {files : List FileEntry} {entry : FileEntry}
    (names : (files.map FileEntry.name).Nodup) (member : entry ∈ files) :
    lookup files entry.name = some entry := by
  induction files with
  | nil => cases member
  | cons first files inductionHypothesis =>
      rw [List.map_cons, List.nodup_cons] at names
      rw [lookup]
      rcases List.mem_cons.1 member with rfl | behind
      · exact List.find?_cons_of_pos (decide_eq_true rfl)
      · have other : first.name ≠ entry.name := by
          intro same
          apply names.1
          rw [same]
          exact List.mem_map_of_mem behind
        rw [List.find?_cons_of_neg (by simpa using other)]
        exact inductionHypothesis names.2 behind

theorem lookup_eq_none {files : List FileEntry} {name : List UInt8}
    (missing : name ∉ files.map FileEntry.name) : lookup files name = none := by
  rw [lookup, List.find?_eq_none]
  intro entry member isName
  apply missing
  rw [← of_decide_eq_true isName]
  exact List.mem_map_of_mem member

/-- The directory a disk shows first. -/
def rootDirectory (disk : Disk) : Option (List FileEntry) :=
  (mount disk).bind fun volume => volume.directory disk volume.rootCluster

/-- The contents of a file in the root directory. -/
def readFile (disk : Disk) (name : List UInt8) : Option (List UInt8) :=
  (mount disk).bind fun volume =>
    (volume.directory disk volume.rootCluster).bind fun files =>
      (lookup files name).bind fun entry => volume.file disk entry.cluster entry.size

end SelfWriter.Lib.Fat32
