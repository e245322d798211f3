import SelfWriter.Vfs.Chains

/-!
# The directories on the disk

A directory begins with its label, or with itself and the directory above, and
lists its entries after them, sixteen to a sector.  `fill_dir_sector` knows the
place of a sector within its cluster only, so every cluster of a directory holds
the first 128 entries.
-/

namespace SelfWriter.Vfs

open SelfWriter.Lib SelfWriter.Lib.Fat32 SelfWriter.Lib.IndexList
  SelfWriter.Lib.LittleEndian

variable {Readcb UserData : Type}

/-! ## Entries of 32 bytes -/

/-- What a host makes of an entry. -/
def DirEntry.file (entry : DirEntry) : FileEntry :=
  { name := entry.name
    attr := entry.attr.toNat
    cluster := entry.strtClusHword.toNat * 2 ^ 16 + entry.strtClusLword.toNat
    size := entry.size.toNat }

/-- An entry with a name a host takes for one: neither the end of the directory
nor a deleted entry. -/
structure DirEntry.Named (entry : DirEntry) : Prop where
  length_eq : entry.name.length = 11
  used : field entry.name 0 1 ≠ 0
  kept : field entry.name 0 1 ≠ 0xE5

section Bytes

variable {entry : DirEntry}

theorem DirEntry.length_fields (full : entry.name.length = 11) :
    entry.fields.map List.length = [11, 1, 2, 2, 2, 2, 2, 2, 2, 2, 4] := by
  simp [DirEntry.fields, full]

theorem DirEntry.length_bytes (full : entry.name.length = 11) :
    entry.bytes.length = 32 := by
  rw [DirEntry.bytes, List.length_flatten, DirEntry.length_fields full]
  rfl

theorem DirEntry.Named.present (named : entry.Named) : Present entry.bytes := by
  have full := named.length_eq
  have first : field entry.bytes 0 1 = field entry.name 0 1 := by
    rw [DirEntry.bytes, DirEntry.fields, List.flatten_cons]
    exact field_append_left (by omega)
  exact ⟨DirEntry.length_bytes full, by rw [first]; exact named.used,
    by rw [first]; exact named.kept⟩

/-- An entry is read back from its bytes. -/
theorem DirEntry.parseEntry_bytes (full : entry.name.length = 11) :
    parseEntry entry.bytes = entry.file := by
  have lengths := DirEntry.length_fields full
  have name : entry.bytes.take 11 = entry.name := by
    rw [DirEntry.bytes, DirEntry.fields, List.flatten_cons,
      List.take_append_of_le_length (by omega), List.take_of_length_le (by omega)]
  have attr : field entry.bytes 11 1 = entry.attr.toNat :=
    Eq.trans (field_flatten lengths 1 rfl (by decide) rfl)
      Nat.ofDigits_singleton
  have hword : field entry.bytes 20 2 = entry.strtClusHword.toNat :=
    Eq.trans (field_flatten lengths 6 rfl (by decide) (length_toBytes 2 _))
      (ofBytes_toBytes entry.strtClusHword.toNat_lt)
  have lword : field entry.bytes 26 2 = entry.strtClusLword.toNat :=
    Eq.trans (field_flatten lengths 9 rfl (by decide) (length_toBytes 2 _))
      (ofBytes_toBytes entry.strtClusLword.toNat_lt)
  have size : field entry.bytes 28 4 = entry.size.toNat :=
    Eq.trans (field_flatten lengths 10 rfl (by decide) (length_toBytes 4 _))
      (ofBytes_toBytes entry.size.toNat_lt)
  rw [parseEntry, name, attr, hword, lword, size]
  rfl

end Bytes

/-! ## Names -/

/-- A name without a zero byte, that does not begin with the mark of a deleted
entry. -/
def NameOk (name : List UInt8) : Prop :=
  0 ∉ name ∧ name.head? ≠ some 0xE5

instance (name : List UInt8) : Decidable (NameOk name) :=
  inferInstanceAs (Decidable (_ ∧ _))

private theorem length_padName (width : Nat) (part : List UInt8) :
    (padName width part).length = width := by
  rw [padName, List.length_append, List.length_take, List.length_replicate]
  omega

theorem length_shortName (name : List UInt8) (attr : UInt8) :
    (shortName name attr).length = 11 := by
  unfold shortName
  rw [List.length_map, List.length_append, length_padName, length_padName]

private theorem upperCase_mark (byte : UInt8) :
    (upperCase byte = 0 → byte = 0) ∧ (upperCase byte = 0xE5 → byte = 0xE5) := by
  unfold upperCase
  grind

private theorem head_padName {width : Nat} (positive : 0 < width) (part : List UInt8) :
    (padName width part).head? = some (part.head?.getD 0x20) := by
  obtain ⟨before, rfl⟩ : ∃ before, width = before + 1 := ⟨width - 1, by omega⟩
  cases part with
  | nil => rfl
  | cons first rest => rfl

private theorem field_head {bytes : List UInt8} {first : UInt8}
    (begins : bytes.head? = some first) : field bytes 0 1 = first.toNat := by
  cases bytes with
  | nil => cases begins
  | cons byte rest =>
      cases begins
      exact Nat.ofDigits_singleton

/-- The first byte of a short name is a space or the first byte of the name. -/
theorem head_shortName (name : List UInt8) (attr : UInt8) :
    (shortName name attr).head? = some (upperCase 0x20) ∨
      ∃ first, name.head? = some first ∧
        (shortName name attr).head? = some (upperCase first) := by
  have head : ∀ part : List UInt8, ∀ rest : List UInt8,
      ((padName 8 part ++ rest).map upperCase).head? =
        some (upperCase (part.head?.getD 0x20)) := by
    intro part rest
    rw [List.head?_map, List.head?_append, head_padName (by decide)]
    rfl
  unfold shortName
  cases (if attr &&& attrDir = 0 then dotPos name else none) with
  | none =>
      cases name with
      | nil => exact .inl (head [] _)
      | cons first rest => exact .inr ⟨first, rfl, head (first :: rest) _⟩
  | some dot =>
      cases dot with
      | zero => exact .inl (head [] _)
      | succ dot =>
          cases name with
          | nil => exact .inl (head [] _)
          | cons first rest =>
              exact .inr ⟨first, rfl, head (first :: rest.take dot) _⟩

private theorem named_fillEntry {name : List UInt8} (ok : NameOk name) (attr : UInt8)
    (clust : UInt32) (cma : Option (UInt32 × UInt32 × UInt32)) (size : UInt32) :
    (fillEntry name attr clust cma size).Named := by
  have isName : (fillEntry name attr clust cma size).name = shortName name attr := rfl
  have marks : field (shortName name attr) 0 1 ≠ 0 ∧
      field (shortName name attr) 0 1 ≠ 0xE5 := by
    rcases head_shortName name attr with space | ⟨first, begins, head⟩
    · rw [field_head space]
      decide
    · have nonzero : first ≠ 0 := by
        rintro rfl
        exact ok.1 (List.mem_of_mem_head? begins)
      have unmarked : first ≠ 0xE5 := by
        rintro rfl
        exact ok.2 begins
      have marked := upperCase_mark first
      rw [field_head head]
      exact ⟨fun zero => nonzero (marked.1 (UInt8.toNat_inj.1 zero)),
        fun mark => unmarked (marked.2 (UInt8.toNat_inj.1 mark))⟩
  exact ⟨by rw [isName]; exact length_shortName name attr, by rw [isName]; exact marks.1,
    by rw [isName]; exact marks.2⟩

private theorem file_fillEntry (name : List UInt8) (attr : UInt8) (clust : UInt32)
    (cma : Option (UInt32 × UInt32 × UInt32)) (size : UInt32) :
    (fillEntry name attr clust cma size).file =
      { name := shortName name attr
        attr := attr.toNat
        cluster := clust.toNat
        size := size.toNat } := by
  have shift : (16 : UInt32).toNat = 16 := rfl
  have amount : 16 % 32 = 16 := rfl
  have bound := clust.toNat_lt
  have halves : (clust >>> 16).toUInt16.toNat * 2 ^ 16 + clust.toUInt16.toNat =
      clust.toNat := by
    rw [UInt32.toNat_toUInt16, UInt32.toNat_toUInt16, UInt32.toNat_shiftRight, shift,
      Nat.shiftRight_eq_div_pow, amount]
    omega
  rw [← halves]
  rfl

/-! ## The sectors of a directory -/

/-- Everything a directory should list. -/
def dirEntries (original : Entries Readcb UserData) (count : Nat)
    (emfat : Emfat Readcb UserData) (d : Nat) : List DirEntry :=
  headEntries emfat (emfat.entries d) ++
    (children (fun i => (original i).level) count d).map
      fun j => childEntry (emfat.entries j)

section Sectors

variable {original : Entries Readcb UserData} {count : Nat}
variable {emfat : Emfat Readcb UserData} {d : Nat}

private theorem length_headEntries (entry : Entry Readcb UserData) :
    (headEntries emfat entry).length = if entry.priv.top.isNone then 1 else 2 := by
  unfold headEntries
  cases entry.priv.top <;> rfl

/-- A sector lists the sixteen entries of its place in the cluster. -/
theorem DiskLayout.fillDirSector_eq (layout : DiskLayout original count emfat)
    (inside : d < count) (relSect : Nat) :
    fillDirSector emfat (emfat.entries d) relSect =
      ((dirEntries original count emfat d).drop (16 * relSect)).take 16 := by
  have links := layout.links d inside
  have heads := @length_headEntries _ _ emfat (emfat.entries d)
  have few : (headEntries emfat (emfat.entries d)).length ≤ 16 := by
    rw [heads]
    split <;> omega
  unfold fillDirSector dirEntries
  by_cases first : relSect = 0
  · subst first
    simp only [if_true]
    rw [links.follow_eq, Nat.mul_zero, List.drop_zero, List.take_append,
      List.take_of_length_le few, List.map_take]
  · have behind : (headEntries emfat (emfat.entries d)).drop (16 * relSect) = [] :=
      List.drop_eq_nil_of_le (by omega)
    simp only [if_neg first]
    rw [(links.skip _).follow_eq, List.drop_append, behind, ← heads,
      List.nil_append, List.map_take, List.map_drop, Nat.mul_comm relSect]

end Sectors

/-- Sectors of sixteen entries, the last ones filled up with zeros. -/
theorem flatMap_dirSectorBytes {entries : List DirEntry}
    (full : ∀ entry ∈ entries, entry.bytes.length = 32) (sectors : Nat) :
    (List.range sectors).flatMap (fun r =>
      dirSectorBytes ((entries.drop (16 * r)).take 16)) =
    (entries.take (16 * sectors)).flatMap DirEntry.bytes ++
      zeros (512 * sectors - 32 * (entries.take (16 * sectors)).length) := by
  have size : ∀ part : List DirEntry, (∀ entry ∈ part, entry ∈ entries) →
      (part.flatMap DirEntry.bytes).length = 32 * part.length := by
    intro part members
    induction part with
    | nil => rfl
    | cons entry part inductionHypothesis =>
        rw [List.flatMap_cons, List.length_append, List.length_cons,
          full entry (members entry List.mem_cons_self),
          inductionHypothesis fun other member =>
            members other (List.mem_cons_of_mem _ member)]
        omega
  induction sectors with
  | zero => rfl
  | succ sectors inductionHypothesis =>
      have taken : entries.take (16 * (sectors + 1)) =
          entries.take (16 * sectors) ++ (entries.drop (16 * sectors)).take 16 := by
        rw [Nat.mul_succ, List.take_add]
      have sizeNext := size ((entries.drop (16 * sectors)).take 16)
        fun entry member => List.mem_of_mem_drop (List.mem_of_mem_take member)
      rw [List.range_succ, List.flatMap_append, List.flatMap_singleton,
        inductionHypothesis, taken, List.flatMap_append, dirSectorBytes, sizeNext,
        List.length_append]
      by_cases enough : 16 * sectors ≤ entries.length
      · have fullSectors : (entries.take (16 * sectors)).length = 16 * sectors := by
          rw [List.length_take]
          omega
        rw [fullSectors, show 512 * sectors - 32 * (16 * sectors) = 0 by omega,
          show zeros 0 = [] from rfl, List.append_nil, List.append_assoc]
        congr 3
        omega
      · have noMore : (entries.drop (16 * sectors)).take 16 = [] := by
          rw [List.drop_eq_nil_of_le (by omega), List.take_nil]
        rw [noMore, List.flatMap_nil, List.nil_append, List.append_nil,
          List.length_nil, List.append_assoc]
        congr 1
        rw [List.length_take, zeros, zeros, zeros, ← List.replicate_add]
        congr 1
        omega

/-! ## What a host lists -/

/-- The directory an entry is in. -/
def directoryOf (level : Nat → Int) (j : Nat) : Option Nat :=
  (List.range j).find? fun d => InDirectory level d j

/-- An entry of the table as its directory shows it. -/
def listedEntry (original : Entries Readcb UserData) (count j : Nat) : FileEntry :=
  if (original j).dir then
    { name := shortName (original j).name (attrDir ||| attrRead)
      attr := 0x11
      cluster := firstCluster original count j
      size := 0 }
  else
    { name := shortName (original j).name (attrArchive ||| attrRead)
      attr := 0x21
      cluster := firstCluster original count j
      size := (original j).currSize.toNat }

/-- What a directory begins with. -/
def listedHeads (original : Entries Readcb UserData) (count : Nat)
    (label : List UInt8) (d : Nat) : List FileEntry :=
  match directoryOf (fun i => (original i).level) d with
  | none =>
      [{ name := shortName label attrVolLabel
         attr := 0x08
         cluster := 0
         size := 0 }]
  | some top =>
      [{ name := shortName (ascii ".") (attrDir ||| attrRead)
         attr := 0x11
         cluster := firstCluster original count d
         size := 0 },
        { name := shortName (ascii "..") (attrDir ||| attrRead)
          attr := 0x11
          cluster := firstCluster original count top
          size := 0 }]

/-- The whole directory. -/
def listing (original : Entries Readcb UserData) (count : Nat) (label : List UInt8)
    (d : Nat) : List FileEntry :=
  listedHeads original count label d ++
    (children (fun i => (original i).level) count d).map (listedEntry original count)

/-- No name of the table looks like the end of a directory or a deleted entry. -/
def NamesOk (original : Entries Readcb UserData) (count : Nat) (label : List UInt8) :
    Prop :=
  NameOk label ∧ ∀ i < count, NameOk (original i).name

instance (original : Entries Readcb UserData) (count : Nat) (label : List UInt8) :
    Decidable (NamesOk original count label) :=
  inferInstanceAs (Decidable (_ ∧ _))

section Listing

variable {original : Entries Readcb UserData} {count : Nat}
variable {emfat : Emfat Readcb UserData} {d j : Nat}

private theorem directoryOf_eq_some_iff {level : Nat → Int} :
    directoryOf level j = some d ↔ InDirectory level d j := by
  constructor
  · intro finds
    have passes := List.find?_some (show (List.range j).find? _ = some d from finds)
    exact of_decide_eq_true passes
  · intro isIn
    cases finds : directoryOf level j with
    | none =>
        have misses := List.find?_eq_none.1 finds d (List.mem_range.2 isIn.1)
        exact absurd (decide_eq_true isIn) misses
    | some other =>
        have passes :=
          List.find?_some (show (List.range j).find? _ = some other from finds)
        rw [(of_decide_eq_true passes : InDirectory level other j).unique isIn]

theorem DiskLayout.top_eq (layout : DiskLayout original count emfat)
    (inside : j < count) :
    (emfat.entries j).priv.top = directoryOf (fun i => (original i).level) j := by
  apply Option.ext
  intro d
  rw [layout.top j inside d, directoryOf_eq_some_iff]

/-- An entry of a directory is shown with its first cluster and its size. -/
theorem DiskLayout.childEntry_file (layout : DiskLayout original count emfat)
    (inside : j < count) :
    (childEntry (emfat.entries j)).file = listedEntry original count j := by
  have laid := layout.entryLaid j inside
  have first := laid.firstClust
  have same := laid.same
  have name : (emfat.entries j).name = (original j).name := by
    rw [same, withoutSize]
    split <;> rfl
  have dir : (emfat.entries j).dir = (original j).dir := by
    rw [same, withoutSize_dir]
  unfold childEntry listedEntry
  rw [dir]
  by_cases isDir : (original j).dir = true
  · rw [if_pos isDir, if_pos isDir, file_fillEntry, name, first]
    rfl
  · have size : (emfat.entries j).currSize = (original j).currSize := by
      rw [same, withoutSize, if_neg isDir]
    rw [if_neg isDir, if_neg isDir, file_fillEntry, name, first, size]
    rfl

theorem DiskLayout.headEntries_file (layout : DiskLayout original count emfat)
    (inside : d < count) :
    (headEntries emfat (emfat.entries d)).map DirEntry.file =
      listedHeads original count emfat.volLabel d := by
  have first := (layout.entryLaid d inside).firstClust
  unfold headEntries listedHeads
  rw [layout.top_eq inside]
  cases isTop : directoryOf (fun i => (original i).level) d with
  | none =>
      simp only [List.map_cons, List.map_nil, file_fillEntry]
      rfl
  | some top =>
      have before := (directoryOf_eq_some_iff.1 isTop).1
      have firstTop := (layout.entryLaid top (by omega)).firstClust
      simp only [List.map_cons, List.map_nil, file_fillEntry, first, firstTop]
      rfl

theorem DiskLayout.dirEntries_file (layout : DiskLayout original count emfat)
    (inside : d < count) :
    (dirEntries original count emfat d).map DirEntry.file =
      listing original count emfat.volLabel d := by
  rw [dirEntries, List.map_append, layout.headEntries_file inside, List.map_map,
    listing]
  congr 1
  apply List.map_congr_left
  intro j member
  exact layout.childEntry_file (mem_children.1 member).1

theorem DiskLayout.named_dirEntries (layout : DiskLayout original count emfat)
    (d : Nat) (names : NamesOk original count emfat.volLabel) :
    ∀ entry ∈ dirEntries original count emfat d, entry.Named := by
  intro entry member
  rcases List.mem_append.1 member with isHead | isChild
  · unfold headEntries at isHead
    cases isTop : (emfat.entries d).priv.top with
    | none =>
        rw [isTop] at isHead
        cases List.mem_singleton.1 isHead
        exact named_fillEntry names.1 _ _ _ _
    | some top =>
        rw [isTop] at isHead
        rcases List.mem_cons.1 isHead with own | above
        · cases own
          exact named_fillEntry (by decide) _ _ _ _
        · cases List.mem_singleton.1 above
          exact named_fillEntry (by decide) _ _ _ _
  · obtain ⟨j, isIn, rfl⟩ := List.mem_map.1 isChild
    have inside := (mem_children.1 isIn).1
    have name : (emfat.entries j).name = (original j).name := by
      rw [(layout.entryLaid j inside).same, withoutSize]
      split <;> rfl
    have ok : NameOk (emfat.entries j).name := by
      rw [name]
      exact names.2 j inside
    unfold childEntry
    split
    · exact named_fillEntry ok _ _ _ _
    · exact named_fillEntry ok _ _ _ _

theorem DiskLayout.length_dirEntries (layout : DiskLayout original count emfat)
    (inside : d < count) :
    (dirEntries original count emfat d).length =
      (listing original count emfat.volLabel d).length := by
  rw [← layout.dirEntries_file inside, List.length_map]

variable (serves : Nat → Serve Readcb UserData) (buffers : Nat → List UInt8)

/-- Every cluster of a directory holds its first 128 entries. -/
theorem DiskLayout.clusterBytes_dir (layout : DiskLayout original count emfat)
    (fits : Fits original count) (names : NamesOk original count emfat.volLabel)
    (inside : d < count) (isDir : (original d).dir = true) {k : Nat}
    (isOwn : k < clustersFor original count d) :
    (volumeOf original count).clusterBytes (hostDisk serves emfat buffers)
        (firstCluster original count d + k) =
      ((dirEntries original count emfat d).take 128).flatMap DirEntry.bytes ++
        zeros (4096 - 32 * ((dirEntries original count emfat d).take 128).length) := by
  have isSector : ∀ r < 8,
      hostDisk serves emfat buffers ((volumeOf original count).clusterSector
        (firstCluster original count d + k) + r) =
      dirSectorBytes (((dirEntries original count emfat d).drop (16 * r)).take 16) := by
    intro r sector
    have dir : (emfat.entries d).dir = true := by
      rw [(layout.entryLaid d inside).same, withoutSize_dir]
      exact isDir
    have relSect : (UInt32.ofNat r).toNat = r := by
      rw [UInt32.toNat_ofNat']
      omega
    rw [layout.hostDisk_cluster serves buffers fits inside (Nat.le_add_right _ _)
      (by rw [firstCluster_succ]; omega) sector, entrySector, if_pos dir, relSect,
      layout.fillDirSector_eq inside]
  have named := layout.named_dirEntries d names
  have full := flatMap_dirSectorBytes
    (fun entry member => DirEntry.length_bytes (named entry member).length_eq) 8
  rw [Volume.clusterBytes, ← full]
  apply List.flatMap_congr
  intro r member
  exact isSector r (List.mem_range.1 member)

end Listing

/-- A directory of whole clusters of 128 entries is read cluster by cluster. -/
theorem parseEntries_replicate {entries : List DirEntry}
    (named : ∀ entry ∈ entries, entry.Named) (full : entries.length = 128)
    (clusters : Nat) :
    parseEntries (clusters * 128)
      (List.replicate clusters (entries.flatMap DirEntry.bytes)).flatten =
    (List.replicate clusters (entries.map DirEntry.file)).flatten := by
  have parsed : (entries.map DirEntry.bytes).map parseEntry =
      entries.map DirEntry.file := by
    rw [List.map_map]
    apply List.map_congr_left
    intro entry member
    exact DirEntry.parseEntry_bytes (named entry member).length_eq
  induction clusters with
  | zero => rfl
  | succ clusters inductionHypothesis =>
      have step := parseEntries_flatten
        (entries.map DirEntry.bytes)
        (List.replicate clusters (entries.flatMap DirEntry.bytes)).flatten
        (clusters * 128)
        (by
          intro bytes member
          obtain ⟨entry, isEntry, rfl⟩ := List.mem_map.1 member
          exact (named entry isEntry).present)
      rw [List.length_map, full, parsed, inductionHypothesis,
        ← List.flatMap_def] at step
      rw [List.replicate_succ, List.flatten_cons, List.replicate_succ,
        List.flatten_cons, Nat.succ_mul, Nat.add_comm]
      exact step

/-- Fewer entries than a cluster holds end with the first zero byte. -/
theorem parseEntries_partial {entries : List DirEntry}
    (named : ∀ entry ∈ entries, entry.Named) (few : entries.length < 128) :
    parseEntries 128
      (entries.flatMap DirEntry.bytes ++ zeros (4096 - 32 * entries.length)) =
    entries.map DirEntry.file := by
  have parsed : (entries.map DirEntry.bytes).map parseEntry =
      entries.map DirEntry.file := by
    rw [List.map_map]
    apply List.map_congr_left
    intro entry member
    exact DirEntry.parseEntry_bytes (named entry member).length_eq
  have step := parseEntries_flatten
    (entries.map DirEntry.bytes) (zeros (4096 - 32 * entries.length))
    (128 - entries.length)
    (by
      intro bytes member
      obtain ⟨entry, isEntry, rfl⟩ := List.mem_map.1 member
      exact (named entry isEntry).present)
  have ends : field (zeros (4096 - 32 * entries.length)) 0 1 = 0 := by
    apply @field_head _ 0
    obtain ⟨rest, more⟩ : ∃ rest, 4096 - 32 * entries.length = rest + 1 :=
      ⟨4095 - 32 * entries.length, by omega⟩
    rw [more]
    rfl
  rw [List.length_map, parsed, parseEntries_end ends, List.append_nil,
    ← List.flatMap_def, Nat.add_sub_cancel' (by omega)] at step
  exact step

section Listed

variable {original : Entries Readcb UserData} {count : Nat}
variable {emfat : Emfat Readcb UserData} {d : Nat}
variable (serves : Nat → Serve Readcb UserData) (buffers : Nat → List UInt8)

private theorem flatMap_eq_replicate (clusters : List Nat) {bytes : List UInt8}
    (read : Nat → List UInt8) (same : ∀ cluster ∈ clusters, read cluster = bytes) :
    clusters.flatMap read = (List.replicate clusters.length bytes).flatten := by
  induction clusters with
  | nil => rfl
  | cons cluster clusters inductionHypothesis =>
      rw [List.flatMap_cons, same cluster List.mem_cons_self, List.length_cons,
        List.replicate_succ, List.flatten_cons,
        inductionHypothesis fun other member =>
          same other (List.mem_cons_of_mem _ member)]

private theorem listedHeads_length_pos (original : Entries Readcb UserData) (count d : Nat)
    (label : List UInt8) :
    0 < (listedHeads original count label d).length := by
  unfold listedHeads
  split <;> exact Nat.succ_pos _

/-- A directory of fewer than 128 entries has one cluster. -/
theorem clustersFor_eq_one (isDir : (original d).dir = true) (label : List UInt8)
    (few : (listing original count label d).length < 128) :
    clustersFor original count d = 1 := by
  have heads := listedHeads_length_pos original count d label
  rw [listing, List.length_append, List.length_map] at few
  rw [clustersFor, if_pos isDir, clustersOf]
  split <;> omega

/-- What a host lists of a directory: its first 128 entries, once for every
cluster. -/
theorem DiskLayout.directory_eq (layout : DiskLayout original count emfat)
    (fits : Fits original count) (addressable : Addressable original count)
    (names : NamesOk original count emfat.volLabel)
    (inside : d < count) (isDir : (original d).dir = true)
    (covered : Covered original count (lastCluster original count d)) :
    (volumeOf original count).directory (hostDisk serves emfat buffers)
        (firstCluster original count d) =
      some (List.replicate (clustersFor original count d)
        ((listing original count emfat.volLabel d).take 128)).flatten := by
  have named := layout.named_dirEntries d names
  have namedTaken : ∀ entry ∈ (dirEntries original count emfat d).take 128,
      entry.Named := fun entry member => named entry (List.mem_of_mem_take member)
  have used : clustersUsed original count d = clustersFor original count d := by
    rw [clustersUsed, if_pos isDir]
  have clusters := flatMap_eq_replicate
    (List.range' (firstCluster original count d) (clustersFor original count d))
    ((volumeOf original count).clusterBytes (hostDisk serves emfat buffers))
    (by
      intro cluster member
      obtain ⟨k, isOwn, rfl⟩ := List.mem_range'.1 member
      rw [Nat.one_mul]
      exact layout.clusterBytes_dir serves buffers fits names inside isDir isOwn)
  rw [List.length_range'] at clusters
  rw [Volume.directory, layout.chainFrom_eq serves buffers fits addressable inside
    covered, used, Option.map_some, clusters, List.length_range']
  congr 1
  have slots : clustersFor original count d *
      ((volumeOf original count).sectorsPerCluster * 16) =
      clustersFor original count d * 128 := rfl
  have size := layout.length_dirEntries inside
  rw [slots, ← layout.dirEntries_file inside, ← List.map_take]
  by_cases many : 128 ≤ (dirEntries original count emfat d).length
  · have full : ((dirEntries original count emfat d).take 128).length = 128 := by
      rw [List.length_take]
      omega
    rw [full, show zeros (4096 - 32 * 128) = [] from rfl, List.append_nil]
    exact parseEntries_replicate namedTaken full _
  · have few : ((dirEntries original count emfat d).take 128).length < 128 := by
      rw [List.length_take]
      omega
    rw [clustersFor_eq_one isDir emfat.volLabel (by omega), List.replicate_one, List.replicate_one,
      List.flatten_singleton, List.flatten_singleton, Nat.one_mul]
    exact parseEntries_partial namedTaken few

private theorem firstCluster_lt (original : Entries Readcb UserData) (count : Nat)
    {i j : Nat} (order : i < j) :
    firstCluster original count i < firstCluster original count j := by
  have positive := clustersFor_pos original count i
  have next := firstCluster_mono original count (Nat.succ_le_of_lt order)
  rw [Nat.succ_eq_add_one, firstCluster_succ] at next
  omega

private theorem firstCluster_injective {i j : Nat}
    (same : firstCluster original count i = firstCluster original count j) : i = j := by
  rcases Nat.lt_trichotomy i j with before | equal | behind
  · have := firstCluster_lt original count before
    omega
  · exact equal
  · have := firstCluster_lt original count behind
    omega

theorem listedEntry_cluster (original : Entries Readcb UserData) (count j : Nat) :
    (listedEntry original count j).cluster = firstCluster original count j := by
  unfold listedEntry
  split <;> rfl

/-- Nothing a directory begins with is taken for one of its entries. -/
theorem listedEntry_not_mem_heads (original : Entries Readcb UserData) (count : Nat)
    (label : List UInt8) {j : Nat} (below : d < j) :
    listedEntry original count j ∉ listedHeads original count label d := by
  intro member
  have clusters := listedEntry_cluster original count j
  have start := two_le_firstCluster original count j
  have order := firstCluster_lt original count below
  unfold listedHeads at member
  cases isTop : directoryOf (fun i => (original i).level) d with
  | none =>
      rw [isTop] at member
      rw [List.mem_singleton.1 member] at clusters
      change 0 = firstCluster original count j at clusters
      omega
  | some top =>
      have above := firstCluster_lt original count
        (directoryOf_eq_some_iff.1 isTop).1
      rw [isTop] at member
      rcases List.mem_cons.1 member with own | other
      · rw [own] at clusters
        change firstCluster original count d = firstCluster original count j at clusters
        omega
      · rw [List.mem_singleton.1 other] at clusters
        change firstCluster original count top = firstCluster original count j
          at clusters
        omega

/-- Entry number `p` of a directory is listed exactly when it is among the first
128, those the directory begins with included. -/
theorem listed_iff {label : List UInt8}
    (nested : Nested (fun i => (original i).level) (fun i => (original i).dir) count)
    (fits : Fits original count) (addressable : Addressable original count)
    (names : NamesOk original count label)
    (made : emfatInit label original count = some emfat)
    (inside : d < count) (isDir : (original d).dir = true)
    (covered : Covered original count (lastCluster original count d))
    {p j : Nat}
    (isEntry : (children (fun i => (original i).level) count d)[p]? = some j) :
    (∃ files, (volumeOf original count).directory (hostDisk serves emfat buffers)
        (firstCluster original count d) = some files ∧
      listedEntry original count j ∈ files) ↔
    (listedHeads original count label d).length + p < 128 := by
  obtain ⟨rfl, layout⟩ := DiskLayout.of_emfatInit nested fits made
  have isIn := mem_children.1 (List.mem_of_getElem? isEntry)
  have notHead := listedEntry_not_mem_heads original count emfat.volLabel isIn.2.1
  have positive := clustersFor_pos original count d
  have mem_iff : (∃ files,
      (volumeOf original count).directory (hostDisk serves emfat buffers)
        (firstCluster original count d) = some files ∧
      listedEntry original count j ∈ files) ↔
      listedEntry original count j ∈
        (listing original count emfat.volLabel d).take 128 := by
    rw [layout.directory_eq serves buffers fits addressable names inside isDir covered]
    constructor
    · rintro ⟨files, same, member⟩
      cases same
      obtain ⟨part, isPart, member⟩ := List.mem_flatten.1 member
      rwa [List.eq_of_mem_replicate isPart] at member
    · intro member
      exact ⟨_, rfl, List.mem_flatten.2
        ⟨_, List.mem_replicate.2 ⟨Nat.ne_of_gt positive, rfl⟩, member⟩⟩
  have nodup := children_nodup (fun i => (original i).level) count d
  have bound := List.getElem?_eq_some_iff.1 isEntry
  have behind : ∀ q, (listing original count emfat.volLabel d)[
      (listedHeads original count emfat.volLabel d).length + q]? =
      ((children (fun i => (original i).level) count d)[q]?).map
        (listedEntry original count) := by
    intro q
    rw [listing, List.getElem?_append_right (Nat.le_add_right _ _),
      Nat.add_sub_cancel_left, List.getElem?_map]
  rw [mem_iff, List.mem_iff_getElem?]
  constructor
  · rintro ⟨q, isAt⟩
    rw [List.getElem?_take] at isAt
    split at isAt
    · rename_i early
      by_cases inHeads : q < (listedHeads original count emfat.volLabel d).length
      · rw [listing, List.getElem?_append_left inHeads] at isAt
        exact absurd (List.mem_of_getElem? isAt) notHead
      · obtain ⟨q, rfl⟩ := Nat.exists_eq_add_of_le (Nat.le_of_not_lt inHeads)
        rw [behind] at isAt
        obtain ⟨other, isOther, same⟩ := Option.map_eq_some_iff.1 isAt
        have clusters := congrArg FileEntry.cluster same
        rw [listedEntry_cluster, listedEntry_cluster] at clusters
        have isSame := firstCluster_injective clusters
        rw [isSame, ← isEntry] at isOther
        have inside := (List.getElem?_eq_some_iff.1 (isOther.trans isEntry)).1
        rw [← (List.getElem?_inj inside nodup).1 isOther]
        exact early
    · cases isAt
  · intro early
    refine ⟨(listedHeads original count emfat.volLabel d).length + p, ?_⟩
    rw [List.getElem?_take, if_pos early, behind, isEntry]
    rfl

/-- The one file of a disk is listed. -/
theorem listed_iff_oneFile :
    ∃ emfat, emfatInit (ascii "ONE") oneFile 2 = some emfat ∧
      ∃ files, (volumeOf oneFile 2).directory (plainDisk emfat) 2 = some files ∧
        listedEntry oneFile 2 1 ∈ files := by
  obtain ⟨emfat, made, _⟩ := emfatInit_spec (ascii "ONE") oneFile_nested oneFile_fits
  refine ⟨emfat, made, ?_⟩
  exact (listed_iff _ _ oneFile_nested oneFile_fits (by decide) (by decide)
    made (by decide : 0 < 2) rfl (by decide)
    (by decide : (children (fun i => (oneFile i).level) 2 0)[0]? = some 1)).2
    (by decide)

end Listed

end SelfWriter.Vfs
