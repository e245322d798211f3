import Mathlib.Data.List.Nodup
import SelfWriter.Lib.IndexList

/-!
# The table of virtual files

`emfat` (`lib/emfat/emfat-src/emfat.c`) presents a table of files as a read-only
FAT32 disk.  The table is an array of entries in the order of a walk through the
directories, each with its level; an entry without a name ends it.
`emfat_init_entries` links every entry to its directory (`top`), a directory to
its first entry (`sub`) and the entries of a directory to one another (`next`).
-/

namespace SelfWriter.Vfs

open SelfWriter.Lib.IndexList

variable {Readcb UserData : Type}

structure Priv where
  firstClust : UInt32
  lastClust : UInt32
  lastReserved : UInt32
  numSubentry : UInt32
  top : Option Nat
  sub : Option Nat
  next : Option Nat
  deriving DecidableEq, Repr

/-- `struct emfat_entry`; pointers to entries are indices into the table. -/
structure Entry (Readcb UserData : Type) where
  name : List UInt8
  dir : Bool
  level : Int
  offset : UInt32
  currSize : UInt32
  maxSize : UInt32
  userData : UserData
  cmaTime : UInt32 × UInt32 × UInt32
  readcb : Option Readcb
  priv : Priv

/-- The entries of an array by index. -/
abbrev Entries (Readcb UserData : Type) := Nat → Entry Readcb UserData

def Entries.modifyPriv (entries : Entries Readcb UserData) (index : Nat)
    (change : Priv → Priv) : Entries Readcb UserData :=
  fun other =>
    if other = index then
      { entries other with priv := change (entries other).priv }
    else
      entries other

section ModifyPriv

variable (entries : Entries Readcb UserData) (index other : Nat)
variable (change : Priv → Priv)

@[simp]
theorem modifyPriv_priv :
    (entries.modifyPriv index change other).priv =
      if other = index then change (entries other).priv
      else (entries other).priv := by
  unfold Entries.modifyPriv
  split <;> rfl

@[simp]
theorem modifyPriv_dir :
    (entries.modifyPriv index change other).dir = (entries other).dir := by
  unfold Entries.modifyPriv
  split <;> rfl

@[simp]
theorem modifyPriv_level :
    (entries.modifyPriv index change other).level = (entries other).level := by
  unfold Entries.modifyPriv
  split <;> rfl

end ModifyPriv

/-- Two tables differ in nothing but the links. -/
def SameFiles (entries original : Entries Readcb UserData) : Prop :=
  ∀ index, entries index = { original index with priv := (entries index).priv }

theorem SameFiles.refl (entries : Entries Readcb UserData) :
    SameFiles entries entries :=
  fun _ => rfl

theorem SameFiles.modifyPriv {entries original : Entries Readcb UserData}
    (same : SameFiles entries original) (index : Nat) (change : Priv → Priv) :
    SameFiles (entries.modifyPriv index change) original := by
  intro other
  unfold Entries.modifyPriv
  split
  · rw [same other]
  · exact same other

/-! ## Linking -/

/-- The table, the last entry linked and its level. -/
structure Linking (Readcb UserData : Type) where
  entries : Entries Readcb UserData
  e : Nat
  n : Int

def clearPriv (priv : Priv) : Priv :=
  { priv with top := none, sub := none, next := none, numSubentry := 0 }

/-- Entry `i` becomes the first one of directory `e`. -/
def linkSub (entries : Entries Readcb UserData) (e i : Nat) :
    Entries Readcb UserData :=
  (entries.modifyPriv e fun priv => { priv with sub := some i }).modifyPriv i
    fun priv => { priv with top := some e }

/-- Entry `i` follows entry `e` in directory `top`. -/
def linkNext (entries : Entries Readcb UserData) (e top i : Nat) :
    Entries Readcb UserData :=
  ((entries.modifyPriv top fun priv =>
      { priv with numSubentry := priv.numSubentry + 1 }).modifyPriv i
    fun priv => { priv with top := some top }).modifyPriv e
      fun priv => { priv with next := some i }

section LinkFields

variable (entries : Entries Readcb UserData) (e top i j : Nat)

private theorem linkSub_top : (linkSub entries e i j).priv.top =
    if j = i then some e else (entries j).priv.top := by
  simp only [linkSub, modifyPriv_priv]
  split_ifs <;> rfl

private theorem linkSub_sub : (linkSub entries e i j).priv.sub =
    if j = e then some i else (entries j).priv.sub := by
  simp only [linkSub, modifyPriv_priv]
  split_ifs <;> rfl

private theorem linkSub_next :
    (linkSub entries e i j).priv.next = (entries j).priv.next := by
  simp only [linkSub, modifyPriv_priv]
  split_ifs <;> rfl

private theorem linkSub_numSubentry :
    (linkSub entries e i j).priv.numSubentry = (entries j).priv.numSubentry := by
  simp only [linkSub, modifyPriv_priv]
  split_ifs <;> rfl

private theorem linkNext_top : (linkNext entries e top i j).priv.top =
    if j = i then some top else (entries j).priv.top := by
  simp only [linkNext, modifyPriv_priv]
  split_ifs <;> rfl

private theorem linkNext_sub :
    (linkNext entries e top i j).priv.sub = (entries j).priv.sub := by
  simp only [linkNext, modifyPriv_priv]
  split_ifs <;> rfl

private theorem linkNext_next : (linkNext entries e top i j).priv.next =
    if j = e then some i else (entries j).priv.next := by
  simp only [linkNext, modifyPriv_priv]
  split_ifs <;> rfl

private theorem linkNext_numSubentry : (linkNext entries e top i j).priv.numSubentry =
    if j = top then (entries j).priv.numSubentry + 1
    else (entries j).priv.numSubentry := by
  simp only [linkNext, modifyPriv_priv]
  split_ifs <;> rfl

variable {entries} {original : Entries Readcb UserData}

theorem SameFiles.linkSub (same : SameFiles entries original) :
    SameFiles (linkSub entries e i) original :=
  (same.modifyPriv _ _).modifyPriv _ _

theorem SameFiles.linkNext (same : SameFiles entries original) :
    SameFiles (linkNext entries e top i) original :=
  ((same.modifyPriv _ _).modifyPriv _ _).modifyPriv _ _

end LinkFields

/-- The body of the loop.  The directory of an entry at a level other than the
first is never missing. -/
def linkEntry (linking : Linking Readcb UserData) (i : Nat) :
    Option (Linking Readcb UserData) := do
  let entries := linking.entries.modifyPriv i clearPriv
  let level := (entries i).level
  let (e, n) ←
    if level = linking.n - 1 then
      if linking.n = 0 then
        none
      else
        (entries linking.e).priv.top.map (·, linking.n - 1)
    else
      some (linking.e, linking.n)
  if level = n + 1 then
    if (entries e).dir then
      some { entries := linkSub entries e i, e := i, n := n + 1 }
    else
      none
  else if level = n then
    if n = 0 then
      none
    else
      (entries e).priv.top.map fun top =>
        { entries := linkNext entries e top i, e := i, n := n }
  else
    none

def linkFirst (entries : Entries Readcb UserData) : Linking Readcb UserData :=
  { entries := entries.modifyPriv 0 clearPriv, e := 0, n := 0 }

/-- `emfat_init_entries` for a table of `count` entries. -/
def emfatInitEntries (entries : Entries Readcb UserData) (count : Nat) :
    Option (Entries Readcb UserData) :=
  if count = 0 ∨ (entries 0).level ≠ 0 ∨ (entries 0).dir = false then
    none
  else
    ((List.range' 1 (count - 1)).foldlM linkEntry (linkFirst entries)).map
      (·.entries)

/-! ## The directories a table describes -/

/-- Entry `j` is in directory `d`: one level deeper, and so far down in the walk
that nothing between them left the directory. -/
def InDirectory (level : Nat → Int) (d j : Nat) : Prop :=
  d < j ∧ level j = level d + 1 ∧ ∀ k < j, d < k → level d < level k

instance (level : Nat → Int) (d j : Nat) : Decidable (InDirectory level d j) :=
  inferInstanceAs (Decidable (_ ∧ _))

/-- The entries of a directory among the first `count`, in the order of the
table. -/
def children (level : Nat → Int) (count d : Nat) : List Nat :=
  (List.range count).filter (InDirectory level d)

/-- How an entry may follow the one before it: into it, next to it, or one level
up.  Nothing returns to the level of the root. -/
def Follows (level : Nat → Int) (dir : Nat → Bool) (j : Nat) : Prop :=
  level (j + 1) = level j + 1 ∧ dir j = true ∨
    0 < level (j + 1) ∧ (level (j + 1) = level j ∨ level (j + 1) = level j - 1)

instance (level : Nat → Int) (dir : Nat → Bool) (j : Nat) :
    Decidable (Follows level dir j) :=
  inferInstanceAs (Decidable (_ ∨ _))

/-- The tables a walk through directories writes, as far as the walk goes up one
level at a time. -/
structure Nested (level : Nat → Int) (dir : Nat → Bool) (count : Nat) : Prop where
  positive : 0 < count
  rootLevel : level 0 = 0
  rootDir : dir 0 = true
  follows : ∀ j, j + 1 < count → Follows level dir j

section Directories

variable {level : Nat → Int} {dir : Nat → Bool} {count d d' j s m : Nat}

theorem InDirectory.unique (first : InDirectory level d j)
    (second : InDirectory level d' j) : d = d' := by
  obtain ⟨before, deeper, between⟩ := first
  obtain ⟨before', deeper', between'⟩ := second
  rcases Nat.lt_trichotomy d d' with earlier | same | later
  · have := between d' before' earlier
    omega
  · exact same
  · have := between' d before later
    omega

theorem mem_children : j ∈ children level count d ↔
    j < count ∧ InDirectory level d j := by
  simp [children]

theorem children_nodup (level : Nat → Int) (count d : Nat) :
    (children level count d).Nodup :=
  List.Nodup.filter _ List.nodup_range

private theorem children_succ : children level (count + 1) d =
    if InDirectory level d count then children level count d ++ [count]
    else children level count d := by
  unfold children
  rw [List.range_succ, List.filter_append]
  split <;> simp_all

/-- A directory has no entries before its own. -/
theorem children_of_le (bound : count ≤ d + 1) : children level count d = [] := by
  apply List.filter_eq_nil_iff.2
  intro j member passes
  have inside := List.mem_range.1 member
  have isChild : InDirectory level d j := of_decide_eq_true passes
  have := isChild.1
  omega

/-- An entry deeper than the one before it is in it. -/
theorem inDirectory_deeper (deeper : level (j + 1) = level j + 1) :
    InDirectory level d (j + 1) ↔ d = j := by
  constructor
  · intro isChild
    obtain ⟨before, sameLevel, between⟩ := isChild
    rcases Nat.lt_or_eq_of_le (Nat.le_of_lt_succ before) with earlier | same
    · have := between j (Nat.lt_succ_self j) earlier
      omega
    · exact same
  · intro same
    subst same
    refine ⟨Nat.lt_succ_self d, deeper, ?_⟩
    intro k below above
    omega

theorem Nested.of_succ (nested : Nested level dir (count + 1 + 1)) :
    Nested level dir (count + 1) where
  positive := Nat.succ_pos count
  rootLevel := nested.rootLevel
  rootDir := nested.rootDir
  follows := fun j inside => nested.follows j (Nat.lt_succ_of_lt inside)

theorem Nested.succ (nested : Nested level dir (count + 1))
    (follows : Follows level dir count) : Nested level dir (count + 1 + 1) where
  positive := Nat.succ_pos _
  rootLevel := nested.rootLevel
  rootDir := nested.rootDir
  follows := by
    intro j inside
    rcases Nat.lt_or_eq_of_le (Nat.le_of_lt_succ inside) with earlier | same
    · exact nested.follows j earlier
    · cases same
      exact follows

theorem Nested.level_pos (nested : Nested level dir count) (inside : j + 1 < count) :
    0 < level (j + 1) := by
  induction j with
  | zero =>
      have root := nested.rootLevel
      rcases nested.follows 0 inside with deeper | next
      · omega
      · exact next.1
  | succ j inductionHypothesis =>
      have above := inductionHypothesis (Nat.lt_of_succ_lt inside)
      rcases nested.follows (j + 1) inside with deeper | next
      · omega
      · exact next.1

theorem Nested.level_nonneg (nested : Nested level dir count) (inside : j < count) :
    0 ≤ level j := by
  cases j with
  | zero => exact Int.le_of_eq nested.rootLevel.symm
  | succ j => exact Int.le_of_lt (nested.level_pos inside)

/-- An entry at the level of an earlier one, everything between them deeper, is
in the same directory. -/
theorem inDirectory_sibling (before : s < m) (sameLevel : level m = level s)
    (between : ∀ k < m, s < k → level s < level k) :
    InDirectory level d m ↔ InDirectory level d s := by
  constructor
  · intro isChild
    obtain ⟨above, deeper, inner⟩ := isChild
    have earlier : d < s := by
      rcases Nat.lt_trichotomy d s with earlier | same | later
      · exact earlier
      · subst same
        omega
      · have := between d above later
        omega
    refine ⟨earlier, by omega, ?_⟩
    intro k below later
    exact inner k (by omega) later
  · intro isChild
    obtain ⟨above, deeper, inner⟩ := isChild
    refine ⟨by omega, by omega, ?_⟩
    intro k below later
    rcases Nat.lt_trichotomy k s with earlier | same | behind
    · exact inner k earlier later
    · subst same
      omega
    · have := between k below behind
      omega

/-- That earlier entry is the last one of its directory so far. -/
theorem children_sibling (before : s < m)
    (between : ∀ k < m, s < k → level s < level k)
    (isChild : InDirectory level d s) :
    children level m d = children level s d ++ [s] := by
  have behind : ∀ extra, s + 1 + extra ≤ m →
      children level (s + 1 + extra) d = children level s d ++ [s] := by
    intro extra bound
    induction extra with
    | zero => rw [Nat.add_zero, children_succ, if_pos isChild]
    | succ extra inductionHypothesis =>
        rw [← Nat.add_assoc, children_succ, if_neg]
        · exact inductionHypothesis (by omega)
        · intro other
          have := between (s + 1 + extra) (by omega) (by omega)
          have := isChild.2.1
          have := other.2.1
          omega
  have reaches := behind (m - (s + 1)) (by omega)
  rwa [show s + 1 + (m - (s + 1)) = m by omega] at reaches

/-- Every entry but the root is in a directory. -/
theorem Nested.exists_inDirectory (nested : Nested level dir count)
    (inside : j < count) (below : level j ≠ 0) : ∃ d, InDirectory level d j := by
  induction j using Nat.strongRecOn with
  | ind j inductionHypothesis =>
      cases j with
      | zero => exact absurd nested.rootLevel below
      | succ j =>
          rcases nested.follows j inside with deeper | ⟨positive, level | up⟩
          · exact ⟨j, (inDirectory_deeper deeper.1).2 rfl⟩
          · obtain ⟨d, isChild⟩ :=
              inductionHypothesis j (Nat.lt_succ_self j) (by omega) (by omega)
            exact ⟨d, (inDirectory_sibling (Nat.lt_succ_self j) level
              (fun k before after => by omega)).2 isChild⟩
          · obtain ⟨q, directory⟩ :=
              inductionHypothesis j (Nat.lt_succ_self j) (by omega) (by omega)
            have level_q := directory.2.1
            have before := directory.1
            obtain ⟨d, isChild⟩ :=
              inductionHypothesis q (by omega) (by omega) (by omega)
            refine ⟨d, (inDirectory_sibling (by omega) (by omega) ?_).2 isChild⟩
            intro k earlier later
            rcases Nat.lt_or_eq_of_le (Nat.le_of_lt_succ earlier) with
              between | same
            · exact directory.2.2 k between later
            · subst same
              omega

end Directories

/-! ## What linking makes of a table -/

/-- The links of the first `m` entries are those of their directories. -/
structure Linked (original : Entries Readcb UserData) (m : Nat)
    (linking : Linking Readcb UserData) : Prop where
  e_eq : linking.e + 1 = m
  n_eq : linking.n = (original linking.e).level
  same : SameFiles linking.entries original
  top : ∀ j < m, ∀ d, (linking.entries j).priv.top = some d ↔
    InDirectory (fun i => (original i).level) d j
  links : ∀ d < m, Links (fun i => (linking.entries i).priv.next)
    (linking.entries d).priv.sub (children (fun i => (original i).level) m d)
  numSubentry : ∀ d < m, (linking.entries d).priv.numSubentry =
    UInt32.ofNat ((children (fun i => (original i).level) m d).length - 1)

section Linked

variable {original : Entries Readcb UserData}
variable {linking : Linking Readcb UserData} {m : Nat}

private theorem linked_linkFirst (rootLevel : (original 0).level = 0) :
    Linked original 1 (linkFirst original) := by
  have none : ∀ d, children (fun i => (original i).level) 1 d = [] :=
    fun d => children_of_le (by omega)
  refine ⟨rfl, rootLevel.symm, (SameFiles.refl original).modifyPriv 0 clearPriv,
    ?_, ?_, ?_⟩
  · intro j inside d
    have isRoot : j = 0 := Nat.lt_one_iff.1 inside
    subst isRoot
    simp [linkFirst, clearPriv, InDirectory]
  · intro d inside
    have isRoot : d = 0 := Nat.lt_one_iff.1 inside
    subst isRoot
    rw [none]
    simp [linkFirst, clearPriv, Links]
  · intro d inside
    have isRoot : d = 0 := Nat.lt_one_iff.1 inside
    subst isRoot
    rw [none]
    simp [linkFirst, clearPriv]

/-- The links of the entries before `m` do not look at entry `m`. -/
theorem Linked.links_cleared (linked : Linked original m linking) {d : Nat}
    (inside : d < m) :
    Links (fun i => (linking.entries.modifyPriv m clearPriv i).priv.next)
      (linking.entries.modifyPriv m clearPriv d).priv.sub
      (children (fun i => (original i).level) m d) := by
  rw [modifyPriv_priv, if_neg (Nat.ne_of_lt inside)]
  apply (linked.links d inside).congr
  intro item member
  have before := (mem_children.1 member).1
  rw [modifyPriv_priv, if_neg (Nat.ne_of_lt before)]

/-- Entry `m` opens the directory of the entry before it. -/
theorem Linked.linkSub (linked : Linked original m linking)
    (deeper : (original m).level = linking.n + 1) :
    Linked original (m + 1)
      { entries := linkSub (linking.entries.modifyPriv m clearPriv) linking.e m
        e := m
        n := linking.n + 1 } := by
  have isLast := linked.e_eq
  subst isLast
  have isFirst : ∀ d, InDirectory (fun i => (original i).level) d (linking.e + 1) ↔
      d = linking.e := by
    intro d
    apply inDirectory_deeper
    rw [deeper, linked.n_eq]
  have opened : children (fun i => (original i).level) (linking.e + 1) linking.e = [] :=
    children_of_le (Nat.le_refl _)
  refine ⟨rfl, deeper.symm, ?_, ?_, ?_, ?_⟩
  · exact (linked.same.modifyPriv _ _).linkSub _ _
  · intro j inside d
    rw [linkSub_top]
    by_cases isNew : j = linking.e + 1
    · rw [if_pos isNew, isNew, isFirst, Option.some_inj]
      exact eq_comm
    · rw [if_neg isNew, modifyPriv_priv, if_neg isNew]
      exact linked.top j (by omega) d
  · intro d inside
    simp only [linkSub_next, linkSub_sub]
    rw [children_succ]
    by_cases isNew : d = linking.e + 1
    · subst isNew
      rw [if_neg (Nat.succ_ne_self _), if_neg, children_of_le (by omega)]
      · simp [clearPriv, Links]
      · intro inItself
        exact Nat.lt_irrefl _ inItself.1
    · by_cases isDirectory : d = linking.e
      · rw [if_pos isDirectory, if_pos ((isFirst d).2 isDirectory), isDirectory,
          opened]
        exact links_singleton (by simp [clearPriv])
      · rw [if_neg isDirectory, if_neg (mt (isFirst d).1 isDirectory)]
        exact linked.links_cleared (by omega)
  · intro d inside
    rw [linkSub_numSubentry, children_succ]
    by_cases isNew : d = linking.e + 1
    · subst isNew
      rw [if_neg, children_of_le (by omega)]
      · simp [clearPriv]
      · intro inItself
        exact Nat.lt_irrefl _ inItself.1
    · rw [modifyPriv_priv, if_neg isNew, linked.numSubentry d (by omega)]
      by_cases isDirectory : d = linking.e
      · rw [if_pos ((isFirst d).2 isDirectory), isDirectory, opened]
        rfl
      · rw [if_neg (mt (isFirst d).1 isDirectory)]

/-- Entry `m` follows the last entry of an open directory. -/
theorem Linked.linkNext (linked : Linked original m linking) {s p : Nat} {n : Int}
    (before : s < m) (sameLevel : (original m).level = (original s).level)
    (between : ∀ k < m, s < k → (original s).level < (original k).level)
    (directory : (linking.entries s).priv.top = some p)
    (isLevel : n = (original m).level) :
    Linked original (m + 1)
      { entries := linkNext (linking.entries.modifyPriv m clearPriv) s p m
        e := m
        n := n } := by
  have isChild : InDirectory (fun i => (original i).level) p s :=
    (linked.top s before p).1 directory
  have sibling : ∀ d, InDirectory (fun i => (original i).level) d m ↔ d = p := by
    intro d
    rw [inDirectory_sibling before sameLevel between]
    constructor
    · exact fun other => other.unique isChild
    · rintro rfl
      exact isChild
  have endsWith := children_sibling before between isChild
  have outside : ∀ d ≠ p, s ∉ children (fun i => (original i).level) m d := by
    intro d other member
    exact other ((mem_children.1 member).2.unique isChild)
  have notItself : ¬ InDirectory (fun i => (original i).level) m m :=
    fun inItself => Nat.lt_irrefl _ inItself.1
  have parentBefore : p < m := Nat.lt_trans isChild.1 before
  refine ⟨rfl, isLevel, ?_, ?_, ?_, ?_⟩
  · exact (linked.same.modifyPriv _ _).linkNext _ _ _
  · intro j inside d
    rw [linkNext_top]
    by_cases isNew : j = m
    · rw [if_pos isNew, isNew, sibling, Option.some_inj]
      exact eq_comm
    · rw [if_neg isNew, modifyPriv_priv, if_neg isNew]
      exact linked.top j (by omega) d
  · intro d inside
    rw [linkNext_sub, children_succ]
    have nextUpdated : (fun i => (Vfs.linkNext
          (linking.entries.modifyPriv m clearPriv) s p m i).priv.next) =
        Function.update
          (fun i => (linking.entries.modifyPriv m clearPriv i).priv.next)
          s (some m) := by
      funext i
      rw [linkNext_next, Function.update_apply]
    rw [nextUpdated]
    by_cases isNew : d = m
    · subst isNew
      rw [if_neg notItself, children_of_le (by omega)]
      simp [clearPriv, Links]
    · have links := linked.links_cleared (d := d) (by omega)
      by_cases isDirectory : d = p
      · subst isDirectory
        rw [if_pos ((sibling d).2 rfl)]
        have nodup := children_nodup (fun i => (original i).level) m d
        rw [endsWith] at links nodup ⊢
        exact links.append_fresh nodup (by simp [clearPriv]) (Nat.ne_of_gt before)
      · rw [if_neg (mt (sibling d).1 isDirectory)]
        apply links.congr
        intro item member
        apply Function.update_of_ne
        rintro rfl
        exact outside d isDirectory member
  · intro d inside
    rw [linkNext_numSubentry, children_succ]
    by_cases isNew : d = m
    · subst isNew
      rw [if_neg (Nat.ne_of_gt parentBefore), if_neg notItself,
        children_of_le (by omega)]
      simp [clearPriv]
    · rw [modifyPriv_priv, if_neg isNew, linked.numSubentry d (by omega)]
      by_cases isDirectory : d = p
      · rw [if_pos isDirectory, if_pos ((sibling d).2 isDirectory), isDirectory,
          endsWith]
        simp [UInt32.ofNat_add]
      · rw [if_neg isDirectory, if_neg (mt (sibling d).1 isDirectory)]

theorem Linked.cleared_top (linked : Linked original m linking) {j d : Nat}
    (inside : j < m) :
    (linking.entries.modifyPriv m clearPriv j).priv.top = some d ↔
      InDirectory (fun i => (original i).level) d j := by
  rw [modifyPriv_priv, if_neg (Nat.ne_of_lt inside)]
  exact linked.top j inside d

/-- One round links an entry that may follow the one before it, and rejects any
other. -/
theorem Linked.linkEntry (linked : Linked original m linking)
    (nested : Nested (fun i => (original i).level) (fun i => (original i).dir) m) :
    (Follows (fun i => (original i).level) (fun i => (original i).dir) linking.e →
      ∃ after, linkEntry linking m = some after ∧ Linked original (m + 1) after) ∧
    (¬ Follows (fun i => (original i).level) (fun i => (original i).dir) linking.e →
      Vfs.linkEntry linking m = none) := by
  have isLast := linked.e_eq
  have level_m : (linking.entries.modifyPriv m clearPriv m).level =
      (original m).level := by
    rw [modifyPriv_level, linked.same m]
  have dir_e : (linking.entries.modifyPriv m clearPriv linking.e).dir =
      (original linking.e).dir := by
    rw [modifyPriv_dir, linked.same linking.e]
  have isLevel := linked.n_eq
  have bounded : 0 ≤ (original linking.e).level :=
    nested.level_nonneg (show linking.e < m by omega)
  unfold Vfs.linkEntry Follows
  simp only [level_m, isLast]
  by_cases deeper : (original m).level = linking.n + 1
  · have notUp : (original m).level ≠ linking.n - 1 := by omega
    simp only [if_neg notUp, if_pos deeper, Option.bind_eq_bind, Option.bind_some,
      dir_e]
    constructor
    · intro follows
      have isDir : (original linking.e).dir = true := by
        rcases follows with down | level
        · exact down.2
        · omega
      rw [if_pos isDir]
      exact ⟨_, rfl, linked.linkSub deeper⟩
    · intro stops
      rw [if_neg]
      intro isDir
      exact stops (.inl ⟨by omega, isDir⟩)
  · by_cases up : (original m).level = linking.n - 1
    · by_cases atRoot : linking.n = 0
      · simp only [if_pos up, if_pos atRoot]
        refine ⟨fun follows => ?_, fun _ => rfl⟩
        rcases follows with down | level <;> omega
      · obtain ⟨q, directory⟩ := nested.exists_inDirectory
          (show linking.e < m by omega) (by omega)
        have top_e := (linked.cleared_top (by omega)).2 directory
        have level_q : (original linking.e).level = (original q).level + 1 :=
          directory.2.1
        have notDeeper : (original m).level ≠ linking.n - 1 + 1 := by omega
        simp only [if_pos up, if_neg atRoot, top_e, Option.map_some,
          Option.bind_eq_bind, Option.bind_some, if_neg notDeeper]
        by_cases isFirst : linking.n - 1 = 0
        · rw [if_pos isFirst]
          refine ⟨fun follows => ?_, fun _ => rfl⟩
          rcases follows with down | level <;> omega
        · rw [if_neg isFirst]
          obtain ⟨p, isChild⟩ := nested.exists_inDirectory
            (show q < m from Nat.lt_trans directory.1 (by omega)) (by omega)
          have inside : q < m := Nat.lt_trans directory.1 (by omega)
          have top_q := (linked.cleared_top inside).2 isChild
          have uncleared := (linked.top q inside p).2 isChild
          rw [top_q]
          refine ⟨fun _ => ⟨_, rfl, ?_⟩, fun stops => absurd ?_ stops⟩
          · apply linked.linkNext inside (by omega) ?_ uncleared up.symm
            intro k before after
            rcases Nat.lt_or_eq_of_le (show k ≤ linking.e by omega) with
              between | same
            · exact directory.2.2 k between after
            · subst same
              omega
          · exact .inr ⟨by omega, .inr (by omega)⟩
    · by_cases level : (original m).level = linking.n
      · simp only [if_neg up, Option.bind_eq_bind, Option.bind_some, if_neg deeper,
          if_pos level]
        by_cases atRoot : linking.n = 0
        · rw [if_pos atRoot]
          refine ⟨fun follows => ?_, fun _ => rfl⟩
          rcases follows with down | next <;> omega
        · rw [if_neg atRoot]
          obtain ⟨p, isChild⟩ := nested.exists_inDirectory
            (show linking.e < m by omega) (by omega)
          have top_e := (linked.cleared_top (by omega)).2 isChild
          have uncleared := (linked.top linking.e (by omega) p).2 isChild
          rw [top_e]
          refine ⟨fun _ => ⟨_, rfl, ?_⟩, fun stops => absurd ?_ stops⟩
          · apply linked.linkNext (by omega) (by omega) ?_ uncleared level.symm
            intro k before after
            omega
          · exact .inr ⟨by omega, .inl (by omega)⟩
      · simp only [if_neg up, Option.bind_eq_bind, Option.bind_some, if_neg deeper,
          if_neg level]
        refine ⟨fun follows => ?_, fun _ => trivial⟩
        rcases follows with down | next <;> omega

end Linked

/-- The loop links the first `m + 1` entries when they are nested, and stops with
a failure when they are not. -/
theorem foldlM_linkEntry (original : Entries Readcb UserData)
    (rootLevel : (original 0).level = 0) (rootDir : (original 0).dir = true)
    (m : Nat) :
    (Nested (fun i => (original i).level) (fun i => (original i).dir) (m + 1) →
      ∃ after, (List.range' 1 m).foldlM linkEntry (linkFirst original) = some after ∧
        Linked original (m + 1) after) ∧
    (¬ Nested (fun i => (original i).level) (fun i => (original i).dir) (m + 1) →
      (List.range' 1 m).foldlM linkEntry (linkFirst original) = none) := by
  induction m with
  | zero =>
      constructor
      · intro _
        exact ⟨_, rfl, linked_linkFirst rootLevel⟩
      · intro stops
        refine absurd ⟨Nat.one_pos, rootLevel, rootDir, ?_⟩ stops
        intro j inside
        omega
  | succ m inductionHypothesis =>
      rw [List.range'_1_concat, List.foldlM_append]
      by_cases nested : Nested (fun i => (original i).level)
          (fun i => (original i).dir) (m + 1)
      · obtain ⟨linking, runs, linked⟩ := inductionHypothesis.1 nested
        have isLast : linking.e = m := by
          have := linked.e_eq
          omega
        have step := linked.linkEntry nested
        rw [isLast] at step
        rw [runs, Nat.add_comm 1 m]
        constructor
        · intro longer
          obtain ⟨after, links, linked⟩ :=
            step.1 (longer.follows m (Nat.lt_succ_self _))
          exact ⟨after, by simp [links], linked⟩
        · intro stops
          have rejected := step.2 (fun follows => stops (nested.succ follows))
          simp only [Option.bind_eq_bind, Option.bind_some, List.foldlM_cons,
            rejected, Option.bind_none]
      · rw [inductionHypothesis.2 nested]
        constructor
        · intro longer
          exact absurd longer.of_succ nested
        · intro _
          rfl

/-- The links say which directory an entry is in, and lead from a directory
through its entries in the order of the table.  The first entry of a directory is
not counted. -/
structure LinksDirectories (original : Entries Readcb UserData) (count : Nat)
    (entries : Entries Readcb UserData) : Prop where
  same : SameFiles entries original
  top : ∀ j < count, ∀ d, (entries j).priv.top = some d ↔
    InDirectory (fun i => (original i).level) d j
  links : ∀ d < count, Links (fun i => (entries i).priv.next) (entries d).priv.sub
    (children (fun i => (original i).level) count d)
  numSubentry : ∀ d < count, (entries d).priv.numSubentry =
    UInt32.ofNat ((children (fun i => (original i).level) count d).length - 1)

theorem Linked.linksDirectories {original : Entries Readcb UserData}
    {linking : Linking Readcb UserData} {m : Nat}
    (linked : Linked original m linking) :
    LinksDirectories original m linking.entries :=
  ⟨linked.same, linked.top, linked.links, linked.numSubentry⟩

/-- Exactly the nested tables are accepted, and they are linked as their levels
say. -/
theorem emfatInitEntries_spec (original : Entries Readcb UserData) (count : Nat) :
    (Nested (fun i => (original i).level) (fun i => (original i).dir) count →
      ∃ entries, emfatInitEntries original count = some entries ∧
        LinksDirectories original count entries) ∧
    (¬ Nested (fun i => (original i).level) (fun i => (original i).dir) count →
      emfatInitEntries original count = none) := by
  unfold emfatInitEntries
  by_cases rejected : count = 0 ∨ (original 0).level ≠ 0 ∨ (original 0).dir = false
  · rw [if_pos rejected]
    refine ⟨fun nested => ?_, fun _ => rfl⟩
    rcases rejected with empty | level | file
    · have := nested.positive
      omega
    · exact absurd nested.rootLevel level
    · have isDir := nested.rootDir
      rw [file] at isDir
      cases isDir
  · rw [if_neg rejected]
    push Not at rejected
    obtain ⟨positive, rootLevel, rootDir⟩ := rejected
    obtain ⟨m, rfl⟩ := Nat.exists_eq_succ_of_ne_zero positive
    have run := foldlM_linkEntry original rootLevel
      (by simpa using rootDir) m
    rw [Nat.succ_sub_one]
    constructor
    · intro nested
      obtain ⟨linking, runs, linked⟩ := run.1 nested
      exact ⟨linking.entries, by rw [runs]; rfl, linked.linksDirectories⟩
    · intro stops
      rw [run.2 stops]
      rfl

/-- The pass accepts exactly the nested tables, and whatever it accepts is linked
as the levels of the table say. -/
theorem emfatInitEntries_accepts_iff (original : Entries Readcb UserData)
    (count : Nat) :
    ((∃ entries, emfatInitEntries original count = some entries) ↔
      Nested (fun i => (original i).level) (fun i => (original i).dir) count) ∧
    ∀ entries, emfatInitEntries original count = some entries →
      LinksDirectories original count entries := by
  obtain ⟨accepted, rejected⟩ := emfatInitEntries_spec original count
  by_cases nested :
      Nested (fun i => (original i).level) (fun i => (original i).dir) count
  · obtain ⟨linked, isLinked, links⟩ := accepted nested
    refine ⟨iff_of_true ⟨linked, isLinked⟩ nested, ?_⟩
    intro entries isSome
    rw [isLinked] at isSome
    cases isSome
    exact links
  · have stops := rejected nested
    constructor
    · refine iff_of_false ?_ nested
      rintro ⟨entries, isSome⟩
      rw [stops] at isSome
      cases isSome
    · intro entries isSome
      rw [stops] at isSome
      cases isSome

end SelfWriter.Vfs
