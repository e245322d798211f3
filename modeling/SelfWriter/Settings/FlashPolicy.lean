import Mathlib.Logic.Function.Basic
import Mathlib.Algebra.Group.Nat.Defs
import SelfWriter.Lib.LittleEndian

/-!
# The settings store

`FlasRWPolcy` (`settings/flash_rw_polcy.rs`) keeps one settings image in one
page of the controller's own flash: the image in 64-bit words, then the CRC of
the image as one more word.  `SettingsManager` is the generic owner of the work
copy (`lib/flash-settings.rs`).

The erase of the page and every 64-bit program are single steps; power may be
lost between any two of them.
-/

namespace SelfWriter.Settings

open SelfWriter.Lib.LittleEndian

/-! ## The generic settings manager -/

inductive LoadError (Err : Type) where
  | readError (error : Err)
  | conststenceError
  deriving DecidableEq, Repr

/-- `load` fills the caller's buffer before it answers. -/
structure Loaded (Err : Type) where
  data : List UInt8
  result : Except (LoadError Err) Unit

/-- A storage policy over some medium. -/
structure StoragePolicy (Medium Err : Type) where
  store : List UInt8 → Medium → Except Err Unit × Medium
  load : Nat → Medium → Loaded Err

structure SettingsManager where
  workCopy : List UInt8
  default : List UInt8

namespace SettingsManager

variable {Medium Err : Type}

/-- `SettingsManager::new`; `none` is a panic. -/
def new (polcy : StoragePolicy Medium Err) (default : List UInt8)
    (medium : Medium) : Option (SettingsManager × Medium) :=
  let loaded := polcy.load default.length medium
  match loaded.result with
  | .ok () => some ({ workCopy := loaded.data, default := default }, medium)
  | .error .conststenceError =>
      match polcy.store default medium with
      | (.ok (), saved) =>
          some ({ workCopy := default, default := default }, saved)
      | (.error _, _) => none
  | .error (.readError _) => none

def save (polcy : StoragePolicy Medium Err) (manager : SettingsManager)
    (medium : Medium) : Except Err Unit × Medium :=
  polcy.store manager.workCopy medium

end SettingsManager

/-! ## The flash page -/

/-- The page from its first word on, as seen through the memory map. -/
abbrev Contents := Nat → UInt64

def erasedWord : UInt64 := 0xFFFFFFFFFFFFFFFF

inductive FlashError where
  | failure
  deriving DecidableEq, Repr

inductive FlashStep where
  | erasePage
  | program (index : Nat) (word : UInt64)
  deriving DecidableEq, Repr

def lenInU64Aligned (length : Nat) : Nat :=
  if length % 8 ≠ 0 then length / 8 + 1 else length / 8

/-- `Placeholder<T>` in the settings region: the linker has found room for the
image and its CRC in one page. -/
structure Placeholder where
  imageLen : Nat
  pageWords : Nat
  fits : lenInU64Aligned imageLen + 1 ≤ pageWords

/-- The flash controller refuses to program a word that is not erased. -/
def FlashStep.apply (placed : Placeholder) (contents : Contents) :
    FlashStep → Except FlashError Contents
  | .erasePage =>
      .ok (fun index =>
        if index < placed.pageWords then erasedWord else contents index)
  | .program index word =>
      if contents index = erasedWord then
        .ok (Function.update contents index word)
      else
        .error .failure

/-- Steps are taken in order up to the first that fails. -/
def runSteps (placed : Placeholder) :
    List FlashStep → Contents → Except FlashError Unit × Contents
  | [], contents => (.ok (), contents)
  | step :: rest, contents =>
      match step.apply placed contents with
      | .ok after => runSteps placed rest after
      | .error error => (.error error, contents)

/-- One `write_native` call. -/
def writeNative : Nat → List UInt64 → List FlashStep
  | _, [] => []
  | index, word :: words => .program index word :: writeNative (index + 1) words

/-- The image's bytes are followed in RAM by whatever is `behind` them. -/
def ramByte (data : List UInt8) (behind : Nat → UInt8) (index : Nat) : UInt8 :=
  if inside : index < data.length then data.get ⟨index, inside⟩
  else behind index

/-- `data.as_ptr() as *const u64`. -/
def ramWord (data : List UInt8) (behind : Nat → UInt8) (index : Nat) : UInt64 :=
  UInt64.ofNat (ofBytes
    ((List.range 8).map (fun part => ramByte data behind (8 * index + part))))

def flashByte (contents : Contents) (index : Nat) : UInt8 :=
  byteAt (contents (index / 8)).toNat (index % 8)

/-- The policy's parameters: its page, the CRC unit, and the RAM behind the
image that is stored. -/
structure FlasRWPolcy where
  placed : Placeholder
  crcUnit : List UInt8 → UInt32
  behind : Nat → UInt8

namespace FlasRWPolcy

def crc (polcy : FlasRWPolcy) (data : List UInt8) : UInt32 :=
  ~~~ polcy.crcUnit data

def imageWords (polcy : FlasRWPolcy) (data : List UInt8) : List UInt64 :=
  (List.range (lenInU64Aligned data.length)).map (ramWord data polcy.behind)

def storeSteps (polcy : FlasRWPolcy) (data : List UInt8) : List FlashStep :=
  .erasePage ::
    (writeNative 0 (polcy.imageWords data) ++
      writeNative (lenInU64Aligned data.length) [(polcy.crc data).toUInt64])

def store (polcy : FlasRWPolcy) (data : List UInt8) (contents : Contents) :
    Except FlashError Unit × Contents :=
  runSteps polcy.placed (polcy.storeSteps data) contents

/-- Power is lost after the given number of steps. -/
def storeCut (polcy : FlasRWPolcy) (data : List UInt8) (steps : Nat)
    (contents : Contents) : Contents :=
  (runSteps polcy.placed ((polcy.storeSteps data).take steps) contents).2

def load (polcy : FlasRWPolcy) (length : Nat) (contents : Contents) :
    Loaded FlashError :=
  let data := (List.range length).map (flashByte contents)
  { data := data
    result :=
      if contents (lenInU64Aligned data.length) ≠ (polcy.crc data).toUInt64 then
        .error .conststenceError
      else
        .ok () }

def policy (polcy : FlasRWPolcy) : StoragePolicy Contents FlashError where
  store := polcy.store
  load := polcy.load

end FlasRWPolcy

/-! ## The page while an image is being stored -/

/-- The page with its first words programmed and the others still erased. -/
def staged (placed : Placeholder) (contents : Contents)
    (words : List UInt64) : Contents := fun index =>
  if inside : index < words.length then words.get ⟨index, inside⟩
  else if index < placed.pageWords then erasedWord
  else contents index

section Staging

variable (placed : Placeholder) (contents : Contents)

private theorem staged_of_lt {words : List UInt64} {index : Nat}
    (inside : index < words.length) :
    staged placed contents words index = words[index] :=
  dif_pos inside

private theorem staged_of_ge {words : List UInt64} {index : Nat}
    (beyond : words.length ≤ index) (inPage : index < placed.pageWords) :
    staged placed contents words index = erasedWord := by
  unfold staged
  rw [dif_neg (Nat.not_lt.2 beyond), if_pos inPage]

private theorem erasePage_eq_staged :
    FlashStep.apply placed contents .erasePage =
      .ok (staged placed contents []) :=
  rfl

private theorem update_staged (words : List UInt64) (word : UInt64) :
    Function.update (staged placed contents words) words.length word =
      staged placed contents (words ++ [word]) := by
  funext index
  rcases Nat.lt_trichotomy index words.length with before | rfl | behind
  · rw [Function.update_of_ne (Nat.ne_of_lt before),
      staged_of_lt _ _ before, staged_of_lt _ _ (by
        rw [List.length_append]
        omega), List.getElem_append_left before]
  · rw [Function.update_self, staged_of_lt _ _ (by
        rw [List.length_append]
        exact Nat.lt_succ_self _), List.getElem_concat_length rfl]
  · rw [Function.update_of_ne (Nat.ne_of_gt behind)]
    unfold staged
    rw [dif_neg (Nat.not_lt.2 (Nat.le_of_lt behind)), dif_neg (by
      rw [List.length_append]
      exact Nat.not_lt.2 behind)]

/-- Programming goes on word by word as long as the page has room. -/
theorem runSteps_writeNative (later : List UInt64) :
    ∀ words : List UInt64,
      words.length + later.length ≤ placed.pageWords →
      runSteps placed (writeNative words.length later)
          (staged placed contents words) =
        (.ok (), staged placed contents (words ++ later)) := by
  induction later with
  | nil =>
      intro words _
      rw [List.append_nil]
      rfl
  | cons word later inductionHypothesis =>
      intro words room
      rw [List.length_cons] at room
      have erased : staged placed contents words words.length = erasedWord :=
        staged_of_ge _ _ (Nat.le_refl _) (by omega)
      have next := inductionHypothesis (words ++ [word]) (by
        rw [List.length_append, List.length_singleton]
        omega)
      rw [List.length_append, List.length_singleton, List.append_assoc,
        List.singleton_append] at next
      simp only [writeNative, runSteps, FlashStep.apply, if_pos erased,
        update_staged]
      exact next

end Staging

private theorem writeNative_append (words later : List UInt64) :
    ∀ index, writeNative index (words ++ later) =
      writeNative index words ++ writeNative (index + words.length) later := by
  induction words with
  | nil =>
      intro index
      rfl
  | cons word words inductionHypothesis =>
      intro index
      rw [List.cons_append, writeNative, writeNative, List.cons_append,
        inductionHypothesis, List.length_cons, Nat.add_assoc,
        Nat.add_comm 1]

private theorem take_writeNative (words : List UInt64) :
    ∀ index count, (writeNative index words).take count =
      writeNative index (words.take count) := by
  induction words with
  | nil =>
      intro index count
      rw [List.take_nil]
      exact List.take_nil
  | cons word words inductionHypothesis =>
      intro index count
      cases count with
      | zero => rfl
      | succ count =>
          rw [writeNative, List.take_succ_cons, List.take_succ_cons,
            writeNative, inductionHypothesis]

private theorem writeNative_length (words : List UInt64) :
    ∀ index, (writeNative index words).length = words.length := by
  induction words with
  | nil =>
      intro index
      rfl
  | cons word words inductionHypothesis =>
      intro index
      rw [writeNative, List.length_cons, List.length_cons, inductionHypothesis]

namespace FlasRWPolcy

variable (polcy : FlasRWPolcy) (data : List UInt8) (contents : Contents)

/-- Everything that is programmed into the page: the image, then its CRC. -/
def pageImage : List UInt64 :=
  polcy.imageWords data ++ [(polcy.crc data).toUInt64]

private theorem imageWords_length :
    (polcy.imageWords data).length = lenInU64Aligned data.length := by
  rw [imageWords, List.length_map, List.length_range]

private theorem pageImage_length :
    (polcy.pageImage data).length = lenInU64Aligned data.length + 1 := by
  rw [pageImage, List.length_append, imageWords_length, List.length_singleton]

private theorem storeSteps_eq :
    polcy.storeSteps data =
      .erasePage :: writeNative 0 (polcy.pageImage data) := by
  rw [storeSteps, pageImage, writeNative_append, imageWords_length,
    Nat.zero_add]

private theorem storeSteps_length :
    (polcy.storeSteps data).length = lenInU64Aligned data.length + 2 := by
  rw [storeSteps_eq, List.length_cons, writeNative_length, pageImage_length]

variable (length : data.length = polcy.placed.imageLen)

include length in
theorem pageImage_fits :
    (polcy.pageImage data).length ≤ polcy.placed.pageWords := by
  rw [pageImage_length, length]
  exact polcy.placed.fits

include length in
theorem runSteps_take_succ (steps : Nat) :
    runSteps polcy.placed ((polcy.storeSteps data).take (steps + 1)) contents =
      (.ok (), staged polcy.placed contents
        ((polcy.pageImage data).take steps)) := by
  have fits := polcy.pageImage_fits data length
  have programmed := runSteps_writeNative polcy.placed contents
    ((polcy.pageImage data).take steps) [] (by
      rw [List.length_nil, Nat.zero_add, List.length_take]
      omega)
  rw [List.length_nil, List.nil_append] at programmed
  rw [storeSteps_eq, List.take_succ_cons, take_writeNative, runSteps,
    erasePage_eq_staged]
  exact programmed

private theorem storeCut_zero : polcy.storeCut data 0 contents = contents :=
  rfl

include length in
theorem storeCut_succ (steps : Nat) :
    polcy.storeCut data (steps + 1) contents =
      staged polcy.placed contents ((polcy.pageImage data).take steps) := by
  rw [storeCut, runSteps_take_succ polcy data contents length]

include length in
/-- An undisturbed store succeeds. -/
theorem store_eq :
    polcy.store data contents =
      (.ok (), staged polcy.placed contents (polcy.pageImage data)) := by
  have all := runSteps_take_succ polcy data contents length
    (lenInU64Aligned data.length + 1)
  rw [← pageImage_length polcy data, List.take_length,
    pageImage_length polcy data, ← storeSteps_length polcy data,
    List.take_length] at all
  exact all

/-! ## Reading the page back -/

theorem lenInU64Aligned_spec (count : Nat) :
    count ≤ 8 * lenInU64Aligned count ∧
      8 * lenInU64Aligned count < count + 8 := by
  unfold lenInU64Aligned
  split <;> omega

private theorem load_data_length (count : Nat) :
    (polcy.load count contents).data.length = count := by
  rw [load, List.length_map, List.length_range]

private theorem load_result_ok_iff (count : Nat) :
    (polcy.load count contents).result = .ok () ↔
      contents (lenInU64Aligned count) =
        (polcy.crc (polcy.load count contents).data).toUInt64 := by
  have size := polcy.load_data_length contents count
  unfold load at size ⊢
  simp only [size]
  by_cases same : contents (lenInU64Aligned count) =
      (polcy.crc ((List.range count).map (flashByte contents))).toUInt64
  · rw [if_neg (not_not.2 same)]
    exact ⟨fun _ => same, fun _ => rfl⟩
  · rw [if_pos same]
    exact ⟨fun impossible => (by cases impossible),
      fun equal => absurd equal same⟩

/-- `load` has no other error. -/
theorem load_result_of_not_ok {count : Nat}
    (failed : (polcy.load count contents).result ≠ .ok ()) :
    (polcy.load count contents).result = .error .conststenceError := by
  unfold load at failed ⊢
  simp only at failed ⊢
  split at failed
  · rename_i differs
    rw [if_pos differs]
  · exact absurd rfl failed

/-- A word that was never programmed is not the CRC of anything. -/
theorem erasedWord_ne_crc (image : List UInt8) :
    erasedWord ≠ (polcy.crc image).toUInt64 := by
  intro same
  have bound := (polcy.crc image).toNat_lt
  have large := congrArg UInt64.toNat same
  rw [UInt32.toNat_toUInt64] at large
  rw [← large] at bound
  exact absurd bound (by decide)

private theorem flashByte_ramWord (word : Nat) {part : Nat} (inside : part < 8) :
    byteAt (ramWord data polcy.behind word).toNat part =
      ramByte data polcy.behind (8 * word + part) := by
  have size : ((List.range 8).map
      (fun part => ramByte data polcy.behind (8 * word + part))).length = 8 := by
    rw [List.length_map, List.length_range]
  have small := ofBytes_lt ((List.range 8).map
    (fun part => ramByte data polcy.behind (8 * word + part)))
  rw [size, show 256 ^ 8 = 2 ^ 64 from rfl] at small
  rw [ramWord, UInt64.toNat_ofNat', Nat.mod_eq_of_lt small,
    byteAt_ofBytes _ (by rw [size]; exact inside), List.getElem_map,
    List.getElem_range]

/-- The stored image is read back byte for byte. -/
theorem load_data_of_pageImage :
    (polcy.load data.length
      (staged polcy.placed contents (polcy.pageImage data))).data = data := by
  apply List.ext_getElem (polcy.load_data_length _ _)
  intro index _ inside
  have room := (lenInU64Aligned_spec data.length).1
  have image : index / 8 < (polcy.imageWords data).length := by
    rw [imageWords_length]
    omega
  have inPage : index / 8 < (polcy.pageImage data).length := by
    rw [pageImage_length]
    rw [imageWords_length] at image
    omega
  simp only [load, List.getElem_map, List.getElem_range, flashByte]
  rw [staged_of_lt _ _ inPage]
  simp only [pageImage]
  rw [List.getElem_append_left image]
  simp only [imageWords, List.getElem_map, List.getElem_range]
  rw [flashByte_ramWord polcy data (index / 8) (Nat.mod_lt _ (by decide)),
    Nat.div_add_mod, ramByte, dif_pos inside]
  rfl

private theorem load_pageImage :
    polcy.load data.length
        (staged polcy.placed contents (polcy.pageImage data)) =
      { data := data, result := .ok () } := by
  have same := polcy.load_data_of_pageImage data contents
  have result := polcy.load_result_ok_iff
    (staged polcy.placed contents (polcy.pageImage data)) data.length
  rw [same] at result
  have crcInside : lenInU64Aligned data.length <
      (polcy.pageImage data).length := by
    rw [pageImage_length]
    exact Nat.lt_succ_self _
  have crcWord : staged polcy.placed contents (polcy.pageImage data)
      (lenInU64Aligned data.length) = (polcy.crc data).toUInt64 := by
    rw [staged_of_lt _ _ crcInside]
    simp only [pageImage]
    rw [List.getElem_append_right (by rw [imageWords_length])]
    simp only [imageWords_length, Nat.sub_self, List.getElem_cons_zero]
  have ok := result.2 crcWord
  cases loaded : polcy.load data.length
      (staged polcy.placed contents (polcy.pageImage data)) with
  | mk buffer outcome =>
      rw [loaded] at same ok
      rw [show buffer = data from same, show outcome = .ok () from ok]

include length in
/-- Without its last word the page is not accepted. -/
theorem load_take_pageImage {steps : Nat}
    (early : steps ≤ lenInU64Aligned data.length) :
    (polcy.load data.length (staged polcy.placed contents
      ((polcy.pageImage data).take steps))).result =
        .error .conststenceError := by
  apply polcy.load_result_of_not_ok
  rw [Ne, polcy.load_result_ok_iff]
  have fits := polcy.pageImage_fits data length
  rw [pageImage_length] at fits
  rw [staged_of_ge _ _ (by rw [List.length_take]; omega) (by omega)]
  exact polcy.erasedWord_ne_crc _

/-! ## Losing power during a store -/

include length in
/-- After a store cut anywhere, `load` accepts the earlier contents when nothing
was done, the new image when everything was done, and rejects the page
otherwise. -/
theorem load_storeCut {steps : Nat}
    (within : steps ≤ (polcy.storeSteps data).length) :
    (∀ image,
      (polcy.load data.length (polcy.storeCut data steps contents) =
          { data := image, result := .ok () } ↔
        (steps = 0 ∧ polcy.load data.length contents =
          { data := image, result := .ok () }) ∨
        (steps = (polcy.storeSteps data).length ∧ image = data))) ∧
    ((polcy.load data.length (polcy.storeCut data steps contents)).result =
        .ok () ∨
      (polcy.load data.length (polcy.storeCut data steps contents)).result =
        .error .conststenceError) := by
  constructor
  · intro image
    rw [storeSteps_length] at within ⊢
    cases steps with
    | zero =>
        rw [storeCut_zero]
        constructor
        · exact fun loaded => .inl ⟨rfl, loaded⟩
        · rintro (⟨_, loaded⟩ | ⟨impossible, _⟩)
          · exact loaded
          · omega
    | succ steps =>
        rw [polcy.storeCut_succ data contents length]
        rcases Nat.lt_or_ge steps (lenInU64Aligned data.length + 1) with
          early | late
        · have rejected := polcy.load_take_pageImage data contents length
            (Nat.le_of_lt_succ early)
          constructor
          · intro loaded
            rw [loaded] at rejected
            cases rejected
          · rintro (⟨impossible, _⟩ | ⟨impossible, _⟩) <;> omega
        · have all : (polcy.pageImage data).take steps =
              polcy.pageImage data := by
            apply List.take_of_length_le
            rw [pageImage_length]
            exact late
          rw [all, load_pageImage]
          constructor
          · intro loaded
            injection loaded with same
            exact .inr ⟨by omega, same.symm⟩
          · rintro (⟨impossible, _⟩ | ⟨_, rfl⟩)
            · omega
            · rfl
  · rcases em ((polcy.load data.length
        (polcy.storeCut data steps contents)).result = .ok ()) with ok | failed
    · exact .inl ok
    · exact .inr (polcy.load_result_of_not_ok _ failed)

/-! ## Starting from the page -/

/-- `new` takes the image that `load` accepts. -/
theorem new_of_ok {default : List UInt8}
    (ok : (polcy.load default.length contents).result = .ok ()) :
    SettingsManager.new polcy.policy default contents =
      some ({ workCopy := (polcy.load default.length contents).data
              default := default }, contents) := by
  simp only [SettingsManager.new, policy, ok]

/-- Otherwise `new` takes the defaults and stores them. -/
theorem new_of_rejected {default : List UInt8}
    (defaultLength : default.length = polcy.placed.imageLen)
    (rejected : (polcy.load default.length contents).result =
      .error .conststenceError) :
    SettingsManager.new polcy.policy default contents =
      some ({ workCopy := default, default := default },
        staged polcy.placed contents (polcy.pageImage default)) := by
  simp only [SettingsManager.new, policy, rejected,
    polcy.store_eq default contents defaultLength]

/-- Power may be lost after any step of a store.  Later `load` accepts only the
untouched earlier image or the complete new one, and a manager starts with one
of these or with the defaults, which it then stores. -/
theorem store_crash_consistent (default : List UInt8) (steps : Nat)
    (dataLength : data.length = polcy.placed.imageLen)
    (defaultLength : default.length = polcy.placed.imageLen)
    (within : steps ≤ (polcy.storeSteps data).length) :
    (∀ image,
      (polcy.load data.length (polcy.storeCut data steps contents) =
          { data := image, result := .ok () } ↔
        (steps = 0 ∧ polcy.load data.length contents =
          { data := image, result := .ok () }) ∨
        (steps = (polcy.storeSteps data).length ∧ image = data))) ∧
    ((polcy.load data.length (polcy.storeCut data steps contents)).result =
        .ok () ∨
      (polcy.load data.length (polcy.storeCut data steps contents)).result =
        .error .conststenceError) ∧
    ∃ manager medium,
      SettingsManager.new polcy.policy default
          (polcy.storeCut data steps contents) = some (manager, medium) ∧
      ((steps = 0 ∧ polcy.load data.length contents =
          { data := manager.workCopy, result := .ok () }) ∨
        (steps = (polcy.storeSteps data).length ∧ manager.workCopy = data) ∨
        (manager.workCopy = default ∧
          polcy.load data.length medium =
            { data := default, result := .ok () })) := by
  obtain ⟨accepted, decided⟩ :=
    polcy.load_storeCut data contents dataLength within
  refine ⟨accepted, decided, ?_⟩
  have sameLength : data.length = default.length := by
    rw [dataLength, defaultLength]
  rcases decided with ok | rejected
  · rw [sameLength] at ok
    refine ⟨_, _, polcy.new_of_ok _ ok, ?_⟩
    rw [← sameLength] at ok ⊢
    have loaded := (accepted (polcy.load data.length
      (polcy.storeCut data steps contents)).data).1 (by rw [← ok])
    rcases loaded with earlier | complete
    · exact .inl earlier
    · exact .inr (.inl complete)
  · rw [sameLength] at rejected
    refine ⟨_, _, polcy.new_of_rejected _ defaultLength rejected, ?_⟩
    rw [sameLength]
    exact .inr (.inr ⟨rfl, polcy.load_pageImage default _⟩)

end FlasRWPolcy

/-- An eleven-byte image in a page of four words, under a CRC unit that only
sums the bytes. -/
def samplePolcy : FlasRWPolcy where
  placed := { imageLen := 11, pageWords := 4, fits := by decide }
  crcUnit := fun data => data.foldl (fun sum byte => sum + byte.toUInt32) 0
  behind := fun _ => 0xA5

theorem store_crash_consistent_samplePolcy :
    (∀ image,
      (samplePolcy.load 11
          (samplePolcy.storeCut (List.replicate 11 7) 3 (fun _ => 0)) =
          { data := image, result := .ok () } ↔
        (3 = 0 ∧ samplePolcy.load 11 (fun _ => 0) =
          { data := image, result := .ok () }) ∨
        (3 = (samplePolcy.storeSteps (List.replicate 11 7)).length ∧
          image = List.replicate 11 7))) ∧
    ((samplePolcy.load 11
        (samplePolcy.storeCut (List.replicate 11 7) 3 (fun _ => 0))).result =
        .ok () ∨
      (samplePolcy.load 11
        (samplePolcy.storeCut (List.replicate 11 7) 3 (fun _ => 0))).result =
        .error .conststenceError) ∧
    ∃ manager medium,
      SettingsManager.new samplePolcy.policy (List.replicate 11 1)
          (samplePolcy.storeCut (List.replicate 11 7) 3 (fun _ => 0)) =
        some (manager, medium) ∧
      ((3 = 0 ∧ samplePolcy.load 11 (fun _ => 0) =
          { data := manager.workCopy, result := .ok () }) ∨
        (3 = (samplePolcy.storeSteps (List.replicate 11 7)).length ∧
          manager.workCopy = List.replicate 11 7) ∨
        (manager.workCopy = List.replicate 11 1 ∧
          samplePolcy.load 11 medium =
            { data := List.replicate 11 1, result := .ok () })) :=
  samplePolcy.store_crash_consistent (List.replicate 11 7) (fun _ => 0)
    (List.replicate 11 1) 3 rfl rfl (by decide)

end SelfWriter.Settings
