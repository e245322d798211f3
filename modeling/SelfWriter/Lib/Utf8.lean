import Mathlib.Tactic.Common
import Mathlib.Data.List.Forall2

/-!
# Lossy decoding of UTF-8

A character is a lead byte followed by continuation bytes, each in a range that
the lead byte fixes.  Lossy decoding replaces every longest run of bytes that
begins a character but does not complete it by one replacement character.
-/

namespace SelfWriter.Lib.Utf8

/-! ## Characters -/

/-- The ranges of the bytes behind a lead byte. -/
def continuation (lead : UInt8) : Option (List (UInt8 × UInt8)) :=
  if lead < 0x80 then some []
  else if 0xC2 ≤ lead ∧ lead ≤ 0xDF then some [(0x80, 0xBF)]
  else if lead = 0xE0 then some [(0xA0, 0xBF), (0x80, 0xBF)]
  else if lead = 0xED then some [(0x80, 0x9F), (0x80, 0xBF)]
  else if 0xE1 ≤ lead ∧ lead ≤ 0xEF then some [(0x80, 0xBF), (0x80, 0xBF)]
  else if lead = 0xF0 then some [(0x90, 0xBF), (0x80, 0xBF), (0x80, 0xBF)]
  else if lead = 0xF4 then some [(0x80, 0x8F), (0x80, 0xBF), (0x80, 0xBF)]
  else if 0xF1 ≤ lead ∧ lead ≤ 0xF3 then
    some [(0x80, 0xBF), (0x80, 0xBF), (0x80, 0xBF)]
  else none

/-- The bytes stay in the ranges, one by one. -/
def InRanges (ranges : List (UInt8 × UInt8)) (bytes : List UInt8) : Prop :=
  List.Forall₂ (fun range byte => range.1 ≤ byte ∧ byte ≤ range.2) ranges bytes

inductive IsUtf8 : List UInt8 → Prop where
  | nil : IsUtf8 []
  | char {lead : UInt8} {ranges : List (UInt8 × UInt8)}
      {tail rest : List UInt8} (leads : continuation lead = some ranges)
      (fits : InRanges ranges tail) (others : IsUtf8 rest) :
      IsUtf8 (lead :: (tail ++ rest))

theorem continuation_ranges {lead : UInt8} {ranges : List (UInt8 × UInt8)}
    (leads : continuation lead = some ranges) :
    ∀ range ∈ ranges, 0x80 ≤ range.1 ∧ range.2 ≤ 0xBF := by
  intro range member
  simp only [continuation] at leads
  repeat' split at leads
  all_goals
    cases leads
  all_goals
    simp only [List.mem_cons, List.not_mem_nil, or_false] at member
  all_goals
    rcases member with rfl | rfl | rfl <;> decide

/-- A continuation byte leads no character. -/
theorem continuation_of_between {byte : UInt8} (low : 0x80 ≤ byte)
    (high : byte ≤ 0xBF) : continuation byte = none := by
  rw [UInt8.le_iff_toNat_le] at low high
  have low' : 128 ≤ byte.toNat := low
  have high' : byte.toNat ≤ 191 := high
  simp only [continuation, UInt8.lt_iff_toNat_lt, UInt8.le_iff_toNat_le,
    ← UInt8.toNat_inj]
  simp only [UInt8.reduceToNat]
  repeat' split
  all_goals first | rfl | omega

theorem InRanges.between {ranges : List (UInt8 × UInt8)} {tail : List UInt8}
    (fits : InRanges ranges tail)
    (limits : ∀ range ∈ ranges, 0x80 ≤ range.1 ∧ range.2 ≤ 0xBF) :
    ∀ byte ∈ tail, 0x80 ≤ byte ∧ byte ≤ 0xBF := by
  induction fits with
  | nil => exact fun _ member => absurd member List.not_mem_nil
  | @cons range first _ others within _ inductionHypothesis =>
      rw [List.forall_mem_cons] at limits
      rw [List.forall_mem_cons]
      exact ⟨⟨UInt8.le_trans limits.1.1 within.1,
        UInt8.le_trans within.2 limits.1.2⟩, inductionHypothesis limits.2⟩

/-- What stands before a lead byte is text of its own. -/
theorem IsUtf8.before_lead {text : List UInt8} (isUtf8 : IsUtf8 text) :
    ∀ {front rest : List UInt8} {lead : UInt8},
      text = front ++ lead :: rest → continuation lead ≠ none →
        IsUtf8 front := by
  induction isUtf8 with
  | nil =>
      intro front rest lead split _
      exact absurd split (by simp)
  | @char first ranges tail others leads fits _ inductionHypothesis =>
      intro front rest lead split leadByte
      cases front with
      | nil => exact .nil
      | cons head front =>
          rw [List.cons_append, List.cons.injEq] at split
          obtain ⟨rfl, split⟩ := split
          rcases List.append_eq_append_iff.mp split with
            ⟨middle, rfl, behind⟩ | ⟨middle, inTail, _⟩
          · exact .char leads fits (inductionHypothesis behind leadByte)
          · cases middle with
            | nil =>
                rw [List.append_nil] at inTail
                have fits' := fits
                rw [inTail] at fits'
                rw [← List.append_nil front]
                exact .char leads fits' .nil
            | cons byte middle =>
                exfalso
                rename_i behind
                rw [List.cons_append, List.cons.injEq] at behind
                obtain ⟨rfl, _⟩ := behind
                obtain ⟨low, high⟩ := fits.between (continuation_ranges leads)
                  lead (by rw [inTail]; simp)
                exact leadByte (continuation_of_between low high)

/-! ## Decoding -/

/-- The replacement character U+FFFD. -/
def replacement : List UInt8 := [0xEF, 0xBF, 0xBD]

/-- How many of the bytes stay in the ranges before one does not. -/
def matched : List (UInt8 × UInt8) → List UInt8 → Nat
  | range :: ranges, byte :: bytes =>
      if range.1 ≤ byte ∧ byte ≤ range.2 then matched ranges bytes + 1 else 0
  | _, _ => 0

/-- Lossy decoding, of at most the given number of characters. -/
def lossyFrom : Nat → List UInt8 → List UInt8
  | fuel + 1, lead :: rest =>
      match continuation lead with
      | none => replacement ++ lossyFrom fuel rest
      | some ranges =>
          let count := matched ranges rest
          (if count = ranges.length then lead :: rest.take count
            else replacement) ++
            lossyFrom fuel (rest.drop count)
  | _, _ => []

/-- Every character takes at least one byte. -/
def lossy (bytes : List UInt8) : List UInt8 :=
  lossyFrom bytes.length bytes

theorem matched_append {ranges : List (UInt8 × UInt8)} {tail : List UInt8}
    (fits : InRanges ranges tail) (rest : List UInt8) :
    matched ranges (tail ++ rest) = ranges.length := by
  induction fits with
  | nil => cases rest <;> rfl
  | cons within _ inductionHypothesis =>
      rw [List.cons_append, matched, if_pos within, inductionHypothesis,
        List.length_cons]

theorem matched_take {ranges : List (UInt8 × UInt8)} {tail : List UInt8}
    (fits : InRanges ranges tail) :
    ∀ count, count ≤ tail.length → matched ranges (tail.take count) = count := by
  induction fits with
  | nil =>
      intro count bound
      rw [List.length_nil, Nat.le_zero] at bound
      rw [bound]
      rfl
  | cons within _ inductionHypothesis =>
      intro count bound
      cases count with
      | zero => rfl
      | succ count =>
          rw [List.length_cons] at bound
          rw [List.take_succ_cons, matched, if_pos within,
            inductionHypothesis count (by omega)]

theorem inRanges_of_matched {ranges : List (UInt8 × UInt8)} :
    ∀ {bytes : List UInt8}, matched ranges bytes = ranges.length →
      InRanges ranges (bytes.take ranges.length) := by
  induction ranges with
  | nil =>
      intro bytes _
      exact .nil
  | cons range ranges inductionHypothesis =>
      intro bytes all
      cases bytes with
      | nil => exact absurd all (by simp [matched])
      | cons byte bytes =>
          by_cases within : range.1 ≤ byte ∧ byte ≤ range.2
          · rw [matched, if_pos within, List.length_cons] at all
            exact .cons within (inductionHypothesis (by omega))
          · rw [matched, if_neg within, List.length_cons] at all
            exact absurd all (by omega)

/-- One complete character in front is kept. -/
theorem lossyFrom_char {lead : UInt8} {ranges : List (UInt8 × UInt8)}
    {tail : List UInt8} (leads : continuation lead = some ranges)
    (fits : InRanges ranges tail) (rest : List UInt8) (fuel : Nat) :
    lossyFrom (fuel + 1) (lead :: (tail ++ rest)) =
      lead :: (tail ++ lossyFrom fuel rest) := by
  have count := matched_append fits rest
  rw [fits.length_eq] at count
  simp [lossyFrom, leads, count, fits.length_eq]

/-- Text is decoded as it is. -/
theorem lossyFrom_of_isUtf8 {text : List UInt8} (isUtf8 : IsUtf8 text) :
    ∀ fuel, text.length ≤ fuel → lossyFrom fuel text = text := by
  induction isUtf8 with
  | nil =>
      intro fuel _
      cases fuel <;> rfl
  | char leads fits _ inductionHypothesis =>
      intro fuel enough
      rw [List.length_cons, List.length_append] at enough
      cases fuel with
      | zero => omega
      | succ fuel =>
          rw [lossyFrom_char leads fits, inductionHypothesis fuel (by omega)]

theorem lossy_of_isUtf8 {text : List UInt8} (isUtf8 : IsUtf8 text) :
    lossy text = text :=
  lossyFrom_of_isUtf8 isUtf8 _ (Nat.le_refl _)

theorem isUtf8_replacement_append {text : List UInt8}
    (isUtf8 : IsUtf8 text) : IsUtf8 (replacement ++ text) := by
  have leads : continuation 0xEF = some [(0x80, 0xBF), (0x80, 0xBF)] := by
    decide
  have fits : InRanges [(0x80, 0xBF), (0x80, 0xBF)] [0xBF, 0xBD] :=
    .cons (by decide) (.cons (by decide) .nil)
  exact .char leads fits isUtf8

/-- The result of lossy decoding is text. -/
theorem isUtf8_lossyFrom (fuel : Nat) :
    ∀ bytes, IsUtf8 (lossyFrom fuel bytes) := by
  induction fuel with
  | zero =>
      intro bytes
      exact .nil
  | succ fuel inductionHypothesis =>
      intro bytes
      cases bytes with
      | nil => exact .nil
      | cons lead rest =>
          cases leads : continuation lead with
          | none =>
              rw [lossyFrom, leads]
              exact isUtf8_replacement_append (inductionHypothesis rest)
          | some ranges =>
              rw [lossyFrom, leads]
              by_cases all : matched ranges rest = ranges.length
              · simp only [all, if_true]
                exact .char leads (inRanges_of_matched all)
                  (inductionHypothesis _)
              · simp only [all, if_false]
                exact isUtf8_replacement_append (inductionHypothesis _)

theorem isUtf8_lossy (bytes : List UInt8) : IsUtf8 (lossy bytes) :=
  isUtf8_lossyFrom _ bytes

/-- Lossy decoding brings in no zero byte. -/
theorem zero_not_mem_lossyFrom (fuel : Nat) :
    ∀ bytes : List UInt8, 0 ∉ bytes → 0 ∉ lossyFrom fuel bytes := by
  have noZero : (0 : UInt8) ∉ replacement := by decide
  induction fuel with
  | zero =>
      intro bytes _
      exact List.not_mem_nil
  | succ fuel inductionHypothesis =>
      intro bytes absent
      cases bytes with
      | nil => exact List.not_mem_nil
      | cons lead rest =>
          rw [List.mem_cons, not_or] at absent
          cases leads : continuation lead with
          | none =>
              rw [lossyFrom, leads, List.mem_append, not_or]
              exact ⟨noZero, inductionHypothesis rest absent.2⟩
          | some ranges =>
              rw [lossyFrom, leads]
              simp only [List.mem_append, not_or]
              refine ⟨?_, inductionHypothesis _
                (fun member => absent.2 (List.mem_of_mem_drop member))⟩
              split
              · rw [List.mem_cons, not_or]
                exact ⟨absent.1,
                  fun member => absent.2 (List.mem_of_mem_take member)⟩
              · exact noZero

/-- Text that is cut off: either between two characters, or inside one, which
is then replaced. -/
theorem lossyFrom_take {text : List UInt8} (isUtf8 : IsUtf8 text) :
    ∀ count fuel, count ≤ text.length → count ≤ fuel →
      lossyFrom fuel (text.take count) = text.take count ∨
      ∃ front, front.length < count ∧ front = text.take front.length ∧
        lossyFrom fuel (text.take count) = front ++ replacement := by
  induction isUtf8 with
  | nil =>
      intro count fuel _ _
      rw [List.take_nil]
      exact Or.inl (lossyFrom_of_isUtf8 .nil fuel (Nat.zero_le _))
  | @char lead ranges tail rest leads fits _ inductionHypothesis =>
      intro count fuel bound enough
      rw [List.length_cons, List.length_append] at bound
      cases count with
      | zero =>
          rw [List.take_zero]
          exact Or.inl (lossyFrom_of_isUtf8 .nil fuel (Nat.zero_le _))
      | succ count =>
          obtain ⟨fuel, rfl⟩ : ∃ less, fuel = less + 1 :=
            ⟨fuel - 1, by omega⟩
          rw [List.take_succ_cons]
          rcases Nat.lt_or_ge count tail.length with inside | behind
          · refine Or.inr ⟨[], Nat.succ_pos _, rfl, ?_⟩
            have cut : (tail ++ rest).take count = tail.take count :=
              List.take_append_of_le_length (Nat.le_of_lt inside)
            have kept := matched_take fits count (Nat.le_of_lt inside)
            have notAll : count ≠ ranges.length := by
              rw [fits.length_eq]
              omega
            have nothing : (tail.take count).drop count = [] := by
              rw [List.drop_eq_nil_iff, List.length_take]
              omega
            have stops : lossyFrom fuel ([] : List UInt8) = [] :=
              lossyFrom_of_isUtf8 .nil fuel (Nat.zero_le _)
            rw [cut]
            simp only [lossyFrom, leads, kept, notAll, if_false, nothing,
              stops, List.append_nil, List.nil_append]
          · obtain ⟨more, rfl⟩ : ∃ more, count = tail.length + more :=
              ⟨count - tail.length, by omega⟩
            rw [List.take_length_add_append, lossyFrom_char leads fits]
            rcases inductionHypothesis more fuel (by omega) (by omega) with
              whole | ⟨front, shorter, isFront, replaced⟩
            · exact Or.inl (by rw [whole])
            · refine Or.inr ⟨lead :: (tail ++ front), ?_, ?_, ?_⟩
              · rw [List.length_cons, List.length_append]
                omega
              · rw [List.length_cons, List.length_append, List.take_succ_cons,
                  List.take_length_add_append, ← isFront]
              · rw [replaced, List.cons_append, List.append_assoc]

theorem lossyFrom_append_take {text : List UInt8} (isUtf8 : IsUtf8 text) :
    ∀ count fuel, 0 < count → count < 3 → text.length + count ≤ fuel →
      lossyFrom fuel (text ++ replacement.take count) = text ++ replacement := by
  induction isUtf8 with
  | nil =>
      intro count fuel positive short enough
      obtain ⟨fuel, rfl⟩ : ∃ less, fuel = less + 1 := ⟨fuel - 1, by omega⟩
      have stops : lossyFrom fuel ([] : List UInt8) = [] :=
        lossyFrom_of_isUtf8 .nil fuel (Nat.zero_le _)
      rcases (by omega : count = 1 ∨ count = 2) with rfl | rfl
      · simp [replacement, lossyFrom, continuation, matched, stops]
      · simp [replacement, lossyFrom, continuation, matched, stops]
  | char leads fits _ inductionHypothesis =>
      intro count fuel positive short enough
      rw [List.length_cons, List.length_append] at enough
      obtain ⟨fuel, rfl⟩ : ∃ less, fuel = less + 1 := ⟨fuel - 1, by omega⟩
      rw [List.cons_append, List.append_assoc, lossyFrom_char leads fits,
        inductionHypothesis count fuel positive short (by omega),
        List.cons_append, List.append_assoc]

/-- Text cut off inside its last replacement character is completed by lossy
decoding. -/
theorem lossy_take_replacement {front : List UInt8}
    (isUtf8 : IsUtf8 (front ++ replacement)) {count : Nat}
    (after : front.length < count) (within : count < front.length + 3) :
    lossy ((front ++ replacement).take count) = front ++ replacement := by
  have frontText : IsUtf8 front :=
    @IsUtf8.before_lead _ isUtf8 front [0xBF, 0xBD] 0xEF rfl (by decide)
  obtain ⟨more, rfl⟩ : ∃ more, count = front.length + more :=
    ⟨count - front.length, by omega⟩
  have lengths : ((front ++ replacement).take (front.length + more)).length =
      front.length + more := by
    rw [List.length_take, List.length_append]
    simp only [replacement, List.length_cons, List.length_nil]
    omega
  rw [lossy, lengths, List.take_length_add_append]
  exact lossyFrom_append_take frontText more _ (by omega) (by omega)
    (Nat.le_refl _)

/-- Text that is cut off is decoded as it was before the cut only when the cut
takes nothing, or when it falls into a replacement character at the end. -/
theorem lossy_take_eq_iff {text : List UInt8} (isUtf8 : IsUtf8 text)
    (count : Nat) :
    lossy (text.take count) = text ↔
      text.length ≤ count ∨
        ∃ front, text = front ++ replacement ∧ front.length < count := by
  rcases Nat.lt_or_ge count text.length with cut | whole
  · constructor
    · intro same
      have lengths : (text.take count).length = count :=
        List.length_take_of_le (Nat.le_of_lt cut)
      rw [lossy, lengths] at same
      rcases lossyFrom_take isUtf8 count count (Nat.le_of_lt cut)
        (Nat.le_refl _) with between | ⟨front, shorter, _, replaced⟩
      · rw [between] at same
        rw [same] at lengths
        exact Or.inl (Nat.le_of_eq lengths)
      · exact Or.inr ⟨front, same.symm.trans replaced, shorter⟩
    · rintro (whole | ⟨front, rfl, shorter⟩)
      · exact absurd whole (Nat.not_le_of_lt cut)
      · rw [List.length_append] at cut
        exact lossy_take_replacement isUtf8 shorter cut
  · rw [List.take_of_length_le whole, lossy_of_isUtf8 isUtf8]
    exact ⟨fun _ => Or.inl whole, fun _ => rfl⟩

/-! ## Texts -/

/-- A string: bytes that are UTF-8. -/
@[ext]
structure Text where
  bytes : List UInt8
  isUtf8 : IsUtf8 bytes

def fromUtf8Lossy (bytes : List UInt8) : Text where
  bytes := lossy bytes
  isUtf8 := isUtf8_lossy bytes

end SelfWriter.Lib.Utf8
