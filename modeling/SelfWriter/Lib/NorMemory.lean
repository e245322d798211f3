import Mathlib.Logic.Function.Basic
import Mathlib.Tactic.Common

/-!
# NOR flash cells

Programming can only clear bits: a cell keeps the conjunction of what it held
and what is programmed.
-/

namespace SelfWriter.Lib.NorMemory

/-- Byte cells by address. -/
abbrev Cells := Nat → UInt8

/-- One byte programmed at one address. -/
abbrev Write := Nat × UInt8

def erasedByte : UInt8 := 0xFF

def programByte (cells : Cells) (write : Write) : Cells :=
  Function.update cells write.1 (cells write.1 &&& write.2)

def program (cells : Cells) (writes : List Write) : Cells :=
  writes.foldl programByte cells

/-- The writes that put `data` at `base` and behind. -/
def span : Nat → List UInt8 → List Write
  | _, [] => []
  | base, byte :: data => (base, byte) :: span (base + 1) data

theorem erasedByte_and (byte : UInt8) : erasedByte &&& byte = byte := by
  apply UInt8.toNat_inj.1
  rw [UInt8.toNat_and, Nat.and_comm]
  have bound := byte.toNat_lt
  exact (Nat.and_two_pow_sub_one_eq_mod byte.toNat 8).trans
    (Nat.mod_eq_of_lt bound)

theorem program_append (cells : Cells) (first second : List Write) :
    program cells (first ++ second) = program (program cells first) second :=
  List.foldl_append

theorem span_append (first second : List UInt8) :
    ∀ base, span base (first ++ second) =
      span base first ++ span (base + first.length) second := by
  induction first with
  | nil =>
      intro base
      rfl
  | cons byte first inductionHypothesis =>
      intro base
      rw [List.cons_append, span, span, List.cons_append, inductionHypothesis,
        List.length_cons, Nat.add_assoc, Nat.add_comm 1]

/-- Indexed bytes form a span when their places follow each other. -/
theorem map_zipIdx_eq_span (place : Nat → Nat) (data : List UInt8) :
    ∀ offset base : Nat,
      (∀ index, index < data.length → place (offset + index) = base + index) →
      (data.zipIdx offset).map (fun byte => (place byte.2, byte.1)) =
        span base data := by
  induction data with
  | nil =>
      intro offset base _
      rfl
  | cons byte data inductionHypothesis =>
      intro offset base follows
      have first : place offset = base := follows 0 (Nat.succ_pos _)
      have rest := inductionHypothesis (offset + 1) (base + 1) (by
        intro index inside
        rw [Nat.add_right_comm, Nat.add_assoc, follows (index + 1)
          (Nat.succ_lt_succ inside), Nat.add_right_comm, Nat.add_assoc])
      rw [List.zipIdx_cons, List.map_cons, span, rest, first]

/-- A span programs its own bytes and leaves the others alone. -/
theorem program_span (data : List UInt8) :
    ∀ (cells : Cells) (base address : Nat),
      program cells (span base data) address =
        if inside : base ≤ address ∧ address < base + data.length then
          cells address &&& data[address - base]
        else
          cells address := by
  induction data with
  | nil =>
      intro cells base address
      rw [dif_neg (by
        rintro ⟨low, high⟩
        rw [List.length_nil] at high
        omega)]
      rfl
  | cons byte data inductionHypothesis =>
      intro cells base address
      have rest := inductionHypothesis (programByte cells (base, byte))
        (base + 1) address
      rw [span, program, List.foldl_cons]
      rw [program] at rest
      rw [rest]
      rcases Nat.lt_trichotomy address base with below | rfl | above
      · rw [dif_neg (by omega), dif_neg (by omega), programByte,
          Function.update_of_ne (Nat.ne_of_lt below)]
      · rw [dif_neg (by omega), dif_pos (by
          rw [List.length_cons]
          omega), programByte, Function.update_self]
        simp only [Nat.sub_self, List.getElem_cons_zero]
      · have unchanged : programByte cells (base, byte) address =
            cells address :=
          Function.update_of_ne (Nat.ne_of_gt above) _ _
        rw [unchanged]
        by_cases inside : address < base + 1 + data.length
        · rw [dif_pos (by omega), dif_pos (by
            rw [List.length_cons]
            omega)]
          have shifted : address - base = address - (base + 1) + 1 := by omega
          simp only [shifted, List.getElem_cons_succ]
        · rw [dif_neg (by omega), dif_neg (by
            rw [List.length_cons]
            omega)]

end SelfWriter.Lib.NorMemory
