import Mathlib.Algebra.Group.Nat.Defs
import Mathlib.Tactic.Common

/-!
# Base-128 varints

Seven bits a byte, lowest first; every byte but the last has its high bit set.
-/

namespace SelfWriter.Lib.Varint

/-- The number at the start of a byte string; bytes behind it are ignored. -/
def decode : List UInt8 → Option Nat
  | [] => none
  | byte :: rest =>
      if byte < 0x80 then some byte.toNat
      else (decode rest).map (fun high => byte.toNat - 128 + 128 * high)

/-- The byte string is one varint and nothing else. -/
def IsVarint : List UInt8 → Prop
  | [] => False
  | byte :: rest =>
      if byte < 0x80 then rest = [] else IsVarint rest

theorem IsVarint.of_last {byte : UInt8} {rest : List UInt8}
    (varint : IsVarint (byte :: rest)) (last : byte < 0x80) : rest = [] := by
  rwa [IsVarint, if_pos last] at varint

theorem IsVarint.of_more {byte : UInt8} {rest : List UInt8}
    (varint : IsVarint (byte :: rest)) (more : ¬ byte < 0x80) :
    IsVarint rest := by
  rwa [IsVarint, if_neg more] at varint

/-- A varint that is cut short has no value. -/
theorem decode_take_of_lt {field : List UInt8} (varint : IsVarint field) :
    ∀ count, count < field.length → decode (field.take count) = none := by
  induction field with
  | nil => exact absurd varint id
  | cons byte rest inductionHypothesis =>
      intro count short
      cases count with
      | zero => rfl
      | succ count =>
          have more : ¬ byte < 0x80 := by
            intro last
            rw [varint.of_last last] at short
            exact absurd short (by simp only [List.length_singleton]; omega)
          rw [List.length_cons] at short
          rw [List.take_succ_cons, decode, if_neg more,
            inductionHypothesis (varint.of_more more) count (by omega)]
          rfl

/-! ## Encoding -/

/-- At most `more` bytes before the last one. -/
def encodeWithin : Nat → Nat → List UInt8
  | 0, value => [UInt8.ofNat value]
  | more + 1, value =>
      if value < 128 then [UInt8.ofNat value]
      else UInt8.ofNat (value % 128 + 128) :: encodeWithin more (value / 128)

def encode (value : Nat) : List UInt8 :=
  encodeWithin value value

theorem toNat_ofNat {byte : Nat} (fits : byte < 256) :
    (UInt8.ofNat byte).toNat = byte :=
  UInt8.toNat_ofNat_of_lt' fits

theorem ofNat_lt_iff {byte : Nat} (fits : byte < 256) :
    UInt8.ofNat byte < 0x80 ↔ byte < 128 := by
  rw [UInt8.lt_iff_toNat_lt, toNat_ofNat fits]
  rfl

theorem ofNat_last {value : Nat} (small : value < 128) : UInt8.ofNat value < 0x80 :=
  (ofNat_lt_iff (by omega)).2 small

theorem ofNat_more (value : Nat) : ¬ UInt8.ofNat (value % 128 + 128) < 0x80 := by
  rw [ofNat_lt_iff (by omega)]
  omega

theorem isVarint_encodeWithin (more : Nat) :
    ∀ value ≤ more, IsVarint (encodeWithin more value) := by
  induction more with
  | zero =>
      intro value bound
      rw [encodeWithin, IsVarint, if_pos (ofNat_last (by omega))]
  | succ more inductionHypothesis =>
      intro value bound
      by_cases small : value < 128
      · rw [encodeWithin, if_pos small, IsVarint, if_pos (ofNat_last small)]
      · rw [encodeWithin, if_neg small, IsVarint, if_neg (ofNat_more value)]
        exact inductionHypothesis (value / 128) (by omega)

theorem decode_encodeWithin (more : Nat) :
    ∀ value ≤ more, decode (encodeWithin more value) = some value := by
  induction more with
  | zero =>
      intro value bound
      rw [encodeWithin, decode, if_pos (ofNat_last (by omega)), toNat_ofNat (by omega)]
  | succ more inductionHypothesis =>
      intro value bound
      by_cases small : value < 128
      · rw [encodeWithin, if_pos small, decode, if_pos (ofNat_last small),
          toNat_ofNat (by omega)]
      · rw [encodeWithin, if_neg small, decode, if_neg (ofNat_more value),
          inductionHypothesis (value / 128) (by omega), toNat_ofNat (by omega),
          Option.map_some]
        exact congrArg some (by omega)

theorem length_encodeWithin_le (count : Nat) :
    ∀ {more value : Nat}, value < 128 ^ (count + 1) →
      (encodeWithin more value).length ≤ count + 1 := by
  induction count with
  | zero =>
      intro more value small
      rw [Nat.zero_add, Nat.pow_one] at small
      cases more with
      | zero => exact Nat.le_refl _
      | succ more =>
          rw [encodeWithin, if_pos small]
          exact Nat.le_refl _
  | succ count inductionHypothesis =>
      intro more value bound
      cases more with
      | zero =>
          rw [encodeWithin, List.length_singleton]
          omega
      | succ more =>
          rw [encodeWithin]
          split
          · rw [List.length_singleton]
            omega
          · have fewer : value / 128 < 128 ^ (count + 1) := by
              apply Nat.div_lt_of_lt_mul
              rw [Nat.mul_comm, ← Nat.pow_succ]
              exact bound
            rw [List.length_cons]
            exact Nat.succ_le_succ (inductionHypothesis fewer)

theorem isVarint_encode (value : Nat) : IsVarint (encode value) :=
  isVarint_encodeWithin value value (Nat.le_refl _)

theorem decode_encode (value : Nat) : decode (encode value) = some value :=
  decode_encodeWithin value value (Nat.le_refl _)

theorem length_encode_le {count value : Nat} (bound : value < 128 ^ (count + 1)) :
    (encode value).length ≤ count + 1 :=
  length_encodeWithin_le count bound

end SelfWriter.Lib.Varint
