import Mathlib.Data.Nat.Digits.Defs

/-!
# Little-endian numbers

A number and its bytes, least significant byte first.
-/

namespace SelfWriter.Lib.LittleEndian

/-- Byte `index` of `value`. -/
def byteAt (value index : Nat) : UInt8 :=
  UInt8.ofNat (value / 256 ^ index)

/-- The number whose bytes are given. -/
def ofBytes (bytes : List UInt8) : Nat :=
  Nat.ofDigits 256 (bytes.map UInt8.toNat)

private theorem digit_lt {bytes : List UInt8} :
    ∀ digit ∈ bytes.map UInt8.toNat, digit < 256 := by
  intro digit member
  obtain ⟨byte, _, rfl⟩ := List.mem_map.1 member
  exact byte.toNat_lt

theorem ofBytes_lt (bytes : List UInt8) :
    ofBytes bytes < 256 ^ bytes.length := by
  have bound := Nat.ofDigits_lt_base_pow_length (by decide) (@digit_lt bytes)
  rwa [List.length_map] at bound

theorem byteAt_ofBytes (bytes : List UInt8) {index : Nat}
    (inside : index < bytes.length) :
    byteAt (ofBytes bytes) index = bytes[index] := by
  have dropped := Nat.ofDigits_div_pow_eq_ofDigits_drop index (by decide)
    (bytes.map UInt8.toNat) digit_lt
  unfold byteAt ofBytes
  rw [dropped, ← List.map_drop, List.drop_eq_getElem_cons inside,
    List.map_cons, Nat.ofDigits_cons]
  apply UInt8.toNat_inj.1
  rw [UInt8.toNat_ofNat', Nat.add_mul_mod_self_left]
  exact Nat.mod_eq_of_lt bytes[index].toNat_lt

/-- The first bytes of a number determine it up to their count. -/
theorem ofBytes_map_byteAt (value width : Nat) :
    ofBytes ((List.range width).map (byteAt value)) = value % 256 ^ width := by
  induction width with
  | zero => exact (Nat.mod_one value).symm
  | succ width inductionHypothesis =>
      have last : (byteAt value width).toNat = value / 256 ^ width % 256 :=
        UInt8.toNat_ofNat'
      unfold ofBytes at inductionHypothesis ⊢
      rw [List.range_succ, List.map_append, List.map_append,
        Nat.ofDigits_append, inductionHypothesis, List.map_singleton,
        List.map_singleton, Nat.ofDigits_singleton, List.length_map,
        List.length_map, List.length_range, last, Nat.mod_pow_succ]

/-- The first `width` bytes of a number. -/
def toBytes (width value : Nat) : List UInt8 :=
  (List.range width).map (byteAt value)

@[simp]
theorem length_toBytes (width value : Nat) :
    (toBytes width value).length = width := by
  rw [toBytes, List.length_map, List.length_range]

theorem ofBytes_toBytes {width value : Nat} (small : value < 256 ^ width) :
    ofBytes (toBytes width value) = value := by
  rw [toBytes, ofBytes_map_byteAt]
  exact Nat.mod_eq_of_lt small

end SelfWriter.Lib.LittleEndian
