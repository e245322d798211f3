import Mathlib.Tactic.Common

/-!
# Single-precision numbers by their bits

Only what a program does without arithmetic: it copies numbers, which keeps
every bit, and compares them, where no order holds of a value that is not a
number and the two zeros are equal.
-/

namespace SelfWriter.Lib

/-- An IEEE 754 single, by its encoding. -/
structure Binary32 where
  bits : UInt32
  deriving DecidableEq, Repr

namespace Binary32

def zero : Binary32 := ⟨0⟩

instance : Inhabited Binary32 := ⟨zero⟩

/-- The encoding without the sign. -/
def magnitude (x : Binary32) : Nat := x.bits.toNat % 0x80000000

def isNaN (x : Binary32) : Bool := 0x7F800000 < x.magnitude

/-- Sign and magnitude in one integer; the order of the numbers is its order. -/
def key (x : Binary32) : Int :=
  if x.bits < 0x80000000 then x.magnitude else -x.magnitude

/-- The program's `<`. -/
def lt (x y : Binary32) : Bool :=
  !x.isNaN && !y.isNaN && decide (x.key < y.key)

end Binary32

end SelfWriter.Lib
