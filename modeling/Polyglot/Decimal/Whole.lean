import Polyglot.Decimal.Binary

/-!
# Whole numbers and binary numbers

The binary number nearest to a whole number, and the whole number nearest to a
binary number.
-/

namespace Polyglot

def maxWord : Nat := 0xffffffffffffffff

/-- A count as a single-precision number; counts fit a machine word. -/
def toSingle (n : Nat) : Float32 :=
  (UInt64.ofNat n).toFloat32

/--
The whole number nearest to `x`, a half going up.  Negative numbers give zero,
large ones the largest machine word, and what is no number gives zero.
-/
def nearestWhole (x : Float32) : Nat :=
  match BinaryNumber.ofFloat32 x with
  | .notANumber => 0
  | .infinite negative => if negative then 0 else maxWord
  | .finite true _ _ => 0
  | .finite false significand exponent =>
      min maxWord
        ((2 * scaleUp 2 significand exponent + scaleDown 2 exponent) /
          (2 * scaleDown 2 exponent))

end Polyglot
