/-!
# Binary numbers

What a bit pattern of a binary interchange format stands for: a sign, a whole
significand and a power of two, or one of the special values.  All decimal
texts are computed from this exact reading.
-/

namespace Polyglot

structure BinaryFormat where
  fractionBits : Nat
  exponentBits : Nat
  deriving DecidableEq

namespace BinaryFormat

def binary32 : BinaryFormat := ⟨23, 8⟩

def binary64 : BinaryFormat := ⟨52, 11⟩

def leastExponent (format : BinaryFormat) : Int :=
  2 - (Nat.pow 2 (format.exponentBits - 1) : Nat) - format.fractionBits

end BinaryFormat

/-- The exact meaning of a bit pattern; a finite one is `significand * 2 ^ exponent`. -/
inductive BinaryNumber where
  | finite (negative : Bool) (significand : Nat) (exponent : Int)
  | infinite (negative : Bool)
  | notANumber
  deriving DecidableEq

namespace BinaryFormat

def read (format : BinaryFormat) (bits : Nat) : BinaryNumber :=
  let fraction := bits % Nat.pow 2 format.fractionBits
  let field := bits / Nat.pow 2 format.fractionBits % Nat.pow 2 format.exponentBits
  let negative := bits / Nat.pow 2 (format.fractionBits + format.exponentBits) % 2 == 1
  if field = Nat.pow 2 format.exponentBits - 1 then
    if fraction = 0 then .infinite negative else .notANumber
  else if field = 0 then
    .finite negative fraction format.leastExponent
  else
    .finite negative (Nat.pow 2 format.fractionBits + fraction)
      (format.leastExponent + (field - 1 : Nat))

end BinaryFormat

def BinaryNumber.ofFloat32 (x : Float32) : BinaryNumber :=
  BinaryFormat.binary32.read x.toBits.toNat

def BinaryNumber.ofFloat (x : Float) : BinaryNumber :=
  BinaryFormat.binary64.read x.toBits.toNat

/-- The numerator of `n * 2 ^ e` over `denominatorOfPower`. -/
def scaleUp (base : Nat) (n : Nat) (e : Int) : Nat :=
  n * Nat.pow base e.toNat

def scaleDown (base : Nat) (e : Int) : Nat :=
  Nat.pow base (-e).toNat

end Polyglot
