import Polyglot.Decimal.Shortest

/-!
# Number texts

The texts of binary numbers that people read: the shortest decimal without an
exponent, and a fixed number of places.
-/

namespace Polyglot
namespace Decimal

def digitChars (n : Nat) : List Char :=
  Nat.toDigits 10 n

/-- A run of `n` zeros. -/
def zeros (n : Nat) : List Char :=
  List.replicate n '0'

def pointOf (d : Decimal) : Int :=
  (digitChars d.digits).length + d.exponent

/-- The decimal without an exponent; a whole number has no point. -/
def positional (d : Decimal) : List Char :=
  let ds := digitChars d.digits
  let point := d.pointOf
  if 0 ≤ d.exponent then ds ++ zeros d.exponent.toNat
  else if 0 < point then ds.take point.toNat ++ '.' :: ds.drop point.toNat
  else '0' :: '.' :: zeros (-point).toNat ++ ds

def signed (negative : Bool) (cs : List Char) : List Char :=
  if negative then '-' :: cs else cs

def plainText (format : BinaryFormat) : BinaryNumber → String
  | .notANumber => "NaN"
  | .infinite negative => String.ofList (signed negative ['i', 'n', 'f'])
  | .finite negative 0 _ => String.ofList (signed negative ['0'])
  | .finite negative significand exponent =>
      String.ofList (signed negative (shortest format significand exponent).positional)

/-- The quotient rounded to the nearest whole number, an exact half to the even one. -/
def roundedQuotient (numerator denominator : Nat) : Nat :=
  let q := numerator / denominator
  let r := numerator % denominator
  if 2 * r > denominator ∨ (2 * r = denominator ∧ q % 2 = 1) then q + 1 else q

/-- A whole number of units of `10 ^ -places`, with the point in its place. -/
def withPlaces (places : Nat) (units : Nat) : List Char :=
  let ds := digitChars units
  let ds := zeros (places + 1 - ds.length) ++ ds
  if places = 0 then ds
  else ds.take (ds.length - places) ++ '.' :: ds.drop (ds.length - places)

/-- The text with a fixed number of places; the exact value is rounded, a half to even. -/
def fixedText (places : Nat) : BinaryNumber → String
  | .notANumber => "NaN"
  | .infinite negative => String.ofList (signed negative ['i', 'n', 'f'])
  | .finite negative significand exponent =>
      String.ofList (signed negative (withPlaces places
        (roundedQuotient (scaleUp 2 significand exponent * Nat.pow 10 places)
          (scaleDown 2 exponent))))

def fixed (places : Nat) (x : Float32) : String :=
  fixedText places (.ofFloat32 x)

def plain (x : Float32) : String :=
  plainText .binary32 (.ofFloat32 x)

end Decimal
end Polyglot
