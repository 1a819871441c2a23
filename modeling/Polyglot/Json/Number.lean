import Polyglot.Json.Text
import Polyglot.Decimal.Precision
import Polyglot.Decimal.Shortest

/-!
# JSON numbers

Numbers of a certain kind.  A whole number is spelled without a point and
without an exponent.  A binary number is computed in double precision from the
leading digits that fit a machine word and a power of ten; single precision is
rounded from that result.
-/

namespace Polyglot
namespace Numeral

def isWhole (n : Numeral) : Bool :=
  n.fraction.isEmpty && n.exponent.isNone

/-- A whole number from zero to `limit`; a minus sign is refused even before zero. -/
def nat? (limit : Nat) (n : Numeral) : Option Nat :=
  let value := ofDigits n.whole
  if n.isWhole && !n.negative && value ≤ limit then some value else none

/-- A whole number from `-limit - 1` to `limit`; zero has no sign. -/
def int? (limit : Nat) (n : Numeral) : Option Int :=
  let value := ofDigits n.whole
  if !n.isWhole then none
  else if n.negative then
    if 0 < value ∧ value ≤ limit + 1 then some (-value) else none
  else
    if value ≤ limit then some value else none

/-! ## Digits and exponent -/

/-- The largest number that a word of `bits` bits holds. -/
def wordLimit (bits : Nat) : Nat :=
  Nat.pow 2 bits - 1

/--
Takes digits as long as the significand fits a machine word; returns the
significand, how many digits it took, and how many it left.
-/
def takeDigits (significand : Nat) (taken : Nat) : List UInt8 → Nat × Nat × Nat
  | [] => (significand, taken, 0)
  | d :: ds =>
      if significand * 10 + digit d ≤ wordLimit 64 then
        takeDigits (significand * 10 + digit d) (taken + 1) ds
      else
        (significand, taken, ds.length + 1)

def significand (n : Numeral) : Nat × Int :=
  let (whole, _, left) := takeDigits 0 0 n.whole
  let (all, taken, _) := takeDigits whole 0 n.fraction
  (all, (left : Int) - taken)

def saturated (n : Int) : Int :=
  max (-0x80000000) (min 0x7fffffff n)

def powerOfTen (n : Nat) : Float :=
  Float.ofScientific 1 false n

/--
Applies a power of ten by at most `fuel` multiplications or divisions; `none`
when the result exceeds the finite numbers.
-/
def applyPower : Nat → Float → Int → Option Float
  | 0, x, _ => some x
  | fuel + 1, x, e =>
      if e.natAbs ≤ 308 then
        if 0 ≤ e then
          let y := x * powerOfTen e.toNat
          if y.isInf then none else some y
        else
          some (x / powerOfTen e.natAbs)
      else if x == 0 then some x
      else if 0 ≤ e then none
      else applyPower fuel (x / powerOfTen 308) (e + 308)

def magnitude? (n : Numeral) : Option Float :=
  let (digits, power) := n.significand
  let x := (UInt64.ofNat digits).toFloat
  match n.exponent with
  | none => applyPower 4 x power
  | some (negative, ds) =>
      let e := ofDigits ds
      if e ≤ wordLimit 31 then
        applyPower 4 x (saturated (if negative then power - e else power + e))
      else if digits = 0 ∨ negative then some 0
      else none

/-- Whether the number is spelled as a whole number that fits a word; zero takes no sign. -/
def fitsWord (n : Numeral) : Bool :=
  n.isWhole &&
    (if n.negative then 0 < ofDigits n.whole && ofDigits n.whole ≤ wordLimit 63 + 1
    else ofDigits n.whole ≤ wordLimit 64)

def signed [Neg α] (n : Numeral) (x : α) : α :=
  if n.negative then -x else x

def float? (n : Numeral) : Option Float :=
  if n.fitsWord then
    some (n.signed (UInt64.ofNat (ofDigits n.whole)).toFloat)
  else
    n.magnitude?.map n.signed

/--
The single-precision number: whole numbers are rounded once, others by way of
double precision.
-/
def float32? (n : Numeral) : Option Float32 :=
  if n.fitsWord then
    some (n.signed (UInt64.ofNat (ofDigits n.whole)).toFloat32)
  else
    n.magnitude?.map fun x => ofDouble (n.signed x)

end Numeral

namespace Json

/-! ## Values of a kind -/

def nat? : Json → Option Nat
  | .number n => n.nat? (Numeral.wordLimit 64)
  | _ => none

def word32? : Json → Option UInt32
  | .number n => (n.nat? (Numeral.wordLimit 32)).map UInt32.ofNat
  | _ => none

def byte? : Json → Option UInt8
  | .number n => (n.nat? (Numeral.wordLimit 8)).map UInt8.ofNat
  | _ => none

def signedByte? : Json → Option Int
  | .number n => n.int? (Numeral.wordLimit 7)
  | _ => none

def float? : Json → Option Float
  | .number n => n.float?
  | _ => none

def float32? : Json → Option Float32
  | .number n => n.float32?
  | _ => none

def bool? : Json → Option Bool
  | .bool b => some b
  | _ => none

def string? : Json → Option String
  | .text raw => (unescape? raw).map String.ofList
  | _ => none

def list? (item? : Json → Option α) : Json → Option (List α)
  | .array items => items.mapM item?
  | _ => none

/-! ## Writing numbers -/

def ofNat (n : Nat) : Json :=
  .number (.ofNat n)

/--
How a format lays out numbers: a decimal whose point stands beyond `low` or
`high` digits from its first one is written with an exponent.
-/
structure NumberLayout where
  format : BinaryFormat
  low : Int
  high : Int

namespace NumberLayout

def single : NumberLayout := ⟨.binary32, -6, 13⟩

def double : NumberLayout := ⟨.binary64, -5, 16⟩

/-- A run of `n` zeros. -/
def zeros (n : Nat) : List UInt8 :=
  List.replicate n 0x30

/-- A decimal with a sign; a whole number keeps one zero after its point. -/
def numeral (layout : NumberLayout) (negative : Bool) (d : Decimal) : Numeral :=
  let ds := Numeral.natDigits d.digits
  let point : Int := ds.length + d.exponent
  if layout.low < point ∧ point ≤ layout.high then
    if 0 ≤ d.exponent then ⟨negative, ds ++ zeros d.exponent.toNat, zeros 1, none⟩
    else if 0 < point then ⟨negative, ds.take point.toNat, ds.drop point.toNat, none⟩
    else ⟨negative, zeros 1, zeros (-point).toNat ++ ds, none⟩
  else
    ⟨negative, ds.take 1, ds.drop 1,
      some (point - 1 < 0, Numeral.natDigits (point - 1).natAbs)⟩

/-- The shortest decimal of a finite number; what is not finite is written as null. -/
def json (layout : NumberLayout) : BinaryNumber → Json
  | .notANumber => .null
  | .infinite _ => .null
  | .finite negative 0 _ => .number ⟨negative, zeros 1, zeros 1, none⟩
  | .finite negative significand exponent =>
      .number (layout.numeral negative (.shortest layout.format significand exponent))

end NumberLayout

def ofFloat32 (x : Float32) : Json :=
  NumberLayout.single.json (.ofFloat32 x)

def ofFloat (x : Float) : Json :=
  NumberLayout.double.json (.ofFloat x)

end Json
end Polyglot
