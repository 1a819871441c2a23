import Polyglot.Decimal.Binary

/-!
# Shortest decimals

The decimal with the fewest digits that still identifies a binary number.  It
lies in the interval of reals that round to the number (the ends belong to it
when the significand is even), no decimal with fewer digits does, and among
those with as many digits it is the nearest.
-/

namespace Polyglot

/-- A decimal `digits * 10 ^ exponent`. -/
structure Decimal where
  digits : Nat
  exponent : Int
  deriving DecidableEq

namespace Decimal

/--
A positive binary number together with its rounding interval, in quarters of a
unit in the last place: the number is `4 * significand` and the interval reaches
`below` and `2` quarters to either side, times `2 ^ exponent`.
-/
structure Target where
  significand : Nat
  below : Nat
  exponent : Int

/-- The interval of a number: it is half as wide below a power of two. -/
def Target.of (format : BinaryFormat) (significand : Nat) (exponent : Int) : Target where
  significand := significand
  below :=
    if significand = Nat.pow 2 format.fractionBits ∧ format.leastExponent < exponent then 1
    else 2
  exponent := exponent - 2

namespace Target

def holds (t : Target) (d : Decimal) : Bool :=
  let value := scaleUp 10 d.digits d.exponent * scaleDown 2 t.exponent
  let unit := scaleUp 2 1 t.exponent * scaleDown 10 d.exponent
  let low := (4 * t.significand - t.below) * unit
  let high := (4 * t.significand + 2) * unit
  if t.significand % 2 = 0 then low ≤ value && value ≤ high
  else low < value && value < high

/-- The number, rounded down to a multiple of `10 ^ exponent`. -/
def floorAt (t : Target) (exponent : Int) : Nat :=
  (scaleUp 2 (4 * t.significand) t.exponent * scaleDown 10 exponent) /
    (scaleUp 10 1 exponent * scaleDown 2 t.exponent)

/--
Whether the number lies above the middle between its two neighbours on the grid.
An exact middle counts as above when the lower neighbour is odd.
-/
def aboveMiddle (t : Target) (exponent : Int) : Bool :=
  let number := scaleUp 2 (4 * t.significand) t.exponent * scaleDown 10 exponent
  let unit := scaleUp 10 1 exponent * scaleDown 2 t.exponent
  let floor := number / unit
  2 * (number - floor * unit) > unit ||
    (2 * (number - floor * unit) == unit && floor % 2 == 1)

def point (t : Target) : Int :=
  let guess : Int := ((Nat.log2 (4 * t.significand) : Int) + t.exponent) * 30103 / 100000
  if t.floorAt guess = 0 then guess
  else if t.floorAt (guess + 1) = 0 then guess + 1
  else guess + 2

/-- The better neighbour of the number among the multiples of `10 ^ exponent`, if one serves. -/
def onGrid? (t : Target) (exponent : Int) : Option Decimal :=
  let lower : Decimal := ⟨t.floorAt exponent, exponent⟩
  let upper : Decimal := ⟨t.floorAt exponent + 1, exponent⟩
  match t.holds lower, t.holds upper with
  | true, true => some (if t.aboveMiddle exponent then upper else lower)
  | true, false => some lower
  | false, true => some upper
  | false, false => none

/-- Tries ever finer grids, at most `fuel` of them, and then takes the upper neighbour. -/
def search (t : Target) : Nat → Int → Decimal
  | 0, exponent => ⟨t.floorAt exponent + 1, exponent⟩
  | fuel + 1, exponent =>
      match t.onGrid? exponent with
      | some d => d
      | none => t.search fuel (exponent - 1)

end Target

def trimmed (d : Decimal) : Nat → Decimal
  | 0 => d
  | fuel + 1 =>
      if d.digits ≠ 0 ∧ d.digits % 10 = 0 then
        trimmed ⟨d.digits / 10, d.exponent + 1⟩ fuel
      else
        d

/-- The shortest decimal of a positive number; seventeen digits always suffice. -/
def shortest (format : BinaryFormat) (significand : Nat) (exponent : Int) : Decimal :=
  let t := Target.of format significand exponent
  (t.search 17 (t.point - 1)).trimmed 18

end Decimal
end Polyglot
