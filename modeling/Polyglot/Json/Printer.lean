import Polyglot.Json.Basic

/-!
# Printing JSON

The compact spelling of a value: no blanks, entries in their order.
-/

namespace Polyglot

/-- The spelling of a number; the exponent always has a sign. -/
def Numeral.print (n : Numeral) : List UInt8 :=
  (if n.negative then [0x2d] else []) ++ n.whole ++
    (if n.fraction.isEmpty then [] else 0x2e :: n.fraction) ++
    (match n.exponent with
    | none => []
    | some (negative, digits) => 0x65 :: (if negative then 0x2d else 0x2b) :: digits)

namespace Json

def printText (raw : List UInt8) : List UInt8 :=
  0x22 :: raw ++ [0x22]

mutual

def print : Json → List UInt8
  | .null => [0x6e, 0x75, 0x6c, 0x6c]
  | .bool true => [0x74, 0x72, 0x75, 0x65]
  | .bool false => [0x66, 0x61, 0x6c, 0x73, 0x65]
  | .number n => n.print
  | .text raw => printText raw
  | .array [] => [0x5b, 0x5d]
  | .array (v :: vs) => 0x5b :: v.print ++ printItems vs
  | .object [] => [0x7b, 0x7d]
  | .object ((k, v) :: es) => 0x7b :: printText k ++ 0x3a :: v.print ++ printEntries es

def printItems : List Json → List UInt8
  | [] => [0x5d]
  | v :: vs => 0x2c :: v.print ++ printItems vs

def printEntries : List (List UInt8 × Json) → List UInt8
  | [] => [0x7d]
  | (k, v) :: es => 0x2c :: printText k ++ 0x3a :: v.print ++ printEntries es

end

end Json
end Polyglot
