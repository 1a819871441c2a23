import Polyglot.Text.Utf8

/-!
# JSON values

A JSON document as it is written: numbers keep their digits and strings keep the
bytes between their quotes.  What a number or a string means is decided where a
value of a certain kind is asked for, so a part of a document that nobody asks
for may hold anything that is spelled correctly.
-/

namespace Polyglot

/--
A number as it is written: a sign, the digits before and after the point, and
the sign and digits of the exponent.
-/
structure Numeral where
  negative : Bool
  whole : List UInt8
  fraction : List UInt8
  exponent : Option (Bool × List UInt8)
  deriving DecidableEq

namespace Numeral

def digit (b : UInt8) : Nat :=
  b.toNat - 0x30

def digitByte (n : Nat) : UInt8 :=
  UInt8.ofNat (0x30 + n)

def ofDigits (ds : List UInt8) : Nat :=
  ds.foldl (fun n d => 10 * n + digit d) 0

/-- The digits of a number, the leading one not being zero unless it is alone. -/
def natDigits (n : Nat) : List UInt8 :=
  (Nat.toDigits 10 n).map fun c => UInt8.ofNat c.toNat

def ofNat (n : Nat) : Numeral :=
  ⟨false, natDigits n, [], none⟩

def ofInt (n : Int) : Numeral :=
  ⟨n < 0, natDigits n.natAbs, [], none⟩

end Numeral

inductive Json where
  | null
  | bool (b : Bool)
  | number (n : Numeral)
  | text (raw : List UInt8)
  | array (items : List Json)
  | object (entries : List (List UInt8 × Json))

end Polyglot
