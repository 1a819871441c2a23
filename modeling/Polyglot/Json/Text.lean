import Polyglot.Json.Basic

/-!
# JSON strings

The bytes between the quotes of a string: writing escapes quotes, backslashes
and control characters and leaves all else as it is, and reading accepts every
escape of the format.
-/

namespace Polyglot
namespace Json

def hexByte (n : Nat) : UInt8 :=
  UInt8.ofNat (if n < 10 then 0x30 + n else 0x57 + n)

def escapeChar (c : Char) : List UInt8 :=
  match c.toNat with
  | 0x22 => [0x5c, 0x22]
  | 0x5c => [0x5c, 0x5c]
  | 0x08 => [0x5c, 0x62]
  | 0x0c => [0x5c, 0x66]
  | 0x0a => [0x5c, 0x6e]
  | 0x0d => [0x5c, 0x72]
  | 0x09 => [0x5c, 0x74]
  | n =>
      if n < 0x20 then [0x5c, 0x75, 0x30, 0x30, hexByte (n / 16), hexByte (n % 16)]
      else String.utf8EncodeChar c

def escape (cs : List Char) : List UInt8 :=
  cs.flatMap escapeChar

def ofString (s : String) : Json :=
  .text (escape s.toList)

def hex? (b : UInt8) : Option Nat :=
  if 0x30 ≤ b ∧ b ≤ 0x39 then some (b.toNat - 0x30)
  else if 0x61 ≤ b ∧ b ≤ 0x66 then some (b.toNat - 0x57)
  else if 0x41 ≤ b ∧ b ≤ 0x46 then some (b.toNat - 0x37)
  else none

def unit? (a b c d : UInt8) : Option Nat := do
  let x ← hex? a
  let y ← hex? b
  let z ← hex? c
  let w ← hex? d
  some (((x * 16 + y) * 16 + z) * 16 + w)

def shortEscape? (b : UInt8) : Option Char :=
  match b.toNat with
  | 0x22 => some '"'
  | 0x5c => some '\\'
  | 0x2f => some '/'
  | 0x62 => some '\x08'
  | 0x66 => some '\x0c'
  | 0x6e => some '\n'
  | 0x72 => some '\r'
  | 0x74 => some '\t'
  | _ => none

def pair? (high low : Nat) : Option Char :=
  if 0xd800 ≤ high ∧ high ≤ 0xdbff ∧ 0xdc00 ≤ low ∧ low ≤ 0xdfff then
    some (Char.ofNat (0x10000 + (high - 0xd800) * 0x400 + (low - 0xdc00)))
  else
    none

/--
The text that the bytes between two quotes spell.  A surrogate is part of a text
only as one half of a pair of escapes.
-/
def unescape? : List UInt8 → Option (List Char)
  | [] => some []
  | a :: r =>
      if a = 0x5c then
        match r with
        | [] => none
        | e :: r =>
            if e = 0x75 then
              match r with
              | x :: y :: z :: w :: r =>
                  match unit? x y z w with
                  | none => none
                  | some n =>
                      match Text.charOf? 0 n with
                      | some c => (unescape? r).map (c :: ·)
                      | none =>
                          match r with
                          | s :: u :: x :: y :: z :: w :: r =>
                              if s = 0x5c ∧ u = 0x75 then
                                match (unit? x y z w).bind (pair? n) with
                                | some c => (unescape? r).map (c :: ·)
                                | none => none
                              else
                                none
                          | _ => none
              | _ => none
            else
              match shortEscape? e with
              | some c => (unescape? r).map (c :: ·)
              | none => none
      else if a < 0x80 then
        (unescape? r).map (Char.ofNat a.toNat :: ·)
      else
        match r with
        | [] => none
        | b :: r =>
            match Text.char2? a b with
            | some c => (unescape? r).map (c :: ·)
            | none =>
                match r with
                | [] => none
                | c :: r =>
                    match Text.char3? a b c with
                    | some x => (unescape? r).map (x :: ·)
                    | none =>
                        match r with
                        | [] => none
                        | d :: r =>
                            match Text.char4? a b c d with
                            | some x => (unescape? r).map (x :: ·)
                            | none => none

end Json
end Polyglot
