/-!
# UTF-8

Texts as bytes.  Every text has one spelling; bytes that are no such spelling
(stray or missing continuation bytes, spellings that are longer than needed,
surrogates and code points beyond the last one) are not a text.
-/

namespace Polyglot
namespace Text

def utf8 (cs : List Char) : List UInt8 :=
  cs.flatMap String.utf8EncodeChar

def bytes (s : String) : List UInt8 :=
  utf8 s.toList

def tail? (b : UInt8) : Option Nat :=
  if 0x80 ≤ b ∧ b ≤ 0xbf then some (b.toNat - 0x80) else none

/-- A code point that stands for a character and needs at least `least`. -/
def charOf? (least n : Nat) : Option Char :=
  if h : n.isValidChar then
    if least ≤ n then some ⟨n.toUInt32, by
      have hn : n < 2 ^ 32 := by
        rcases h with h | ⟨_, h⟩
        · exact Nat.lt_trans h (by decide)
        · exact Nat.lt_trans h (by decide)
      show (UInt32.ofNat n).toNat.isValidChar
      rw [UInt32.toNat_ofNat_of_lt' hn]
      exact h⟩
    else none
  else none

def char2? (a b : UInt8) : Option Char := do
  let y ← tail? b
  if 0xc0 ≤ a ∧ a ≤ 0xdf then charOf? 0x80 ((a.toNat - 0xc0) * 64 + y) else none

def char3? (a b c : UInt8) : Option Char := do
  let y ← tail? b
  let z ← tail? c
  if 0xe0 ≤ a ∧ a ≤ 0xef then
    charOf? 0x800 (((a.toNat - 0xe0) * 64 + y) * 64 + z)
  else none

def char4? (a b c d : UInt8) : Option Char := do
  let y ← tail? b
  let z ← tail? c
  let w ← tail? d
  if 0xf0 ≤ a ∧ a ≤ 0xf7 then
    charOf? 0x10000 ((((a.toNat - 0xf0) * 64 + y) * 64 + z) * 64 + w)
  else none

def ofUtf8? : List UInt8 → Option (List Char)
  | [] => some []
  | a :: r =>
      if a < 0x80 then
        (ofUtf8? r).map (Char.ofNat a.toNat :: ·)
      else
        match r with
        | [] => none
        | b :: r =>
            match char2? a b with
            | some x => (ofUtf8? r).map (x :: ·)
            | none =>
                match r with
                | [] => none
                | c :: r =>
                    match char3? a b c with
                    | some x => (ofUtf8? r).map (x :: ·)
                    | none =>
                        match r with
                        | [] => none
                        | d :: r =>
                            match char4? a b c d with
                            | some x => (ofUtf8? r).map (x :: ·)
                            | none => none

end Text
end Polyglot
