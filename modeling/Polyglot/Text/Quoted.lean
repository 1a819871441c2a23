import Polyglot.Text.CaseTable
import Polyglot.Text.VisibleTable

/-!
# Quoted texts

Texts between double quotes, as they stand in log lines and in the summary of a
forest.  Quotes and backslashes are escaped, and so is every character that
would not be visible on its own.
-/

namespace Polyglot
namespace Text

def hexDigits (n : Nat) : List Char :=
  Nat.toDigits 16 n

def isVisible (c : Char) : Bool :=
  !(inIntervals shapelessIntervals c.toNat) && !(inIntervals extendingIntervals c.toNat)

def quotedChar (c : Char) : List Char :=
  match c with
  | '"' => ['\\', '"']
  | '\\' => ['\\', '\\']
  | '\n' => ['\\', 'n']
  | '\r' => ['\\', 'r']
  | '\t' => ['\\', 't']
  | '\x00' => ['\\', '0']
  | c =>
      if c.toNat < 0x7f ∧ 0x20 ≤ c.toNat then [c]
      else if isVisible c then [c]
      else ['\\', 'u', '\x7b'] ++ hexDigits c.toNat ++ ['\x7d']

def quoted (s : String) : String :=
  String.ofList ('"' :: s.toList.flatMap quotedChar ++ ['"'])

def quotedStrictly (s : String) : String :=
  String.ofList ('"' :: s.toList.flatMap (fun c =>
    if c = '\x27' then ['\\', c] else quotedChar c) ++ ['"'])

def quotedList (xs : List String) : String :=
  "[" ++ ", ".intercalate (xs.map quoted) ++ "]"

end Text
end Polyglot
