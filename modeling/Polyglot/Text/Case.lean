import Polyglot.Text.CaseTable

/-!
# Letter case

The lower and upper case of a text.  A capital sigma is the one character whose
lower case depends on its neighbours: at the end of a word it takes its final
form.
-/

namespace Polyglot
namespace Text

def partner? (runs : List CaseRun) (c : Char) : Option Char :=
  (runs.findSome? fun run => run.partner? c.toNat).map Char.ofNat

def lowerChar (c : Char) : List Char :=
  if c.toNat < 0x80 then
    [if 'A' ≤ c ∧ c ≤ 'Z' then Char.ofNat (c.toNat + 32) else c]
  else if c.toNat = 0x130 then
    ['i', '\u0307']
  else
    [(partner? lowerRuns c).getD c]

def isCaseIgnorable (c : Char) : Bool :=
  inIntervals caseIgnorableIntervals c.toNat

def isCased (c : Char) : Bool :=
  inIntervals casedIntervals c.toNat

def casedNext (cs : List Char) : Bool :=
  ((cs.dropWhile isCaseIgnorable).head?.map isCased).getD false

/--
The lower case of the rest of a text, given the characters before it in reverse
order.
-/
def lowerAfter (before : List Char) : List Char → List Char
  | [] => []
  | c :: cs =>
      (if c = 'Σ' then
        [if casedNext before && !casedNext cs then 'ς' else 'σ']
      else
        lowerChar c) ++ lowerAfter (c :: before) cs

def lower (cs : List Char) : List Char :=
  lowerAfter [] cs

def upperChar (c : Char) : List Char :=
  if c.toNat < 0x80 then
    [if 'a' ≤ c ∧ c ≤ 'z' then Char.ofNat (c.toNat - 32) else c]
  else
    match upperSequences.lookup c.toNat with
    | some sequence => sequence.map Char.ofNat
    | none => [(partner? upperRuns c).getD c]

def upper (cs : List Char) : List Char :=
  cs.flatMap upperChar

end Text
end Polyglot
