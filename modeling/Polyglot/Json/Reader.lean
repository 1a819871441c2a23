import Polyglot.Json.Basic

/-!
# Reading JSON

The reader takes a document byte by byte.  Its state holds the containers that
are still open and what has been read of the innermost part, so reading is a
fold over the bytes: a document that is cut short leaves the reader in a state
that is not final, and after the end of a document only blanks may follow.
-/

namespace Polyglot
namespace Json

/-- A container whose next item is being read; what it already holds is in reverse order. -/
inductive Frame where
  | inArray (items : List Json)
  | inObject (entries : List (List UInt8 × Json)) (key : List UInt8)

inductive NumberPart where
  | sign
  | zero
  | whole
  | point
  | fraction
  | mark
  | markSign
  | exponent
  deriving DecidableEq

/-- A number that is being read; its digits are in reverse order. -/
structure NumberScan where
  part : NumberPart
  negative : Bool
  whole : List UInt8
  fraction : List UInt8
  exponentNegative : Bool
  exponent : List UInt8

/-- Where a string is being read: between characters or inside an escape. -/
inductive TextPart where
  | plain
  | escape
  | unit (missing : Nat)
  deriving DecidableEq

/-- What the reader waits for; what the innermost container holds is in reverse order. -/
inductive Mode where
  | value
  | itemStart
  | itemEnd (items : List Json)
  | keyStart
  | keyNext (entries : List (List UInt8 × Json))
  | colon (entries : List (List UInt8 × Json)) (key : List UInt8)
  | entryEnd (entries : List (List UInt8 × Json))
  | text (part : TextPart) (raw : List UInt8) (owner : Option (List (List UInt8 × Json)))
  | word (rest : List UInt8) (v : Json)
  | number (scan : NumberScan)
  | done (v : Json)

/-- The open containers, innermost first, and what the reader waits for. -/
structure State where
  stack : List Frame
  mode : Mode

namespace State

def start : State := ⟨[], .value⟩

def complete (stack : List Frame) (v : Json) : State :=
  match stack with
  | [] => ⟨[], .done v⟩
  | .inArray items :: stack => ⟨stack, .itemEnd (v :: items)⟩
  | .inObject entries key :: stack => ⟨stack, .entryEnd ((key, v) :: entries)⟩

end State

/-! ## Bytes -/

def isBlankByte (b : UInt8) : Bool :=
  b == 0x20 || b == 0x09 || b == 0x0a || b == 0x0d

def isDigitByte (b : UInt8) : Bool :=
  0x30 ≤ b && b ≤ 0x39

def isHexByte (b : UInt8) : Bool :=
  isDigitByte b || (0x61 ≤ b && b ≤ 0x66) || (0x41 ≤ b && b ≤ 0x46)

/-- The letters that follow a backslash, the one for code units excepted. -/
def isShortEscape (b : UInt8) : Bool :=
  b == 0x22 || b == 0x5c || b == 0x2f || b == 0x62 || b == 0x66 || b == 0x6e ||
    b == 0x72 || b == 0x74

/-! ## Numbers -/

namespace NumberScan

def next? (n : NumberScan) (b : UInt8) : Option NumberScan :=
  let digit := isDigitByte b
  match n.part with
  | .sign =>
      if digit then
        some { n with part := if b = 0x30 then .zero else .whole, whole := [b] }
      else none
  | .zero =>
      if b = 0x2e then some { n with part := .point }
      else if b = 0x65 ∨ b = 0x45 then some { n with part := .mark }
      else none
  | .whole =>
      if digit then some { n with whole := b :: n.whole }
      else if b = 0x2e then some { n with part := .point }
      else if b = 0x65 ∨ b = 0x45 then some { n with part := .mark }
      else none
  | .point =>
      if digit then some { n with part := .fraction, fraction := [b] } else none
  | .fraction =>
      if digit then some { n with fraction := b :: n.fraction }
      else if b = 0x65 ∨ b = 0x45 then some { n with part := .mark }
      else none
  | .mark =>
      if b = 0x2d then some { n with part := .markSign, exponentNegative := true }
      else if b = 0x2b then some { n with part := .markSign }
      else if digit then some { n with part := .exponent, exponent := [b] }
      else none
  | .markSign =>
      if digit then some { n with part := .exponent, exponent := [b] } else none
  | .exponent =>
      if digit then some { n with exponent := b :: n.exponent } else none

def finish? (n : NumberScan) : Option Numeral :=
  let numeral exponent : Numeral :=
    ⟨n.negative, n.whole.reverse, n.fraction.reverse, exponent⟩
  match n.part with
  | .zero | .whole | .fraction => some (numeral none)
  | .exponent => some (numeral (some (n.exponentNegative, n.exponent.reverse)))
  | .sign | .point | .mark | .markSign => none

end NumberScan

/-! ## Steps -/

namespace State

def beginValue (stack : List Frame) (b : UInt8) : Option State :=
  match b.toNat with
  | 0x22 => some ⟨stack, .text .plain [] none⟩
  | 0x5b => some ⟨stack, .itemStart⟩
  | 0x7b => some ⟨stack, .keyStart⟩
  | 0x6e => some ⟨stack, .word [0x75, 0x6c, 0x6c] .null⟩
  | 0x74 => some ⟨stack, .word [0x72, 0x75, 0x65] (.bool true)⟩
  | 0x66 => some ⟨stack, .word [0x61, 0x6c, 0x73, 0x65] (.bool false)⟩
  | 0x2d => some ⟨stack, .number ⟨.sign, true, [], [], false, []⟩⟩
  | 0x30 => some ⟨stack, .number ⟨.zero, false, [b], [], false, []⟩⟩
  | _ =>
      if isDigitByte b then some ⟨stack, .number ⟨.whole, false, [b], [], false, []⟩⟩
      else none

def afterValue (s : State) (b : UInt8) : Option State :=
  if isBlankByte b then some s
  else
    match s.mode with
    | .itemEnd items =>
        if b = 0x2c then some ⟨.inArray items :: s.stack, .value⟩
        else if b = 0x5d then some (complete s.stack (.array items.reverse))
        else none
    | .entryEnd entries =>
        if b = 0x2c then some ⟨s.stack, .keyNext entries⟩
        else if b = 0x7d then some (complete s.stack (.object entries.reverse))
        else none
    | _ => none

def insideText (stack : List Frame) (part : TextPart) (raw : List UInt8)
    (owner : Option (List (List UInt8 × Json))) (b : UInt8) : Option State :=
  match part with
  | .plain =>
      if b = 0x22 then
        match owner with
        | none => some (complete stack (.text raw.reverse))
        | some entries => some ⟨stack, .colon entries raw.reverse⟩
      else if b = 0x5c then some ⟨stack, .text .escape (b :: raw) owner⟩
      else if b < 0x20 then none
      else some ⟨stack, .text .plain (b :: raw) owner⟩
  | .escape =>
      if b = 0x75 then some ⟨stack, .text (.unit 4) (b :: raw) owner⟩
      else if isShortEscape b then some ⟨stack, .text .plain (b :: raw) owner⟩
      else none
  | .unit missing =>
      if isHexByte b then
        let next := if missing ≤ 1 then .plain else .unit (missing - 1)
        some ⟨stack, .text next (b :: raw) owner⟩
      else none

def step (s : State) (b : UInt8) : Option State :=
  match s.mode with
  | .value => if isBlankByte b then some s else beginValue s.stack b
  | .itemStart =>
      if isBlankByte b then some s
      else if b = 0x5d then some (complete s.stack (.array []))
      else beginValue (.inArray [] :: s.stack) b
  | .keyStart =>
      if isBlankByte b then some s
      else if b = 0x7d then some (complete s.stack (.object []))
      else if b = 0x22 then some ⟨s.stack, .text .plain [] (some [])⟩
      else none
  | .keyNext entries =>
      if isBlankByte b then some s
      else if b = 0x22 then some ⟨s.stack, .text .plain [] (some entries)⟩
      else none
  | .colon entries key =>
      if isBlankByte b then some s
      else if b = 0x3a then some ⟨.inObject entries key :: s.stack, .value⟩
      else none
  | .text part raw owner => insideText s.stack part raw owner b
  | .word rest v =>
      match rest with
      | [] => none
      | [c] => if b = c then some (complete s.stack v) else none
      | c :: rest => if b = c then some ⟨s.stack, .word rest v⟩ else none
  | .number n =>
      match n.next? b with
      | some n => some ⟨s.stack, .number n⟩
      | none =>
          match n.finish? with
          | some numeral => (complete s.stack (.number numeral)).afterValue b
          | none => none
  | .itemEnd _ | .entryEnd _ | .done _ => s.afterValue b

def finish? (s : State) : Option Json :=
  match s.mode with
  | .done v => some v
  | .number n => if s.stack.isEmpty then n.finish?.map .number else none
  | _ => none

def steps : State → List UInt8 → Option State
  | s, [] => some s
  | s, b :: bs =>
      match s.step b with
      | none => none
      | some s => steps s bs

end State

def parse (document : List UInt8) : Option Json :=
  (State.start.steps document).bind State.finish?

end Json
end Polyglot
