import Polyglot.Json.Number
import Polyglot.Json.Printer
import Polyglot.Text.Quoted

/-!
# Refused documents

Why a document is refused, and where.  A reason is either a violation of the format or a value
that is not of the kind that is asked for.  The message of a refusal ends in the line and the
column up to which the document was read; columns count bytes.
-/

namespace Polyglot
namespace Json

inductive OpenPart where
  | list
  | object
  | text
  | value
  deriving DecidableEq

def OpenPart.name : OpenPart → String
  | .list => "a list"
  | .object => "an object"
  | .text => "a string"
  | .value => "a value"

inductive Found where
  | null
  | bool (b : Bool)
  | number (n : Numeral)
  | text (s : String)
  | list
  | object
  deriving DecidableEq

namespace Found

def numberText (n : Numeral) : String :=
  if n.fitsWord then
    "integer `" ++ (if n.negative then "-" else "") ++ toString (Numeral.ofDigits n.whole) ++ "`"
  else
    "floating point `" ++ (match n.float? with
      | some x => String.ofList ((ofFloat x).print.map fun b => Char.ofNat b.toNat)
      | none => "") ++ "`"

def message : Found → String
  | .null => "null"
  | .bool b => s!"boolean `{b}`"
  | .number n => numberText n
  | .text s => "string " ++ Text.quoted s
  | .list => "sequence"
  | .object => "map"

end Found

/-- Why a document is refused; what is asked for is named in words. -/
inductive Reason where
  | ended (part : OpenPart)
  | expectedColon
  | expectedItem
  | expectedEntry
  | expectedWord
  | expectedValue
  | invalidEscape
  | invalidNumber
  | numberOutOfRange
  | invalidCodePoint
  | controlCharacter
  | keyNotText
  | loneSurrogate
  | unpairedSurrogate
  | trailingComma
  | trailingCharacters
  | missingField (name : String)
  | duplicateField (name : String)
  | unknownVariant (name : String) (known : List String)
  | wrongType (found : Found) (expected : String)
  | wrongValue (found : Found) (expected : String)
  | wrongLength (length : Nat) (expected : String)
  deriving DecidableEq

namespace Reason

def message : Reason → String
  | .ended part => "EOF while parsing " ++ part.name
  | .expectedColon => "expected `:`"
  | .expectedItem => "expected `,` or `]`"
  | .expectedEntry => "expected `,` or `\x7d`"
  | .expectedWord => "expected ident"
  | .expectedValue => "expected value"
  | .invalidEscape => "invalid escape"
  | .invalidNumber => "invalid number"
  | .numberOutOfRange => "number out of range"
  | .invalidCodePoint => "invalid unicode code point"
  | .controlCharacter => "control character (\\u0000-\\u001F) found while parsing a string"
  | .keyNotText => "key must be a string"
  | .loneSurrogate => "lone leading surrogate in hex escape"
  | .unpairedSurrogate => "unexpected end of hex escape"
  | .trailingComma => "trailing comma"
  | .trailingCharacters => "trailing characters"
  | .missingField name => s!"missing field `{name}`"
  | .duplicateField name => s!"duplicate field `{name}`"
  | .unknownVariant name known =>
      s!"unknown variant `{name}`, expected one of " ++
        ", ".intercalate (known.map fun name => "`" ++ name ++ "`")
  | .wrongType found expected => "invalid type: " ++ found.message ++ ", expected " ++ expected
  | .wrongValue found expected => "invalid value: " ++ found.message ++ ", expected " ++ expected
  | .wrongLength length expected => s!"invalid length {length}, expected {expected}"

end Reason

structure Refusal where
  reason : Reason
  line : Nat
  column : Nat
  deriving DecidableEq

namespace Refusal

/-- A refusal after `offset` bytes of a document. -/
def after (document : List UInt8) (reason : Reason) (offset : Nat) : Refusal :=
  let before := document.take offset
  { reason
    line := before.count 0x0a + 1
    column := (before.reverse.takeWhile (· != 0x0a)).length }

def message (r : Refusal) : String :=
  r.reason.message ++ s!" at line {r.line} column {r.column}"

end Refusal
end Json
end Polyglot
