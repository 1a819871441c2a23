import Polyglot.Json.Reader
import Polyglot.Json.Refusal

/-!
# Scanning documents

A scan goes through a document once and stops at the first thing that does not fit: it is told
which kind of value comes next, so it stops at a value of another kind as it does at a stray
character.  Scans make no values.  They find the reason, and the place, for which a document is
refused.
-/

namespace Polyglot
namespace Json

/-- A place in a document: the number of bytes before it, and the bytes behind it. -/
structure Cursor where
  offset : Nat
  rest : List UInt8

def Cursor.skip (c : Cursor) (n : Nat) : Cursor :=
  ⟨c.offset + (c.rest.take n).length, c.rest.drop n⟩

/--
Why a scan stops.  A reason that is about a whole value has no place of its own; it gets the
place at which the innermost value around it is left.
-/
structure Stop where
  reason : Reason
  offset : Option Nat

abbrev Scan := ExceptT Stop (StateM Cursor)

namespace Scan

variable {α : Type}

def peek : Scan (Option UInt8) := do
  return (← get).rest.head?

def skip (n : Nat) : Scan Unit :=
  modify (Cursor.skip · n)

def next : Scan (Option UInt8) := do
  let b ← peek
  skip 1
  return b

def left : Scan Nat := do
  return (← get).rest.length

def stop (reason : Reason) : Scan α := do
  throw ⟨reason, some (← get).offset⟩

def stopBehind (reason : Reason) : Scan α := do
  throw ⟨reason, some ((← get).skip 1).offset⟩

def stopUnplaced (reason : Reason) : Scan α :=
  throw ⟨reason, none⟩

def placed (x : Scan α) : Scan α := fun c =>
  match x c with
  | (.error ⟨reason, none⟩, c) => (.error ⟨reason, some c.offset⟩, c)
  | result => result

/-- Leaves a container; its end is looked for even if its contents do not fit. -/
def closedBy (x : Scan α) (close : Scan Unit) : Scan α := fun c =>
  match x c with
  | (.ok a, c) => (close *> pure a : Scan α) c
  | (.error e, c) => (.error e, (close c).2)

/-! ## Blanks, words and numbers -/

def takeAll (p : UInt8 → Bool) : Scan (List UInt8) := do
  let bs := (← get).rest.takeWhile p
  skip bs.length
  return bs

/-- The next byte that is not blank; it is not taken. -/
def peekVisible : Scan (Option UInt8) := do
  let _ ← takeAll isBlankByte
  peek

def word : List UInt8 → Scan Unit
  | [] => pure ()
  | c :: cs => do
      match ← next with
      | none => stop (.ended .value)
      | some b => if b = c then word cs else stop .expectedWord

def exponent (ended : Reason) (negative : Bool) (whole fraction : List UInt8) :
    Scan Numeral := do
  if (← peek).any fun b => b == 0x65 || b == 0x45 then
    skip 1
    let sign ← peek
    if sign.any fun b => b == 0x2b || b == 0x2d then skip 1
    match ← next with
    | none => stop ended
    | some b =>
        if isDigitByte b then
          return ⟨negative, whole, fraction, some (sign == some 0x2d, b :: (← takeAll isDigitByte))⟩
        else stop .invalidNumber
  else return ⟨negative, whole, fraction, none⟩

def fraction (ended : Reason) (negative : Bool) (whole : List UInt8) : Scan Numeral := do
  if (← peek) = some 0x2e then
    skip 1
    match ← takeAll isDigitByte with
    | [] => if (← peek).isSome then stopBehind .invalidNumber else stopBehind ended
    | ds => exponent ended negative whole ds
  else exponent ended negative whole []

/-- A number behind its sign; the reason is the one for a number that the document ends in. -/
def unsigned (ended : Reason) (negative : Bool) : Scan Numeral := do
  match ← next with
  | none => stop ended
  | some b =>
      if b = 0x30 then
        if (← peek).any isDigitByte then stopBehind .invalidNumber
        else fraction ended negative [b]
      else if isDigitByte b then
        fraction ended negative (b :: (← takeAll isDigitByte))
      else stop .invalidNumber

def numeral (ended : Reason) : Scan Numeral := do
  if (← peek) = some 0x2d then
    skip 1
    unsigned ended true
  else unsigned ended false

def beyond (limit value : Nat) : List UInt8 → Nat
  | [] => 0
  | d :: ds =>
      if limit < 10 * value + Numeral.digit d then ds.length
      else beyond limit (10 * value + Numeral.digit d) ds

def unread (n : Numeral) : Nat :=
  match n.exponent with
  | none => 0
  | some (_, ds) => beyond (Numeral.wordLimit 31) 0 ds

/-- A number that has a finite value.  An exponent that fits no word stops the scan at once. -/
def number : Scan Numeral := do
  let n ← numeral (.ended .value)
  if n.float?.isSome then return n
  else throw ⟨.numberOutOfRange, some ((← get).offset - unread n)⟩

/-! ## Texts -/

def unit : Scan (List UInt8 × Nat) := do
  match (← get).rest with
  | x :: y :: z :: w :: _ =>
      skip 4
      match unit? x y z w with
      | some n => return ([x, y, z, w], n)
      | none => stop .invalidEscape
  | rest =>
      skip rest.length
      stop (.ended .text)

def pairByte (b : UInt8) : Scan Unit := do
  match ← next with
  | none => stop (.ended .text)
  | some c => if c = b then pure () else stop .unpairedSurrogate

/-- What follows a backslash.  Surrogates have to come in pairs if the text is asked for. -/
def escape (asked : Bool) : Scan (List UInt8) := do
  match ← next with
  | none => stop (.ended .text)
  | some 0x75 => do
      let (high, n) ← unit
      if !asked || n < 0xd800 || 0xdfff < n then return 0x75 :: high
      else if 0xdc00 ≤ n then stop .loneSurrogate
      else
        pairByte 0x5c
        pairByte 0x75
        let (low, m) ← unit
        if 0xdc00 ≤ m && m ≤ 0xdfff then return 0x75 :: high ++ 0x5c :: 0x75 :: low
        else stop .loneSurrogate
  | some b => if isShortEscape b then return [b] else stop .invalidEscape

def rawText (asked : Bool) : Nat → List UInt8 → Scan (List UInt8)
  | 0, _ => stop (.ended .text)
  | rounds + 1, before => do
      match ← peek with
      | none => stop (.ended .text)
      | some 0x22 => do
          skip 1
          return before.reverse
      | some 0x5c => do
          skip 1
          let bs ← escape asked
          rawText asked rounds (bs.reverse ++ 0x5c :: before)
      | some b =>
          if b < 0x20 then
            if asked then skip 1
            stop .controlCharacter
          else
            skip 1
            rawText asked rounds (b :: before)

def text : Scan String := do
  match unescape? (← rawText true ((← left) + 1) []) with
  | some cs => return String.ofList cs
  | none => stop .invalidCodePoint

/-! ## Values of a kind -/

def unexpected (expected : String) : Scan Unit := placed do
  match (← peek).map UInt8.toNat with
  | some 0x6e => do
      skip 1
      word [0x75, 0x6c, 0x6c]
      stopUnplaced (.wrongType .null expected)
  | some 0x74 => do
      skip 1
      word [0x72, 0x75, 0x65]
      stopUnplaced (.wrongType (.bool true) expected)
  | some 0x66 => do
      skip 1
      word [0x61, 0x6c, 0x73, 0x65]
      stopUnplaced (.wrongType (.bool false) expected)
  | some 0x22 => do
      skip 1
      stopUnplaced (.wrongType (.text (← text)) expected)
  | some 0x5b => stopUnplaced (.wrongType .list expected)
  | some 0x7b => stopUnplaced (.wrongType .object expected)
  | some b =>
      if b = 0x2d ∨ isDigitByte (UInt8.ofNat b) then do
        stopUnplaced (.wrongType (.number (← number)) expected)
      else stopBehind .expectedValue
  | none => stopBehind .expectedValue

def value (expected : String) (scan? : UInt8 → Option (Scan Unit)) : Scan Unit := do
  match ← peekVisible with
  | none => stopBehind (.ended .value)
  | some b => placed ((scan? b).getD (unexpected expected))

/-- A number that the test accepts; a whole number is refused for its value only. -/
def numberOf (expected : String) (accepts : Numeral → Bool) : Scan Unit :=
  value expected fun b =>
    if b = 0x2d ∨ isDigitByte b then some do
      let n ← number
      if accepts n then return ()
      else if n.fitsWord then stopUnplaced (.wrongValue (.number n) expected)
      else stopUnplaced (.wrongType (.number n) expected)
    else none

def nat (expected : String) (limit : Nat) : Scan Unit :=
  numberOf expected fun n => (n.nat? limit).isSome

def int (expected : String) (limit : Nat) : Scan Unit :=
  numberOf expected fun n => (n.int? limit).isSome

def float (expected : String) : Scan Unit :=
  numberOf expected fun _ => true

def bool : Scan Unit :=
  value "a boolean" fun b =>
    if b = 0x74 then some do
      skip 1
      word [0x72, 0x75, 0x65]
    else if b = 0x66 then some do
      skip 1
      word [0x61, 0x6c, 0x73, 0x65]
    else none

def null : Scan Unit :=
  value "unit" fun b =>
    if b = 0x6e then some do
      skip 1
      word [0x75, 0x6c, 0x6c]
    else none

def textOf (expected : String) (check : String → Scan Unit) : Scan Unit :=
  value expected fun b =>
    if b = 0x22 then some do
      skip 1
      check (← text)
    else none

def string : Scan Unit :=
  textOf "a string" fun _ => pure ()

/-! ## Lists -/

/-- Whether there is one more item; a comma between two items is taken. -/
def nextItem (first : Bool) : Scan Bool := do
  match ← peekVisible with
  | none => stopBehind (.ended .list)
  | some 0x5d => return false
  | some b =>
      if first then return true
      else if b = 0x2c then
        skip 1
        match ← peekVisible with
        | none => stopBehind (.ended .value)
        | some 0x5d => stopBehind .trailingComma
        | some _ => return true
      else stopBehind .expectedItem

def endList : Scan Unit := do
  match ← peekVisible with
  | none => stopBehind (.ended .list)
  | some 0x5d => skip 1
  | some 0x2c => do
      skip 1
      if (← peekVisible) = some 0x5d then stopBehind .trailingComma
      else stopBehind .trailingCharacters
  | some _ => stopBehind .trailingCharacters

def items (item : Scan Unit) : Nat → Bool → Scan Unit
  | 0, _ => pure ()
  | rounds + 1, first => do
      if ← nextItem first then
        item
        items item rounds false

def itemsOf (expected : String) : Nat → List (Scan Unit) → Scan Unit
  | _, [] => pure ()
  | found, item :: kinds => do
      if ← nextItem (found == 0) then
        item
        itemsOf expected (found + 1) kinds
      else stopUnplaced (.wrongLength found expected)

def listWith (contents : Scan Unit) : Scan Unit := do
  skip 1
  contents.closedBy endList

def list (item : Scan Unit) : Scan Unit :=
  value "a sequence" fun b =>
    if b = 0x5b then some (listWith do items item ((← left) + 1) true) else none

def pair (item : Scan Unit) : Scan Unit :=
  value "a tuple of size 2" fun b =>
    if b = 0x5b then some (listWith (itemsOf "a tuple of size 2" 0 [item, item])) else none

/-! ## Objects -/

/-- Whether there is one more key; its opening quote is not taken. -/
def nextKey (first : Bool) : Scan Bool := do
  match ← peekVisible with
  | none => stopBehind (.ended .object)
  | some 0x7d => return false
  | some b =>
      if first then
        if b = 0x22 then return true else stopBehind .keyNotText
      else if b = 0x2c then
        skip 1
        match ← peekVisible with
        | none => stopBehind (.ended .value)
        | some 0x22 => return true
        | some 0x7d => stopBehind .trailingComma
        | some _ => stopBehind .keyNotText
      else stopBehind .expectedEntry

def colon : Scan Unit := do
  match ← peekVisible with
  | none => stopBehind (.ended .object)
  | some 0x3a => skip 1
  | some _ => stopBehind .expectedColon

def endObject : Scan Unit := do
  match ← peekVisible with
  | none => stopBehind (.ended .object)
  | some 0x7d => skip 1
  | some 0x2c => stopBehind .trailingComma
  | some _ => stopBehind .trailingCharacters

def objectWith (contents : Scan Unit) : Scan Unit := do
  skip 1
  contents.closedBy endObject

def entries (item : Scan Unit) : Nat → Bool → Scan Unit
  | 0, _ => pure ()
  | rounds + 1, first => do
      if ← nextKey first then
        skip 1
        let _ ← text
        colon
        item
        entries item rounds false

def map (item : Scan Unit) : Scan Unit :=
  value "a map" fun b =>
    if b = 0x7b then some (objectWith do entries item ((← left) + 1) true) else none

/-! ## Values that nobody asks for -/

inductive Bracket where
  | list
  | object

/-- Where a scan of a value stands that nobody asks for. -/
inductive Phase where
  | value
  | opened
  | finished

def ignoredKey : Scan Unit := do
  match ← peekVisible with
  | none => stopBehind (.ended .object)
  | some 0x22 => do
      skip 1
      let _ ← rawText false ((← left) + 1) []
      colon
  | some _ => stopBehind .keyNotText

def ignoredScalar (b : UInt8) : Scan Unit := do
  match b.toNat with
  | 0x6e => do
      skip 1
      word [0x75, 0x6c, 0x6c]
  | 0x74 => do
      skip 1
      word [0x72, 0x75, 0x65]
  | 0x66 => do
      skip 1
      word [0x61, 0x6c, 0x73, 0x65]
  | 0x22 => do
      skip 1
      let _ ← rawText false ((← left) + 1) []
  | _ =>
      if b = 0x2d ∨ isDigitByte b then
        let _ ← numeral .invalidNumber
      else stopBehind .expectedValue

def ignoredStart : Bracket → Scan Unit
  | .list => pure ()
  | .object => ignoredKey

/-- The open brackets, innermost first; each round but those behind an opening bracket takes a byte. -/
def ignoredFrom : Nat → Phase → List Bracket → Scan Unit
  | 0, _, _ => pure ()
  | rounds + 1, .value, brackets => do
      match ← peekVisible with
      | none => stopBehind (.ended .value)
      | some 0x5b => do
          skip 1
          ignoredFrom rounds .opened (.list :: brackets)
      | some 0x7b => do
          skip 1
          ignoredFrom rounds .opened (.object :: brackets)
      | some b => do
          ignoredScalar b
          ignoredFrom rounds .finished brackets
  | _ + 1, _, [] => pure ()
  | rounds + 1, .opened, bracket :: brackets => do
      match bracket, ← peekVisible with
      | .list, none => stopBehind (.ended .list)
      | .object, none => stopBehind (.ended .object)
      | .list, some 0x5d | .object, some 0x7d => do
          skip 1
          ignoredFrom rounds .finished brackets
      | _, some _ => do
          ignoredStart bracket
          ignoredFrom rounds .value (bracket :: brackets)
  | rounds + 1, .finished, bracket :: brackets => do
      match bracket, ← peekVisible with
      | .list, none => stopBehind (.ended .list)
      | .object, none => stopBehind (.ended .object)
      | .list, some 0x5d | .object, some 0x7d => do
          skip 1
          ignoredFrom rounds .finished brackets
      | _, some 0x2c => do
          skip 1
          ignoredStart bracket
          ignoredFrom rounds .value (bracket :: brackets)
      | .list, some _ => stopBehind .expectedItem
      | .object, some _ => stopBehind .expectedEntry

def ignored : Scan Unit := do
  ignoredFrom (2 * (← left) + 2) .value []

/-! ## Records and choices -/

/-- The entries of a record.  Entries with other names are passed over. -/
def fields (kinds : List (String × Scan Unit)) : Nat → Bool → List String → Scan Unit
  | 0, _, _ => pure ()
  | rounds + 1, first, seen => do
      if ← nextKey first then
        skip 1
        let key ← text
        match kinds.lookup key with
        | none => do
            colon
            ignored
            fields kinds rounds false seen
        | some kind =>
            if seen.contains key then stopUnplaced (.duplicateField key)
            else
              colon
              kind
              fields kinds rounds false (key :: seen)
      else
        match (kinds.map Prod.fst).find? fun name => !seen.contains name with
        | some name => stopUnplaced (.missingField name)
        | none => pure ()

def record (name : String) (kinds : List (String × Scan Unit)) : Scan Unit :=
  let expected := "struct " ++ name
  let size := if kinds.length = 1 then "1 element" else s!"{kinds.length} elements"
  value expected fun b =>
    if b = 0x5b then
      some (listWith (itemsOf (expected ++ " with " ++ size) 0 (kinds.map Prod.snd)))
    else if b = 0x7b then
      some (objectWith do fields kinds ((← left) + 1) true [])
    else none

def variant (names : List String) : Scan Unit :=
  textOf "variant identifier" fun name =>
    if names.contains name then pure () else stopUnplaced (.unknownVariant name names)

def choice (names : List String) : Scan Unit := do
  match ← peekVisible with
  | none => stopBehind (.ended .value)
  | some 0x22 => variant names
  | some 0x7b => do
      skip 1
      variant names
      colon
      null
      match ← peekVisible with
      | none => stop (.ended .object)
      | some 0x7d => skip 1
      | some _ => stop .expectedValue
  | some _ => stopBehind .expectedValue

/-! ## Documents -/

/-- A document that holds nothing but a value of some kind; it is scanned when it does not. -/
def whole (kind : Scan Unit) : Scan Empty := do
  kind
  let _ ← peekVisible
  stopBehind .trailingCharacters

end Scan

def refusal (kind : Scan Unit) (document : List UInt8) : Refusal :=
  match Scan.whole kind ⟨0, document⟩ with
  | (.error e, c) => .after document e.reason (e.offset.getD c.offset)

end Json
end Polyglot
