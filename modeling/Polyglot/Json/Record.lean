import Polyglot.Json.Number

/-!
# Records

A record is an object with one entry for each of its fields.  The entries may
stand in any order, and entries with other names are skipped; an array of the
field values in their order spells the same record.
-/

namespace Polyglot
namespace Json

def ofEntries (entries : List (String × Json)) : Json :=
  .object (entries.map fun e => (escape e.1.toList, e.2))

def ofList (json : α → Json) (xs : List α) : Json :=
  .array (xs.map json)

def namedEntries? (entries : List (List UInt8 × Json)) : Option (List (String × Json)) :=
  entries.mapM fun e => (unescape? e.1).map fun name => (String.ofList name, e.2)

def only? (name : String) (entries : List (String × Json)) : Option Json :=
  match entries.filter fun e => e.1 == name with
  | [e] => some e.2
  | _ => none

def fields? (names : List String) : Json → Option (List Json)
  | .array items => if items.length = names.length then some items else none
  | .object entries => do
      let entries ← namedEntries? entries
      names.mapM fun name => only? name entries
  | _ => none

def choice? (named? : String → Option α) : Json → Option α
  | .text raw => ((unescape? raw).map String.ofList).bind named?
  | .object [(raw, .null)] => ((unescape? raw).map String.ofList).bind named?
  | _ => none

end Json
end Polyglot
