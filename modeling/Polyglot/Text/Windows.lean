/-!
# Windows of a text

A window is a run of consecutive characters of a text.  The terms that the
vectorizer counts are windows, and keywords are found as windows too.
-/

namespace Polyglot
namespace Text

/-- The windows of `n` characters, in text order.  There is none of width zero. -/
def windows (n : Nat) : List Char → List (List Char)
  | [] => []
  | c :: cs =>
      let window := (c :: cs).take n
      if 0 < n ∧ window.length = n then window :: windows n cs else []

/--
The windows of every width from `lo` to `hi`, narrow ones first.  Widths that
exceed the text contribute nothing, so only widths up to its length are tried.
-/
def windowsBetween (lo hi : Nat) (cs : List Char) : List (List Char) :=
  ((List.range (cs.length + 1)).filter fun n => lo ≤ n && n ≤ hi).flatMap
    fun n => windows n cs

/-- The number of positions of the text at which `pattern` begins. -/
def occurrences (pattern : List Char) : List Char → Nat
  | [] => if pattern.isEmpty then 1 else 0
  | c :: cs =>
      (if pattern.isPrefixOf (c :: cs) then 1 else 0) + occurrences pattern cs

/-- Whether `pattern` begins at some position of the text. -/
def contains (pattern : List Char) : List Char → Bool
  | [] => pattern.isEmpty
  | c :: cs => pattern.isPrefixOf (c :: cs) || contains pattern cs

end Text
end Polyglot
