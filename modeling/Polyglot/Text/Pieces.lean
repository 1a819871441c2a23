/-!
# Pieces

Lists cut at a separator.  A list with `n` separators has `n + 1` pieces, and
some of them may be empty.
-/

namespace Polyglot
namespace Text

def pieces [DecidableEq α] (separator : α) : List α → List (List α)
  | [] => [[]]
  | x :: xs =>
      if x = separator then [] :: pieces separator xs
      else
        match pieces separator xs with
        | [] => [[x]]
        | piece :: rest => (x :: piece) :: rest

end Text
end Polyglot
