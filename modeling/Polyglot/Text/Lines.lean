import Polyglot.Text.Pieces

/-!
# Lines

The lines of an input.  A line ends with a line break, which may have a carriage
return before it; the last line may end with the input instead.
-/

namespace Polyglot
namespace Text

def dropReturn (line : List UInt8) : List UInt8 :=
  if line.getLast? = some 0x0d then line.dropLast else line

/-- The lines of some bytes.  Only a line break takes a carriage return with it. -/
def lines (bytes : List UInt8) : List (List UInt8) :=
  let all := pieces 0x0a bytes
  all.dropLast.map dropReturn ++ all.getLast?.toList.filter fun line => !line.isEmpty

end Text
end Polyglot
