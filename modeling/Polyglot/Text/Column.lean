/-!
# Columns

Padding of a text to a width.  Widths count characters, and a text that is
already wide enough stays as it is.
-/

namespace Polyglot
namespace Text

/-- A run of `n` spaces. -/
def spaces (n : Nat) : String :=
  String.ofList (List.replicate n ' ')

def padLeft (width : Nat) (s : String) : String :=
  spaces (width - s.length) ++ s

def padRight (width : Nat) (s : String) : String :=
  s ++ spaces (width - s.length)

end Text
end Polyglot
