import Polyglot.Text.Pieces
import Polyglot.Text.Utf8

/-!
# Paths

A path is a text whose steps are separated by slashes.  Empty steps do not
count; a dot stays where it is, and two dots lead back to the directory above.
-/

namespace Polyglot

structure Path where
  text : String
  deriving DecidableEq

namespace Path

def steps (p : Path) : List String :=
  ((Text.pieces '/' p.text.toList).filter fun step => !step.isEmpty).map String.ofList

def isAbsolute (p : Path) : Bool :=
  p.text.toList.head? = some '/'

def endsOpen (p : Path) : Bool :=
  p.text.toList.getLast? = some '/'

/-- The steps that lead somewhere; a dot counts only where a relative path begins. -/
def properSteps (p : Path) : List String :=
  match p.steps with
  | [] => []
  | step :: rest =>
      if p.isAbsolute then (step :: rest).filter (· != ".")
      else step :: rest.filter (· != ".")

def parentSteps (p : Path) : List String :=
  p.properSteps.dropLast

/-- The directory that holds the last step; it has no steps if the path has only one. -/
def parent (p : Path) : Path :=
  ⟨(if p.isAbsolute then "/" else "") ++ "/".intercalate p.parentSteps⟩

/-- The path of a name inside a directory; an absolute name stays as it is. -/
def join (directory : Path) (name : String) : Path :=
  if (Path.mk name).isAbsolute then ⟨name⟩
  else if directory.text.isEmpty || directory.endsOpen then ⟨directory.text ++ name⟩
  else ⟨directory.text ++ "/" ++ name⟩

def size (p : Path) : Nat :=
  (Text.bytes p.text).length

def hasNull (p : Path) : Bool :=
  p.text.toList.contains '\x00'

end Path
end Polyglot
