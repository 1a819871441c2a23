import Polyglot.Files.Tree
import Polyglot.Journal.Entry

/-!
# Hosts

A host is what a program runs on: it keeps files and a journal, and it shows
texts.  What a program does is written for any host; a workspace is the host
that consists of values only.
-/

namespace Polyglot

class Host (m : Type → Type) where
  /-- The bytes of a file. -/
  read : Path → m (Except FileError (List UInt8))
  /-- Makes a file, or replaces the bytes of one. -/
  write : Path → List UInt8 → m (Except FileError Unit)
  /-- Removes a file. -/
  remove : Path → m (Except FileError Unit)
  /-- Makes a directory and those that lead to it. -/
  makeDirectories : Path → m (Except FileError Unit)
  /-- Whether something stands at a path. -/
  isPresent : Path → m Bool
  /-- Adds entries to the journal. -/
  note : List Entry → m Unit
  /-- Shows a text. -/
  print : String → m Unit
  /-- Shows a text apart from the results. -/
  complain : String → m Unit

/-- Files, a journal, and the texts that have been shown. -/
structure Workspace where
  files : Files.Tree := {}
  journal : List Entry := []
  printed : String := ""
  complaints : String := ""

namespace Workspace

/-- Changes the files, unless that fails. -/
def change (w : Workspace) (result : Except FileError Files.Tree) :
    Except FileError Unit × Workspace :=
  match result with
  | .ok files => (.ok (), { w with files })
  | .error e => (.error e, w)

def note (w : Workspace) (entries : List Entry) : Workspace :=
  { w with journal := w.journal ++ entries }

def makeDirectories (w : Workspace) (p : Path) : Except FileError Unit × Workspace :=
  let made := w.files.makeDirectories p
  (made.1, { w with files := made.2 })

end Workspace

instance : Host (StateM Workspace) where
  read p := fun w => (w.files.read p, w)
  write p bytes := fun w => w.change (w.files.write p bytes)
  remove p := fun w => w.change (w.files.remove p)
  makeDirectories p := fun w => w.makeDirectories p
  isPresent p := fun w => (w.files.isPresent p, w)
  note entries := fun w => ((), w.note entries)
  print text := fun w => ((), { w with printed := w.printed ++ text })
  complain text := fun w => ((), { w with complaints := w.complaints ++ text })

end Polyglot
