import Polyglot.Files.Path

/-!
# File trees

A file tree holds files and directories under their locations, which are the
names on the way from the top.  Reading, writing and removing files and making
directories succeed or fail with a definite cause.
-/

namespace Polyglot

inductive FileError where
  | notFound
  | notDirectory
  | isDirectory
  | alreadyExists
  | nameTooLong
  | nullInName
  | notText
  | other (text : String)
  deriving DecidableEq

def FileError.message : FileError → String
  | .notFound => "No such file or directory (os error 2)"
  | .notDirectory => "Not a directory (os error 20)"
  | .isDirectory => "Is a directory (os error 21)"
  | .alreadyExists => "File exists (os error 17)"
  | .nameTooLong => "File name too long (os error 36)"
  | .nullInName => "file name contained an unexpected NUL byte"
  | .notText => "stream did not contain valid UTF-8"
  | .other text => text

namespace Files

/-! ## Trees -/

abbrev Location := List String

inductive Item where
  | directory
  | file (bytes : List UInt8)
  deriving DecidableEq

structure Tree where
  items : List (Location × Item) := []

namespace Tree

/-- The item at a location; the top is a directory. -/
def item? (t : Tree) (l : Location) : Option Item :=
  if l = [] then some .directory else t.items.lookup l

def put (t : Tree) (l : Location) (item : Item) : Tree :=
  ⟨(l, item) :: t.items.filter fun e => e.1 != l⟩

def clear (t : Tree) (l : Location) : Tree :=
  ⟨t.items.filter fun e => e.1 != l⟩

/-! ## Finding the way -/

def maxName : Nat := 255

def follow (t : Tree) (l : Location) (step : String) : Except FileError Location :=
  if t.item? l ≠ some .directory then .error .notDirectory
  else if step = "." then .ok l
  else if step = ".." then .ok l.dropLast
  else if maxName < (Text.bytes step).length then .error .nameTooLong
  else if t.item? (l ++ [step]) = none then .error .notFound
  else .ok (l ++ [step])

def locate (t : Tree) (steps : List String) : Except FileError Location :=
  steps.foldlM t.follow []

/-- Where the last step of a path would be, once all steps before it are taken. -/
inductive Target where
  | known (l : Location)
  | named (directory : Location) (name : String)

def target (t : Tree) (steps : List String) : Except FileError Target :=
  match steps.getLast? with
  | none => .ok (.known [])
  | some last => do
      let directory ← t.locate steps.dropLast
      if t.item? directory ≠ some .directory then throw .notDirectory
      else if last = "." then return .known directory
      else if last = ".." then return .known directory.dropLast
      else return .named directory last

def maxPath : Nat := 4095

def checkPath (p : Path) : Except FileError Unit :=
  if p.hasNull then .error .nullInName
  else if maxPath < p.size then .error .nameTooLong
  else if p.text.isEmpty then .error .notFound
  else .ok ()

def find (t : Tree) (p : Path) : Except FileError Item := do
  checkPath p
  let l ← t.locate p.steps
  match t.item? l with
  | none => throw .notFound
  | some .directory => return .directory
  | some (.file bytes) => if p.endsOpen then throw .notDirectory else return .file bytes

def isPresent (t : Tree) (p : Path) : Bool :=
  (t.find p).isOk

/-! ## Files -/

def read (t : Tree) (p : Path) : Except FileError (List UInt8) := do
  match ← t.find p with
  | .directory => throw .isDirectory
  | .file bytes => return bytes

def checkName (name : String) : Except FileError Unit :=
  if maxName < (Text.bytes name).length then .error .nameTooLong else .ok ()

def write (t : Tree) (p : Path) (bytes : List UInt8) : Except FileError Tree := do
  checkPath p
  match ← t.target p.steps with
  | .known _ => throw .isDirectory
  | .named directory name =>
      if p.endsOpen then throw .isDirectory
      else
        checkName name
        match t.item? (directory ++ [name]) with
        | some .directory => throw .isDirectory
        | _ => return t.put (directory ++ [name]) (.file bytes)

def remove (t : Tree) (p : Path) : Except FileError Tree := do
  checkPath p
  match ← t.target p.steps with
  | .known _ => throw .isDirectory
  | .named directory name =>
      checkName name
      match t.item? (directory ++ [name]) with
      | none => throw .notFound
      | some .directory => throw .isDirectory
      | some (.file _) =>
          if p.endsOpen then throw .notDirectory else return t.clear (directory ++ [name])

/-! ## Directories -/

def makeDirectory (t : Tree) (steps : List String) : Except FileError Tree := do
  match ← t.target steps with
  | .known _ => throw .alreadyExists
  | .named directory name =>
      checkName name
      match t.item? (directory ++ [name]) with
      | some _ => throw .alreadyExists
      | none => return t.put (directory ++ [name]) .directory

def isDirectory (t : Tree) (steps : List String) : Bool :=
  match t.locate steps with
  | .ok l => t.item? l = some .directory
  | .error _ => false

/-- Makes a directory unless it is there already. -/
def ensureDirectory (t : Tree) (steps : List String) : Except FileError Tree :=
  match t.makeDirectory steps with
  | .error .alreadyExists =>
      if t.isDirectory steps then .ok t else .error .alreadyExists
  | result => result

/--
Makes a directory and those that lead to it.  If that fails on the way, the
directories made before remain.
-/
def makeWay (t : Tree) : List (List String) → Except FileError Unit × Tree
  | [] => (.ok (), t)
  | steps :: shorter =>
      match t.ensureDirectory steps with
      | .ok t => (.ok (), t)
      | .error .notFound =>
          match t.makeWay shorter with
          | (.error e, t) => (.error e, t)
          | (.ok (), t) =>
              match t.ensureDirectory steps with
              | .ok t => (.ok (), t)
              | .error e => (.error e, t)
      | .error e => (.error e, t)

def beginnings (steps : List String) : List (List String) :=
  (List.range steps.length).reverse.map fun n => steps.take (n + 1)

def makeDirectories (t : Tree) (p : Path) : Except FileError Unit × Tree :=
  if p.steps = [] then (.ok (), t)
  else
    match checkPath p with
    | .error e => (.error e, t)
    | .ok () => t.makeWay (p.steps :: beginnings p.parentSteps)

/-! ## Listing -/

def listing (t : Tree) : List String :=
  (t.items.filterMap fun e =>
    match e.2 with
    | .directory => none
    | .file _ => some ("/".intercalate e.1)).mergeSort (· ≤ ·)

end Tree
end Files
end Polyglot
