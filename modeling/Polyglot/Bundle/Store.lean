import Polyglot.Bundle.Reader
import Polyglot.Host
import Polyglot.Text.Quoted

/-!
# Bundles in files

A bundle is kept in one file.  A store is a directory with one bundle under a
fixed name.
-/

namespace Polyglot

inductive ModelError where
  | notFound (path : Path)
  | bundle (e : BundleError)
  | file (e : FileError)
  deriving DecidableEq

namespace ModelError

def message : ModelError → String
  | .notFound path => "Model bundle not found: " ++ path.text
  | .bundle e => e.message
  | .file e => "IO error: " ++ e.message

def source? : ModelError → Option String
  | .bundle (.corrupt cause) => some cause.message
  | .file e => some e.message
  | _ => none

end ModelError

namespace Bundle

def shown (path : Path) : String :=
  Text.quotedStrictly path.text

def writingEntry (size : Nat) (path : Path) : Entry :=
  ⟨.info, s!"Writing {size} bytes to " ++ shown path⟩

def readEntry (size : Nat) (path : Path) : Entry :=
  ⟨.info, s!"Read {size} bytes from " ++ shown path⟩

def unreadableEntry (path : Path) (e : FileError) : Entry :=
  ⟨.error, "Failed to read model bundle " ++ shown path ++ ": " ++ e.message⟩

def savedEntry (path : Path) : Entry :=
  ⟨.info, "Model saved to " ++ shown path⟩

def loadedEntry (path : Path) : Entry :=
  ⟨.info, "Model loaded from " ++ shown path⟩

def refusalJournal (path : Path) : Except BundleError Classifier → List Entry
  | .error (.fingerprint ..) => [⟨.error, "Fingerprint mismatch for " ++ shown path⟩]
  | .error (.layout ..) =>
      [⟨.error, "Forest in " ++ shown path ++ " was trained on a different feature layout"⟩]
  | _ => []

variable {m : Type → Type} [Monad m] [Host m]

def save (c : Classifier) (path : Path) : m (Except FileError Unit) := do
  let bytes := write c
  match ← Host.makeDirectories path.parent with
  | .error e => return .error e
  | .ok () => do
      Host.note [writingEntry bytes.length path]
      Host.write path bytes

def load (path : Path) : m (Except ModelError Classifier) := do
  match ← Host.read path with
  | .error .notFound => return .error (.notFound path)
  | .error e => do
      Host.note [unreadableEntry path e]
      return .error (.file e)
  | .ok bytes => do
      let result := read bytes
      Host.note (readEntry bytes.length path :: refusalJournal path result)
      return result.mapError .bundle

end Bundle

structure Store where
  directory : Path
  deriving DecidableEq

namespace Store

def bundleName : String := "code_prediction_model.json"

def bundlePath (s : Store) : Path :=
  s.directory.join bundleName

/--
The directory that is used when none is given: inside the cache directory, if
the environment names one, and otherwise inside the directory for data of
programs.
-/
def defaultDirectory (environment : String → Option String) : Path :=
  match environment "CODELANG_CACHE" with
  | some cache => (Path.mk cache).join "models"
  | none => ((dataDirectory environment).join "codelang").join "models"
where
  /-- The directory for data of programs; only an absolute one can be named. -/
  dataDirectory (environment : String → Option String) : Path :=
    match environment "XDG_DATA_HOME" with
    | some data =>
        if (Path.mk data).isAbsolute then ⟨data⟩ else homeData environment
    | none => homeData environment
  /-- The directory for data of programs inside the home directory. -/
  homeData (environment : String → Option String) : Path :=
    (Path.mk ((environment "HOME").getD "")).join ".local/share"

variable {m : Type → Type} [Monad m] [Host m]

def openAt (directory : Path) : m (Except FileError Store) := do
  match ← Host.makeDirectories directory with
  | .error e => return .error e
  | .ok () => return .ok ⟨directory⟩

def presenceEntry (path : Path) (isPresent : Bool) : Entry :=
  ⟨.info, "Checking for saved bundle at " ++ Bundle.shown path ++
    s!" (exists: {isPresent})"⟩

def isSaved (s : Store) : m Bool := do
  let isPresent ← Host.isPresent s.bundlePath
  Host.note [presenceEntry s.bundlePath isPresent]
  return isPresent

def save (s : Store) (c : Classifier) : m (Except ModelError Path) := do
  match ← Bundle.save c s.bundlePath with
  | .error e => return .error (.file e)
  | .ok () => do
      Host.note [Bundle.savedEntry s.bundlePath]
      return .ok s.bundlePath

def load (s : Store) : m (Except ModelError Classifier) := do
  match ← Bundle.load s.bundlePath with
  | .error e => return .error e
  | .ok c => do
      Host.note [Bundle.loadedEntry s.bundlePath]
      return .ok c

def remove (s : Store) : m (Except ModelError Unit) := do
  if ← Host.isPresent s.bundlePath then
    return (← Host.remove s.bundlePath).mapError .file
  else
    return .ok ()

end Store
end Polyglot
