import Polyglot.Console.Session

/-!
# The command line

The program on the machine it is started on.  The decisions are made by console
sessions; here files, environment, input and output are connected to them.
-/

namespace Polyglot
namespace Console

def systemNumber (code : UInt32) : UInt32 :=
  if 0x80000000 ≤ code then 0 - code else code

def causeOf (e : IO.Error) : FileError :=
  match e with
  | .noFileOrDirectory .. => .notFound
  | .alreadyExists .. => .alreadyExists
  | .inappropriateType _ code _ =>
      if systemNumber code = 20 then .notDirectory else .isDirectory
  | .invalidArgument _ code _ =>
      if systemNumber code = 36 then .nameTooLong else .other (toString e)
  | e => .other (toString e)

def attempt (action : IO α) : IO (Except FileError α) := do
  match ← action.toBaseIO with
  | .ok x => return .ok x
  | .error e => return .error (causeOf e)

instance : Host IO where
  read p := attempt do return (← IO.FS.readBinFile p.text).toList
  write p bytes := attempt (IO.FS.writeBinFile p.text bytes.toByteArray)
  remove p := attempt (IO.FS.removeFile p.text)
  makeDirectories p :=
    if p.steps.isEmpty then return .ok () else attempt (IO.FS.createDirAll p.text)
  isPresent p := do return (← attempt (IO.FS.Handle.mk p.text .read)).isOk
  note _ := return ()
  print := IO.print
  complain := IO.eprint

def chunkSize : USize := 65536

/-- A dialogue over the lines of a stream, each taken as soon as it is complete. -/
partial def listen (input : IO.FS.Stream) (p : Predictor) (s : Dialogue.State)
    (pending : List UInt8) : IO ExitCode := do
  match pending.span (· != 0x0a) with
  | (line, _ :: rest) =>
      match ← hear p s (Text.dropReturn line) with
      | .error code => return code
      | .ok next => listen input p next rest
  | _ =>
      (← IO.getStdout).flush
      let chunk ← input.read chunkSize
      if chunk.isEmpty then converse p s (Text.lines pending)
      else listen input p s (pending ++ chunk.toList)

def watchedNames : List String :=
  ["CODELANG_CACHE", "CODELANG_MODEL", "XDG_DATA_HOME", "HOME"]

def environment : IO (List (String × String)) := do
  let values ← watchedNames.mapM fun name => do
    return (← IO.getEnv name).map fun value => (name, value)
  return values.filterMap id

end Console
end Polyglot

def main (words : List String) : IO UInt32 := do
  let values ← Polyglot.Console.environment
  match ← Polyglot.Console.start (fun name => values.lookup name) words with
  | .ended code => return code
  | .dialogue p => Polyglot.Console.listen (← IO.getStdin) p .waiting []
