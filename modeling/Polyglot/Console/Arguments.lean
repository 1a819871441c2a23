import Polyglot.Files.Path

/-!
# Arguments

The words of a command line.  Options come first; from the first word that is no
option, everything belongs to the code.
-/

namespace Polyglot
namespace Console

inductive Switch where
  | train
  | test
  | interactive
  deriving DecidableEq

inductive PathOption where
  | file
  | model
  deriving DecidableEq

structure Arguments where
  train : Bool := false
  test : Bool := false
  interactive : Bool := false
  file : Option Path := none
  model : Option Path := none
  code : List String := []
  deriving DecidableEq

/-- Whether the program is to run or only to tell about itself. -/
inductive Request where
  | run (arguments : Arguments)
  | version
  | help
  deriving DecidableEq

inductive UsageError where
  | repeated (option : String)
  | unwantedValue (option : String)
  | missingValue (option : String)
  deriving DecidableEq

def UsageError.message : UsageError → String
  | .repeated option => "the option '" ++ option ++ "' is given more than once"
  | .unwantedValue option => "the option '" ++ option ++ "' takes no value"
  | .missingValue option => "the option '" ++ option ++ "' needs a value"

def Switch.name : Switch → String
  | .train => "--train"
  | .test => "--test"
  | .interactive => "--interactive"

def PathOption.name : PathOption → String
  | .file => "--file"
  | .model => "--model"

inductive Word where
  | switch (option : Switch)
  | valued (option : PathOption) (value : Option String)
  | version
  | help
  | unwanted (option : String)
  | lastOption
  | plain
  deriving DecidableEq

namespace Word

def ofLong (name : String) (value : Option String) : Word :=
  match [Switch.train, .test, .interactive].find? fun s => s.name == name with
  | some s => if value.isSome then .unwanted name else .switch s
  | none =>
      match [PathOption.file, .model].find? fun o => o.name == name with
      | some o => .valued o value
      | none =>
          if name = "--version" then if value.isSome then .unwanted name else .version
          else if name = "--help" then if value.isSome then .unwanted name else .help
          else .plain

/-- Letters after one dash; one unknown letter makes the word a plain one. -/
def ofShort (letters : List Char) : Word :=
  if letters.all fun c => c == 'V' || c == 'h' then
    match letters.head? with
    | some 'V' => .version
    | some _ => .help
    | none => .plain
  else .plain

def ofString (word : String) : Word :=
  match word.toList with
  | ['-', '-'] => .lastOption
  | '-' :: '-' :: rest =>
      let name := rest.takeWhile (· != '=')
      let value := (rest.drop name.length).tail?
      ofLong (String.ofList ('-' :: '-' :: name)) (value.map String.ofList)
  | '-' :: letters => ofShort letters
  | _ => .plain

end Word

namespace Arguments

def add (a : Arguments) : Switch → Except UsageError Arguments
  | .train => if a.train then .error (.repeated "--train") else .ok { a with train := true }
  | .test => if a.test then .error (.repeated "--test") else .ok { a with test := true }
  | .interactive =>
      if a.interactive then .error (.repeated "--interactive")
      else .ok { a with interactive := true }

def addPath (a : Arguments) (option : PathOption) (value : String) :
    Except UsageError Arguments :=
  if value.isEmpty then .error (.missingValue option.name)
  else
    match option with
    | .file =>
        if a.file.isSome then .error (.repeated option.name)
        else .ok { a with file := some ⟨value⟩ }
    | .model =>
        if a.model.isSome then .error (.repeated option.name)
        else .ok { a with model := some ⟨value⟩ }

def readFrom (a : Arguments) : List String → Except UsageError Request
  | [] => .ok (.run a)
  | word :: rest =>
      match Word.ofString word with
      | .plain => .ok (.run { a with code := word :: rest })
      | .lastOption => .ok (.run { a with code := rest })
      | .version => .ok .version
      | .help => .ok .help
      | .unwanted option => .error (.unwantedValue option)
      | .switch option =>
          match a.add option with
          | .error e => .error e
          | .ok a => readFrom a rest
      | .valued option (some value) =>
          match a.addPath option value with
          | .error e => .error e
          | .ok a => readFrom a rest
      | .valued option none =>
          match rest with
          | [] => .error (.missingValue option.name)
          | value :: rest =>
              if Word.ofString value = .plain then
                match a.addPath option value with
                | .error e => .error e
                | .ok a => readFrom a rest
              else .error (.missingValue option.name)

/-- Takes the place of the model from the environment, unless the words name it. -/
def complete (a : Arguments) (environment : String → Option String) :
    Except UsageError Arguments :=
  if a.model.isSome then .ok a
  else
    match environment "CODELANG_MODEL" with
    | none => .ok a
    | some value => a.addPath .model value

end Arguments

def Request.read (environment : String → Option String) (words : List String) :
    Except UsageError Request := do
  match ← Arguments.readFrom {} words with
  | .run a => return .run (← a.complete environment)
  | request => return request

end Console
end Polyglot
