import Polyglot.Console.Arguments
import Polyglot.Console.Dialogue
import Polyglot.Console.Display
import Polyglot.Predictor
import Polyglot.Text.Lines

/-!
# Console sessions

What the program does from its start to its exit, on any host.  A session that
turns into a dialogue takes the lines one by one, so that a host may read each
line when it is needed.
-/

namespace Polyglot
namespace Console

abbrev ExitCode := UInt32

def success : ExitCode := 0

def failed : ExitCode := 1

def misused : ExitCode := 2

def broken : ExitCode := 101

/-! ## Errors -/

variable {m : Type → Type} [Monad m] [Host m]

/-- A text whose lines are indented; the first one is taken to be. -/
def indented (text : String) : String :=
  String.ofList (text.toList.flatMap fun c =>
    if c = '\n' then ['\n', ' ', ' ', ' ', ' '] else [c])

def report (message : String) (source : Option String) : m Unit := do
  Host.complain ("Error: " ++ message ++ "\n")
  match source with
  | none => return ()
  | some source => Host.complain ("\nCaused by:\n    " ++ indented source ++ "\n")

def exitCode : PredictorError → ExitCode
  | .classifier (.fault _) => broken
  | _ => failed

def reportError (e : PredictorError) : m ExitCode := do
  report e.message e.source?
  return exitCode e

/-! ## Actions -/

def showPrediction (result : Except PredictorError Prediction) : m (Option ExitCode) := do
  match result with
  | .error e => return some (← reportError e)
  | .ok p => do
      Host.print (Display.prediction p)
      return none

def showBattery (p : Predictor) : m (Option ExitCode) := do
  Host.print (Display.heading "RUNNING TEST EXAMPLES")
  match ← p.runBattery with
  | .error e => return some (← reportError e)
  | .ok outcomes => do
      Host.print (Display.battery outcomes)
      return none

/-- Carries out an action of a dialogue; an exit code ends the session. -/
def perform (p : Predictor) : Option Dialogue.Action → m (Option ExitCode)
  | none => return none
  | some (.predict code) => do showPrediction (← p.predict code)
  | some .battery => showBattery p
  | some .farewell => do
      Host.print Dialogue.parting
      return some success

/-! ## Dialogues -/

def greet : m Unit := do
  Host.print (Display.heading "INTERACTIVE CODE PREDICTION MODE")
  Host.print Dialogue.greeting
  Host.print Dialogue.prompt

def hear (p : Predictor) (s : Dialogue.State) (line : List UInt8) :
    m (Except ExitCode Dialogue.State) := do
  match Text.ofUtf8? line with
  | none => do
      report FileError.notText.message none
      return .error failed
  | some text =>
      let (next, action) := s.hear (String.ofList text)
      match ← perform p action with
      | some code => return .error code
      | none => do
          Host.print (Dialogue.cue s next)
          return .ok next

def finish (p : Predictor) (s : Dialogue.State) : m ExitCode := do
  match ← perform p s.finish with
  | some code => return code
  | none => do
      match s with
      | .collecting _ => Host.print Dialogue.prompt
      | _ => pure ()
      return success

def converse (p : Predictor) (s : Dialogue.State) : List (List UInt8) → m ExitCode
  | [] => finish p s
  | line :: rest => do
      match ← hear p s line with
      | .error code => return code
      | .ok next => converse p next rest

/-! ## Sessions -/

inductive Progress where
  | ended (code : ExitCode)
  | dialogue (p : Predictor)

def versionText : String := "codelang 0.1.0\n"

def helpText : String :=
  "Usage: codelang [OPTIONS] [CODE]...\n\nArguments:\n" ++
    "  [CODE]...  Code snippet to classify (words are joined with spaces)\n\nOptions:\n" ++
    "      --train         Retrain the model and save it\n" ++
    "      --test          Run the built-in example battery\n" ++
    "      --file <PATH>   Predict the language of a file\n" ++
    "      --interactive   Read snippets interactively\n" ++
    "      --model <PATH>  Location of the model bundle\n" ++
    "  -h, --help          Print help\n" ++
    "  -V, --version       Print version\n"

def modelPath (environment : String → Option String) (a : Arguments) :
    m (Except FileError Path) := do
  match a.model with
  | some path => return .ok path
  | none => return (← Store.openAt (Store.defaultDirectory environment)).map Store.bundlePath

/-- Shows the prediction for a file; a file that cannot be read is no failure. -/
def showFile (p : Predictor) (path : Path) : m (Option ExitCode) := do
  match ← p.predictFile path with
  | .error (.fileNotFound path) => do
      report (PredictorError.fileNotFound path).message none
      return none
  | .error (.fileUnreadable path e) => do
      report (PredictorError.fileUnreadable path e).message none
      return none
  | result => showPrediction result

def showTraining [Logarithm] (p : Predictor) : m (Option ExitCode) := do
  match (← p.train).1 with
  | .error e => return some (← reportError e)
  | .ok r => do
      Host.print (Display.report r)
      Host.print (Display.trained r)
      return none

/-- The session has ended, with success unless there is another exit code. -/
def ending (code : Option ExitCode) : Progress :=
  .ended (code.getD success)

def serve [Logarithm] (p : Predictor) (a : Arguments) : m Progress := do
  if a.train then return ending (← showTraining p)
  else if a.test then return ending (← showBattery p)
  else
    match a.file with
    | some path => return ending (← showFile p path)
    | none =>
        if a.interactive || a.code.isEmpty then do
          greet
          return .dialogue p
        else return ending (← showPrediction (← p.predict (" ".intercalate a.code)))

def run [Logarithm] (environment : String → Option String) (a : Arguments) : m Progress := do
  match ← modelPath environment a with
  | .error e => do
      report "Failed to create model directory" (some e.message)
      return .ended failed
  | .ok path =>
      match ← (Predictor.mk path .demo {} none).loadOrTrain with
      | (.error e, _) => return .ended (← reportError e)
      | (.ok trained, p) => do
          match trained with
          | none => pure ()
          | some r => Host.print (Display.report r)
          serve p a

def start [Logarithm] (environment : String → Option String) (words : List String) :
    m Progress := do
  match Request.read environment words with
  | .error e => do
      Host.complain ("error: " ++ e.message ++ "\n")
      return .ended misused
  | .ok .version => do
      Host.print versionText
      return .ended success
  | .ok .help => do
      Host.print helpText
      return .ended success
  | .ok (.run a) => run environment a

def session [Logarithm] (environment : String → Option String) (words : List String)
    (input : List UInt8) : m ExitCode := do
  match ← start environment words with
  | .ended code => return code
  | .dialogue p => converse p .waiting (Text.lines input)

end Console
end Polyglot
