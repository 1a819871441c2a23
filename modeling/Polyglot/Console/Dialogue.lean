import Polyglot.Text.Blank
import Polyglot.Text.Case

/-!
# Dialogues

A dialogue takes lines one after another.  A line is a command or begins a
snippet, which goes on to the line `END` or to the end of the input.
-/

namespace Polyglot
namespace Console
namespace Dialogue

inductive Action where
  | predict (code : String)
  | battery
  | farewell
  deriving DecidableEq

/-- Where a dialogue is; the lines of an unfinished snippet are kept in reverse order. -/
inductive State where
  | waiting
  | collecting (lines : List String)
  | over
  deriving DecidableEq

def trimmed (line : String) : String :=
  String.ofList (Text.trim line.toList)

def quitWords : List String := ["quit", "exit", "q"]

def batteryWord : String := "test"

def closing : String := "END"

/-- The action for a finished snippet; a blank one needs none. -/
def submit (lines : List String) : Option Action :=
  let code := "\n".intercalate lines.reverse
  if Text.allBlank code.toList then none else some (.predict code)

def State.hear (s : State) (line : String) : State × Option Action :=
  match s with
  | .waiting =>
      let command := String.ofList (Text.lower (Text.trim line.toList))
      if command ∈ quitWords then (.over, some .farewell)
      else if command = batteryWord then (.waiting, some .battery)
      else (.collecting [trimmed line], none)
  | .collecting lines =>
      if trimmed line = closing then (.waiting, submit lines)
      else (.collecting (line :: lines), none)
  | .over => (.over, none)

def State.finish : State → Option Action
  | .collecting lines => submit lines
  | _ => none

def State.after (s : State) (lines : List String) : State :=
  lines.foldl (fun s line => (s.hear line).1) s

def State.heard (s : State) : List String → List Action
  | [] => []
  | line :: rest => (s.hear line).2.toList ++ (s.hear line).1.heard rest

def actions (lines : List String) : List Action :=
  State.waiting.heard lines ++ (State.waiting.after lines).finish.toList

def greeting : String :=
  "\nCommands:\n" ++
    "  - Type or paste code (end with 'END' on a new line)\n" ++
    "  - Type 'quit' or 'exit' to quit\n" ++
    "  - Type 'test' to run test examples\n"

def prompt : String := "\nEnter code (or command): "

def hint : String := "(Type 'END' on a new line when done)\n"

def parting : String := "Goodbye!\n"

def cue : State → State → String
  | _, .waiting => prompt
  | .waiting, .collecting _ => hint
  | _, _ => ""

end Dialogue
end Console
end Polyglot
