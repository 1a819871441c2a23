import Polyglot.Battery
import Polyglot.Evaluation.Table
import Polyglot.Ranking
import Polyglot.Text.Case

/-!
# Displays

The texts that show a report, a prediction and the outcomes of the battery.
-/

namespace Polyglot
namespace Console
namespace Display

def rule : String :=
  String.ofList (List.replicate 70 '=')

def percent (places : Nat) (share : Float32) : String :=
  Decimal.fixed places (share * 100)

def report (r : Report) : String :=
  s!"\nTraining samples: {r.trainSize}, test samples: {r.testSize}\n" ++
    "Test Accuracy: " ++ percent 2 r.accuracy ++ "%\n" ++
    "\nClassification Report:\n" ++ r.table ++ "\n"

def trained (r : Report) : String :=
  "✓ Model trained with " ++ percent 2 r.accuracy ++ "% accuracy\n"

def barLength : Nat := 50

def bar (score : Float32) : String :=
  let filled := min (score * 50).toUInt64.toNat barLength
  String.ofList (List.replicate filled '█' ++ List.replicate (barLength - filled) '░')

def scoreLine (entry : String × Float32) : String :=
  "  " ++ Text.padRight 12 entry.1 ++ " [" ++ bar entry.2 ++ "] " ++
    Text.padLeft 5 (percent 2 entry.2) ++ "%\n"

def prediction (p : Prediction) : String :=
  "\n" ++ rule ++ "\nPredicted Language: " ++
    String.ofList (Text.upper p.label.toList) ++ "\n\nConfidence Scores:\n" ++
    String.join (p.ranked.map scoreLine) ++ rule ++ "\n\n"

def heading (title : String) : String :=
  "\n" ++ rule ++ "\n" ++ title ++ "\n" ++ rule ++ "\n"

def outcome (o : Battery.Outcome) : String :=
  "\n" ++ o.name ++ ":\nPredicted: " ++ o.predicted ++ "\n" ++
    if o.correct then "✓ Correct!\n" else "✗ Incorrect (expected " ++ o.expected ++ ")\n"

/-- The share of recognised languages; there is nothing to divide by without examples. -/
def batteryShare (outcomes : List Battery.Outcome) : Float32 :=
  toSingle (Battery.score outcomes) / toSingle (max outcomes.length 1)

def battery (outcomes : List Battery.Outcome) : String :=
  String.join (outcomes.map outcome) ++
    heading (s!"Test Results: {Battery.score outcomes}/{outcomes.length} correct (" ++
      percent 1 (batteryShare outcomes) ++ "%)")

end Display
end Console
end Polyglot
