import Polyglot.Evaluation.Report
import Polyglot.Text.Column
import Polyglot.Text.Utf8

/-!
# Report tables

The text of an evaluation report: a table of metrics, the averages, and the
confusion matrix.  The width of a label column is the number of bytes of its
widest label, while texts are padded by characters.
-/

namespace Polyglot
namespace Report

def labelWidth (label : String) : Nat :=
  (Text.bytes label).length

/-- The width of the first column; it also has to hold the names of the averages. -/
def firstWidth (r : Report) : Nat :=
  (r.labels.map labelWidth).foldl max 12

def countWidth (label : String) : Nat :=
  max (labelWidth label) 3

def cell (x : Float32) : String :=
  Text.padLeft 9 (Decimal.fixed 2 x)

def metricsLine (width : Nat) (name : String) (cells : List String) : String :=
  " ".intercalate (Text.padLeft width name :: cells) ++ "\n"

def headingLine (width : Nat) : String :=
  metricsLine width "" (["precision", "recall", "f1-score", "support"].map (Text.padLeft 9))

def labelLine (width : Nat) (m : LabelMetrics) : String :=
  metricsLine width m.label
    [cell m.precision, cell m.sensitivity, cell m.f1, Text.padLeft 9 (toString m.support)]

def averageLine (width : Nat) (name : String) (s : Scores) (size : Nat) : String :=
  metricsLine width name
    [cell s.precision, cell s.sensitivity, cell s.f1, Text.padLeft 9 (toString size)]

def accuracyLine (width : Nat) (r : Report) : String :=
  metricsLine width "accuracy"
    [Text.padLeft 9 "", Text.padLeft 9 "", cell r.accuracy,
      Text.padLeft 9 (toString r.testSize)]

def confusionHeading (r : Report) : String :=
  Text.padLeft r.firstWidth "" ++
    String.join (r.labels.map fun label => " " ++ Text.padLeft (countWidth label) label)

def confusionLine (r : Report) (label : String) (i : Nat) : String :=
  Text.padLeft r.firstWidth label ++
    String.join (r.labels.zipIdx.map fun p =>
      " " ++ Text.padLeft (countWidth p.1) (toString (entry r.confusion i p.2)))

def confusionLines (r : Report) : List String :=
  r.confusionHeading :: r.labels.zipIdx.map fun p => r.confusionLine p.1 p.2

def table (r : Report) : String :=
  let width := r.firstWidth
  headingLine width ++ "\n" ++
    String.join (r.perLabel.map (labelLine width)) ++ "\n" ++
    accuracyLine width r ++
    averageLine width "macro avg" r.macroAverage r.testSize ++
    averageLine width "weighted avg" r.weightedAverage r.testSize ++ "\n" ++
    "Confusion matrix (rows: true, columns: predicted):\n" ++
    String.join (r.confusionLines.map (· ++ "\n"))

end Report
end Polyglot
