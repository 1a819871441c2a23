import Polyglot.Evaluation.Split

/-!
# Evaluation reports

Predicted labels compared with the expected ones: a confusion matrix, the share
of correct predictions, and precision and recall of each label.
-/

namespace Polyglot

/-- Precision, recall (here called sensitivity) and their harmonic mean for one label. -/
structure LabelMetrics where
  label : String
  precision : Float32
  sensitivity : Float32
  f1 : Float32
  support : Nat
  deriving DecidableEq

/-- Rows of the confusion matrix are expected labels, columns predicted ones. -/
structure Report where
  accuracy : Float32
  perLabel : List LabelMetrics
  confusion : List (List Nat)
  labels : List String
  trainSize : Nat
  testSize : Nat
  deriving DecidableEq

namespace Report

/-- The quotient of two counts, zero when there is nothing to divide by. -/
def ratio (numerator denominator : Nat) : Float32 :=
  if denominator = 0 then 0 else toSingle numerator / toSingle denominator

/-- The harmonic mean of precision and recall, zero when both are. -/
def harmonic (precision sensitivity : Float32) : Float32 :=
  if 0 < precision + sensitivity then
    2 * precision * sensitivity / (precision + sensitivity)
  else 0

def index? (labels : List String) (label : String) : Except ClassifierError Nat :=
  match labels.findIdx? (· == label) with
  | some i => .ok i
  | none => .error (.unknownLabel label)

def indexPair (labels : List String) (pair : String × String) :
    Except ClassifierError (Nat × Nat) := do
  let i ← index? labels pair.1
  let j ← index? labels pair.2
  return (i, j)

/-- How often each pair of positions occurs, for `k` labels. -/
def matrix (k : Nat) (pairs : List (Nat × Nat)) : List (List Nat) :=
  (List.range k).map fun i => (List.range k).map fun j => pairs.count (i, j)

def entry (m : List (List Nat)) (i j : Nat) : Nat :=
  (m.getD i []).getD j 0

def total (counts : List Nat) : Nat :=
  counts.foldr (· + ·) 0

def rowSum (m : List (List Nat)) (i : Nat) : Nat :=
  total (m.getD i [])

def columnSum (m : List (List Nat)) (j : Nat) : Nat :=
  total (m.map fun row => row.getD j 0)

def metrics (m : List (List Nat)) (label : String) (i : Nat) : LabelMetrics :=
  let hits := entry m i i
  let precision := ratio hits (columnSum m i)
  let sensitivity := ratio hits (rowSum m i)
  ⟨label, precision, sensitivity, harmonic precision sensitivity, rowSum m i⟩

def ofPredictions (labels expected predicted : List String) (trainSize : Nat) :
    Except ClassifierError Report :=
  if expected.length ≠ predicted.length then
    .error (.predictionCount expected.length predicted.length)
  else do
    let pairs := expected.zip predicted
    let indices ← pairs.mapM (indexPair labels)
    let m := matrix labels.length indices
    let correct := pairs.countP fun p => p.1 == p.2
    return {
      accuracy := ratio correct expected.length
      perLabel := labels.zipIdx.map fun p => metrics m p.1 p.2
      confusion := m
      labels := labels
      trainSize := trainSize
      testSize := expected.length }

structure Scores where
  precision : Float32
  sensitivity : Float32
  f1 : Float32
  deriving DecidableEq

def weightedSum (weight : LabelMetrics → Float32) (ms : List LabelMetrics) : Scores :=
  ms.foldl (fun s m =>
    ⟨s.precision + weight m * m.precision, s.sensitivity + weight m * m.sensitivity,
      s.f1 + weight m * m.f1⟩) ⟨0, 0, 0⟩

def Scores.over (s : Scores) (divisor : Float32) : Scores :=
  ⟨s.precision / divisor, s.sensitivity / divisor, s.f1 / divisor⟩

def macroAverage (r : Report) : Scores :=
  (weightedSum (fun _ => 1) r.perLabel).over (toSingle (max r.perLabel.length 1))

def weightedAverage (r : Report) : Scores :=
  let size := total (r.perLabel.map LabelMetrics.support)
  if size = 0 then ⟨0, 0, 0⟩
  else (weightedSum (fun m => toSingle m.support) r.perLabel).over (toSingle size)

end Report
end Polyglot
