import Polyglot.Features.Layout
import Polyglot.Forest.Basic

/-!
# Classifiers

A classifier is a vectorizer together with the forest that was trained on its
features.  It predicts the language of a snippet and gives every language a
score.
-/

namespace Polyglot

structure Classifier where
  vectorizer : Vectorizer
  forest : Forest

/-- A predicted label, and the score of every label in ascending label order. -/
structure Prediction where
  label : String
  scores : List (String × Float32)
  deriving DecidableEq

structure ClassifierInfo where
  classes : List String
  vocabularySize : Nat
  featureWidth : Nat
  trees : Nat
  fingerprint : String
  deriving DecidableEq

namespace Classifier

def fingerprint (c : Classifier) : String :=
  c.vectorizer.fingerprint

def info (c : Classifier) : ClassifierInfo where
  classes := c.forest.classes
  vocabularySize := c.vectorizer.vocabulary.size
  featureWidth := c.forest.width
  trees := c.forest.estimators.length
  fingerprint := c.fingerprint

/--
The probabilities, rounded to single precision, under their labels.  If a label
names several classes, the last of them counts.
-/
def scores (classes : List String) (probabilities : List Float) : List (String × Float32) :=
  let named := (classes.zip (probabilities.map ofDouble)).reverse
  (Labels.distinct classes).filterMap fun label =>
    (named.lookup label).map fun score => (label, score)

def predict (c : Classifier) (code : String) : Except Failure Prediction :=
  if code.isEmpty then .error (.error .emptyInput)
  else
    match c.vectorizer.assemble code with
    | .error f => .error (.fault f)
    | .ok sample => do
        let p ← c.forest.probabilities sample
        match (Vote.argmax p).bind fun i => c.forest.classes[i]? with
        | some label => return ⟨label, scores c.forest.classes p⟩
        | none => throw (.error .noProbabilities)

end Classifier
end Polyglot
