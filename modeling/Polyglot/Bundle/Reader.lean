import Polyglot.Bundle.Refusal

/-!
# Reading bundles

A bundle is accepted if it is spelled correctly, has all its parts, and its
parts belong together: the fingerprint of the vectorizer has to be the stored
one and the one that the forest was trained for, and the forest has to expect as
many features as the vectorizer makes.
-/

namespace Polyglot

/--
Why a bundle is refused: it is not spelled correctly, its vectorizer does not
have the stored fingerprint, or its forest was trained for other features or
another number of them.
-/
inductive BundleError where
  | corrupt (cause : Json.Refusal)
  | fingerprint (stored actual : String)
  | layout (expected trained : String)
  | width (expected trained : Nat)
  deriving DecidableEq

namespace BundleError

def mismatch (expected actual : String) : String :=
  "Model bundle is incompatible: expected " ++ expected ++ ", got " ++ actual

def message : BundleError → String
  | .corrupt cause => "Model bundle is corrupt: " ++ cause.message
  | .fingerprint stored actual => mismatch stored actual
  | .layout expected trained => mismatch expected trained
  | .width expected trained =>
      mismatch s!"{expected} input features" s!"{trained} input features"

end BundleError

namespace Bundle

def word? (j : Json) : Option UInt64 :=
  j.nat?.map UInt64.ofNat

def settings? (j : Json) : Option VectorizerSettings := do
  let [maxFeatures, range, lowercase] ← j.fields? ["max_features", "ngram_range", "lowercase"]
    | none
  let .array [least, most] := range | none
  return {
    maxFeatures := ← word? maxFeatures
    leastWindow := ← word? least
    mostWindow := ← word? most
    lowercase := ← lowercase.bool? }

/-- A vocabulary; of several entries for one term, the last one counts. -/
def vocabulary? : Json → Option Vocabulary
  | .object entries => do
      let named ← Json.namedEntries? entries
      let columns ← named.mapM fun e => e.2.nat?.map fun column => (e.1, column)
      return .ofList columns
  | _ => none

def vectorizer? (j : Json) : Option Vectorizer := do
  let [settings, vocabulary, weights] ← j.fields? ["config", "vocabulary", "idf"]
    | none
  return {
    settings := ← settings? settings
    vocabulary := ← vocabulary? vocabulary
    weights := (← weights.list? Json.float32?).toArray }

def node? (j : Json) : Option Node := do
  let [value, index, left, right] ← j.fields? ["value", "index", "left", "right"]
    | none
  let [feature, threshold, prediction, missing, isLeaf] ←
    value.fields? ["feature_index", "feature_value", "pred", "missing", "is_leaf"]
    | none
  return {
    feature := ← feature.nat?
    threshold := ← threshold.float32?
    prediction := ← prediction.float32?
    missing := ← missing.signedByte?
    isLeaf := ← isLeaf.bool?
    index := ← index.nat?
    left := ← left.nat?
    right := ← right.nat? }

def loss? (name : String) : Option Loss :=
  losses.find? fun loss => lossName loss == name

def tree? (j : Json) : Option ModelTree := do
  let [tree, featureSize, maxDepth, minLeafSize, loss, featureShare] ←
    j.fields? ["tree", "feature_size", "max_depth", "min_leaf_size", "loss",
      "feature_sample_ratio"]
    | none
  let [nodes] ← tree.fields? ["tree"] | none
  return {
    nodes := (← nodes.list? node?).toArray
    featureSize := ← featureSize.nat?
    maxDepth := ← maxDepth.word32?
    minLeafSize := ← minLeafSize.nat?
    loss := ← loss.choice? loss?
    featureShare := ← featureShare.float? }

def modelSettings? (j : Json) : Option ModelSettings := do
  let [featureSize, maxDepth, iterations, shrinkage, featureShare, dataShare, minLeafSize,
      loss, debug, initialGuess, optimization] ←
    j.fields? ["feature_size", "max_depth", "iterations", "shrinkage",
      "feature_sample_ratio", "data_sample_ratio", "min_leaf_size", "loss", "debug",
      "initial_guess_enabled", "training_optimization_level"]
    | none
  return {
    featureSize := ← featureSize.nat?
    maxDepth := ← maxDepth.word32?
    iterations := ← iterations.nat?
    shrinkage := ← shrinkage.float32?
    featureShare := ← featureShare.float?
    dataShare := ← dataShare.float?
    minLeafSize := ← minLeafSize.nat?
    loss := ← loss.choice? loss?
    debug := ← debug.bool?
    initialGuess := ← initialGuess.bool?
    optimization := ← optimization.byte? }

def model? (j : Json) : Option ClassModel := do
  let [settings, trees, bias] ← j.fields? ["conf", "trees", "bias"] | none
  return {
    settings := ← modelSettings? settings
    trees := ← trees.list? tree?
    bias := ← bias.float32? }

def estimator? (j : Json) : Option Estimator := do
  let [models] ← j.fields? ["per_class"] | none
  return ⟨← models.list? model?⟩

def forest? (j : Json) : Option Forest := do
  let [classes, width, fingerprint, estimators] ←
    j.fields? ["classes", "n_features", "fingerprint", "estimators"]
    | none
  return {
    classes := ← classes.list? Json.string?
    width := ← width.nat?
    fingerprint := ← fingerprint.string?
    estimators := ← estimators.list? estimator? }

structure Parts where
  fingerprint : String
  vectorizer : Vectorizer
  forest : Forest

def parts? (j : Json) : Option Parts := do
  let [fingerprint, vectorizer, forest] ← j.fields? ["fingerprint", "vectorizer", "forest"]
    | none
  return {
    fingerprint := ← fingerprint.string?
    vectorizer := ← vectorizer? vectorizer
    forest := ← forest? forest }

def assemble (p : Parts) : Except BundleError Classifier :=
  let actual := p.vectorizer.fingerprint
  if actual ≠ p.fingerprint then .error (.fingerprint p.fingerprint actual)
  else if p.forest.fingerprint ≠ actual then .error (.layout actual p.forest.fingerprint)
  else if p.forest.width ≠ p.vectorizer.width then
    .error (.width p.vectorizer.width p.forest.width)
  else .ok ⟨p.vectorizer, p.forest⟩

def read (bytes : List UInt8) : Except BundleError Classifier :=
  match (Json.parse bytes).bind parts? with
  | none => .error (.corrupt (refusal bytes))
  | some parts => assemble parts

end Bundle
end Polyglot
