import Polyglot.Classifier
import Polyglot.Json.Printer
import Polyglot.Json.Record

/-!
# Writing bundles

A bundle is one JSON record with the fingerprint, the vectorizer and the forest
of a classifier.  Every part is a record with its fields in a fixed order.
-/

namespace Polyglot
namespace Bundle

def settingsJson (s : VectorizerSettings) : Json :=
  .ofEntries [
    ("max_features", .ofNat s.maxFeatures.toNat),
    ("ngram_range", .array [.ofNat s.leastWindow.toNat, .ofNat s.mostWindow.toNat]),
    ("lowercase", .bool s.lowercase)]

def vocabularyJson (v : Vocabulary) : Json :=
  .ofEntries (v.entries.map fun e => (e.1, .ofNat e.2))

def vectorizerJson (v : Vectorizer) : Json :=
  .ofEntries [
    ("config", settingsJson v.settings),
    ("vocabulary", vocabularyJson v.vocabulary),
    ("idf", .ofList .ofFloat32 v.weights.toList)]

def nodeJson (n : Node) : Json :=
  .ofEntries [
    ("value", .ofEntries [
      ("feature_index", .ofNat n.feature),
      ("feature_value", .ofFloat32 n.threshold),
      ("pred", .ofFloat32 n.prediction),
      ("missing", .number (.ofInt n.missing)),
      ("is_leaf", .bool n.isLeaf)]),
    ("index", .ofNat n.index),
    ("left", .ofNat n.left),
    ("right", .ofNat n.right)]

def lossName : Loss → String
  | .squaredError => "SquaredError"
  | .logLikelihood => "LogLikelyhood"
  | .leastAbsoluteDeviation => "LAD"
  | .regressionLinear => "RegLinear"
  | .regressionLogistic => "RegLogistic"
  | .binaryLogistic => "BinaryLogistic"
  | .binaryLogitRaw => "BinaryLogitraw"
  | .multiProbability => "MultiSoftprob"
  | .multiMaximum => "MultiSoftmax"
  | .rankPairwise => "RankPairwise"

def treeJson (t : ModelTree) : Json :=
  .ofEntries [
    ("tree", .ofEntries [("tree", .ofList nodeJson t.nodes.toList)]),
    ("feature_size", .ofNat t.featureSize),
    ("max_depth", .ofNat t.maxDepth.toNat),
    ("min_leaf_size", .ofNat t.minLeafSize),
    ("loss", .ofString (lossName t.loss)),
    ("feature_sample_ratio", .ofFloat t.featureShare)]

def modelSettingsJson (s : ModelSettings) : Json :=
  .ofEntries [
    ("feature_size", .ofNat s.featureSize),
    ("max_depth", .ofNat s.maxDepth.toNat),
    ("iterations", .ofNat s.iterations),
    ("shrinkage", .ofFloat32 s.shrinkage),
    ("feature_sample_ratio", .ofFloat s.featureShare),
    ("data_sample_ratio", .ofFloat s.dataShare),
    ("min_leaf_size", .ofNat s.minLeafSize),
    ("loss", .ofString (lossName s.loss)),
    ("debug", .bool s.debug),
    ("initial_guess_enabled", .bool s.initialGuess),
    ("training_optimization_level", .ofNat s.optimization.toNat)]

def modelJson (m : ClassModel) : Json :=
  .ofEntries [
    ("conf", modelSettingsJson m.settings),
    ("trees", .ofList treeJson m.trees),
    ("bias", .ofFloat32 m.bias)]

def estimatorJson (e : Estimator) : Json :=
  .ofEntries [("per_class", .ofList modelJson e.models)]

def forestJson (f : Forest) : Json :=
  .ofEntries [
    ("classes", .ofList .ofString f.classes),
    ("n_features", .ofNat f.width),
    ("fingerprint", .ofString f.fingerprint),
    ("estimators", .ofList estimatorJson f.estimators)]

def json (fingerprint : String) (v : Vectorizer) (f : Forest) : Json :=
  .ofEntries [
    ("fingerprint", .ofString fingerprint),
    ("vectorizer", vectorizerJson v),
    ("forest", forestJson f)]

def write (c : Classifier) : List UInt8 :=
  (json c.fingerprint c.vectorizer c.forest).print

end Bundle
end Polyglot
