import Polyglot.Bundle.Writer
import Polyglot.Json.Scan

/-!
# Refused bundles

What a bundle is scanned for when it is refused: its records, with the names that stand in the
reason for a refusal, and the kinds of their fields.
-/

namespace Polyglot
namespace Bundle

open Json (Scan)
open Json.Scan (record nat int float bool string list pair map choice)

def wordKind : Scan Unit :=
  nat "usize" (Numeral.wordLimit 64)

def singleKind : Scan Unit :=
  float "f32"

def doubleKind : Scan Unit :=
  float "f64"

def depthKind : Scan Unit :=
  nat "u32" (Numeral.wordLimit 32)

def losses : List Loss :=
  [.squaredError, .logLikelihood, .leastAbsoluteDeviation, .regressionLinear,
    .regressionLogistic, .binaryLogistic, .binaryLogitRaw, .multiProbability, .multiMaximum,
    .rankPairwise]

def lossKind : Scan Unit :=
  choice (losses.map lossName)

def settingsKind : Scan Unit :=
  record "VectorizerConfig"
    [("max_features", wordKind), ("ngram_range", pair wordKind), ("lowercase", bool)]

def vectorizerKind : Scan Unit :=
  record "TfidfVectorizer"
    [("config", settingsKind), ("vocabulary", map wordKind), ("idf", list singleKind)]

def valueKind : Scan Unit :=
  record "DTNode"
    [("feature_index", wordKind), ("feature_value", singleKind), ("pred", singleKind),
      ("missing", int "i8" (Numeral.wordLimit 7)), ("is_leaf", bool)]

def nodeKind : Scan Unit :=
  record "BinaryTreeNode"
    [("value", valueKind), ("index", wordKind), ("left", wordKind), ("right", wordKind)]

def treeKind : Scan Unit :=
  record "DecisionTree"
    [("tree", record "BinaryTree" [("tree", list nodeKind)]), ("feature_size", wordKind),
      ("max_depth", depthKind), ("min_leaf_size", wordKind), ("loss", lossKind),
      ("feature_sample_ratio", doubleKind)]

def modelSettingsKind : Scan Unit :=
  record "Config"
    [("feature_size", wordKind), ("max_depth", depthKind), ("iterations", wordKind),
      ("shrinkage", singleKind), ("feature_sample_ratio", doubleKind),
      ("data_sample_ratio", doubleKind), ("min_leaf_size", wordKind), ("loss", lossKind),
      ("debug", bool), ("initial_guess_enabled", bool),
      ("training_optimization_level", nat "u8" (Numeral.wordLimit 8))]

def modelKind : Scan Unit :=
  record "GBDT"
    [("conf", modelSettingsKind), ("trees", list treeKind), ("bias", singleKind)]

def forestKind : Scan Unit :=
  record "RandomForest"
    [("classes", list string), ("n_features", wordKind), ("fingerprint", string),
      ("estimators", list (record "Estimator" [("per_class", list modelKind)]))]

def bundleKind : Scan Unit :=
  record "Bundle"
    [("fingerprint", string), ("vectorizer", vectorizerKind), ("forest", forestKind)]

def refusal (bytes : List UInt8) : Json.Refusal :=
  Json.refusal bundleKind bytes

end Bundle
end Polyglot
