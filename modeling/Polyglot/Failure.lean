import Polyglot.Decimal.Plain

/-!
# What can go wrong

The causes for which training, evaluation or prediction refuses its input, each
with its message, and the faults that an inconsistent model or an unusable
number leads to.
-/

namespace Polyglot

inductive PositiveSetting where
  | maxFeatures
  | estimators
  | maxDepth
  | minLeafSize
  deriving DecidableEq

def PositiveSetting.name : PositiveSetting → String
  | .maxFeatures => "max_features"
  | .estimators => "n_estimators"
  | .maxDepth => "max_depth"
  | .minLeafSize => "min_leaf_size"

inductive ErrorKind where
  | configuration
  | validation
  | build
  | prediction
  deriving DecidableEq

def ErrorKind.title : ErrorKind → String
  | .configuration => "Configuration error"
  | .validation => "Validation error"
  | .build => "Build error"
  | .prediction => "Prediction error"

/-- Why an input is refused. -/
inductive ClassifierError where
  | windowRange (least most : UInt64)
  | notPositive (setting : PositiveSetting)
  | testShare (share : Float32)
  | noSamples
  | emptyCode (position : Nat)
  | blankLabel (position : Nat)
  | tooFewLabels (found : Nat)
  | rareLabel (label : String) (count : Nat)
  | noDocuments
  | rowsAndLabels (rows labels : Nat)
  | noRows
  | tooFewClasses (found : Nat)
  | untrainedLabel (label : String)
  | predictionCount (expected got : Nat)
  | unknownLabel (label : String)
  | emptyInput
  | featureCount (expected got : Nat)
  | noTrees
  | treesAndClasses (trees classes : Nat)
  | noClasses
  | noProbabilities
  deriving DecidableEq

namespace ClassifierError

def kind : ClassifierError → ErrorKind
  | .windowRange .. | .notPositive _ | .testShare _ => .validation
  | .noSamples | .untrainedLabel _ => .build
  | .emptyCode _ | .blankLabel _ => .validation
  | .tooFewLabels _ | .rareLabel .. => .configuration
  | .noDocuments => .validation
  | .rowsAndLabels .. | .noRows => .validation
  | .tooFewClasses _ => .configuration
  | .predictionCount .. | .unknownLabel _ => .validation
  | .emptyInput => .validation
  | .featureCount .. | .noTrees | .treesAndClasses .. | .noClasses | .noProbabilities =>
      .prediction

def detail : ClassifierError → String
  | .windowRange least most => s!"Invalid n-gram range ({least}, {most})"
  | .notPositive setting => setting.name ++ " must be at least 1"
  | .testShare share => "test_size must be in (0, 1), got " ++ Decimal.plain share
  | .noSamples => "At least one sample must be added"
  | .emptyCode position => s!"Sample {position} has empty code"
  | .blankLabel position => s!"Sample {position} has an empty label"
  | .tooFewLabels found =>
      s!"Need at least 2 distinct labels for a stratified split, found {found}"
  | .rareLabel label count =>
      s!"Label '{label}' has {count} sample(s); " ++
        "at least 2 are needed to appear in both train and test sets"
  | .noDocuments => "Cannot fit vectorizer on an empty corpus"
  | .rowsAndLabels rows labels =>
      s!"Feature rows ({rows}) and labels ({labels}) differ in count"
  | .noRows => "Cannot fit a forest on zero samples"
  | .tooFewClasses found => s!"Need at least 2 distinct labels to train, found {found}"
  | .untrainedLabel label => s!"Unknown label '{label}'"
  | .predictionCount expected got => s!"Expected {expected} predictions, got {got}"
  | .unknownLabel label => s!"Label '{label}' is not a known class"
  | .emptyInput => "Input code cannot be empty"
  | .featureCount expected got => s!"Expected {expected} features, got {got}"
  | .noTrees => "Forest has no trees"
  | .treesAndClasses trees classes =>
      s!"Estimator has {trees} class trees for {classes} classes"
  | .noClasses => "Forest has no classes"
  | .noProbabilities => "Forest returned no class probabilities"

def message (e : ClassifierError) : String :=
  e.kind.title ++ ": " ++ e.detail

end ClassifierError

/-- Why a computation cannot go on with a model or a number that it was given. -/
inductive Fault where
  | capacityOverflow
  | rowOutOfRange
  | columnOutOfRange
  | featureOutOfRange
  | noNode
  | endlessDescent
  | unorderedFeature
  | treesAndIterations
  deriving DecidableEq

inductive Failure where
  | error (e : ClassifierError)
  | fault (f : Fault)
  deriving DecidableEq

end Polyglot
