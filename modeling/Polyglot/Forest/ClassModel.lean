import Polyglot.Forest.Growth
import Polyglot.Settings

/-!
# Class models

A class model estimates how much a sample belongs to one class: a bias, and the
predictions of its trees added to it.  Training makes models with one tree and
the plainest settings; a bundle may hold any others.
-/

namespace Polyglot

/-- What a model was trained to minimise; some losses turn the sum into an answer of their own. -/
inductive Loss where
  | squaredError
  | logLikelihood
  | leastAbsoluteDeviation
  | regressionLinear
  | regressionLogistic
  | binaryLogistic
  | binaryLogitRaw
  | multiProbability
  | multiMaximum
  | rankPairwise
  deriving DecidableEq

structure ModelSettings where
  featureSize : Nat
  maxDepth : UInt32
  iterations : Nat
  shrinkage : Float32
  featureShare : Float
  dataShare : Float
  minLeafSize : Nat
  loss : Loss
  debug : Bool
  initialGuess : Bool
  optimization : UInt8
  deriving DecidableEq

structure ModelTree where
  nodes : StoredTree
  featureSize : Nat
  maxDepth : UInt32
  minLeafSize : Nat
  loss : Loss
  featureShare : Float
  deriving DecidableEq

/-- The settings, the trees, and the bias that their predictions are added to. -/
structure ClassModel where
  settings : ModelSettings
  trees : List ModelTree
  bias : Float32
  deriving DecidableEq

/-- The logistic function of `rate * x`. -/
def logistic (rate x : Float32) : Float32 :=
  1 / (1 + (-rate * x).exp)

def Loss.answer (loss : Loss) (x : Float32) : Float32 :=
  match loss with
  | .logLikelihood => logistic 2 x
  | .regressionLogistic | .binaryLogistic => logistic 1 x
  | _ => x

namespace ClassModel

def addTree (shrinkage : Float32) (sample : Array Float32) (sum : Float32) (tree : ModelTree) :
    Except Fault Float32 := do
  let x ← tree.nodes.predict sample
  return sum + shrinkage * x

/-- The answer for a sample; a model without trees answers with the unknown value. -/
def predict (model : ClassModel) (sample : Array Float32) : Except Fault Float32 :=
  if model.trees.length ≠ model.settings.iterations then .error .treesAndIterations
  else if model.trees.isEmpty then .ok unknownFeature
  else do
    let start := if model.settings.initialGuess then 0 else model.bias
    let sum ← model.trees.foldlM (addTree model.settings.shrinkage sample) start
    return model.settings.loss.answer sum

def trainedSettings (width : Nat) (s : ForestSettings) : ModelSettings where
  featureSize := width
  maxDepth := if s.maxDepth ≤ 0xffffffff then s.maxDepth.toUInt32 else 0xffffffff
  iterations := 1
  shrinkage := 1
  featureShare := 1
  dataShare := 1
  minLeafSize := s.minLeafSize.toNat
  loss := .squaredError
  debug := false
  initialGuess := false
  optimization := 2

def meanLabel (rows : List (Float32 × Float32)) : Float32 :=
  let sums := rows.foldl (fun (s : Float × Float) (r : Float32 × Float32) =>
    (s.1 + toDouble (r.2 * r.1), s.2 + toDouble r.1)) (0, 0)
  if sums.2.abs < 1e-10 then 0 else ofDouble (sums.1 / sums.2)

def ofTree (settings : ModelSettings) (bias : Float32) (tree : GrownTree) : ClassModel where
  settings := settings
  trees := [{
    nodes := tree.stored
    featureSize := settings.featureSize
    maxDepth := settings.maxDepth
    minLeafSize := settings.minLeafSize
    loss := settings.loss
    featureShare := settings.featureShare }]
  bias := bias

end ClassModel
end Polyglot
