import Polyglot.Forest.ClassModel
import Polyglot.Chance.Generator
import Polyglot.Decimal.Whole

/-!
# Bootstrap samples

Every estimator is trained on its own random sample of the rows.  A row that is
drawn several times is one row with that weight, and all class models of an
estimator are trained on the same rows with the same weights; only the labels
differ, being one for the rows of the class and zero for the others.
-/

namespace Polyglot

structure DrawnRow where
  row : Nat
  multiplicity : Nat
  deriving DecidableEq

/-- How often each of `n` rows occurs among the draws; rows that were not drawn are left out. -/
def drawnRows (n : Nat) (draws : List Nat) : List DrawnRow :=
  let counts := draws.foldl (fun (counts : Array Nat) row => counts.modify row (· + 1))
    (Array.replicate n 0)
  (counts.toList.zipIdx.filter fun entry => 0 < entry.1).map fun entry => ⟨entry.2, entry.1⟩

def bootstrap (n : Nat) (g : Chance.Generator) : List DrawnRow × Chance.Generator :=
  let (draws, g) := g.belowMany n n
  (drawnRows n draws, g)

def ascendingValue (features : Array (Array Float32)) (feature : Nat) (a b : Nat) : Bool :=
  (features.getD a #[]).getD feature 0 ≤ (features.getD b #[]).getD feature 0

/-- Whether some row has no number in some column; a single row needs no order. -/
def unordered (features : Array (Array Float32)) (rows : List Nat) : Bool :=
  1 < rows.length && rows.any fun row => (features.getD row #[]).any Float32.isNaN

def sortedColumns (features : Array (Array Float32)) (width : Nat) (rows : List Nat) :
    List (List Nat) :=
  (List.range width).map fun feature => rows.mergeSort (ascendingValue features feature)

structure Estimator where
  models : List ClassModel
  deriving DecidableEq

namespace Estimator

def indicator (targets : Array Nat) (cls row : Nat) : Float32 :=
  if targets[row]? = some cls then 1 else 0

def classModel (settings : ModelSettings) (features : Array (Array Float32))
    (targets : Array Nat) (rows : List DrawnRow) (columns : List (List Nat)) (cls : Nat) :
    ClassModel :=
  let labelled := rows.map fun r =>
    (toSingle r.multiplicity, indicator targets cls r.row)
  let bias := ClassModel.meanLabel labelled
  let residual (row : Nat) : Float32 := indicator targets cls row - bias
  let weights := rows.foldl
    (fun (weights : Array Float32) r =>
      weights.setIfInBounds r.row (toSingle r.multiplicity))
    (Array.replicate targets.size 0)
  let data : TrainingRows := {
    features := features
    targets := (Array.range targets.size).map residual
    moments := (Array.range targets.size).map fun row =>
      .ofTarget (residual row) (weights.getD row 0) }
  .ofTree settings bias
    (data.grow settings.minLeafSize settings.maxDepth.toNat columns (rows.map DrawnRow.row))

/-- The models of `classes` classes, trained on the same rows. -/
def train (settings : ModelSettings) (features : Array (Array Float32)) (targets : Array Nat)
    (classes : Nat) (rows : List DrawnRow) : Except Fault Estimator :=
  let drawn := rows.map DrawnRow.row
  if unordered features drawn then .error .unorderedFeature
  else
    let columns := sortedColumns features settings.featureSize drawn
    .ok ⟨(List.range classes).map (classModel settings features targets rows columns)⟩

end Estimator
end Polyglot
