import Polyglot.Settings
import Polyglot.Labels
import Polyglot.Decimal.Whole
import Polyglot.Chance.Shuffle

/-!
# Stratified splits

The division of a corpus into training rows and test rows.  Every label gives a
quota of its rows, drawn at random, to the test rows, and at least one row to
either side.
-/

namespace Polyglot

/-- The row numbers of the two parts, both ascending. -/
structure Split where
  train : List Nat
  test : List Nat
  deriving DecidableEq

namespace Split

def requested (n : Nat) (share : Float32) : Nat :=
  nearestWhole (toSingle n * share)

/-- The number of test rows of a label with `n` rows. -/
def quota (n : Nat) (share : Float32) : Nat :=
  max 1 (min (requested n share) (n - 1))

def draw (share : Float32) :
    List (List Nat) → Chance.Generator → List (List Nat × List Nat)
  | [], _ => []
  | rows :: groups, g =>
      let (rows, g) := Chance.shuffle rows g
      rows.splitAt (quota rows.length share) :: draw share groups g

def ascending (rows : List Nat) : List Nat :=
  rows.mergeSort (· ≤ ·)

def stratified (labels : List String) (share : Float32) (seed : UInt64) :
    Except ClassifierError Split :=
  let distinct := Labels.distinct labels
  if distinct.length < 2 then .error (.tooFewLabels distinct.length)
  else
    match distinct.find? fun label => labels.count label < 2 with
    | some label => .error (.rareLabel label (labels.count label))
    | none =>
        let groups := distinct.map fun label => Labels.positions label labels
        let parts := draw share groups (.ofSeed seed)
        .ok ⟨ascending (parts.flatMap Prod.snd), ascending (parts.flatMap Prod.fst)⟩

end Split
end Polyglot
