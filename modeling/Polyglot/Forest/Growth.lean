import Polyglot.Decimal.Precision
import Polyglot.Forest.Tree

/-!
# Growing a tree

A tree is grown from the root.  A node is split at the feature and threshold
that leave the least squared deviation on the two sides, until its rows agree,
are too few, or lie too deep.
-/

namespace Polyglot

/-- Weighted sums of targets, of squared targets, and of weights. -/
structure Moments where
  sum : Float
  squares : Float
  weight : Float

namespace Moments

def zero : Moments := ⟨0, 0, 0⟩

def ofTarget (target weight : Float32) : Moments :=
  let w := toDouble weight
  let t := toDouble target
  ⟨t * w, t * (t * w), w⟩

def add (x y : Moments) : Moments :=
  ⟨x.sum + y.sum, x.squares + y.squares, x.weight + y.weight⟩

def sub (x y : Moments) : Moments :=
  ⟨x.sum - y.sum, x.squares - y.squares, x.weight - y.weight⟩

/-- The squared deviation from the mean; a total weight of one or less has none. -/
def deviation (x : Moments) : Float :=
  if 1 < x.weight then
    let d := x.squares - x.sum * x.sum / x.weight
    if d < 0 then 0 else d
  else 0

/-- The mean target; no weight gives zero. -/
def mean (x : Moments) : Float32 :=
  if x.weight.abs < 1e-10 then 0 else ofDouble (x.sum / x.weight)

end Moments

/-- The largest single-precision number below `10 ^ -5`. -/
def leastGap : Float32 := Float32.ofBits 0x3727c5ac

/-- Whether two numbers are as good as equal, since they differ by less than `10 ^ -5`. -/
def nearlyEqual (x y : Float32) : Bool :=
  (x - y).abs ≤ leastGap

/-- The rows that a tree is grown from; all arrays are indexed by row. -/
structure TrainingRows where
  features : Array (Array Float32)
  targets : Array Float32
  moments : Array Moments

namespace TrainingRows

def value (data : TrainingRows) (feature row : Nat) : Float32 :=
  (data.features.getD row #[]).getD feature 0

def target (data : TrainingRows) (row : Nat) : Float32 :=
  data.targets.getD row 0

def moment (data : TrainingRows) (row : Nat) : Moments :=
  data.moments.getD row .zero

def total (data : TrainingRows) (rows : List Nat) : Moments :=
  rows.foldl (fun sum row => sum.add (data.moment row)) .zero

/-- Whether all targets agree with the first one; there has to be one. -/
def uniform (data : TrainingRows) : List Nat → Bool
  | [] => false
  | first :: rows =>
      (first :: rows).all fun row => nearlyEqual (data.target first) (data.target row)

end TrainingRows

structure Cut where
  deviation : Float
  threshold : Float32

def between (x y : Float32) : Float32 :=
  (x + y) / 2

namespace TrainingRows

/--
Walks through the rows of a column in ascending order and keeps the first of the
best cuts.  `base` is the deviation of the rows with an unknown value, `left` and
`right` are the moments of the rows before and behind the current place.
-/
def scan (data : TrainingRows) (feature : Nat) (base : Float) :
    Moments → Moments → Option Cut → List Nat → Option Cut
  | left, right, best, row :: next :: rows =>
      let m := data.moment row
      let left := left.add m
      let right := right.sub m
      let x := data.value feature row
      let y := data.value feature next
      if nearlyEqual x y then data.scan feature base left right best (next :: rows)
      else
        let deviation := base + left.deviation + right.deviation
        let better := match best with
          | none => true
          | some cut => deviation < cut.deviation
        data.scan feature base left right
          (if better then some ⟨deviation, between x y⟩ else best) (next :: rows)
  | _, _, best, _ => best

def bestCut (data : TrainingRows) (all : Moments) (feature : Nat) (column : List Nat) :
    Option Cut :=
  let isUnknown row := data.value feature row == unknownFeature
  let unknown := data.total (column.takeWhile isUnknown)
  data.scan feature unknown.deviation .zero (all.sub unknown) none (column.dropWhile isUnknown)

/-- The best cut of all features; among equally good ones the first feature wins. -/
def bestSplit (data : TrainingRows) (all : Moments) :
    Nat → List (List Nat) → Option (Nat × Cut) → Option (Nat × Cut)
  | _, [], best => best
  | feature, column :: columns, best =>
      let best := match data.bestCut all feature column, best with
        | none, best => best
        | some cut, none => some (feature, cut)
        | some cut, some (f, c) =>
            if cut.deviation < c.deviation then some (feature, cut) else some (f, c)
      data.bestSplit all (feature + 1) columns best

def restrict (data : TrainingRows) (columns : List (List Nat)) (rows : List Nat) :
    List (List Nat) :=
  let member := rows.foldl (fun marks row => marks.setIfInBounds row true)
    (Array.replicate data.targets.size false)
  columns.map fun column => column.filter fun row => member.getD row false

def divide (data : TrainingRows) (feature : Nat) (threshold : Float32) (column : List Nat) :
    List Nat × List Nat × List Nat :=
  let isUnknown row := data.value feature row == unknownFeature
  let isLess row := data.value feature row < threshold
  let known := column.filter fun row => !isUnknown row
  (known.filter fun row => isLess row, known.filter fun row => !isLess row,
    column.filter isUnknown)

def undivided (left right unknown : List Nat) : Bool :=
  (left.isEmpty && right.isEmpty) || (left.isEmpty && unknown.isEmpty) ||
    (right.isEmpty && unknown.isEmpty)

/--
Grows the tree of some rows, with at most `levels` splits above each leaf.  The
columns list the rows of a larger node in ascending order of each feature.
-/
def grow (data : TrainingRows) (minLeafSize : Nat) :
    Nat → List (List Nat) → List Nat → GrownTree
  | 0, _, rows => .leaf (data.total rows).mean
  | levels + 1, columns, rows =>
      let mean := (data.total rows).mean
      if data.uniform rows || rows.length ≤ minLeafSize then .leaf mean
      else
        let columns := data.restrict columns rows
        let all := data.total (rows.mergeSort (· ≤ ·))
        match data.bestSplit all 0 columns none with
        | none => .leaf mean
        | some (feature, cut) =>
            let (left, right, unknown) :=
              data.divide feature cut.threshold (columns.getD feature [])
            if undivided left right unknown then .leaf mean
            else
              .split feature cut.threshold mean
                (data.grow minLeafSize levels columns left)
                (data.grow minLeafSize levels columns right)

end TrainingRows
end Polyglot
