import Mathlib.Data.List.GetD
import Mathlib.Order.Monotone.Basic
import Polyglot.Proofs.Limits

/-!
# Renumbered rows

The numbers of rows only tell them apart and put them in an order.  A tree that is grown
from some rows of a training set is the one that is grown from these rows alone, in the
same order and numbered anew.
-/

namespace Polyglot
namespace TrainingRows

/--
A training set that holds some rows of another one, in the same order.  What is no row
of the one has a number that is no row of the other one either.
-/
structure Renumbers (number : Nat -> Nat) (part whole : TrainingRows) : Prop where
  strictMono : StrictMono number
  lt_size : forall row, number row < whole.targets.size ↔ row < part.targets.size
  value : forall feature row, whole.value feature (number row) = part.value feature row
  target : forall row, whole.target (number row) = part.target row
  moment : forall row, whole.moment (number row) = part.moment row

namespace Renumbers

variable {number : Nat -> Nat} {part whole : TrainingRows} (h : Renumbers number part whole)

include h

theorem total_map (rows : List Nat) : whole.total (rows.map number) = part.total rows := by
  unfold total
  rw [List.foldl_map]
  simp only [h.moment]

theorem uniform_map (rows : List Nat) : whole.uniform (rows.map number) = part.uniform rows := by
  cases rows with
  | nil => rfl
  | cons first rows =>
      rw [List.map_cons, uniform, uniform, ← List.map_cons, List.all_map]
      simp only [Function.comp_def, h.target]

theorem mergeSort_map (rows : List Nat) :
    (rows.map number).mergeSort (· ≤ ·) = (rows.mergeSort (· ≤ ·)).map number := by
  symm
  apply List.map_mergeSort
  intro a _ b _
  rw [Bool.eq_iff_iff, decide_eq_true_iff, decide_eq_true_iff]
  exact h.strictMono.le_iff_le.symm

theorem scan_map (feature : Nat) (base : Float) (left right : Moments) (best : Option Cut)
    (rows : List Nat) :
    whole.scan feature base left right best (rows.map number) =
      part.scan feature base left right best rows := by
  induction rows generalizing left right best with
  | nil => rfl
  | cons row rows ih =>
      cases rows with
      | nil => rfl
      | cons next rows =>
          rw [List.map_cons] at ih
          rw [List.map_cons, List.map_cons, scan, scan]
          simp only [h.moment, h.value, ih]

theorem bestCut_map (all : Moments) (feature : Nat) (column : List Nat) :
    whole.bestCut all feature (column.map number) = part.bestCut all feature column := by
  unfold bestCut
  dsimp only
  rw [List.takeWhile_map, List.dropWhile_map, h.total_map, h.scan_map]
  simp only [Function.comp_def, h.value]

theorem bestSplit_map (all : Moments) (first : Nat) (columns : List (List Nat))
    (best : Option (Nat × Cut)) :
    whole.bestSplit all first (columns.map (List.map number)) best =
      part.bestSplit all first columns best := by
  induction columns generalizing first best with
  | nil => rfl
  | cons column columns ih =>
      rw [List.map_cons]
      unfold bestSplit
      dsimp only
      rw [h.bestCut_map, ih]

-- The marks of a node hold for rows of the training set only, hence `lt_size`.
theorem restrict_map (columns : List (List Nat)) (rows : List Nat) :
    whole.restrict (columns.map (List.map number)) (rows.map number) =
      (part.restrict columns rows).map (List.map number) := by
  rw [restrict_eq, restrict_eq, List.map_map, List.map_map]
  apply List.map_congr_left
  intro column _
  simp only [Function.comp_def, List.filter_map, h.lt_size,
    List.mem_map_of_injective h.strictMono.injective]

theorem divide_map (feature : Nat) (threshold : Float32) (column : List Nat) :
    whole.divide feature threshold (column.map number) =
      ((part.divide feature threshold column).1.map number,
        (part.divide feature threshold column).2.1.map number,
        (part.divide feature threshold column).2.2.map number) := by
  unfold divide
  simp only [List.filter_map, Function.comp_def, h.value]

omit h in
theorem undivided_map (number : Nat -> Nat) (left right unknown : List Nat) :
    undivided (left.map number) (right.map number) (unknown.map number) =
      undivided left right unknown := by
  simp only [undivided, List.isEmpty_map]

/-- The rows of a part grow into the same tree, whatever their numbers are. -/
theorem grow_map (minLeafSize levels : Nat) (columns : List (List Nat)) (rows : List Nat) :
    whole.grow minLeafSize levels (columns.map (List.map number)) (rows.map number) =
      part.grow minLeafSize levels columns rows := by
  induction levels generalizing columns rows with
  | zero => rw [grow, grow, h.total_map]
  | succ levels ih =>
      have hcolumn (feature : Nat) (columns : List (List Nat)) :
          (columns.map (List.map number)).getD feature [] =
            (columns.getD feature []).map number :=
        List.getD_map columns [] (List.map number)
      rw [grow, grow, h.uniform_map, h.restrict_map, h.mergeSort_map, h.total_map, h.total_map,
        List.length_map]
      dsimp only
      rw [h.bestSplit_map]
      split
      · rfl
      · split
        · rfl
        · rw [hcolumn, h.divide_map]
          generalize part.divide _ _ _ = parts
          rcases parts with ⟨left, right, unknown⟩
          dsimp only
          rw [undivided_map, ih, ih]

end Renumbers
end TrainingRows
end Polyglot
