import Mathlib.Algebra.Order.BigOperators.Group.List
import Mathlib.Algebra.Order.Ring.Nat
import Polyglot.Proofs.Growth
import Polyglot.Proofs.Report

/-!
# Draws

A number that is drawn below a bound is below it, also where a second draw moves it up
by one.  So every draw of a bootstrap sample counts for a row, and a sample lists the
rows that were drawn, with as many draws altogether as there are rows.
-/

namespace Polyglot
namespace Chance
namespace Generator

theorem word_lt (g : Generator) : g.word.1 < 0x100000000 :=
  UInt32.toNat_lt _

theorem doubleWord_lt (g : Generator) : g.doubleWord.1 < 0x10000000000000000 := by
  have hlow := g.word_lt
  have hhigh := g.word.2.word_lt
  show g.word.1 + g.word.2.word.1 * 0x100000000 < 0x10000000000000000
  omega

/-- A scaled draw is only moved up where it is not yet the last number of its range. -/
theorem scaled_succ_lt {size n r : Nat} (hr : r < size) (hrest : size - n < r * n % size) :
    r * n / size + 1 < n := by
  apply Nat.lt_of_not_le
  intro hlast
  have hdraw : r * n + n ≤ size * n := by
    rw [← Nat.succ_mul]
    exact Nat.mul_le_mul_right n hr
  have hrange : size * n ≤ size * (r * n / size) + size := by
    rw [← Nat.mul_succ]
    exact Nat.mul_le_mul_left size hlast
  have hparts := Nat.div_add_mod (r * n) size
  omega

theorem scaled_lt {size n : Nat} {draw : Generator -> Nat × Generator}
    (hdraw : forall g, (draw g).1 < size) (hn : 0 < n) (g : Generator) :
    (g.scaled size draw n).1 < n := by
  unfold scaled
  dsimp only
  split
  · rename_i hrest
    have hnext := scaled_succ_lt (hdraw g) hrest
    dsimp only
    split
    · exact hnext
    · exact Nat.lt_of_succ_lt hnext
  · exact Nat.div_lt_of_lt_mul (Nat.mul_lt_mul_of_pos_right (hdraw g) hn)

theorem below_lt {n : Nat} (hn : 0 < n) (g : Generator) : (g.below n).1 < n := by
  unfold below
  split
  · exact scaled_lt word_lt hn g
  · exact scaled_lt doubleWord_lt hn g

theorem lt_of_mem_belowMany {n count : Nat} (hn : 0 < n) {g : Generator} {x : Nat}
    (hx : x ∈ (g.belowMany n count).1) : x < n := by
  induction count generalizing g with
  | zero => cases hx
  | succ count ih =>
      rcases List.mem_cons.mp hx with rfl | hx
      · exact below_lt hn g
      · exact ih hx

end Generator
end Chance

/--
A sample that counts as many draws as there are rows.  Each draw is one of the rows, and the
sample lists the rows that were drawn in ascending order, each with the number of its draws.
-/
structure CountsDraws (n : Nat) (draws : List Nat) (sample : List DrawnRow) : Prop where
  length_eq : draws.length = n
  lt : forall row, row ∈ draws -> row < n
  mem_iff : forall r, r ∈ sample ↔ 0 < r.multiplicity ∧ r.multiplicity = draws.count r.row
  ascending : (sample.map DrawnRow.row).Pairwise (· < ·)
  total : (sample.map DrawnRow.multiplicity).sum = n

theorem CountsDraws.row_lt {n : Nat} {draws : List Nat} {sample : List DrawnRow}
    (h : CountsDraws n draws sample) {r : DrawnRow} (hr : r ∈ sample) : r.row < n := by
  rcases (h.mem_iff r).mp hr with ⟨hdrawn, hcount⟩
  exact h.lt r.row (List.count_pos_iff.mp (hcount ▸ hdrawn))

theorem countsDraws_drawnRows {n : Nat} {draws : List Nat} (hlength : draws.length = n)
    (hlt : forall row, row ∈ draws -> row < n) : CountsDraws n draws (drawnRows n draws) := by
  have hcounts : (drawnRows n draws).map DrawnRow.multiplicity =
      ((drawnRows n draws).map DrawnRow.row).map fun row => draws.count row := by
    rw [rows_drawnRows, drawnRows_eq, List.map_map]
    rfl
  constructor
  · exact hlength
  · exact hlt
  · intro r
    rw [mem_drawnRows_iff]
    constructor
    · exact And.right
    · rintro ⟨hdrawn, hcount⟩
      exact ⟨hlt r.row (List.count_pos_iff.mp (hcount ▸ hdrawn)), hdrawn, hcount⟩
  · rw [rows_drawnRows]
    exact List.pairwise_lt_range.filter _
  · rw [hcounts]
    -- Every draw counts for one of the drawn rows, so none is lost with the others.
    refine (Report.total_map_count_of_subset (nodup_drawnRows n draws) ?_).trans hlength
    intro row hrow
    rw [rows_drawnRows, List.mem_filter, List.mem_range, decide_eq_true_eq]
    exact ⟨hlt row hrow, List.count_pos_iff.mpr hrow⟩

theorem countsDraws_bootstrap {n : Nat} (hn : 0 < n) (g : Chance.Generator) :
    CountsDraws n (g.belowMany n n).1 (bootstrap n g).1 :=
  countsDraws_drawnRows (length_belowMany n n g) fun _ => Chance.Generator.lt_of_mem_belowMany hn

end Polyglot
