import Mathlib.Data.List.Basic
import Mathlib.Data.List.Perm.Subperm
import Polyglot.Forest.Bootstrap
import Polyglot.Proofs.Trees

/-!
# Growth

A split hands every row of its node to at most one side, and at most one of the
two sides and the rows without a value has no row at all.  So a tree is never
larger than twice the number of rows that it was grown from.
-/

namespace Polyglot

theorem getElem?_foldl_modify (draws : List Nat) (counts : Array Nat) (row : Nat) :
    (draws.foldl (fun (counts : Array Nat) row => counts.modify row (· + 1)) counts)[row]? =
      counts[row]?.map (· + draws.count row) := by
  induction draws generalizing counts with
  | nil => simp
  | cons draw draws ih =>
      rw [List.foldl_cons, ih, Array.getElem?_modify, List.count_cons]
      by_cases hdraw : draw = row
      · simp [hdraw, Function.comp_def, Nat.add_comm, Nat.add_left_comm]
      · simp [hdraw]

/-- The drawn rows are the rows with draws, in their order, each with the number of its draws. -/
theorem drawnRows_eq (n : Nat) (draws : List Nat) :
    drawnRows n draws =
      ((List.range n).filter fun row => 0 < draws.count row).map fun row =>
        ⟨row, draws.count row⟩ := by
  have hcounts : (draws.foldl (fun (counts : Array Nat) row => counts.modify row (· + 1))
      (Array.replicate n 0)).toList = (List.range n).map fun row => draws.count row := by
    apply List.ext_getElem?
    intro row
    rw [Array.getElem?_toList, getElem?_foldl_modify, List.getElem?_map, Array.getElem?_replicate]
    by_cases hrow : row < n
    · simp [hrow]
    · simp [hrow]
  have hnumbered : ((List.range n).map fun row => draws.count row).zipIdx =
      (List.range n).map fun row => (draws.count row, row) :=
    List.ext_getElem (by simp) (by simp)
  unfold drawnRows
  dsimp only
  rw [hcounts, hnumbered, List.filter_map, List.map_map]
  rfl

theorem mem_drawnRows_iff {n : Nat} {draws : List Nat} {r : DrawnRow} :
    r ∈ drawnRows n draws ↔
      r.row < n ∧ 0 < r.multiplicity ∧ r.multiplicity = draws.count r.row := by
  rcases r with ⟨row, multiplicity⟩
  simp only [drawnRows_eq, List.mem_map, List.mem_filter, List.mem_range, decide_eq_true_eq,
    DrawnRow.mk.injEq]
  constructor
  · rintro ⟨drawn, ⟨hlt, hdrawn⟩, rfl, rfl⟩
    exact ⟨hlt, hdrawn, rfl⟩
  · rintro ⟨hlt, hdrawn, rfl⟩
    exact ⟨row, ⟨hlt, hdrawn⟩, rfl, rfl⟩

theorem rows_drawnRows (n : Nat) (draws : List Nat) :
    (drawnRows n draws).map DrawnRow.row =
      (List.range n).filter fun row => 0 < draws.count row := by
  rw [drawnRows_eq, List.map_map]
  exact List.map_id _

theorem nodup_drawnRows (n : Nat) (draws : List Nat) :
    ((drawnRows n draws).map DrawnRow.row).Nodup := by
  rw [rows_drawnRows]
  exact List.nodup_range.filter _

theorem length_drawnRows_le (n : Nat) (draws : List Nat) :
    ((drawnRows n draws).map DrawnRow.row).length ≤ n := by
  rw [rows_drawnRows]
  exact Nat.le_trans (List.length_filter_le _ _) (Nat.le_of_eq List.length_range)

theorem multiplicity_le_of_mem_drawnRows {n : Nat} {draws : List Nat} {r : DrawnRow}
    (h : r ∈ drawnRows n draws) : r.multiplicity ≤ draws.length := by
  rw [(mem_drawnRows_iff.mp h).2.2]
  exact List.count_le_length

theorem length_belowMany (n count : Nat) (g : Chance.Generator) :
    (g.belowMany n count).1.length = count := by
  induction count generalizing g with
  | zero => rfl
  | succ count ih =>
      rw [Chance.Generator.belowMany]
      exact congrArg (· + 1) (ih _)

theorem nodup_of_mem_sortedColumns {features : Array (Array Float32)} {width : Nat}
    {rows column : List Nat} (h : rows.Nodup) (hcolumn : column ∈ sortedColumns features width rows) :
    column.Nodup := by
  rcases List.mem_map.mp hcolumn with ⟨feature, _, rfl⟩
  exact (List.mergeSort_perm _ _).nodup_iff.mpr h

namespace TrainingRows

/-!
## The rows of a node
-/

theorem marked_iff {rows : List Nat} {marks : Array Bool} {row : Nat} :
    (rows.foldl (fun (marks : Array Bool) row => marks.setIfInBounds row true) marks).getD
        row false = true ↔
      row ∈ rows ∧ row < marks.size ∨ marks.getD row false = true := by
  induction rows generalizing marks with
  | nil => simp
  | cons first rows ih =>
      rw [List.foldl_cons, ih, Array.size_setIfInBounds, Array.getD_eq_getD_getElem?,
        Array.getD_eq_getD_getElem?, Array.getElem?_setIfInBounds, List.mem_cons]
      by_cases hfirst : first = row
      · subst hfirst
        by_cases hlt : first < marks.size
        · simp [hlt]
        · simp [hlt]
      · simp [hfirst, Ne.symm hfirst]

theorem restrict_eq (data : TrainingRows) (columns : List (List Nat)) (rows : List Nat) :
    data.restrict columns rows =
      columns.map fun column => column.filter fun row =>
        row ∈ rows ∧ row < data.targets.size := by
  apply List.map_congr_left
  intro column _
  apply List.filter_congr
  intro row _
  have hnone : (Array.replicate data.targets.size false).getD row false = false := by
    rw [Array.getD_eq_getD_getElem?, Array.getElem?_replicate]
    split
    · rfl
    · rfl
  rw [Bool.eq_iff_iff, marked_iff, hnone, Array.size_replicate, decide_eq_true_eq]
  simp

theorem of_mem_restrict {data : TrainingRows} {columns : List (List Nat)} {rows : List Nat}
    {restricted : List Nat} (h : restricted ∈ data.restrict columns rows) :
    ∃ column, column ∈ columns ∧ restricted.Sublist column ∧ restricted ⊆ rows := by
  rw [restrict_eq] at h
  rcases List.mem_map.mp h with ⟨column, hcolumn, rfl⟩
  refine ⟨column, hcolumn, List.filter_sublist, ?_⟩
  intro row hrow
  exact (of_decide_eq_true (List.mem_filter.mp hrow).2).1

theorem nodup_of_mem_restrict {data : TrainingRows} {columns : List (List Nat)}
    {rows : List Nat} (hcolumns : forall column, column ∈ columns -> column.Nodup)
    {restricted : List Nat} (h : restricted ∈ data.restrict columns rows) :
    restricted.Nodup ∧ restricted.length ≤ rows.length := by
  rcases of_mem_restrict h with ⟨column, hcolumn, hsublist, hsubset⟩
  have hnodup := (hcolumns column hcolumn).sublist hsublist
  exact ⟨hnodup, (hnodup.subperm hsubset).length_le⟩

theorem length_divide (data : TrainingRows) (feature : Nat) (threshold : Float32)
    (column : List Nat) :
    (data.divide feature threshold column).1.length +
      (data.divide feature threshold column).2.1.length +
      (data.divide feature threshold column).2.2.length = column.length := by
  have hknown := @List.length_eq_length_filter_add _ column
    fun row => data.value feature row == unknownFeature
  have hsides := @List.length_eq_length_filter_add _
    (column.filter fun row => !(data.value feature row == unknownFeature))
    fun row => data.value feature row < threshold
  unfold divide
  dsimp only
  omega

/-!
## The size of a tree
-/

theorem parts_of_undivided {left right unknown : List Nat}
    (h : ¬undivided left right unknown = true) :
    (0 < left.length ∧ 0 < right.length) ∨ (0 < left.length ∧ 0 < unknown.length) ∨
      (0 < right.length ∧ 0 < unknown.length) := by
  cases left with
  | nil =>
      cases right with
      | nil => exact absurd rfl h
      | cons r right =>
          cases unknown with
          | nil => exact absurd rfl h
          | cons u unknown => exact .inr (.inr ⟨Nat.succ_pos _, Nat.succ_pos _⟩)
  | cons l left =>
      cases right with
      | nil =>
          cases unknown with
          | nil => exact absurd rfl h
          | cons u unknown => exact .inr (.inl ⟨Nat.succ_pos _, Nat.succ_pos _⟩)
      | cons r right => exact .inl ⟨Nat.succ_pos _, Nat.succ_pos _⟩

theorem size_split_lt {left right unknown : List Nat} {rows leftSize rightSize : Nat}
    (hparts : ¬undivided left right unknown = true)
    (hrows : left.length + right.length + unknown.length ≤ rows)
    (hleft : leftSize < 2 * max 1 left.length) (hright : rightSize < 2 * max 1 right.length) :
    1 + leftSize + rightSize < 2 * max 1 rows := by
  rcases parts_of_undivided hparts with ⟨hl, hr⟩ | ⟨hl, hu⟩ | ⟨hr, hu⟩
  · omega
  · omega
  · omega

/--
What holds of every leaf and passes from two subtrees to a split holds of every grown
tree.  The subtrees of a split have their own rows, and together no more than the split.
-/
theorem grow_induction {data : TrainingRows} {minLeafSize : Nat} {p : List Nat -> GrownTree -> Prop}
    (hleaf : forall rows, p rows (.leaf (data.total rows).mean))
    (hsplit : forall rows all columns feature cut left right unknown leftTree rightTree,
      data.bestSplit all 0 columns none = some (feature, cut) ->
      left.length + right.length + unknown.length ≤ rows.length ->
      ¬undivided left right unknown = true -> p left leftTree -> p right rightTree ->
      p rows (.split feature cut.threshold (data.total rows).mean leftTree rightTree))
    (levels : Nat) {columns : List (List Nat)} (rows : List Nat)
    (hcolumns : forall column, column ∈ columns -> column.Nodup) :
    p rows (data.grow minLeafSize levels columns rows) := by
  induction levels generalizing columns rows with
  | zero => exact hleaf rows
  | succ levels ih =>
      rcases data.grow_cases minLeafSize (levels + 1) columns rows with hgrown |
        ⟨fewer, _, feature, cut, left, right, unknown, hlevels, _, hbest, hdivide, hparts, hgrown⟩
      · rw [hgrown]
        exact hleaf rows
      · cases hlevels
        -- A restricted column has no row twice and only rows of the node.
        have hrestrict : forall column, column ∈ data.restrict columns rows -> column.Nodup :=
          fun column hcolumn => (nodup_of_mem_restrict hcolumns hcolumn).1
        have hcolumn : ((data.restrict columns rows).getD feature []).length ≤ rows.length := by
          rw [List.getD_eq_getElem?_getD]
          cases hget : (data.restrict columns rows)[feature]? with
          | none => exact Nat.zero_le _
          | some column => exact (nodup_of_mem_restrict hcolumns (List.mem_of_getElem? hget)).2
        have hlength := data.length_divide feature cut.threshold
          ((data.restrict columns rows).getD feature [])
        rw [hdivide] at hlength
        rw [hgrown]
        exact hsplit _ _ _ _ _ _ _ _ _ _ hbest (hlength ▸ hcolumn) hparts
          (ih _ hrestrict) (ih _ hrestrict)

theorem size_grow_lt (data : TrainingRows) (minLeafSize levels : Nat)
    {columns : List (List Nat)} (rows : List Nat)
    (hcolumns : forall column, column ∈ columns -> column.Nodup) :
    (data.grow minLeafSize levels columns rows).size < 2 * max 1 rows.length := by
  refine grow_induction (p := fun rows tree => tree.size < 2 * max 1 rows.length) ?_ ?_ levels rows
    hcolumns
  · intro rows
    show 1 < 2 * max 1 rows.length
    omega
  · intro rows all columns feature cut left right unknown leftTree rightTree _ hrows hparts hleft
      hright
    exact size_split_lt hparts hrows hleft hright

end TrainingRows
end Polyglot
