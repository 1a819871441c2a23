import Mathlib.Data.List.Perm.Basic
import Polyglot.Proofs.Growth

/-!
# Limits of growth

A sample takes a way through a tree, and the rows of a training set part at every
split.  Growth splits a node only if more rows reach it than a leaf has to hold and
some go to either side, so every node but the root is reached by a row.  It never
splits deeper than it may.  A side may still get fewer rows than a leaf has to hold.
-/

namespace Polyglot

inductive Side where
  | left
  | right
  deriving DecidableEq

namespace Side

def choose {α : Type} (left right : α) : Side -> α
  | .left => left
  | .right => right

def admits (x threshold : Float32) : Side -> Bool
  | .left => x < threshold
  | .right => !decide (x < threshold)

end Side

namespace GrownTree

def node? : List Side -> GrownTree -> Option GrownTree
  | [], tree => some tree
  | _ :: _, .leaf _ => none
  | side :: steps, .split _ _ _ left right => node? steps (side.choose left right)

def IsSplit : GrownTree -> Prop
  | .leaf _ => False
  | .split _ _ _ _ _ => True

def way (sample : Array Float32) : GrownTree -> List Side
  | .leaf _ => []
  | .split feature threshold _ left right =>
      let x := sample.getD feature 0
      if x == unknownFeature then []
      else if x < threshold then .left :: left.way sample
      else .right :: right.way sample

def reached (tree : GrownTree) (features : Array (Array Float32)) (rows : List Nat)
    (steps : List Side) : Nat :=
  rows.countP fun row => steps <+: tree.way (features.getD row #[])

/-- A sample without unknown values comes to a leaf, and its prediction is the answer. -/
theorem exists_leaf (tree : GrownTree) {sample : Array Float32}
    (hknown : forall feature, (sample.getD feature 0 == unknownFeature) = false) :
    ∃ mean, tree.node? (tree.way sample) = some (.leaf mean) ∧ tree.answer sample = mean := by
  induction tree with
  | leaf mean => exact ⟨mean, rfl, rfl⟩
  | split feature threshold mean left right ihleft ihright =>
      have hnumber : ¬ (sample.getD feature 0 == unknownFeature) = true := by
        rw [hknown feature]
        exact Bool.false_ne_true
      rw [way, answer, if_neg hnumber, if_neg hnumber]
      split
      · exact ihleft
      · exact ihright

theorem length_add_depth_le {tree node : GrownTree} {steps : List Side}
    (h : tree.node? steps = some node) : steps.length + node.depth ≤ tree.depth := by
  induction steps generalizing tree with
  | nil =>
      cases h
      exact Nat.le_of_eq (Nat.zero_add _)
  | cons side steps ih =>
      cases tree with
      | leaf mean => cases h
      | split feature threshold mean left right =>
          have hchild := ih h
          have hside : (side.choose left right).depth ≤ max left.depth right.depth := by
            cases side with
            | left => exact Nat.le_max_left _ _
            | right => exact Nat.le_max_right _ _
          rw [List.length_cons, depth]
          omega

theorem cons_prefix_way {feature : Nat} {threshold mean : Float32} {left right : GrownTree}
    {sample : Array Float32} (hknown : (sample.getD feature 0 == unknownFeature) = false)
    {side : Side} {steps : List Side} :
    side :: steps <+: (split feature threshold mean left right).way sample ↔
      steps <+: (side.choose left right).way sample ∧
        side.admits (sample.getD feature 0) threshold = true := by
  rw [way, if_neg (by rw [hknown]; exact Bool.false_ne_true)]
  generalize sample.getD feature 0 = x
  by_cases hless : x < threshold
  · cases side with
    | left => simp [List.cons_prefix_cons, Side.choose, Side.admits, hless]
    | right => simp [List.cons_prefix_cons, Side.admits, hless]
  · cases side with
    | left => simp [List.cons_prefix_cons, Side.admits, hless]
    | right => simp [List.cons_prefix_cons, Side.choose, Side.admits, hless]

/-!
## Rows on their ways
-/

section Reached

variable {features : Array (Array Float32)} {rows : List Nat}

theorem reached_nil (tree : GrownTree) : tree.reached features rows [] = rows.length := by
  apply List.countP_eq_length.mpr
  intro row _
  exact decide_eq_true (List.nil_prefix)

theorem reached_perm (tree : GrownTree) {others : List Nat} (h : rows.Perm others)
    (steps : List Side) : tree.reached features rows steps = tree.reached features others steps :=
  h.countP_eq _

theorem reached_cons {feature : Nat} {threshold mean : Float32} {left right : GrownTree}
    (hknown : forall row, row ∈ rows ->
      ((features.getD row #[]).getD feature 0 == unknownFeature) = false)
    (side : Side) (steps : List Side) :
    (split feature threshold mean left right).reached features rows (side :: steps) =
      (side.choose left right).reached features
        (rows.filter fun row => side.admits ((features.getD row #[]).getD feature 0) threshold)
        steps := by
  unfold reached
  rw [List.countP_filter]
  apply List.countP_congr
  intro row hrow
  rw [decide_eq_true_iff, cons_prefix_way (hknown row hrow), Bool.and_eq_true, decide_eq_true_iff]

theorem reached_append {tree node : GrownTree} {steps : List Side}
    (hknown : forall row, row ∈ rows -> forall feature,
      ((features.getD row #[]).getD feature 0 == unknownFeature) = false)
    (hnode : tree.node? steps = some node) (hsplit : node.IsSplit) :
    tree.reached features rows steps = tree.reached features rows (steps ++ [.left]) +
      tree.reached features rows (steps ++ [.right]) := by
  induction steps generalizing tree rows with
  | nil =>
      cases hnode
      cases node with
      | leaf mean => exact absurd hsplit id
      | split feature threshold mean left right =>
          rw [List.nil_append, List.nil_append,
            reached_cons (fun row hrow => hknown row hrow feature),
            reached_cons (fun row hrow => hknown row hrow feature), reached_nil, reached_nil,
            reached_nil]
          exact List.length_eq_length_filter_add _
  | cons side steps ih =>
      cases tree with
      | leaf mean => cases hnode
      | split feature threshold mean left right =>
          rw [List.cons_append, List.cons_append,
            reached_cons (fun row hrow => hknown row hrow feature),
            reached_cons (fun row hrow => hknown row hrow feature),
            reached_cons (fun row hrow => hknown row hrow feature)]
          exact ih (fun row hrow => hknown row (List.mem_of_mem_filter hrow)) hnode

end Reached

/--
What the limits of growth come to in a tree: how deep its nodes lie, that a row comes to
each of them but the root, and that a split has more rows than a leaf has to hold and
hands each of them to one of its children.  Every row comes to a leaf, from which the
stored tree takes its prediction.
-/
structure Limited (tree : GrownTree) (levels minLeafSize : Nat)
    (features : Array (Array Float32)) (rows : List Nat) : Prop where
  depth : forall steps node, tree.node? steps = some node -> steps.length + node.depth ≤ levels
  some_row : forall steps node, tree.node? steps = some node -> steps ≠ [] ->
    1 ≤ tree.reached features rows steps
  split_rows : forall steps node, tree.node? steps = some node -> node.IsSplit ->
    minLeafSize < tree.reached features rows steps ∧
      tree.reached features rows steps = tree.reached features rows (steps ++ [.left]) +
        tree.reached features rows (steps ++ [.right])
  leaf : forall row, row ∈ rows -> ∃ mean,
    tree.node? (tree.way (features.getD row #[])) = some (.leaf mean) ∧
      tree.stored.predict (features.getD row #[]) = .ok mean

end GrownTree

namespace TrainingRows

/-!
## The rows of a node
-/

variable {data : TrainingRows} {columns : List (List Nat)} {rows : List Nat}

def Known (data : TrainingRows) : Prop :=
  forall feature row, (data.value feature row == unknownFeature) = false

/-- The columns list all rows of a node, whatever else they list. -/
structure Lists (data : TrainingRows) (columns : List (List Nat)) (rows : List Nat) : Prop where
  nodup : rows.Nodup
  lt_size : forall row, row ∈ rows -> row < data.targets.size
  columns_nodup : forall column, column ∈ columns -> column.Nodup
  subset : forall column, column ∈ columns -> rows ⊆ column

theorem Lists.perm_of_mem_restrict (h : data.Lists columns rows) {restricted : List Nat}
    (hrestricted : restricted ∈ data.restrict columns rows) : restricted.Perm rows := by
  have hnodup := (nodup_of_mem_restrict h.columns_nodup hrestricted).1
  apply (List.perm_ext_iff_of_nodup hnodup h.nodup).mpr
  intro row
  constructor
  · intro hrow
    rcases of_mem_restrict hrestricted with ⟨_, _, _, hsubset⟩
    exact hsubset hrow
  · intro hrow
    rw [restrict_eq] at hrestricted
    rcases List.mem_map.mp hrestricted with ⟨column, hcolumn, rfl⟩
    apply List.mem_filter.mpr
    exact ⟨h.subset column hcolumn hrow, decide_eq_true ⟨hrow, h.lt_size row hrow⟩⟩

theorem Lists.restrict (h : data.Lists columns rows) {others : List Nat} (hnodup : others.Nodup)
    (hsubset : others ⊆ rows) : data.Lists (data.restrict columns rows) others where
  nodup := hnodup
  lt_size row hrow := h.lt_size row (hsubset hrow)
  columns_nodup _ hcolumn := (nodup_of_mem_restrict h.columns_nodup hcolumn).1
  subset _ hcolumn _ hrow := (h.perm_of_mem_restrict hcolumn).mem_iff.mpr (hsubset hrow)

theorem Lists.sides_of_divide (h : data.Lists columns rows) (hknown : data.Known) {feature : Nat}
    (hfeature : feature < columns.length) {threshold : Float32} {left right unknown : List Nat}
    (hdivide : data.divide feature threshold ((data.restrict columns rows).getD feature []) =
      (left, right, unknown)) (side : Side) :
    (side.choose left right).Perm
        (rows.filter fun row => side.admits (data.value feature row) threshold) ∧
      unknown = [] := by
  have hcolumn : ((data.restrict columns rows).getD feature []).Perm rows := by
    rw [← length_restrict data columns rows] at hfeature
    apply h.perm_of_mem_restrict
    rw [List.getD_eq_getElem?_getD, List.getElem?_eq_getElem hfeature]
    exact List.getElem_mem hfeature
  generalize (data.restrict columns rows).getD feature [] = column at hcolumn hdivide
  have hall : (column.filter fun row => !(data.value feature row == unknownFeature)) = column :=
    List.filter_eq_self.mpr fun row _ => by rw [hknown, Bool.not_false]
  have hnone : (column.filter fun row => data.value feature row == unknownFeature) = [] :=
    List.filter_eq_nil_iff.mpr fun row _ => by rw [hknown]; exact Bool.false_ne_true
  unfold divide at hdivide
  simp only [hall, hnone, Prod.mk.injEq] at hdivide
  rcases hdivide with ⟨rfl, rfl, rfl⟩
  refine ⟨?_, rfl⟩
  cases side with
  | left => exact hcolumn.filter _
  | right => exact hcolumn.filter _

/-!
## Growth within limits
-/

theorem depth_grow_le (data : TrainingRows) (minLeafSize levels : Nat)
    (columns : List (List Nat)) (rows : List Nat) :
    (data.grow minLeafSize levels columns rows).depth ≤ levels := by
  induction levels generalizing columns rows with
  | zero => exact Nat.le_refl 0
  | succ levels ih =>
      rcases data.grow_cases minLeafSize (levels + 1) columns rows with hleaf |
        ⟨fewer, _, feature, cut, left, right, _, hlevels, _, _, _, _, hsplit⟩
      · rw [hleaf]
        exact Nat.zero_le _
      · cases hlevels
        have hleft := ih (data.restrict columns rows) left
        have hright := ih (data.restrict columns rows) right
        rw [hsplit, GrownTree.depth]
        omega

theorem side_ne_nil {left right : List Nat} (h : ¬ undivided left right [] = true) (side : Side) :
    side.choose left right ≠ [] := by
  intro hnil
  cases side with
  | left => exact h (by rw [show left = [] from hnil]; simp [undivided])
  | right => exact h (by rw [show right = [] from hnil]; simp [undivided])

theorem side_grow (data : TrainingRows) (minLeafSize levels : Nat) (columns : List (List Nat))
    (left right : List Nat) (side : Side) :
    side.choose (data.grow minLeafSize levels columns left)
        (data.grow minLeafSize levels columns right) =
      data.grow minLeafSize levels columns (side.choose left right) := by
  cases side with
  | left => rfl
  | right => rfl

/--
Some row reaches every node below the root of a grown tree, and a node is only split if
more rows reach it than a leaf has to hold.
-/
theorem reached_grow (hknown : data.Known) (minLeafSize levels : Nat)
    (hlists : data.Lists columns rows) {tree node : GrownTree}
    (htree : data.grow minLeafSize levels columns rows = tree) {steps : List Side}
    (hnode : tree.node? steps = some node) :
    (steps ≠ [] -> 0 < tree.reached data.features rows steps) ∧
      (node.IsSplit -> minLeafSize < tree.reached data.features rows steps) := by
  induction steps generalizing levels columns rows tree with
  | nil =>
      cases hnode
      refine ⟨fun hsteps => absurd rfl hsteps, fun hsplit => ?_⟩
      rw [GrownTree.reached_nil]
      rcases data.grow_cases minLeafSize levels columns rows with hleaf |
        ⟨_, _, _, _, _, _, _, _, hlarge, _⟩
      · rw [← htree, hleaf] at hsplit
        exact absurd hsplit id
      · exact hlarge
  | cons side steps ih =>
      rcases data.grow_cases minLeafSize levels columns rows with hleaf |
        ⟨fewer, all, feature, cut, left, right, unknown, _, _, hbest, hdivide, hparts, hsplit⟩
      · rw [← htree, hleaf] at hnode
        cases hnode
      · have hfeature : feature < columns.length := by
          rcases of_bestSplit hbest with hnone | ⟨hfeature, _⟩
          · cases hnone
          · rwa [length_restrict, Nat.zero_add] at hfeature
        rcases hlists.sides_of_divide hknown hfeature hdivide side with ⟨hperm, rfl⟩
        have hsubset : side.choose left right ⊆ rows := fun row hrow =>
          List.mem_of_mem_filter (hperm.mem_iff.mp hrow)
        have hnodup : (side.choose left right).Nodup :=
          hperm.nodup_iff.mpr (hlists.nodup.filter _)
        -- The subtree of this side is grown from the rows that the side admits.
        have hreached : tree.reached data.features rows (side :: steps) =
            (side.choose (data.grow minLeafSize fewer (data.restrict columns rows) left)
              (data.grow minLeafSize fewer (data.restrict columns rows) right)).reached
                data.features (side.choose left right) steps := by
          rw [← htree, hsplit, GrownTree.reached_perm _ hperm]
          exact GrownTree.reached_cons (fun row _ => hknown feature row) side steps
        rw [← htree, hsplit] at hnode
        rcases ih fewer (hlists.restrict hnodup hsubset) (data.side_grow _ _ _ _ _ _).symm hnode
          with ⟨hbelow, hlarge⟩
        rw [hreached]
        refine ⟨fun _ => ?_, hlarge⟩
        cases steps with
        | nil =>
            rw [GrownTree.reached_nil]
            exact List.length_pos_of_ne_nil (side_ne_nil hparts side)
        | cons next steps => exact hbelow (List.cons_ne_nil next steps)

/-- A grown tree keeps to its limits on the rows it is grown from. -/
theorem limited_grow (hknown : data.Known) (minLeafSize levels : Nat)
    (hlists : data.Lists columns rows)
    (hwidth : forall row, row ∈ rows -> (data.features.getD row #[]).size = columns.length) :
    (data.grow minLeafSize levels columns rows).Limited levels minLeafSize data.features
      rows where
  depth _ _ hnode :=
    Nat.le_trans (GrownTree.length_add_depth_le hnode) (data.depth_grow_le _ _ _ _)
  some_row _ _ hnode :=
    (reached_grow hknown minLeafSize levels hlists rfl hnode).1
  split_rows _ _ hnode hsplit :=
    ⟨(reached_grow hknown minLeafSize levels hlists rfl hnode).2 hsplit,
      GrownTree.reached_append (fun row _ feature => hknown feature row) hnode hsplit⟩
  leaf row hrow := by
    rcases GrownTree.exists_leaf _ (fun feature => hknown feature row) with ⟨mean, hnode, hmean⟩
    refine ⟨mean, hnode, ?_⟩
    rw [GrownTree.predict_stored, hmean]
    rw [hwidth row hrow]
    exact data.featuresBelow_grow _ _ _ _

end TrainingRows
end Polyglot
