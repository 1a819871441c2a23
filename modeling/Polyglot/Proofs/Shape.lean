import Mathlib.Data.List.Nodup
import Mathlib.Logic.Relation
import Polyglot.Proofs.Descent

/-!
# Shape of stored trees

The nodes of a stored tree name their children by place.  Where a tree was grown and then
stored, every place but the first is named once, by a node before it, so the nodes form a
binary tree whose root is the first node.  A descent through them ends at a leaf, unless
the sample does not know the feature that a split asks for.
-/

namespace Polyglot

namespace Node

/-- The places of the children of a node; a leaf has none. -/
def children (node : Node) : List Nat :=
  if node.isLeaf then [] else [node.left, node.right]

theorem children_of_split {node : Node} (h : node.isLeaf = false) :
    node.children = [node.left, node.right] := by
  rw [children, h]
  rfl

theorem mem_children {node : Node} {child : Nat} :
    child ∈ node.children ↔ node.isLeaf = false ∧ (child = node.left ∨ child = node.right) := by
  cases hleaf : node.isLeaf with
  | true => simp [children, hleaf]
  | false => simp [children, hleaf]

def IsEnd (sample : Array Float32) (node : Node) : Prop :=
  node.isLeaf = true ∨ ∃ x, sample[node.feature]? = some x ∧ (x == unknownFeature) = true

theorem isEnd_of_stop {node : Node} {sample : Array Float32} {prediction : Float32}
    (h : node.turn sample = .ok (.stop prediction)) :
    node.prediction = prediction ∧ node.IsEnd sample := by
  cases hleaf : node.isLeaf with
  | true =>
      rw [turn_of_isLeaf hleaf] at h
      cases h
      exact ⟨rfl, .inl hleaf⟩
  | false =>
      rw [turn, hleaf, if_neg Bool.false_ne_true] at h
      cases hx : sample[node.feature]? with
      | none =>
          rw [hx] at h
          cases h
      | some x =>
          rw [hx] at h
          dsimp only at h
          -- Only a split with an unknown value that has no side of its own stops.
          split_ifs at h with hunknown hleft hstay hless
          · cases h
          · cases h
            exact ⟨rfl, .inr ⟨x, hx, hunknown⟩⟩
          · cases h
          · cases h
          · cases h

end Node

namespace StoredTree

/-!
## Ends of descents
-/

theorem Descends.exists_last {nodes : StoredTree} {sample : Array Float32} {index : Nat}
    {path : List Nat} {prediction : Float32}
    (h : Descends nodes sample index path (.ok prediction)) :
    ∃ last node, path.getLast? = some last ∧ nodes[last]? = some node ∧
      node.prediction = prediction ∧ node.IsEnd sample := by
  generalize hresult : Except.ok prediction = result at h
  induction h with
  | missing _ => cases hresult
  | fault _ _ => cases hresult
  | stop hnode hturn =>
      cases hresult
      exact ⟨_, _, rfl, hnode, Node.isEnd_of_stop hturn⟩
  | child _ _ _ ih =>
      rcases ih hresult with ⟨last, node, hlast, hnode⟩
      refine ⟨last, node, ?_, hnode⟩
      rw [List.getLast?_cons, hlast]
      rfl

/-!
## Parents
-/

def IsChild (nodes : StoredTree) (parent child : Nat) : Prop :=
  ∃ node, nodes[parent]? = some node ∧ child ∈ node.children

theorem Sound.lt_of_isChild {width : Nat} {nodes : StoredTree} (h : nodes.Sound width)
    {parent child : Nat} (hchild : nodes.IsChild parent child) : parent < child := by
  rcases hchild with ⟨node, hnode, hmem⟩
  rcases Node.mem_children.mp hmem with ⟨hsplit, rfl | rfl⟩
  · exact (h.left parent node hnode hsplit).1
  · exact (h.right parent node hnode hsplit).1

theorem mem_flatMap_children {nodes : StoredTree} {child : Nat} :
    child ∈ nodes.toList.flatMap Node.children ↔ ∃ parent, nodes.IsChild parent child := by
  constructor
  · intro h
    rcases List.mem_flatMap.mp h with ⟨node, hnode, hchild⟩
    rcases List.getElem?_of_mem hnode with ⟨parent, hparent⟩
    rw [Array.getElem?_toList] at hparent
    exact ⟨parent, node, hparent, hchild⟩
  · intro h
    rcases h with ⟨parent, node, hnode, hchild⟩
    rw [← Array.getElem?_toList] at hnode
    exact List.mem_flatMap.mpr ⟨node, List.mem_of_getElem? hnode, hchild⟩

/-- If no place is named twice, no node is the child of two nodes. -/
theorem parent_eq_of_nodup {nodes : StoredTree}
    (h : (nodes.toList.flatMap Node.children).Nodup) {parent other child : Nat}
    (hparent : nodes.IsChild parent child) (hother : nodes.IsChild other child) :
    parent = other := by
  have hapart := List.pairwise_iff_getElem.mp (List.nodup_flatMap.mp h).2
  rcases hparent with ⟨node, hnode, hchild⟩
  rcases hother with ⟨node', hnode', hchild'⟩
  rw [← Array.getElem?_toList, List.getElem?_eq_some_iff] at hnode hnode'
  rcases hnode with ⟨hlt, rfl⟩
  rcases hnode' with ⟨hlt', rfl⟩
  rcases Nat.lt_trichotomy parent other with hless | heq | hless
  · exact absurd hchild' (hapart parent other hlt hlt' hless hchild)
  · exact heq
  · exact absurd hchild (hapart other parent hlt' hlt hless hchild')

theorem children_ne_of_nodup {nodes : StoredTree}
    (h : (nodes.toList.flatMap Node.children).Nodup) {index : Nat} {node : Node}
    (hnode : nodes[index]? = some node) (hsplit : node.isLeaf = false) :
    node.left ≠ node.right := by
  rw [← Array.getElem?_toList] at hnode
  have hown := (List.nodup_flatMap.mp h).1 node (List.mem_of_getElem? hnode)
  rw [Node.children_of_split hsplit] at hown
  intro heq
  rw [heq] at hown
  exact (List.nodup_cons.mp hown).1 (List.mem_singleton_self _)

theorem Sound.reached {width : Nat} {nodes : StoredTree} (h : nodes.Sound width)
    (hparents : forall child, child < nodes.size -> child ≠ 0 ->
      ∃ parent, nodes.IsChild parent child) {index : Nat} (hindex : index < nodes.size) :
    Relation.ReflTransGen nodes.IsChild 0 index := by
  -- Parents stand before their children, so the induction is on the place.
  induction index using Nat.strongRecOn with
  | ind index ih =>
      by_cases hroot : index = 0
      · rw [hroot]
      · rcases hparents index hindex hroot with ⟨parent, hchild⟩
        have hless := h.lt_of_isChild hchild
        exact .tail (ih parent hless (Nat.lt_trans hless hindex)) hchild

/--
A sound tree is well formed if the two children of a split differ, no node is the child
of two nodes, and every node is reached from the root.
-/
structure WellFormed (width : Nat) (nodes : StoredTree) : Prop extends nodes.Sound width where
  children_ne : forall (index : Nat) (node : Node), nodes[index]? = some node ->
    node.isLeaf = false -> node.left ≠ node.right
  parent_unique : forall parent other child : Nat, nodes.IsChild parent child ->
    nodes.IsChild other child -> parent = other
  reached : forall index : Nat, index < nodes.size ->
    Relation.ReflTransGen nodes.IsChild 0 index

theorem Sound.wellFormed {width : Nat} {nodes : StoredTree} (h : nodes.Sound width)
    (hplaces : (0 :: nodes.toList.flatMap Node.children).Perm (List.range nodes.size)) :
    nodes.WellFormed width := by
  have hnodup : (nodes.toList.flatMap Node.children).Nodup :=
    (hplaces.nodup_iff.mpr List.nodup_range).of_cons
  have hparents : forall child, child < nodes.size -> child ≠ 0 ->
      ∃ parent, nodes.IsChild parent child := by
    intro child hchild hne
    have hmem := hplaces.mem_iff.mpr (List.mem_range.mpr hchild)
    exact mem_flatMap_children.mp ((List.mem_cons.mp hmem).resolve_left hne)
  exact
    { h with
      children_ne := fun _ _ => children_ne_of_nodup hnodup
      parent_unique := fun _ _ _ => parent_eq_of_nodup hnodup
      reached := fun _ => h.reached hparents }

/-- A descent through a sound tree comes to its end within as many steps as there are nodes. -/
theorem Sound.exists_end {width : Nat} {nodes : StoredTree} (h : nodes.Sound width)
    {sample : Array Float32} (hsize : sample.size = width) :
    ∃ path last node, Descends nodes sample 0 path (.ok node.prediction) ∧
      path.getLast? = some last ∧ nodes[last]? = some node ∧ node.IsEnd sample ∧
      path.length ≤ nodes.size ∧ nodes.predict sample = .ok node.prediction := by
  rcases h.leads hsize with ⟨path, prediction, hpath⟩
  rcases hpath.exists_last with ⟨last, node, hlast, hnode, rfl, hend⟩
  exact ⟨path, last, node, hpath, hlast, hnode, hend, hpath.length_le_size,
    (predict_eq_iff (by simp)).mpr ⟨path, hpath⟩⟩

end StoredTree

/-!
## Grown trees
-/

namespace GrownTree

theorem perm_children_nodesFrom (tree : GrownTree) (index : Nat) :
    (index :: (tree.nodesFrom index).flatMap Node.children).Perm
      (List.range' index tree.size) := by
  induction tree generalizing index with
  | leaf mean => exact List.Perm.refl _
  | split feature threshold mean left right ihleft ihright =>
      have hplaces : List.range' index (1 + left.size + right.size) =
          index :: (List.range' (index + 1) left.size ++
            List.range' (index + 1 + left.size) right.size) := by
        rw [List.range'_append_1, Nat.add_assoc, Nat.add_comm 1, List.range'_succ]
      rw [size, hplaces, nodesFrom, List.cons_append, List.flatMap_cons, List.flatMap_append]
      apply List.Perm.cons
      calc
        _ = (index + 1) :: (index + 1 + left.size) ::
              ((left.nodesFrom (index + 1)).flatMap Node.children ++
                (right.nodesFrom (index + 1 + left.size)).flatMap Node.children) := rfl
        -- The root names its right child before the nodes of the left subtree name theirs.
        List.Perm _ ((index + 1) :: ((left.nodesFrom (index + 1)).flatMap Node.children ++
              (index + 1 + left.size) ::
                (right.nodesFrom (index + 1 + left.size)).flatMap Node.children)) :=
          List.Perm.cons _ List.perm_middle.symm
        List.Perm _ _ := (ihleft (index + 1)).append (ihright (index + 1 + left.size))

theorem wellFormed_stored {tree : GrownTree} {width : Nat} (h : tree.FeaturesBelow width) :
    tree.stored.WellFormed width := by
  apply (sound_stored h).wellFormed
  rw [size_stored, List.range_eq_range']
  exact tree.perm_children_nodesFrom 0

end GrownTree
end Polyglot
