import Mathlib.Data.List.Perm.Subperm
import Polyglot.Proofs.Trees

/-!
# Descents

A stored tree may hold any nodes at all.  A descent through it ends with a
prediction, at a child that is not there, or at a feature that the sample does
not have, and visits no node twice before it does; or it never ends.  Trees
whose children come behind their parents, as those of grown trees do, lead every
sample to a prediction.
-/

namespace Polyglot

namespace Node

theorem turn_of_isLeaf {node : Node} (h : node.isLeaf = true) (sample : Array Float32) :
    node.turn sample = .ok (.stop node.prediction) := by
  rw [turn, if_pos h]

theorem turn_of_feature_lt {node : Node} {sample : Array Float32}
    (hfeature : node.feature < sample.size) :
    node.turn sample = .ok (.stop node.prediction) ∨ node.turn sample = .ok (.child node.left) ∨
      node.turn sample = .ok (.child node.right) := by
  unfold turn
  rw [Array.getElem?_eq_getElem hfeature]
  dsimp only
  split_ifs <;> simp

theorem turn_ne_endless (node : Node) (sample : Array Float32) :
    node.turn sample ≠ .error .endlessDescent := by
  unfold turn
  split
  · simp
  · split
    · simp
    · split_ifs <;> simp

end Node

namespace StoredTree

/-!
## Descents that end
-/

/-- The nodes that a descent visits from a position on, and what it ends with. -/
inductive Descends (nodes : StoredTree) (sample : Array Float32) :
    Nat → List Nat → Except Fault Float32 → Prop where
  | missing {index : Nat} (hnode : nodes[index]? = none) :
      Descends nodes sample index [] (.error .noNode)
  | fault {index : Nat} {node : Node} {f : Fault} (hnode : nodes[index]? = some node)
      (hturn : node.turn sample = .error f) : Descends nodes sample index [index] (.error f)
  | stop {index : Nat} {node : Node} {prediction : Float32} (hnode : nodes[index]? = some node)
      (hturn : node.turn sample = .ok (.stop prediction)) :
      Descends nodes sample index [index] (.ok prediction)
  | child {index next : Nat} {node : Node} {path : List Nat} {result : Except Fault Float32}
      (hnode : nodes[index]? = some node) (hturn : node.turn sample = .ok (.child next))
      (hrest : Descends nodes sample next path result) :
      Descends nodes sample index (index :: path) result

namespace Descends

variable {nodes : StoredTree} {sample : Array Float32} {index : Nat} {path : List Nat}
  {result : Except Fault Float32}

theorem descend_eq (h : Descends nodes sample index path result) {fuel : Nat}
    (hfuel : path.length < fuel) : nodes.descend sample fuel index = result := by
  induction h generalizing fuel with
  | missing hnode =>
      cases fuel with
      | zero => exact absurd hfuel (Nat.not_lt_zero _)
      | succ fuel => rw [descend, hnode]
  | fault hnode hturn =>
      cases fuel with
      | zero => exact absurd hfuel (Nat.not_lt_zero _)
      | succ fuel =>
          rw [descend, hnode]
          dsimp only
          rw [hturn]
  | stop hnode hturn =>
      cases fuel with
      | zero => exact absurd hfuel (Nat.not_lt_zero _)
      | succ fuel =>
          rw [descend, hnode]
          dsimp only
          rw [hturn]
  | child hnode hturn _ ih =>
      cases fuel with
      | zero => exact absurd hfuel (Nat.not_lt_zero _)
      | succ fuel =>
          rw [descend, hnode]
          dsimp only
          rw [hturn]
          exact ih (Nat.lt_of_succ_lt_succ hfuel)

theorem ne_endless (h : Descends nodes sample index path result) :
    result ≠ .error .endlessDescent := by
  induction h with
  | missing _ => simp
  | fault _ hturn =>
      intro heq
      injection heq with heq
      rw [heq] at hturn
      exact Node.turn_ne_endless _ _ hturn
  | stop _ _ => simp
  | child _ _ _ ih => exact ih

theorem path_unique (h : Descends nodes sample index path result) {other : List Nat}
    {result' : Except Fault Float32} (h' : Descends nodes sample index other result') :
    path = other := by
  induction h generalizing other with
  | missing hnode =>
      cases h' with
      | missing _ => rfl
      | fault hnode' _ => cases hnode.symm.trans hnode'
      | stop hnode' _ => cases hnode.symm.trans hnode'
      | child hnode' _ _ => cases hnode.symm.trans hnode'
  | fault hnode hturn =>
      cases h' with
      | missing hnode' => cases hnode.symm.trans hnode'
      | fault _ _ => rfl
      | stop _ _ => rfl
      | child hnode' hturn' _ =>
          cases hnode.symm.trans hnode'
          cases hturn.symm.trans hturn'
  | stop hnode hturn =>
      cases h' with
      | missing hnode' => cases hnode.symm.trans hnode'
      | fault _ _ => rfl
      | stop _ _ => rfl
      | child hnode' hturn' _ =>
          cases hnode.symm.trans hnode'
          cases hturn.symm.trans hturn'
  | child hnode hturn _ ih =>
      cases h' with
      | missing hnode' => cases hnode.symm.trans hnode'
      | fault hnode' hturn' =>
          cases hnode.symm.trans hnode'
          cases hturn.symm.trans hturn'
      | stop hnode' hturn' =>
          cases hnode.symm.trans hnode'
          cases hturn.symm.trans hturn'
      | child hnode' hturn' hrest' =>
          cases hnode.symm.trans hnode'
          cases hturn.symm.trans hturn'
          rw [ih hrest']

theorem lt_size_of_mem (h : Descends nodes sample index path result) {visited : Nat}
    (hvisited : visited ∈ path) : visited < nodes.size := by
  induction h with
  | missing _ => cases hvisited
  | fault hnode _ | stop hnode _ =>
      rw [List.mem_singleton.mp hvisited]
      exact (Array.getElem?_eq_some_iff.mp hnode).1
  | child hnode _ _ ih =>
      rcases List.mem_cons.mp hvisited with rfl | hvisited
      · exact (Array.getElem?_eq_some_iff.mp hnode).1
      · exact ih hvisited

theorem exists_of_mem (h : Descends nodes sample index path result) {visited : Nat}
    (hvisited : visited ∈ path) :
    ∃ rest, rest.length ≤ path.length ∧ Descends nodes sample visited rest result := by
  induction h with
  | missing _ => cases hvisited
  | fault hnode hturn =>
      rw [List.mem_singleton.mp hvisited]
      exact ⟨_, Nat.le_refl _, .fault hnode hturn⟩
  | stop hnode hturn =>
      rw [List.mem_singleton.mp hvisited]
      exact ⟨_, Nat.le_refl _, .stop hnode hturn⟩
  | child hnode hturn hrest ih =>
      rcases List.mem_cons.mp hvisited with rfl | hvisited
      · exact ⟨_, Nat.le_refl _, .child hnode hturn hrest⟩
      · rcases ih hvisited with ⟨rest, hlength, hdescends⟩
        exact ⟨rest, Nat.le_succ_of_le hlength, hdescends⟩

/-- A descent that comes back to a node would go on from there as before, and never end. -/
theorem nodup (h : Descends nodes sample index path result) : path.Nodup := by
  induction h with
  | missing _ => exact List.nodup_nil
  | fault _ _ | stop _ _ => exact List.pairwise_singleton _ _
  | child hnode hturn hrest ih =>
      refine List.nodup_cons.mpr ⟨fun hback => ?_, ih⟩
      rcases hrest.exists_of_mem hback with ⟨rest, hlength, hdescends⟩
      rw [hdescends.path_unique (.child hnode hturn hrest), List.length_cons] at hlength
      exact Nat.not_succ_le_self _ hlength

theorem length_le_size (h : Descends nodes sample index path result) :
    path.length ≤ nodes.size := by
  have hsubset : path ⊆ List.range nodes.size := fun visited hvisited =>
    List.mem_range.mpr (h.lt_size_of_mem hvisited)
  have hlength := (h.nodup.subperm hsubset).length_le
  rwa [List.length_range] at hlength

end Descends

/-!
## Predictions
-/

theorem descends_of_descend {nodes : StoredTree} {sample : Array Float32} {fuel index : Nat}
    {result : Except Fault Float32} (h : nodes.descend sample fuel index = result)
    (hends : result ≠ .error .endlessDescent) :
    ∃ path, Descends nodes sample index path result := by
  induction fuel generalizing index with
  | zero => exact absurd h.symm hends
  | succ fuel ih =>
      rw [descend] at h
      cases hnode : nodes[index]? with
      | none =>
          rw [hnode] at h
          exact ⟨[], h ▸ .missing hnode⟩
      | some node =>
          rw [hnode] at h
          dsimp only at h
          cases hturn : node.turn sample with
          | error f =>
              rw [hturn] at h
              exact ⟨[index], h ▸ .fault hnode hturn⟩
          | ok turn =>
              rw [hturn] at h
              cases turn with
              | stop prediction => exact ⟨[index], h ▸ .stop hnode hturn⟩
              | child next =>
                  rcases ih h with ⟨path, hpath⟩
                  exact ⟨index :: path, .child hnode hturn hpath⟩

/-- The fuel of a prediction is enough for every descent that ends. -/
theorem predict_eq_iff {nodes : StoredTree} {sample : Array Float32}
    {result : Except Fault Float32} (hends : result ≠ .error .endlessDescent) :
    nodes.predict sample = result ↔ ∃ path, Descends nodes sample 0 path result := by
  constructor
  · exact fun h => descends_of_descend h hends
  · rintro ⟨path, hpath⟩
    exact hpath.descend_eq (Nat.lt_succ_of_le hpath.length_le_size)

/-- A prediction is refused as endless exactly if no descent from the root ends. -/
theorem endless_iff {nodes : StoredTree} {sample : Array Float32} :
    nodes.predict sample = .error .endlessDescent ↔
      ¬ ∃ path result, Descends nodes sample 0 path result := by
  constructor
  · rintro h ⟨path, result, hpath⟩
    have hresult := (predict_eq_iff hpath.ne_endless).mpr ⟨path, hpath⟩
    exact hpath.ne_endless (hresult.symm.trans h)
  · intro h
    by_contra hends
    rcases descends_of_descend rfl hends with ⟨path, hpath⟩
    exact h ⟨path, _, hpath⟩

def Leads (nodes : StoredTree) (sample : Array Float32) : Prop :=
  ∃ path prediction, Descends nodes sample 0 path (.ok prediction)

theorem leads_iff {nodes : StoredTree} {sample : Array Float32} :
    nodes.Leads sample ↔ ∃ prediction, nodes.predict sample = .ok prediction := by
  constructor
  · rintro ⟨path, prediction, h⟩
    exact ⟨prediction, (predict_eq_iff (by simp)).mpr ⟨path, h⟩⟩
  · rintro ⟨prediction, h⟩
    rcases (predict_eq_iff (by simp)).mp h with ⟨path, hpath⟩
    exact ⟨path, prediction, hpath⟩

/-!
## Sound trees
-/

/--
There is a root, and every split asks for a feature of the width and has two
children behind it.
-/
structure Sound (width : Nat) (nodes : StoredTree) : Prop where
  root : 0 < nodes.size
  feature_lt : forall (index : Nat) (node : Node), nodes[index]? = some node ->
    node.isLeaf = false -> node.feature < width
  left : forall (index : Nat) (node : Node), nodes[index]? = some node ->
    node.isLeaf = false -> index < node.left ∧ node.left < nodes.size
  right : forall (index : Nat) (node : Node), nodes[index]? = some node ->
    node.isLeaf = false -> index < node.right ∧ node.right < nodes.size

theorem Sound.exists_descends {width : Nat} {nodes : StoredTree} (h : nodes.Sound width)
    {sample : Array Float32} (hsize : sample.size = width) {index : Nat}
    (hindex : index < nodes.size) :
    ∃ path prediction, Descends nodes sample index path (.ok prediction) := by
  -- The induction is on the number of nodes behind the current one.
  induction hbehind : nodes.size - index using Nat.strongRecOn generalizing index with
  | ind behind ih =>
      have hnode := Array.getElem?_eq_getElem hindex
      have hchild : forall next, nodes[index].turn sample = .ok (.child next) ->
          index < next ∧ next < nodes.size ->
          ∃ path prediction, Descends nodes sample index path (.ok prediction) := by
        rintro next hturn ⟨hlater, hnext⟩
        rcases ih (nodes.size - next) (by omega) hnext rfl with ⟨path, prediction, hpath⟩
        exact ⟨index :: path, prediction, .child hnode hturn hpath⟩
      cases hleaf : nodes[index].isLeaf with
      | true => exact ⟨_, _, .stop hnode (Node.turn_of_isLeaf hleaf sample)⟩
      | false =>
          have hfeature := h.feature_lt index _ hnode hleaf
          rw [← hsize] at hfeature
          rcases Node.turn_of_feature_lt hfeature with hstop | hleft | hright
          · exact ⟨_, _, .stop hnode hstop⟩
          · exact hchild _ hleft (h.left index _ hnode hleaf)
          · exact hchild _ hright (h.right index _ hnode hleaf)

theorem Sound.leads {width : Nat} {nodes : StoredTree} (h : nodes.Sound width)
    {sample : Array Float32} (hsize : sample.size = width) : nodes.Leads sample :=
  h.exists_descends hsize h.root

end StoredTree

/-!
## Grown trees
-/

namespace GrownTree

theorem children_of_nodesFrom {tree : GrownTree} {width : Nat} (h : tree.FeaturesBelow width)
    {index place : Nat} {node : Node} (hnode : (tree.nodesFrom index)[place]? = some node)
    (hsplit : node.isLeaf = false) :
    node.feature < width ∧
      (index + place < node.left ∧ node.left < index + tree.size) ∧
      (index + place < node.right ∧ node.right < index + tree.size) := by
  induction tree generalizing index place with
  | leaf mean =>
      have hmem := List.mem_of_getElem? hnode
      rw [List.mem_singleton.mp hmem] at hsplit
      cases hsplit
  | split feature threshold mean left right ihleft ihright =>
      rcases h with ⟨hfeature, hleft, hright⟩
      have hleftSize := left.size_pos
      have hrightSize := right.size_pos
      rw [nodesFrom, List.cons_append] at hnode
      rw [size]
      cases place with
      | zero =>
          rw [List.getElem?_cons_zero] at hnode
          injection hnode with hnode
          subst hnode
          exact ⟨hfeature, by dsimp only; omega, by dsimp only; omega⟩
      | succ place =>
          rw [List.getElem?_cons_succ] at hnode
          rcases Nat.lt_or_ge place left.size with hplace | hplace
          · rw [List.getElem?_append_left (by rwa [length_nodesFrom])] at hnode
            rcases ihleft hleft hnode with ⟨hbound, hlow, hhigh⟩
            exact ⟨hbound, by omega, by omega⟩
          · rw [List.getElem?_append_right (by rwa [length_nodesFrom]), length_nodesFrom] at hnode
            rcases ihright hright hnode with ⟨hbound, hlow, hhigh⟩
            exact ⟨hbound, by omega, by omega⟩

theorem sound_stored {tree : GrownTree} {width : Nat} (h : tree.FeaturesBelow width) :
    tree.stored.Sound width := by
  have hchildren : forall (index : Nat) (node : Node), tree.stored[index]? = some node ->
      node.isLeaf = false -> node.feature < width ∧
        (index < node.left ∧ node.left < tree.size) ∧
        (index < node.right ∧ node.right < tree.size) := by
    intro index node hnode hsplit
    rw [stored, List.getElem?_toArray] at hnode
    have hbounds := children_of_nodesFrom h hnode hsplit
    rwa [Nat.zero_add, Nat.zero_add] at hbounds
  rw [← size_stored] at hchildren
  constructor
  · rw [size_stored]
    exact tree.size_pos
  · exact fun index node hnode hsplit => (hchildren index node hnode hsplit).1
  · exact fun index node hnode hsplit => (hchildren index node hnode hsplit).2.1
  · exact fun index node hnode hsplit => (hchildren index node hnode hsplit).2.2

end GrownTree
end Polyglot
