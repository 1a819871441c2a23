import Polyglot.Forest.Growth

/-!
# Trees

A stored tree gives the same answer as the grown tree it was stored from, and
training only grows trees whose splits ask for features that exist.
-/

namespace Polyglot

namespace GrownTree

/-- The answer of a tree; an unknown feature ends the descent at the split. -/
def answer (sample : Array Float32) : GrownTree -> Float32
  | .leaf mean => mean
  | .split feature threshold mean left right =>
      let x := sample.getD feature 0
      if x == unknownFeature then mean
      else if x < threshold then left.answer sample
      else right.answer sample

def FeaturesBelow (width : Nat) : GrownTree -> Prop
  | .leaf _ => True
  | .split feature _ _ left right =>
      feature < width ∧ left.FeaturesBelow width ∧ right.FeaturesBelow width

theorem depth_lt_size (tree : GrownTree) : tree.depth < tree.size := by
  induction tree with
  | leaf mean => exact Nat.one_pos
  | split feature threshold mean left right ihleft ihright =>
      rw [depth, size]
      omega

/-!
## Stored trees
-/

theorem length_nodesFrom (tree : GrownTree) (index : Nat) :
    (tree.nodesFrom index).length = tree.size := by
  induction tree generalizing index with
  | leaf mean => rfl
  | split feature threshold mean left right ihleft ihright =>
      rw [nodesFrom, size, List.length_append, List.length_cons, ihleft, ihright]
      omega

theorem size_stored (tree : GrownTree) : tree.stored.size = tree.size := by
  rw [stored, List.size_toArray, length_nodesFrom]

theorem size_pos (tree : GrownTree) : 0 < tree.size :=
  Nat.lt_of_le_of_lt (Nat.zero_le _) tree.depth_lt_size

theorem bounds_of_mem_nodesFrom {tree : GrownTree} {width index : Nat}
    (h : tree.FeaturesBelow width) {n : Node} (hn : n ∈ tree.nodesFrom index) :
    n.feature ≤ width ∧ n.missing = 0 ∧ n.index < index + tree.size ∧
      n.left < index + tree.size ∧ n.right < index + tree.size := by
  induction tree generalizing index with
  | leaf mean =>
      rcases List.mem_singleton.mp hn with rfl
      exact ⟨Nat.zero_le _, rfl, Nat.lt_succ_self _, Nat.succ_pos _, Nat.succ_pos _⟩
  | split feature threshold mean left right ihleft ihright =>
      rcases h with ⟨hfeature, hleft, hright⟩
      have hleftSize := left.size_pos
      have hrightSize := right.size_pos
      rw [size]
      rw [nodesFrom, List.cons_append] at hn
      rcases List.mem_cons.mp hn with rfl | hn
      · refine ⟨Nat.le_of_lt hfeature, rfl, ?_, ?_, ?_⟩
        · dsimp only
          omega
        · dsimp only
          omega
        · dsimp only
          omega
      · rcases List.mem_append.mp hn with hn | hn
        · rcases ihleft hleft hn with ⟨hf, hm, hi, hl, hr⟩
          exact ⟨hf, hm, by omega, by omega, by omega⟩
        · rcases ihright hright hn with ⟨hf, hm, hi, hl, hr⟩
          exact ⟨hf, hm, by omega, by omega, by omega⟩

private theorem getElem?_of_append {nodes : StoredTree} {before after : List Node} {node : Node}
    (h : nodes.toList = before ++ node :: after) : nodes[before.length]? = some node := by
  rw [← Array.getElem?_toList, h, List.getElem?_append_right (Nat.le_refl _), Nat.sub_self]
  rfl

/-- Wherever a tree is stored among other nodes, a descent from its root ends with its answer. -/
theorem descend_nodesFrom (tree : GrownTree) (sample : Array Float32) {nodes : StoredTree}
    (before after : List Node) {fuel : Nat} (hfeatures : tree.FeaturesBelow sample.size)
    (hnodes : nodes.toList = before ++ tree.nodesFrom before.length ++ after)
    (hfuel : tree.depth < fuel) :
    nodes.descend sample fuel before.length = .ok (tree.answer sample) := by
  induction tree generalizing before after fuel with
  | leaf mean =>
      rw [nodesFrom, List.append_assoc] at hnodes
      cases fuel with
      | zero => exact absurd hfuel (Nat.not_lt_zero _)
      | succ fuel =>
          rw [StoredTree.descend, getElem?_of_append hnodes]
          rfl
  | split feature threshold mean left right ihleft ihright =>
      rcases hfeatures with ⟨hfeature, hleft, hright⟩
      cases fuel with
      | zero => exact absurd hfuel (Nat.not_lt_zero _)
      | succ fuel =>
          rw [depth] at hfuel
          have hleftFuel : left.depth < fuel := by omega
          have hrightFuel : right.depth < fuel := by omega
          rw [nodesFrom] at hnodes
          have hroot : nodes.toList = before ++ ⟨feature, threshold, mean, 0, false,
              before.length, before.length + 1, before.length + 1 + left.size⟩ ::
                (left.nodesFrom (before.length + 1) ++
                  right.nodesFrom (before.length + 1 + left.size) ++ after) := by
            simpa using hnodes
          rw [StoredTree.descend, getElem?_of_append hroot]
          simp only [Node.turn, Bool.false_eq_true, ↓reduceIte,
            Array.getElem?_eq_getElem hfeature]
          rw [answer, Array.getD_eq_getD_getElem?, Array.getElem?_eq_getElem hfeature,
            Option.getD_some]
          by_cases hunknown : (sample[feature] == unknownFeature) = true
          · simp [hunknown]
          · by_cases hless : sample[feature] < threshold
            · simp only [hunknown, hless, ↓reduceIte]
              have hplace := ihleft (before ++ [_]) _ hleft (by simpa using hroot)
                hleftFuel
              simpa using hplace
            · simp only [hunknown, hless, ↓reduceIte]
              have hplace := ihright (before ++ _ :: left.nodesFrom (before.length + 1)) after
                hright (by simpa [length_nodesFrom, Nat.add_assoc, Nat.add_comm] using hroot)
                hrightFuel
              simpa [length_nodesFrom, Nat.add_assoc, Nat.add_comm] using hplace

theorem predict_stored {tree : GrownTree} {sample : Array Float32}
    (h : tree.FeaturesBelow sample.size) :
    tree.stored.predict sample = .ok (tree.answer sample) := by
  apply descend_nodesFrom tree sample [] [] h
  · simp [stored]
  · rw [size_stored]
    exact Nat.lt_succ_of_lt tree.depth_lt_size

end GrownTree

/-!
## Growth
-/

namespace TrainingRows

theorem of_bestSplit {data : TrainingRows} {all : Moments} {first : Nat}
    {columns : List (List Nat)} {best : Option (Nat × Cut)} {feature : Nat} {cut : Cut}
    (h : data.bestSplit all first columns best = some (feature, cut)) :
    best = some (feature, cut) ∨
      feature < first + columns.length ∧ ∃ column, data.bestCut all feature column = some cut := by
  induction columns generalizing first best with
  | nil => exact .inl h
  | cons column columns ih =>
      unfold bestSplit at h
      rw [List.length_cons]
      rcases ih h with hbest | ⟨hlt, hcut⟩
      · split at hbest
        · exact .inl hbest
        · rename_i kept hkept
          cases hbest
          exact .inr ⟨by omega, column, hkept⟩
        · rename_i kept f c hkept
          split at hbest
          · cases hbest
            exact .inr ⟨by omega, column, hkept⟩
          · exact .inl hbest
      · exact .inr ⟨by omega, hcut⟩

theorem length_restrict (data : TrainingRows) (columns : List (List Nat)) (rows : List Nat) :
    (data.restrict columns rows).length = columns.length := by
  rw [restrict, List.length_map]

theorem grow_cases (data : TrainingRows) (minLeafSize levels : Nat) (columns : List (List Nat))
    (rows : List Nat) :
    data.grow minLeafSize levels columns rows = .leaf (data.total rows).mean ∨
      ∃ fewer all feature cut left right unknown, levels = fewer + 1 ∧
        minLeafSize < rows.length ∧
        data.bestSplit all 0 (data.restrict columns rows) none = some (feature, cut) ∧
        data.divide feature cut.threshold ((data.restrict columns rows).getD feature []) =
          (left, right, unknown) ∧
        ¬ undivided left right unknown = true ∧
        data.grow minLeafSize levels columns rows =
          .split feature cut.threshold (data.total rows).mean
            (data.grow minLeafSize fewer (data.restrict columns rows) left)
            (data.grow minLeafSize fewer (data.restrict columns rows) right) := by
  cases levels with
  | zero => exact .inl rfl
  | succ levels =>
      rw [grow]
      split
      · exact .inl rfl
      · rename_i hgoes
        dsimp only
        split
        · exact .inl rfl
        · rename_i feature cut hbest
          split
          · exact .inl rfl
          · rename_i hparts
            have hlarge : minLeafSize < rows.length := by
              rw [Bool.or_eq_true, decide_eq_true_eq, not_or, Nat.not_le] at hgoes
              exact hgoes.2
            exact .inr ⟨levels, _, feature, cut, _, _, _, rfl, hlarge, hbest, rfl, hparts, rfl⟩

theorem featuresBelow_grow (data : TrainingRows) (minLeafSize levels : Nat)
    (columns : List (List Nat)) (rows : List Nat) :
    (data.grow minLeafSize levels columns rows).FeaturesBelow columns.length := by
  induction levels generalizing columns rows with
  | zero => trivial
  | succ levels ih =>
      rcases data.grow_cases minLeafSize (levels + 1) columns rows with hleaf |
        ⟨fewer, _, feature, cut, left, right, _, hlevels, _, hbest, _, _, hsplit⟩
      · rw [hleaf]
        trivial
      · cases hlevels
        rcases of_bestSplit hbest with hnone | ⟨hfeature, _⟩
        · cases hnone
        rw [length_restrict, Nat.zero_add] at hfeature
        have hchild := ih (data.restrict columns rows)
        rw [length_restrict] at hchild
        rw [hsplit]
        exact ⟨hfeature, hchild left, hchild right⟩

end TrainingRows
end Polyglot
