import Polyglot.Proofs.Double.Arithmetic
import Polyglot.Proofs.Training.Storage

/-!
# Magnitudes

No number of a trained classifier is too large to be finite.  Features are bounded,
a sum over rows grows with the number of rows only, and no mean is taken over
a weight that is tiny.
-/

namespace Polyglot

theorem Double.atMost_foldl {σ β : Type} (sum : σ -> Float) (step : σ -> β -> σ)
    {term : β -> Float} (hstep : forall st b, sum (step st b) = sum st + term b) {t : ℤ}
    (hleast : -1074 ≤ t) (hmost : t ≤ 970) {items : List β}
    (hterms : forall b, b ∈ items -> Double.Within t (term b)) {start : σ} {k : Nat}
    (hstart : Double.AtMost k t (sum start)) (hk : k + items.length < 2 ^ 53) :
    Double.AtMost (k + items.length) t (sum (items.foldl step start)) := by
  induction items generalizing start k with
  | nil => exact hstart
  | cons b items ih =>
      rw [List.length_cons] at hk ⊢
      have hnext : Double.AtMost (k + 1) t (sum (step start b)) := by
        rw [hstep]
        exact hstart.add (hterms b List.mem_cons_self) (by omega) hleast hmost
      have hrest := ih (fun other hother => hterms other (List.mem_cons_of_mem b hother)) hnext
        (by omega)
      rwa [Nat.add_assoc, Nat.add_comm 1] at hrest

theorem Moments.within_mean {x : Moments} {s t : ℤ} (hsum : Double.Within s x.sum)
    (hweight : Double.Within t x.weight) (ht : t ≤ 1023) (hleast : -149 ≤ s + 34)
    (hmost : s + 34 ≤ 127) : Single.Within (s + 34) x.mean := by
  unfold mean
  split
  · exact Single.within_zero _
  · rename_i hlarge
    exact (hsum.div_weight hweight hlarge ht (by omega) (by omega)).ofDouble hleast hmost

namespace TrainingRows

theorem within_value {data : TrainingRows} {t : ℤ}
    (h : forall x, x ∈ data.features -> forall a, a ∈ x -> Single.Within t a)
    (feature row : Nat) : Single.Within t (data.value feature row) := by
  unfold value
  rw [Array.getD_eq_getD_getElem?, Array.getD_eq_getD_getElem?]
  cases hx : data.features[row]? with
  | none => exact Single.within_zero t
  | some x =>
      rw [Option.getD_some]
      cases ha : x[feature]? with
      | none => exact Single.within_zero t
      | some a => exact h x (Array.mem_of_getElem? hx) a (Array.mem_of_getElem? ha)

structure Bounded (data : TrainingRows) : Prop where
  features : forall x, x ∈ data.features -> forall a, a ∈ x -> Single.Within 66 a
  sum : forall m, m ∈ data.moments -> Double.Within 77 m.sum
  weight : forall m, m ∈ data.moments -> Double.Within 14 m.weight

namespace Bounded

variable {data : TrainingRows}

theorem moment (h : data.Bounded) (row : Nat) :
    Double.Within 77 (data.moment row).sum ∧ Double.Within 14 (data.moment row).weight := by
  unfold TrainingRows.moment
  rw [Array.getD_eq_getD_getElem?]
  cases hrow : data.moments[row]? with
  | none =>
      have hzero : forall t, Double.Within t 0 := fun t => ⟨0, rfl, by positivity⟩
      exact ⟨hzero 77, hzero 14⟩
  | some m =>
      have hm := Array.mem_of_getElem? hrow
      exact ⟨h.sum m hm, h.weight m hm⟩

theorem within_mean (h : data.Bounded) {rows : List Nat} (hrows : rows.length ≤ 2 ^ 14) :
    Single.Within 125 (data.total rows).mean := by
  have hlength : 0 + rows.length < 2 ^ 53 := by omega
  have hsum : Double.AtMost (0 + rows.length) 77 (data.total rows).sum := by
    apply Double.atMost_foldl Moments.sum _ (fun _ _ => rfl) (by norm_num) (by norm_num)
    · exact fun row _ => (h.moment row).1
    · exact Double.atMost_zero 77
    · exact hlength
  have hweight : Double.AtMost (0 + rows.length) 14 (data.total rows).weight := by
    apply Double.atMost_foldl Moments.weight _ (fun _ _ => rfl) (by norm_num) (by norm_num)
    · exact fun row _ => (h.moment row).2
    · exact Double.atMost_zero 14
    · exact hlength
  rw [Nat.zero_add] at hsum hweight
  exact Moments.within_mean (s := (14 : Nat) + 77) (hsum.within hrows) (hweight.within hrows)
    (by norm_num) (by norm_num) (by norm_num)

/-!
## Thresholds
-/

theorem within_scan (h : data.Bounded) {feature : Nat} {base : Float} {left right : Moments}
    {best : Option Cut} {rows : List Nat} {cut : Cut}
    (hbest : forall c, best = some c -> Single.Within 66 c.threshold)
    (hcut : data.scan feature base left right best rows = some cut) :
    Single.Within 66 cut.threshold := by
  induction rows generalizing left right best with
  | nil => exact hbest cut hcut
  | cons row rows ih =>
      cases rows with
      | nil => exact hbest cut hcut
      | cons next rows =>
          unfold scan at hcut
          dsimp only at hcut
          split at hcut
          · exact ih hbest hcut
          · refine ih (fun c hc => ?_) hcut
            rcases ite_eq_iff.mp hc with ⟨_, hc⟩ | ⟨_, hc⟩
            · injection hc with hc
              subst hc
              have hsum := (within_value h.features feature row).add
                (within_value h.features feature next) (by norm_num) (by norm_num)
              exact hsum.half (by norm_num) (by norm_num)
            · exact hbest c hc

theorem within_bestSplit (h : data.Bounded) {all : Moments} {columns : List (List Nat)}
    {feature : Nat} {cut : Cut} (hcut : data.bestSplit all 0 columns none = some (feature, cut)) :
    Single.Within 66 cut.threshold := by
  rcases of_bestSplit hcut with hnone | ⟨_, column, hbest⟩
  · cases hnone
  · refine h.within_scan (fun c hc => ?_) hbest
    cases hc

end Bounded
end TrainingRows

/-!
## Trees
-/

namespace GrownTree

def Within (t : ℤ) : GrownTree -> Prop
  | .leaf mean => Single.Within t mean
  | .split _ threshold mean left right =>
      Single.Within t threshold ∧ Single.Within t mean ∧ left.Within t ∧ right.Within t

theorem within_of_mem_nodesFrom {tree : GrownTree} {t : ℤ} (h : tree.Within t) {index : Nat}
    {n : Node} (hn : n ∈ tree.nodesFrom index) :
    Single.Within t n.threshold ∧ Single.Within t n.prediction := by
  induction tree generalizing index with
  | leaf mean =>
      rcases List.mem_singleton.mp hn with rfl
      exact ⟨Single.within_zero t, h⟩
  | split feature threshold mean left right ihleft ihright =>
      rcases h with ⟨hthreshold, hmean, hleft, hright⟩
      rw [nodesFrom, List.cons_append] at hn
      rcases List.mem_cons.mp hn with rfl | hn
      · exact ⟨hthreshold, hmean⟩
      · rcases List.mem_append.mp hn with hn | hn
        · exact ihleft hleft hn
        · exact ihright hright hn

end GrownTree

theorem TrainingRows.Bounded.within_grow {data : TrainingRows} (h : data.Bounded)
    (minLeafSize levels : Nat) {columns : List (List Nat)} {rows : List Nat}
    (hcolumns : forall column, column ∈ columns -> column.Nodup) (hrows : rows.length ≤ 2 ^ 14) :
    (data.grow minLeafSize levels columns rows).Within 125 := by
  refine grow_induction (p := fun rows tree => rows.length ≤ 2 ^ 14 -> tree.Within 125) ?_ ?_
    levels rows hcolumns hrows
  · exact fun rows hrows => h.within_mean hrows
  · intro rows all columns feature cut left right unknown leftTree rightTree hbest hparts _ hleft
      hright hrows
    exact ⟨(h.within_bestSplit hbest).mono (by norm_num), h.within_mean hrows,
      hleft (by omega), hright (by omega)⟩

/-!
## Models
-/

namespace ClassModel

theorem within_meanLabel {rows : List (Float32 × Float32)} (hrows : rows.length ≤ 2 ^ 14)
    (hweights : forall r, r ∈ rows -> Single.Within 14 r.1)
    (hlabels : forall r, r ∈ rows -> Single.Within 0 r.2) : Single.Within 62 (meanLabel rows) := by
  let step := fun (s : Float × Float) (r : Float32 × Float32) =>
    (s.1 + toDouble (r.2 * r.1), s.2 + toDouble r.1)
  have hlength : 0 + rows.length < 2 ^ 53 := by omega
  have hsum : Double.AtMost (0 + rows.length) (0 + 14) (rows.foldl step (0, 0)).1 := by
    apply Double.atMost_foldl Prod.fst step (fun _ _ => rfl) (by norm_num) (by norm_num)
    · intro r hr
      have hproduct := (hlabels r hr).mul (hweights r hr) (by norm_num) (by norm_num)
      exact Double.within_toDouble hproduct (by norm_num) (by norm_num)
    · exact Double.atMost_zero _
    · exact hlength
  have hweight : Double.AtMost (0 + rows.length) 14 (rows.foldl step (0, 0)).2 := by
    apply Double.atMost_foldl Prod.snd step (fun _ _ => rfl) (by norm_num) (by norm_num)
    · exact fun r hr => Double.within_toDouble (hweights r hr) (by norm_num) (by norm_num)
    · exact Double.atMost_zero _
    · exact hlength
  rw [Nat.zero_add] at hsum hweight
  exact Moments.within_mean (x := ⟨(rows.foldl step (0, 0)).1, 0, (rows.foldl step (0, 0)).2⟩)
    (s := (14 : Nat) + (0 + 14)) (hsum.within hrows) (hweight.within hrows) (by norm_num)
    (by norm_num) (by norm_num)

theorem within_ofTree {settings : ModelSettings} {bias : Float32} {tree : GrownTree} {t : ℤ}
    (hbias : Single.Within t bias) (htree : tree.Within t) {x : Float32}
    (hx : x ∈ (ofTree settings bias tree).singles) : Single.Within t x := by
  rcases List.mem_cons.mp hx with rfl | hx
  · exact hbias
  · rcases List.mem_flatMap.mp hx with ⟨stored, hstored, hx⟩
    rcases List.mem_singleton.mp hstored with rfl
    rcases List.mem_flatMap.mp hx with ⟨n, hn, hx⟩
    have hnode := GrownTree.within_of_mem_nodesFrom htree
      (Array.mem_def.mp (Array.mem_toList_iff.mp hn))
    rcases List.mem_cons.mp hx with rfl | hx
    · exact hnode.1
    · rcases List.mem_singleton.mp hx with rfl
      exact hnode.2

end ClassModel

namespace Estimator

theorem within_indicator (targets : Array Nat) (cls row : Nat) :
    Single.Within 0 (indicator targets cls row) := by
  unfold indicator
  split
  · exact Single.within_one
  · exact Single.within_zero 0

theorem forall_mem_foldl_set {p : Float32 -> Prop} {rows : List DrawnRow}
    (hrows : forall r, r ∈ rows -> p (toSingle r.multiplicity)) {weights : Array Float32}
    (hweights : forall w, w ∈ weights -> p w) {w : Float32}
    (hw : w ∈ rows.foldl (fun (weights : Array Float32) r =>
      weights.setIfInBounds r.row (toSingle r.multiplicity)) weights) : p w := by
  induction rows generalizing weights with
  | nil => exact hweights w hw
  | cons r rows ih =>
      refine ih (fun other hother => hrows other (List.mem_cons_of_mem r hother)) ?_ hw
      intro other hother
      rcases Array.mem_or_eq_of_mem_setIfInBounds hother with hmem | rfl
      · exact hweights other hmem
      · exact hrows r List.mem_cons_self

section Drawn

variable (targets : Array Nat) {rows : List DrawnRow}

theorem within_weight (hdrawn : forall r, r ∈ rows -> r.multiplicity ≤ 2 ^ 14) (row : Nat) :
    Single.Within 14 ((rows.foldl (fun (weights : Array Float32) r =>
      weights.setIfInBounds r.row (toSingle r.multiplicity))
      (Array.replicate targets.size 0)).getD row 0) := by
  rw [Array.getD_eq_getD_getElem?]
  cases hrow : (rows.foldl (fun (weights : Array Float32) r =>
    weights.setIfInBounds r.row (toSingle r.multiplicity))
    (Array.replicate targets.size 0))[row]? with
  | none => exact Single.within_zero 14
  | some w =>
      refine forall_mem_foldl_set (fun r hr => ?_) (fun other hother => ?_)
        (Array.mem_of_getElem? hrow)
      · exact Single.within_toSingle_of_le (hdrawn r hr) (by norm_num)
      · rw [(Array.mem_replicate.mp hother).2]
        exact Single.within_zero 14

theorem within_bias (hrows : rows.length ≤ 2 ^ 14)
    (hdrawn : forall r, r ∈ rows -> r.multiplicity ≤ 2 ^ 14) (cls : Nat) :
    Single.Within 62 (ClassModel.meanLabel (rows.map fun r =>
      (toSingle r.multiplicity, indicator targets cls r.row))) := by
  apply ClassModel.within_meanLabel (by rwa [List.length_map])
  · intro r hr
    rcases List.mem_map.mp hr with ⟨drawn, hmem, rfl⟩
    exact Single.within_toSingle_of_le (hdrawn drawn hmem) (by norm_num)
  · intro r hr
    rcases List.mem_map.mp hr with ⟨drawn, _, rfl⟩
    exact within_indicator targets cls drawn.row

theorem within_classModel (settings : ModelSettings) {features : Array (Array Float32)}
    {columns : List (List Nat)} (cls : Nat)
    (hfeatures : forall x, x ∈ features -> forall a, a ∈ x -> Single.Within 66 a)
    (hcolumns : forall column, column ∈ columns -> column.Nodup)
    (hrows : rows.length ≤ 2 ^ 14) (hdrawn : forall r, r ∈ rows -> r.multiplicity ≤ 2 ^ 14)
    {x : Float32} (hx : x ∈ (classModel settings features targets rows columns cls).singles) :
    Single.Within 125 x := by
  have hbias := within_bias targets hrows hdrawn cls
  have hweight := within_weight targets hdrawn
  unfold classModel at hx
  dsimp only at hx
  generalize ClassModel.meanLabel _ = bias at hbias hx
  generalize rows.foldl _ (Array.replicate targets.size 0) = weights at hweight hx
  have hresidual : forall row, Single.Within 63 (indicator targets cls row - bias) := fun row =>
    ((within_indicator targets cls row).mono (by norm_num)).sub hbias (by norm_num) (by norm_num)
  refine ClassModel.within_ofTree (hbias.mono (by norm_num)) ?_ hx
  apply TrainingRows.Bounded.within_grow _ _ _ hcolumns (by rwa [List.length_map])
  constructor
  · exact hfeatures
  · intro m hm
    rcases Array.mem_map.mp hm with ⟨row, _, rfl⟩
    exact (Double.within_toDouble (hresidual row) (by norm_num) (by norm_num)).mul
      (Double.within_toDouble (hweight row) (by norm_num) (by norm_num)) (by norm_num)
      (by norm_num)
  · intro m hm
    rcases Array.mem_map.mp hm with ⟨row, _, rfl⟩
    exact Double.within_toDouble (hweight row) (by norm_num) (by norm_num)

end Drawn

end Estimator

/-!
## Classifiers
-/

section Trained

variable [Logarithm] [LawfulLogarithm] {corpus : Corpus} {settings : TrainingSettings}
  {run : TrainingRun}

namespace TrainingRun.Consists

theorem of_mem_trainFeatures (h : run.Consists corpus settings) {x : Array Float32}
    (hx : x ∈ run.trainFeatures) :
    x.size = run.classifier.vectorizer.width ∧ forall a, a ∈ x -> Single.Within 66 a := by
  rcases exists_assembleAll (Vectorizer.fitted_of_fit h.fit_eq) corpus.codes with
    ⟨features, hfeatures, _, hspec⟩
  cases h.features_eq.symm.trans hfeatures
  rcases mem_of_select h.trainFeatures_eq hx with ⟨row, _, hrow⟩
  rcases hspec x (Array.mem_of_getElem? hrow) with ⟨hsize, hwithin⟩
  exact ⟨hsize, hwithin (Vectorizer.moderate_of_fit h.fit_eq)⟩

theorem within_singles (h : run.Consists corpus settings) (hcorpus : corpus.size ≤ 2 ^ 14)
    {x : Float32} (hx : x ∈ run.classifier.singles) : Single.Within 125 x := by
  rcases List.mem_append.mp hx with hx | hx
  · exact (Vectorizer.moderate_of_fit h.fit_eq x (Array.mem_toList_iff.mp hx)).mono (by norm_num)
  · rcases List.mem_flatMap.mp hx with ⟨e, he, hx⟩
    rcases List.mem_flatMap.mp hx with ⟨m, hm, hx⟩
    rcases h.isTrained.sampled e he with ⟨targets, g, hsample⟩
    have hfew := h.length_trainFeatures_le.trans hcorpus
    have hsize : run.trainFeatures.toArray.size = run.trainFeatures.length := rfl
    rw [Estimator.eq_of_train hsample] at hm
    rcases List.mem_map.mp hm with ⟨cls, _, rfl⟩
    have hdistinct := nodup_drawnRows run.trainFeatures.toArray.size
      (g.belowMany run.trainFeatures.toArray.size run.trainFeatures.toArray.size).1
    refine Estimator.within_classModel _ _ _ (fun y hy a ha => ?_) (fun column hcolumn => ?_) ?_
      (fun r hr => ?_) hx
    · exact (h.of_mem_trainFeatures (List.mem_toArray.mp hy)).2 a ha
    · exact nodup_of_mem_sortedColumns hdistinct hcolumn
    · have hlength := length_drawnRows_le run.trainFeatures.toArray.size
        (g.belowMany run.trainFeatures.toArray.size run.trainFeatures.toArray.size).1
      rw [List.length_map] at hlength
      exact hlength.trans (hsize ▸ hfew)
    · have hle := multiplicity_le_of_mem_drawnRows hr
      rw [length_belowMany] at hle
      exact hle.trans (hsize ▸ hfew)

end TrainingRun.Consists

theorem finite_of_train (h : train corpus settings = .ok run) (hcorpus : corpus.size ≤ 2 ^ 14)
    {x : Float32} (hx : x ∈ run.classifier.singles) : x.isFinite = true :=
  ((TrainingRun.parts_of_train h).2.2.within_singles hcorpus hx).isFinite

end Trained
end Polyglot
