import Polyglot.Proofs.Draws
import Polyglot.Proofs.Forest
import Polyglot.Proofs.Renumbering

/-!
# Observations

A class model is trained on weighted observations: the rows of a sample, each with the
number of its draws as its weight, and one or zero as its label.  The models of an
estimator see the same rows with the same weights, and every row has the label one in
the model of its own class only.
-/

namespace Polyglot

/-- What a class model learns from a row: its features, its weight, and one or zero. -/
structure Observation where
  features : Array Float32
  weight : Float32
  label : Float32

/-!
## Models of observations
-/

namespace ClassModel

/-- The training set of some observations, in their order; a bias is taken from all labels. -/
def observed (observations : List Observation) (bias : Float32) : TrainingRows where
  features := (observations.map Observation.features).toArray
  targets := (observations.map fun o => o.label - bias).toArray
  moments := (observations.map fun o => Moments.ofTarget (o.label - bias) o.weight).toArray

def ofObservations (settings : ModelSettings) (observations : List Observation) : ClassModel :=
  let bias := meanLabel (observations.map fun o => (o.weight, o.label))
  let data := observed observations bias
  let rows := List.range observations.length
  .ofTree settings bias
    (data.grow settings.minLeafSize settings.maxDepth.toNat
      (sortedColumns data.features settings.featureSize rows) rows)

end ClassModel

/-!
## Places in a sample
-/

section Places

variable {n : Nat} {sample : List DrawnRow}

/-- The row at a place of a sample; behind the sample, a number that no row has. -/
def rowAtPlace (n : Nat) (sample : List DrawnRow) (place : Nat) : Nat :=
  match sample[place]? with
  | some r => r.row
  | none => n + place

theorem rowAtPlace_of_lt {place : Nat} (h : place < sample.length) :
    rowAtPlace n sample place = sample[place].row := by
  rw [rowAtPlace, List.getElem?_eq_getElem h]

theorem rowAtPlace_of_le {place : Nat} (h : sample.length ≤ place) :
    rowAtPlace n sample place = n + place := by
  rw [rowAtPlace, List.getElem?_eq_none h]

theorem map_rowAtPlace (n : Nat) (sample : List DrawnRow) :
    (List.range sample.length).map (rowAtPlace n sample) = sample.map DrawnRow.row := by
  apply List.ext_getElem
  · rw [List.length_map, List.length_map, List.length_range]
  · intro place hplace _
    rw [List.length_map, List.length_range] at hplace
    rw [List.getElem_map, List.getElem_map, List.getElem_range, rowAtPlace_of_lt hplace]

theorem rowAtPlace_lt_iff (hlt : forall r, r ∈ sample -> r.row < n) {place : Nat} :
    rowAtPlace n sample place < n ↔ place < sample.length := by
  by_cases hplace : place < sample.length
  · rw [rowAtPlace_of_lt hplace]
    exact ⟨fun _ => hplace, fun _ => hlt _ (List.getElem_mem hplace)⟩
  · rw [rowAtPlace_of_le (Nat.le_of_not_lt hplace)]
    omega

theorem strictMono_rowAtPlace (hascending : (sample.map DrawnRow.row).Pairwise (· < ·))
    (hlt : forall r, r ∈ sample -> r.row < n) : StrictMono (rowAtPlace n sample) := by
  apply strictMono_nat_of_lt_succ
  intro place
  by_cases hnext : place + 1 < sample.length
  · have hplace : place < sample.length := Nat.lt_of_succ_lt hnext
    rw [rowAtPlace_of_lt hplace, rowAtPlace_of_lt hnext]
    exact List.pairwise_iff_getElem.mp (List.pairwise_map.mp hascending) place (place + 1) hplace
      hnext (Nat.lt_succ_self place)
  · rw [rowAtPlace_of_le (Nat.le_of_not_lt hnext)]
    by_cases hplace : place < sample.length
    · have hrow := (rowAtPlace_lt_iff hlt).mpr hplace
      omega
    · rw [rowAtPlace_of_le (Nat.le_of_not_lt hplace)]
      omega

end Places

namespace Estimator

/-!
## Weights
-/

/-- The weights of all rows; a row that was not drawn has none. -/
def weights (n : Nat) (sample : List DrawnRow) : Array Float32 :=
  sample.foldl (fun (weights : Array Float32) r =>
    weights.setIfInBounds r.row (toSingle r.multiplicity)) (Array.replicate n 0)

theorem getElem?_foldl_set_of_not_mem {sample : List DrawnRow} {row : Nat}
    (h : row ∉ sample.map DrawnRow.row) (weights : Array Float32) :
    (sample.foldl (fun (weights : Array Float32) r =>
      weights.setIfInBounds r.row (toSingle r.multiplicity)) weights)[row]? = weights[row]? := by
  induction sample generalizing weights with
  | nil => rfl
  | cons first sample ih =>
      rw [List.map_cons, List.mem_cons, not_or] at h
      rw [List.foldl_cons, ih h.2, Array.getElem?_setIfInBounds_ne (Ne.symm h.1)]

theorem getElem?_foldl_set {sample : List DrawnRow} (hnodup : (sample.map DrawnRow.row).Nodup)
    {r : DrawnRow} (hr : r ∈ sample) {weights : Array Float32} (hlt : r.row < weights.size) :
    (sample.foldl (fun (weights : Array Float32) r =>
      weights.setIfInBounds r.row (toSingle r.multiplicity)) weights)[r.row]? =
        some (toSingle r.multiplicity) := by
  induction sample generalizing weights with
  | nil => cases hr
  | cons first sample ih =>
      rw [List.map_cons, List.nodup_cons] at hnodup
      rw [List.foldl_cons]
      rcases List.mem_cons.mp hr with rfl | hr
      · rw [getElem?_foldl_set_of_not_mem hnodup.1, Array.getElem?_setIfInBounds_self_of_lt hlt]
      · exact ih hnodup.2 hr (by rwa [Array.size_setIfInBounds])

/-!
## Models of a sample
-/

def observations (features : Array (Array Float32)) (targets : Array Nat)
    (sample : List DrawnRow) (cls : Nat) : List Observation :=
  sample.map fun r =>
    ⟨features.getD r.row #[], toSingle r.multiplicity, indicator targets cls r.row⟩

def trainingRows (features : Array (Array Float32)) (targets : Array Nat) (sample : List DrawnRow)
    (cls : Nat) (bias : Float32) : TrainingRows where
  features := features
  targets := (Array.range targets.size).map fun row => indicator targets cls row - bias
  moments := (Array.range targets.size).map fun row =>
    Moments.ofTarget (indicator targets cls row - bias) ((weights targets.size sample).getD row 0)

section Sample

variable {features : Array (Array Float32)} {targets : Array Nat} {draws : List Nat}
  {sample : List DrawnRow}

/-- The observations of a class are the drawn rows of its training set, in their order. -/
theorem renumbers_observed (hsize : features.size = targets.size)
    (h : CountsDraws targets.size draws sample) (cls : Nat) (bias : Float32) :
    TrainingRows.Renumbers (rowAtPlace targets.size sample)
      (ClassModel.observed (observations features targets sample cls) bias)
      (trainingRows features targets sample cls bias) := by
  have hlt : forall r, r ∈ sample -> r.row < targets.size := fun _ => h.row_lt
  have hplaces : (ClassModel.observed (observations features targets sample cls) bias).targets.size =
      sample.length := by
    simp [ClassModel.observed, observations]
  constructor
  · exact strictMono_rowAtPlace h.ascending hlt
  · intro place
    rw [hplaces]
    simp only [trainingRows, Array.size_map, Array.size_range]
    exact rowAtPlace_lt_iff hlt
  · intro feature place
    by_cases hplace : place < sample.length
    · rw [rowAtPlace_of_lt hplace]
      simp [TrainingRows.value, trainingRows, ClassModel.observed, observations, hplace]
    · rw [rowAtPlace_of_le (Nat.le_of_not_lt hplace)]
      simp [TrainingRows.value, trainingRows, ClassModel.observed, observations, hplace, hsize]
  · intro place
    by_cases hplace : place < sample.length
    · have hrow := hlt _ (List.getElem_mem hplace)
      rw [rowAtPlace_of_lt hplace]
      simp [TrainingRows.target, trainingRows, ClassModel.observed, observations, hplace, hrow]
    · rw [rowAtPlace_of_le (Nat.le_of_not_lt hplace)]
      simp [TrainingRows.target, trainingRows, ClassModel.observed, observations, hplace]
  · intro place
    by_cases hplace : place < sample.length
    · have hrow := hlt _ (List.getElem_mem hplace)
      have hweight : (weights targets.size sample)[sample[place].row]? =
          some (toSingle sample[place].multiplicity) :=
        getElem?_foldl_set (h.ascending.imp Nat.ne_of_lt) (List.getElem_mem hplace)
          (by rwa [Array.size_replicate])
      rw [rowAtPlace_of_lt hplace]
      simp [TrainingRows.moment, trainingRows, ClassModel.observed, observations, hplace, hrow,
        hweight]
    · rw [rowAtPlace_of_le (Nat.le_of_not_lt hplace)]
      simp [TrainingRows.moment, trainingRows, ClassModel.observed, observations, hplace]

theorem sortedColumns_observed (hsize : features.size = targets.size)
    (h : CountsDraws targets.size draws sample) (cls : Nat) (bias : Float32) (width : Nat) :
    sortedColumns features width (sample.map DrawnRow.row) =
      (sortedColumns (ClassModel.observed (observations features targets sample cls) bias).features
        width (List.range sample.length)).map (List.map (rowAtPlace targets.size sample)) := by
  have hrenumbers := renumbers_observed hsize h cls bias
  rw [sortedColumns, sortedColumns, List.map_map, ← map_rowAtPlace targets.size sample]
  apply List.map_congr_left
  intro feature _
  symm
  apply List.map_mergeSort
  intro a _ b _
  rw [Bool.eq_iff_iff, ascendingValue, ascendingValue, decide_eq_true_iff, decide_eq_true_iff]
  have ha := hrenumbers.value feature a
  have hb := hrenumbers.value feature b
  unfold TrainingRows.value at ha hb
  rw [← ha, ← hb]
  rfl

/-- The model of a class is the one that its observations are trained to. -/
theorem classModel_eq_ofObservations (settings : ModelSettings)
    (hsize : features.size = targets.size) (h : CountsDraws targets.size draws sample)
    (cls : Nat) :
    classModel settings features targets sample
        (sortedColumns features settings.featureSize (sample.map DrawnRow.row)) cls =
      .ofObservations settings (observations features targets sample cls) := by
  have hlabels : (observations features targets sample cls).map (fun o => (o.weight, o.label)) =
      sample.map fun r => (toSingle r.multiplicity, indicator targets cls r.row) := by
    rw [observations, List.map_map]
    rfl
  have hlength : (observations features targets sample cls).length = sample.length :=
    List.length_map _
  unfold ClassModel.ofObservations
  dsimp only
  rw [hlabels, hlength]
  generalize hbias : ClassModel.meanLabel (sample.map fun r =>
    (toSingle r.multiplicity, indicator targets cls r.row)) = bias
  rw [← (renumbers_observed hsize h cls bias).grow_map,
    ← sortedColumns_observed hsize h cls bias, map_rowAtPlace, ← hbias]
  rfl

end Sample

theorem fault_of_train {settings : ModelSettings} {features : Array (Array Float32)}
    {targets : Array Nat} {classes : Nat} {sample : List DrawnRow} {fault : Fault}
    (h : train settings features targets classes sample = .error fault) :
    fault = .unorderedFeature := by
  unfold train at h
  dsimp only at h
  split at h
  · cases h
    rfl
  · cases h

/--
How an estimator comes from its sample.  The sample counts draws of rows.  The model of each
class is trained on the drawn rows, which are the same for all classes and weigh the same,
and each of them has the label one for the class of its own label and zero for the others.
-/
structure IsBootstrapped (settings : ModelSettings) (features : Array (Array Float32))
    (labels classes : List String) (targets : Array Nat) (sample : List DrawnRow)
    (e : Estimator) : Prop where
  drawn : ∃ g, sample = (bootstrap features.size g).1 ∧
    CountsDraws features.size (g.belowMany features.size features.size).1 sample
  models_eq : e.models = (List.range classes.length).map fun cls =>
    .ofObservations settings (observations features targets sample cls)
  own_class : forall r, r ∈ sample -> ∃ label own,
    labels[r.row]? = some label ∧ classes[own]? = some label ∧
    forall cls, indicator targets cls r.row = if cls = own then 1 else 0

end Estimator

/-!
## Forests of samples
-/

namespace Forest

theorem own_class_of_targets {labels classes : List String} {targets : List Nat}
    (hclasses : classes.Pairwise (· < ·)) (hlabels : labels ⊆ classes)
    (htargets : labels.mapM (classNumber classes) = .ok targets) {row : Nat}
    (hrow : row < labels.length) :
    ∃ label own, labels[row]? = some label ∧ classes[own]? = some label ∧
      forall cls, Estimator.indicator targets.toArray cls row = if cls = own then 1 else 0 := by
  have hrow' : row < targets.length := by rwa [Attempts.length_of_mapM_eq_ok htargets]
  have hnumber : classNumber classes labels[row] = .ok targets[row] :=
    (Attempts.forall₂_of_mapM_eq_ok htargets).get hrow hrow'
  rcases Labels.position?_of_mem hclasses (hlabels (List.getElem_mem hrow)) with
    ⟨own, hfound, hown⟩
  refine ⟨labels[row], own, List.getElem?_eq_getElem hrow, hown, fun cls => ?_⟩
  rw [classNumber, hfound] at hnumber
  injection hnumber with hnumber
  rw [Estimator.indicator, List.getElem?_toArray, List.getElem?_eq_getElem hrow', ← hnumber]
  simp only [Option.some.injEq, eq_comm]

/--
Why fitting fails.  Every label is one of the classes, so no row is without a class; what is
left once the sizes agree is a want of room, or rows that have no order.
-/
theorem failure_of_fit {s : ForestSettings} {width : Nat} {features : Array (Array Float32)}
    {labels : List String} {x : Failure} (h : fit s width features labels = .error x) :
    x = .error (.rowsAndLabels features.size labels.length) ∨ x = .error .noRows ∨
      x = .error (.tooFewClasses (Labels.distinct labels).length) ∨
      x = .fault .capacityOverflow ∨ x = .fault .unorderedFeature := by
  unfold fit at h
  split at h
  · cases h
    exact .inl rfl
  · split at h
    · cases h
      exact .inr (.inl rfl)
    · dsimp only at h
      split at h
      · cases h
        exact .inr (.inr (.inl rfl))
      · right; right; right
        unfold fitClasses at h
        split at h
        · rename_i e hlabels
          rcases Attempts.exists_of_mapM_eq_error hlabels with ⟨label, hlabel, herror⟩
          rcases exists_classNumber (Labels.ascending_distinct labels)
            (Labels.mem_distinct.mpr hlabel) with ⟨number, hnumber⟩
          cases hnumber.symm.trans herror
        · split at h
          · cases h
            exact .inl rfl
          · split at h
            · rename_i fault hestimators
              cases h
              rw [trainEstimators_eq_mapM] at hestimators
              rcases Attempts.exists_of_mapM_eq_error hestimators with ⟨sample, _, herror⟩
              rw [Estimator.fault_of_train herror]
              exact .inr rfl
            · cases h

/--
Fitting never misses a class.  A forest that it returns has the distinct labels in strictly
ascending order as its classes, the search among them finds every label, and it has as many
estimators as it was asked for, each of them trained on its own bootstrap sample.
-/
theorem bootstrapped_of_fit {s : ForestSettings} {width : Nat}
    {features : Array (Array Float32)} {labels : List String} :
    (forall label, fit s width features labels ≠ .error (.error (.untrainedLabel label))) ∧
    forall f, fit s width features labels = .ok f ->
      f.classes.Pairwise (· < ·) ∧ (forall label, label ∈ f.classes ↔ label ∈ labels) ∧
      (forall label, label ∈ labels -> ∃ number,
        Labels.position? f.classes label = some number ∧ f.classes[number]? = some label) ∧
      f.estimators.length = s.estimators.toNat ∧
      ∃ targets, labels.mapM (classNumber f.classes) = .ok targets ∧
        List.Forall₂
          (Estimator.IsBootstrapped (ClassModel.trainedSettings width s) features labels
            f.classes targets.toArray)
          (samples features.size s.estimators.toNat (.ofSeed s.seed)) f.estimators := by
  constructor
  · intro label h
    rcases failure_of_fit h with h | h | h | h | h <;> cases h
  intro f h
  rcases fit_eq_ok_iff.mp h with
    ⟨hsize, hsome, _, _, targets, estimators, htargets, hestimators, rfl⟩
  have hascending := Labels.ascending_distinct labels
  have htargetsSize : features.size = targets.toArray.size :=
    hsize.trans (Attempts.length_of_mapM_eq_ok htargets).symm
  refine ⟨hascending, fun label => Labels.mem_distinct,
    fun label hlabel => Labels.position?_of_mem hascending (Labels.mem_distinct.mpr hlabel),
    ?_, targets, htargets, ?_⟩
  · exact (Attempts.length_of_mapM_eq_ok hestimators).trans (length_samples _ _ _)
  · have hall := (List.forall₂_and_left _ _).mpr
      ⟨fun sample => exists_generator_of_mem_samples,
        Attempts.forall₂_of_mapM_eq_ok hestimators⟩
    refine hall.imp fun sample e => ?_
    rintro ⟨⟨g, rfl⟩, htrained⟩
    have hdrawn := countsDraws_bootstrap (Nat.pos_of_ne_zero hsome) g
    constructor
    · exact ⟨g, rfl, hdrawn⟩
    · have hcounts : CountsDraws targets.toArray.size
          (g.belowMany features.size features.size).1 (bootstrap features.size g).1 := by
        rwa [← htargetsSize]
      rw [Estimator.eq_of_train htrained]
      apply List.map_congr_left
      intro cls _
      exact Estimator.classModel_eq_ofObservations _ htargetsSize hcounts cls
    · intro r hr
      exact own_class_of_targets hascending (fun label hlabel => Labels.mem_distinct.mpr hlabel)
        htargets (hsize ▸ hdrawn.row_lt hr)

/-- Of three rows, the first estimator draws one twice and one not at all. -/
theorem bootstrapped_of_fit_threeRows :
    ∃ f, fit { estimators := 2 } 1 #[#[0], #[1], #[2]] ["a", "b", "b"] = .ok f ∧
      f.classes = ["a", "b"] ∧ f.estimators.length = 2 ∧
      ∃ e, e ∈ f.estimators ∧
        e.models =
          [.ofObservations (ClassModel.trainedSettings 1 { estimators := 2 })
            [⟨#[0], toSingle 2, 1⟩, ⟨#[2], toSingle 1, 0⟩],
          .ofObservations (ClassModel.trainedSettings 1 { estimators := 2 })
            [⟨#[0], toSingle 2, 0⟩, ⟨#[2], toSingle 1, 1⟩]] := by
  have hnumeric : Numeric #[#[0], #[1], #[2]] := by
    unfold Numeric
    decide
  rcases exists_fit (s := { estimators := 2 }) ["a", "b", "b"] hnumeric rfl (by decide)
    (by decide) 1 with ⟨f, hf⟩
  rcases bootstrapped_of_fit.2 f hf with
    ⟨hascending, hmem, _, hcount, targets, htargets, hestimators⟩
  have hclasses : f.classes = ["a", "b"] :=
    Labels.ascending_ext hascending (by decide) fun label => by
      rw [hmem]
      simp
  have hsamples : samples 3 2 (.ofSeed 42) =
      [[⟨0, 2⟩, ⟨2, 1⟩], [⟨1, 1⟩, ⟨2, 2⟩]] := by
    decide
  have hnumbers : ["a", "b", "b"].mapM (classNumber ["a", "b"]) = .ok [0, 1, 1] := by
    decide +kernel
  rw [hclasses] at htargets hestimators
  cases hnumbers.symm.trans htargets
  refine ⟨f, hf, hclasses, hcount, ?_⟩
  change List.Forall₂ _ (samples 3 2 (.ofSeed 42)) _ at hestimators
  rw [hsamples] at hestimators
  rcases List.forall₂_cons_left_iff.mp hestimators with ⟨e, es, he, _, heq⟩
  refine ⟨e, heq ▸ List.mem_cons_self, ?_⟩
  rw [he.models_eq]
  rfl

end Forest
end Polyglot
