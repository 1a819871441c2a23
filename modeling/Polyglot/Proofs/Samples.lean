import Polyglot.Forest.Basic
import Polyglot.Proofs.Attempts
import Polyglot.Proofs.Growth

/-!
# Bootstrap samples

All samples of a forest are drawn from one generator, one after another, whatever is
trained on them.  So a forest is trained by drawing its samples first and training an
estimator on each of them.
-/

namespace Polyglot

theorem lt_of_mem_drawnRows {n : Nat} {draws : List Nat} {r : DrawnRow}
    (h : r ∈ drawnRows n draws) : r.row < n :=
  (mem_drawnRows_iff.mp h).1

theorem Estimator.eq_of_train {settings : ModelSettings} {features : Array (Array Float32)}
    {targets : Array Nat} {classes : Nat} {sample : List DrawnRow} {e : Estimator}
    (h : train settings features targets classes sample = .ok e) :
    e = ⟨(List.range classes).map (classModel settings features targets sample
      (sortedColumns features settings.featureSize (sample.map DrawnRow.row)))⟩ := by
  unfold train at h
  dsimp only at h
  split at h
  · cases h
  · cases h
    rfl

namespace Forest

/-- The samples of `count` estimators on `n` rows. -/
def samples (n : Nat) : Nat → Chance.Generator → List (List DrawnRow)
  | 0, _ => []
  | count + 1, g => (bootstrap n g).1 :: samples n count (bootstrap n g).2

theorem length_samples (n count : Nat) (g : Chance.Generator) :
    (samples n count g).length = count := by
  induction count generalizing g with
  | zero => rfl
  | succ count ih => rw [samples, List.length_cons, ih]

/-- Fewer samples are the first of more samples. -/
theorem samples_of_le {fewer more : Nat} (h : fewer ≤ more) (n : Nat) (g : Chance.Generator) :
    samples n fewer g = (samples n more g).take fewer := by
  induction fewer generalizing more g with
  | zero => rw [List.take_zero, samples]
  | succ fewer ih =>
      cases more with
      | zero => exact absurd h (Nat.not_succ_le_zero fewer)
      | succ more =>
          rw [samples, samples, List.take_succ_cons, ih (Nat.le_of_succ_le_succ h)]

theorem exists_generator_of_mem_samples {n count : Nat} {g : Chance.Generator}
    {sample : List DrawnRow} (h : sample ∈ samples n count g) :
    ∃ g, sample = (bootstrap n g).1 := by
  induction count generalizing g with
  | zero => cases h
  | succ count ih =>
      rcases List.mem_cons.mp h with rfl | h
      · exact ⟨g, rfl⟩
      · exact ih h

theorem trainEstimators_succ (settings : ModelSettings) (features : Array (Array Float32))
    (targets : Array Nat) (classes count : Nat) (g : Chance.Generator) :
    trainEstimators settings features targets classes (count + 1) g = (do
      let e ← Estimator.train settings features targets classes (bootstrap features.size g).1
      let es ← trainEstimators settings features targets classes count
        (bootstrap features.size g).2
      return e :: es) :=
  rfl

theorem trainEstimators_eq_mapM (settings : ModelSettings) (features : Array (Array Float32))
    (targets : Array Nat) (classes count : Nat) (g : Chance.Generator) :
    trainEstimators settings features targets classes count g =
      (samples features.size count g).mapM
        (Estimator.train settings features targets classes) := by
  induction count generalizing g with
  | zero => rfl
  | succ count ih =>
      rw [trainEstimators_succ, ih, samples, List.mapM_cons]

/--
What fitting does: on as many rows as labels, and at least two different labels, it numbers
the labels and, if there is room, trains an estimator on each sample.
-/
theorem fit_eq_ok_iff {s : ForestSettings} {width : Nat} {features : Array (Array Float32)}
    {labels : List String} {f : Forest} :
    fit s width features labels = .ok f ↔
      features.size = labels.length ∧ features.size ≠ 0 ∧
      2 ≤ (Labels.distinct labels).length ∧ s.estimators.toNat ≤ capacity ∧
      ∃ targets estimators,
        labels.mapM (classNumber (Labels.distinct labels)) = .ok targets ∧
        (samples features.size s.estimators.toNat (.ofSeed s.seed)).mapM
          (Estimator.train (ClassModel.trainedSettings width s) features targets.toArray
            (Labels.distinct labels).length) = .ok estimators ∧
        f = ⟨Labels.distinct labels, width, "", estimators⟩ := by
  constructor
  · intro h
    unfold fit fitClasses at h
    split at h
    · cases h
    · rename_i hsize
      split at h
      · cases h
      · rename_i hsome
        dsimp only at h
        split at h
        · cases h
        · rename_i htwo
          split at h
          · cases h
          · rename_i targets htargets
            split at h
            · cases h
            · rename_i hroom
              split at h
              · cases h
              · rename_i estimators hestimators
                cases h
                rw [trainEstimators_eq_mapM] at hestimators
                exact ⟨not_not.mp hsize, hsome, Nat.not_lt.mp htwo, Nat.not_lt.mp hroom,
                  targets, estimators, htargets, hestimators, rfl⟩
  · rintro ⟨hsize, hsome, htwo, hroom, targets, estimators, htargets, hestimators, rfl⟩
    unfold fit
    rw [if_neg (not_not_intro hsize), if_neg hsome]
    dsimp only
    rw [if_neg (Nat.not_lt.mpr htwo), fitClasses, htargets]
    dsimp only
    rw [if_neg (Nat.not_lt.mpr hroom), trainEstimators_eq_mapM, hestimators]

theorem of_fit {s : ForestSettings} {width : Nat} {features : Array (Array Float32)}
    {labels : List String} {f : Forest} (h : fit s width features labels = .ok f) :
    ∃ targets estimators,
      labels.mapM (classNumber (Labels.distinct labels)) = .ok targets ∧
      targets.length = features.size ∧
      (samples features.size s.estimators.toNat (.ofSeed s.seed)).mapM
        (Estimator.train (ClassModel.trainedSettings width s) features targets.toArray
          (Labels.distinct labels).length) = .ok estimators ∧
      f = ⟨Labels.distinct labels, width, "", estimators⟩ := by
  rcases fit_eq_ok_iff.mp h with
    ⟨hsize, _, _, _, targets, estimators, htargets, hestimators, rfl⟩
  exact ⟨targets, estimators, htargets, (Attempts.length_of_mapM_eq_ok htargets).trans hsize.symm,
    hestimators, rfl⟩

theorem estimators_of_fit {s : ForestSettings} {width : Nat} {features : Array (Array Float32)}
    {labels : List String} {f : Forest} (h : fit s width features labels = .ok f)
    {targets : List Nat} (htargets : labels.mapM (classNumber (Labels.distinct labels)) = .ok targets)
    {sample : List DrawnRow}
    (hsample : samples features.size s.estimators.toNat (.ofSeed s.seed) = [sample]) :
    f.estimators = [⟨(List.range (Labels.distinct labels).length).map
      (Estimator.classModel (ClassModel.trainedSettings width s) features targets.toArray sample
        (sortedColumns features width (sample.map DrawnRow.row)))⟩] := by
  rcases of_fit h with ⟨numbers, estimators, hnumbers, _, hestimators, rfl⟩
  cases htargets.symm.trans hnumbers
  rw [hsample] at hestimators
  rcases Attempts.exists_of_mapM_cons_eq_ok hestimators with ⟨e, es, rfl, he, hes⟩
  cases hes
  rw [Estimator.eq_of_train he]
  rfl

end Forest
end Polyglot
