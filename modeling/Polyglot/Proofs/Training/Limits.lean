import Polyglot.Proofs.Limits
import Polyglot.Proofs.Samples
import Polyglot.Proofs.Training.Magnitudes

/-!
# Limits of trained trees

Training never meets an unknown feature, so every drawn row comes to a leaf.  No leaf
lies deeper than it may, and every node but the root is reached by a drawn row.  The
least number of rows of a leaf only stops growth at a node that has no more rows, so a
leaf may have fewer: what holds is that two siblings together have more.
-/

namespace Polyglot

/-- The unknown value is far larger than any feature, whatever its sign. -/
theorem Single.Within.beq_unknownFeature {x : Float32} (h : Single.Within 66 x) :
    (x == unknownFeature) = false := by
  rcases h with ⟨a, ha, hle⟩
  have hunknown : Single.value? unknownFeature = some (-((2 ^ 24 - 1) * 2 ^ 104)) := by
    have hunpack : unknownFeature.toModel.unpack =
        .finite .negative (2 ^ 24 - 1) 104 (by norm_num) := by
      rfl
    unfold Single.value?
    rw [hunpack]
    norm_num [finite?, signFactor]
  have hiff : (x == unknownFeature) = true ↔ a = -((2 ^ 24 - 1) * 2 ^ 104) :=
    Binary.beq_iff (Single.canonical x) (Single.canonical unknownFeature) ha hunknown
  rw [Bool.eq_false_iff, ne_eq, hiff]
  rintro rfl
  norm_num [abs_of_nonneg] at hle

namespace TrainingRows

variable {data : TrainingRows}

theorem known_of_within
    (h : forall x, x ∈ data.features -> forall a, a ∈ x -> Single.Within 66 a) : data.Known :=
  fun feature row => (within_value h feature row).beq_unknownFeature

theorem lists_sortedColumns {rows : List Nat} (hnodup : rows.Nodup)
    (hlt : forall row, row ∈ rows -> row < data.targets.size) (width : Nat) :
    data.Lists (sortedColumns data.features width rows) rows where
  nodup := hnodup
  lt_size := hlt
  columns_nodup _ hcolumn := nodup_of_mem_sortedColumns hnodup hcolumn
  subset column hcolumn := by
    rcases List.mem_map.mp hcolumn with ⟨feature, _, rfl⟩
    exact (List.mergeSort_perm _ _).symm.subset

end TrainingRows

/-!
## Trained estimators
-/

theorem ClassModel.maxDepth_trainedSettings_le (width : Nat) (s : ForestSettings) :
    (trainedSettings width s).maxDepth.toNat ≤ s.maxDepth.toNat := by
  show (if s.maxDepth ≤ 0xffffffff then s.maxDepth.toUInt32 else 0xffffffff).toNat ≤ _
  split
  · rw [UInt64.toNat_toUInt32]
    exact Nat.mod_le _ _
  · rename_i hlarge
    rw [UInt64.le_iff_toNat_le, Nat.not_le] at hlarge
    exact Nat.le_of_lt hlarge

namespace Estimator

theorem limited_of_train {settings : ModelSettings} {features : Array (Array Float32)}
    {targets : Array Nat} {classes : Nat} {draws : List Nat} {e : Estimator}
    (h : train settings features targets classes (drawnRows features.size draws) = .ok e)
    (hfeatures : forall x, x ∈ features ->
      x.size = settings.featureSize ∧ forall a, a ∈ x -> Single.Within 66 a)
    (hsize : targets.size = features.size) {m : ClassModel} (hm : m ∈ e.models) :
    ∃ bias tree, m = .ofTree settings bias tree ∧
      tree.Limited settings.maxDepth.toNat settings.minLeafSize features
        ((drawnRows features.size draws).map DrawnRow.row) := by
  have hlt : forall row, row ∈ (drawnRows features.size draws).map DrawnRow.row ->
      row < features.size := by
    intro row hrow
    rcases List.mem_map.mp hrow with ⟨r, hr, rfl⟩
    exact lt_of_mem_drawnRows hr
  rw [eq_of_train h] at hm
  rcases List.mem_map.mp hm with ⟨cls, _, rfl⟩
  refine ⟨_, _, rfl, ?_⟩
  apply TrainingRows.limited_grow
  · exact TrainingRows.known_of_within fun x hx => (hfeatures x hx).2
  · apply TrainingRows.lists_sortedColumns (nodup_drawnRows features.size draws)
    intro row hrow
    rw [Array.size_map, Array.size_range, hsize]
    exact hlt row hrow
  · intro row hrow
    have hrow := hlt row hrow
    rw [Array.getD_eq_getD_getElem?, Array.getElem?_eq_getElem hrow, Option.getD_some,
      (hfeatures _ (Array.getElem_mem hrow)).1]
    simp [sortedColumns]

end Estimator

/-!
## Trained classifiers
-/

section Trained

variable [Logarithm] {corpus : Corpus} {settings : TrainingSettings} {run : TrainingRun}

theorem TrainingRun.Consists.exists_targets (h : run.Consists corpus settings) :
    ∃ targets : List Nat,
      run.trainLabels.mapM (Forest.classNumber (Labels.distinct run.trainLabels)) =
        .ok targets ∧
      targets.length = run.trainFeatures.length ∧
      (Forest.samples run.trainFeatures.length settings.forest.estimators.toNat
          (.ofSeed settings.forest.seed)).mapM
        (Estimator.train
          (ClassModel.trainedSettings run.classifier.vectorizer.width settings.forest)
          run.trainFeatures.toArray targets.toArray (Labels.distinct run.trainLabels).length) =
        .ok run.classifier.forest.estimators := by
  rcases h.forest_eq with ⟨forest, hforest, heq⟩
  rcases Forest.of_fit hforest with ⟨targets, estimators, htargets, hsize, hestimators, rfl⟩
  rw [heq]
  exact ⟨targets, htargets, hsize, hestimators⟩

/--
The trees of a trained classifier keep to the limits of its settings on the rows that
they were trained on, each row counted once.  No node lies deeper than it may.  Some row
comes to every node but the root, which is all that a leaf has to hold by default, and
more rows than a leaf has to hold come to a split and part there.
-/
theorem limits_of_train [LawfulLogarithm] (h : train corpus settings = .ok run) :
    List.Forall₂ (fun (sample : List DrawnRow) (e : Estimator) =>
        (sample.map DrawnRow.row).Nodup ∧
        forall m, m ∈ e.models -> ∃ bias tree,
          m = .ofTree
            (ClassModel.trainedSettings run.classifier.vectorizer.width settings.forest)
            bias tree ∧
          tree.Limited settings.forest.maxDepth.toNat settings.forest.minLeafSize.toNat
            run.trainFeatures.toArray (sample.map DrawnRow.row))
      (Forest.samples run.trainFeatures.length settings.forest.estimators.toNat
        (.ofSeed settings.forest.seed))
      run.classifier.forest.estimators := by
  have hparts := (TrainingRun.parts_of_train h).2.2
  rcases hparts.exists_targets with ⟨targets, _, hsize, hestimators⟩
  have hall := (List.forall₂_and_left _ _).mpr
    ⟨fun sample => Forest.exists_generator_of_mem_samples,
      Attempts.forall₂_of_mapM_eq_ok hestimators⟩
  refine hall.imp fun sample e => ?_
  rintro ⟨⟨g, rfl⟩, hsample⟩
  refine ⟨nodup_drawnRows _ _, fun m hm => ?_⟩
  rcases Estimator.limited_of_train hsample
    (fun x hx => hparts.of_mem_trainFeatures (List.mem_toArray.mp hx)) hsize hm with
      ⟨bias, tree, hm, hlimited⟩
  exact ⟨bias, tree, hm,
    { hlimited with
      depth := fun steps node hnode =>
        (hlimited.depth steps node hnode).trans (ClassModel.maxDepth_trainedSettings_le _ _) }⟩

end Trained

theorem limits_of_train_twoLabels :
    ∃ run, @train logarithmOfFiveQuarters Corpus.twoLabels .small = .ok run ∧
      List.Forall₂ (fun (sample : List DrawnRow) (e : Estimator) =>
        (sample.map DrawnRow.row).Nodup ∧
        forall m, m ∈ e.models -> ∃ bias tree,
          m = .ofTree
            (ClassModel.trainedSettings run.classifier.vectorizer.width
              TrainingSettings.small.forest)
            bias tree ∧
          tree.Limited 20 1 run.trainFeatures.toArray (sample.map DrawnRow.row))
      (Forest.samples run.trainFeatures.length 2 (.ofSeed 42)) run.classifier.forest.estimators := by
  rcases exists_run_twoLabels with ⟨run, hrun⟩
  exact ⟨run, hrun, @limits_of_train logarithmOfFiveQuarters _ _ _
    lawful_logarithmOfFiveQuarters hrun⟩

def Corpus.threeLabels : Corpus :=
  .ofPairs [("a", "x"), ("a", "x"), (";", "y"), (";", "y"), (";;", "z"), (";;", "z")]

def TrainingSettings.pairs : TrainingSettings where
  vectorizer := { leastWindow := 3, mostWindow := 3 }
  forest := { estimators := 1, minLeafSize := 2, seed := 2 }

theorem TermStatistics.ofDocuments_eq_nil {s : VectorizerSettings} {documents : List String}
    (h : forall d, d ∈ documents -> s.terms d = []) : ofDocuments s documents = [] := by
  have hcounts : (documents.flatMap fun d => counts (s.terms d)) = [] := by
    apply List.flatMap_eq_nil_iff.mpr
    intro d hd
    rw [h d hd]
    simp [counts]
  unfold ofDocuments
  rw [hcounts, List.mergeSort_nil]
  rfl

theorem checks_threeLabels : TrainingSettings.pairs.check = .ok () ∧
    Corpus.threeLabels.check = .ok () ∧ Split.Divisible Corpus.threeLabels.labels := by
  refine ⟨by decide, by decide, ?_⟩
  constructor
  · decide
  · decide

theorem split_threeLabels : Split.stratified Corpus.threeLabels.labels
    TrainingSettings.pairs.testShare TrainingSettings.pairs.splitSeed =
      .ok ⟨[1, 3, 4], [0, 2, 5]⟩ := by
  have hparts : Split.draw TrainingSettings.pairs.testShare
      ((Labels.distinct Corpus.threeLabels.labels).map fun label =>
        Labels.positions label Corpus.threeLabels.labels)
      (.ofSeed TrainingSettings.pairs.splitSeed) = [([0], [1]), ([2], [3]), ([5], [4])] := by
    decide
  rw [Split.stratified_eq checks_threeLabels.2.2, hparts]
  simp [Split.ascending, List.mergeSort_of_pairwise]

theorem terms_threeLabels :
    TermStatistics.best TrainingSettings.pairs.vectorizer.maxFeatures.toNat
      (TermStatistics.ofDocuments TrainingSettings.pairs.vectorizer Corpus.threeLabels.codes) =
        [] := by
  rw [TermStatistics.ofDocuments_eq_nil (by decide)]
  simp [TermStatistics.best]

def semicolonFeatures : List (Array Float32) :=
  [#[0, 0, 0, 0, 0, 0, 0, 0], #[0, 0, 0, 0, 1, 0, 0, 0], #[0, 0, 0, 0, 2, 0, 0, 0]]

theorem parts_threeLabels {run : TrainingRun}
    (h : @TrainingRun.Consists logarithmOfFiveQuarters Corpus.threeLabels .pairs run) :
    run.classifier.vectorizer.width = 8 ∧ run.trainFeatures = semicolonFeatures ∧
      run.trainLabels = ["x", "y", "z"] := by
  have hfit := @Vectorizer.eq_ofTerms_of_fit logarithmOfFiveQuarters _ _ _
    (@TrainingRun.Consists.fit_eq logarithmOfFiveQuarters _ _ _ h)
  rw [terms_threeLabels] at hfit
  have hsplit := @TrainingRun.Consists.split_eq_of_stratified logarithmOfFiveQuarters _ _ _ h _
    split_threeLabels
  have hall := @TrainingRun.Consists.features_eq logarithmOfFiveQuarters _ _ _ h
  have hlabels := @TrainingRun.Consists.trainLabels_eq logarithmOfFiveQuarters _ _ _ h
  have hfeatures := @TrainingRun.Consists.trainFeatures_eq logarithmOfFiveQuarters _ _ _ h
  rw [hsplit] at hlabels hfeatures
  rw [hfit] at hall ⊢
  have hassembled : TrainingRun.assembleAll
      (@Vectorizer.ofTerms logarithmOfFiveQuarters TrainingSettings.pairs.vectorizer
        Corpus.threeLabels.codes.length []) Corpus.threeLabels.codes =
        .ok (semicolonFeatures.flatMap fun x => [x, x]).toArray := by
    decide +kernel
  rw [hassembled] at hall
  injection hall with hall
  rw [← hall] at hfeatures
  refine ⟨rfl, ?_, ?_⟩
  · injection hfeatures with hfeatures
    exact hfeatures.symm
  · injection hlabels with hlabels
    exact hlabels.symm

theorem columns_semicolonFeatures :
    sortedColumns semicolonFeatures.toArray 8 [0, 1, 2] = List.replicate 8 [0, 1, 2] := by
  apply List.map_congr_left (g := fun _ => [0, 1, 2])
  intro feature hfeature
  apply List.mergeSort_of_pairwise
  revert feature
  decide

theorem samples_threeLabels :
    Forest.samples semicolonFeatures.length TrainingSettings.pairs.forest.estimators.toNat
      (.ofSeed TrainingSettings.pairs.forest.seed) = [[⟨0, 1⟩, ⟨1, 1⟩, ⟨2, 1⟩]] := by
  decide

def semicolonTree : GrownTree :=
  .split 4 0.5 (.ofBits 0xb2aaaaab) (.leaf (.ofBits 0x3f2aaaaa)) (.leaf (.ofBits 0xbeaaaaab))

theorem classModel_semicolonFeatures :
    Estimator.classModel (ClassModel.trainedSettings 8 TrainingSettings.pairs.forest)
        semicolonFeatures.toArray #[0, 1, 2] [⟨0, 1⟩, ⟨1, 1⟩, ⟨2, 1⟩]
        (List.replicate 8 [0, 1, 2]) 0 =
      .ofTree (ClassModel.trainedSettings 8 TrainingSettings.pairs.forest) (.ofBits 0x3eaaaaab)
        semicolonTree := by
  have hlevels : (ClassModel.trainedSettings 8 TrainingSettings.pairs.forest).maxDepth.toNat =
      19 + 1 := by
    rfl
  unfold Estimator.classModel
  dsimp only
  rw [hlevels, TrainingRows.grow, List.mergeSort_of_pairwise (by decide)]
  decide +kernel

theorem estimators_threeLabels {run : TrainingRun}
    (h : @TrainingRun.Consists logarithmOfFiveQuarters Corpus.threeLabels .pairs run) :
    run.classifier.forest.estimators =
      [⟨(List.range 3).map (Estimator.classModel
        (ClassModel.trainedSettings 8 TrainingSettings.pairs.forest) semicolonFeatures.toArray
        #[0, 1, 2] [⟨0, 1⟩, ⟨1, 1⟩, ⟨2, 1⟩] (List.replicate 8 [0, 1, 2]))⟩] := by
  rcases parts_threeLabels h with ⟨hwidth, hfeatures, hlabels⟩
  rcases @TrainingRun.Consists.forest_eq logarithmOfFiveQuarters _ _ _ h with
    ⟨forest, hforest, heq⟩
  have hclasses : Labels.distinct ["x", "y", "z"] = ["x", "y", "z"] := by decide
  have htargets : ["x", "y", "z"].mapM (Forest.classNumber ["x", "y", "z"]) = .ok [0, 1, 2] := by
    decide +kernel
  rw [hwidth, hfeatures, hlabels] at hforest
  rw [heq]
  show forest.estimators = _
  rw [Forest.estimators_of_fit hforest (by rw [hclasses]; exact htargets) samples_threeLabels,
    hclasses]
  show [Estimator.mk (List.map (Estimator.classModel _ _ _ _
    (sortedColumns semicolonFeatures.toArray 8 [0, 1, 2])) _)] = _
  rw [columns_semicolonFeatures]
  rfl

/--
A leaf may have fewer rows than it has to hold: three rows are more than two, so they are
divided, and one of them is left alone.
-/
theorem leaf_below_limit :
    ∃ run, @train logarithmOfFiveQuarters Corpus.threeLabels .pairs = .ok run ∧
      ∃ sample e m tree bias steps mean,
        (sample, e) ∈ (Forest.samples run.trainFeatures.length
          TrainingSettings.pairs.forest.estimators.toNat
          (.ofSeed TrainingSettings.pairs.forest.seed)).zip run.classifier.forest.estimators ∧
        m ∈ e.models ∧
        m = .ofTree (ClassModel.trainedSettings run.classifier.vectorizer.width
          TrainingSettings.pairs.forest) bias tree ∧
        tree.node? steps = some (.leaf mean) ∧ steps ≠ [] ∧
        tree.reached run.trainFeatures.toArray (sample.map DrawnRow.row) steps <
          TrainingSettings.pairs.forest.minLeafSize.toNat := by
  rcases @exists_run_of_checks logarithmOfFiveQuarters lawful_logarithmOfFiveQuarters _ _
    checks_threeLabels.1 checks_threeLabels.2.1 checks_threeLabels.2.2 (by decide) with ⟨run, hrun⟩
  have hparts := (@TrainingRun.parts_of_train logarithmOfFiveQuarters _ _ _ hrun).2.2
  rcases parts_threeLabels hparts with ⟨hwidth, hfeatures, _⟩
  refine ⟨run, hrun, ?_⟩
  rw [hfeatures, hwidth, samples_threeLabels, estimators_threeLabels hparts]
  refine ⟨_, _, _, semicolonTree, _, [.left], _, List.mem_cons_self, List.mem_cons_self,
    classModel_semicolonFeatures, rfl, List.cons_ne_nil _ _, ?_⟩
  decide

end Polyglot
