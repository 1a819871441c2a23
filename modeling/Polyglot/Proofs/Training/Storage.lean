import Polyglot.Proofs.Bundle.RoundTrip
import Polyglot.Proofs.Growth
import Polyglot.Proofs.Training.Prediction

/-!
# Storage of trained classifiers

A trained classifier can be saved and loaded, and loading gives the same
classifier, whatever its terms and labels contain.
-/

namespace Polyglot

def ClassModel.singles (m : ClassModel) : List Float32 :=
  m.bias :: m.trees.flatMap fun t => t.nodes.toList.flatMap fun n => [n.threshold, n.prediction]

def Classifier.singles (c : Classifier) : List Float32 :=
  c.vectorizer.weights.toList ++
    c.forest.estimators.flatMap fun e => e.models.flatMap ClassModel.singles

theorem ClassModel.mem_singles_of_node {m : ClassModel} {t : ModelTree} (ht : t ∈ m.trees)
    {n : Node} (hn : n ∈ t.nodes) : n.threshold ∈ m.singles ∧ n.prediction ∈ m.singles := by
  have hnode : forall x, x ∈ [n.threshold, n.prediction] -> x ∈ m.singles := by
    intro x hx
    apply List.mem_cons_of_mem
    exact List.mem_flatMap.mpr ⟨t, ht, List.mem_flatMap.mpr ⟨n, Array.mem_toList_iff.mpr hn, hx⟩⟩
  exact ⟨hnode _ List.mem_cons_self, hnode _ (List.mem_cons_of_mem _ List.mem_cons_self)⟩

/-!
## Trained models
-/

namespace ClassModel

theorem keepsSingle_one : Json.KeepsSingle 1 := by
  unfold Json.KeepsSingle
  decide +kernel

theorem keepsDouble_one : Json.KeepsDouble 1 := by
  unfold Json.KeepsDouble
  decide +kernel

theorem storable_trainedSettings {width : Nat} (s : ForestSettings) (hwidth : width < UInt64.size) :
    (trainedSettings width s).Storable := by
  constructor
  · exact hwidth
  · show 1 < UInt64.size
    decide
  · exact keepsSingle_one
  · exact keepsDouble_one
  · exact keepsDouble_one
  · exact s.minLeafSize.toNat_lt_size

theorem fits_stored {tree : GrownTree} {width : Nat} (hwidth : width < UInt64.size)
    (hfeatures : tree.FeaturesBelow width) (hsize : tree.size < UInt64.size) {n : Node}
    (hn : n ∈ tree.stored) : n.Fits := by
  rcases GrownTree.bounds_of_mem_nodesFrom hfeatures (List.mem_toArray.mp hn) with
    ⟨hfeature, hmissing, hindex, hleft, hright⟩
  rw [Nat.zero_add] at hindex hleft hright
  constructor
  · exact Nat.lt_of_le_of_lt hfeature hwidth
  · rw [hmissing]
    decide
  · rw [hmissing]
    decide
  · exact Nat.lt_trans hindex hsize
  · exact Nat.lt_trans hleft hsize
  · exact Nat.lt_trans hright hsize

theorem IsTrained.fits {width : Nat} {s : ForestSettings} {m : ClassModel}
    (h : m.IsTrained (trainedSettings width s)) (hwidth : width < UInt64.size)
    (hsize : forall t, t ∈ m.trees -> t.nodes.size < UInt64.size) : m.Fits := by
  rcases h with ⟨bias, tree, rfl, hfeatures⟩
  have hsettings := storable_trainedSettings s hwidth
  constructor
  · exact hsettings
  · intro t ht
    have hnodes := hsize t ht
    rcases List.mem_singleton.mp ht with rfl
    rw [GrownTree.size_stored] at hnodes
    constructor
    · exact fun n hn => fits_stored hwidth hfeatures hnodes hn
    · exact hwidth
    · exact hsettings.minLeafSize
    · exact hsettings.featureShare

theorem Fits.storable {m : ClassModel} (h : m.Fits)
    (hkept : forall x, x ∈ m.singles -> Json.KeepsSingle x) : m.Storable := by
  constructor
  · exact h.settings
  · intro t ht
    have htree := h.trees t ht
    constructor
    · intro n hn
      have hsingles := mem_singles_of_node ht hn
      exact (htree.nodes n hn).storable (hkept _ hsingles.1) (hkept _ hsingles.2)
    · exact htree.featureSize
    · exact htree.minLeafSize
    · exact htree.featureShare
  · exact hkept m.bias List.mem_cons_self

end ClassModel

namespace Estimator

theorem size_lt_of_train {settings : ModelSettings} {features : Array (Array Float32)}
    {targets : Array Nat} {classes n : Nat} {draws : List Nat} {e : Estimator}
    (h : train settings features targets classes (drawnRows n draws) = .ok e) {m : ClassModel}
    (hm : m ∈ e.models) {t : ModelTree} (ht : t ∈ m.trees) : t.nodes.size < 2 * max 1 n := by
  rw [eq_of_train h] at hm
  rcases List.mem_map.mp hm with ⟨cls, _, rfl⟩
  rcases List.mem_singleton.mp ht with rfl
  rw [GrownTree.size_stored]
  have hrows := length_drawnRows_le n draws
  apply Nat.lt_of_lt_of_le (TrainingRows.size_grow_lt _ _ _ _ fun column hcolumn =>
    nodup_of_mem_sortedColumns (nodup_drawnRows n draws) hcolumn)
  omega

end Estimator

/-!
## Trained classifiers
-/

section Trained

variable [Logarithm] {corpus : Corpus} {settings : TrainingSettings} {run : TrainingRun}

theorem Vectorizer.column_lt_of_fit {s : VectorizerSettings} {documents : List String}
    {v : Vectorizer} (h : fit s documents = .ok v) {e : String × Nat}
    (he : e ∈ v.vocabulary.entries) : e.2 < UInt64.size := by
  have hstatistics := TermStatistics.ascending_ofDocuments s documents
  have hascending := TermStatistics.ascending_best s.maxFeatures.toNat hstatistics
  have hlength := TermStatistics.length_best_le s.maxFeatures.toNat
    (TermStatistics.ofDocuments s documents)
  rw [eq_ofTerms_of_fit h] at he
  change e ∈ (Vocabulary.ofList _).entries at he
  rw [Vocabulary.entries_ofList_zipIdx (List.pairwise_map.mpr hascending)] at he
  have hcolumn := (List.mem_zipIdx' he).1
  rw [List.length_map] at hcolumn
  exact Nat.lt_trans (Nat.lt_of_lt_of_le hcolumn hlength) s.maxFeatures.toNat_lt_size

namespace TrainingRun.Consists

theorem storable_vectorizer (h : run.Consists corpus settings)
    (hkept : forall x, x ∈ run.classifier.singles -> Json.KeepsSingle x) :
    run.classifier.vectorizer.Storable := by
  constructor
  · exact fun e he => Vectorizer.column_lt_of_fit h.fit_eq he
  · intro w hw
    exact hkept w (List.mem_append_left _ (Array.mem_toList_iff.mpr hw))

theorem length_trainFeatures_le (h : run.Consists corpus settings) :
    run.trainFeatures.length ≤ corpus.size := by
  have hrows := h.stratifies.length_add_length
  have hlabels : corpus.labels.length = corpus.size := List.length_map _
  rw [Attempts.length_of_mapM_eq_ok h.trainFeatures_eq]
  omega

theorem fits_forest (h : run.Consists corpus settings) (hcorpus : corpus.size < 2 ^ 63)
    (hwidth : run.classifier.vectorizer.width < UInt64.size) : run.classifier.forest.Fits := by
  have hrows := h.length_trainFeatures_le
  constructor
  · rw [h.isTrained.width_eq]
    exact hwidth
  · intro e he m hm
    apply ((h.isTrained.estimators he).2 m hm).fits hwidth
    intro t ht
    rcases h.isTrained.sampled e he with ⟨targets, g, hsample⟩
    have hword : UInt64.size = 2 ^ 64 := rfl
    have hsize := Estimator.size_lt_of_train hsample hm ht
    rw [@List.size_toArray _ run.trainFeatures] at hsize
    omega

theorem storable_forest (h : run.Consists corpus settings) (hcorpus : corpus.size < 2 ^ 63)
    (hwidth : run.classifier.vectorizer.width < UInt64.size)
    (hkept : forall x, x ∈ run.classifier.singles -> Json.KeepsSingle x) :
    run.classifier.forest.Storable := by
  have hfits := h.fits_forest hcorpus hwidth
  refine ⟨hfits.width, fun e he m hm => (hfits.models e he m hm).storable fun x hx => ?_⟩
  apply hkept x
  apply List.mem_append_right
  exact List.mem_flatMap.mpr ⟨e, he, List.mem_flatMap.mpr ⟨m, hm, hx⟩⟩

theorem fingerprint_eq (h : run.Consists corpus settings) :
    run.classifier.forest.fingerprint = run.classifier.fingerprint := by
  rcases h.forest_eq with ⟨forest, _, heq⟩
  rw [heq]
  rfl

end TrainingRun.Consists

/--
A trained classifier whose numbers are finite is read from its bundle, and from
every file that it has been saved to, exactly as it was.  The text of a finite
number is taken to be read as that number, and sizes to be machine words: a corpus
in memory has fewer than `2 ^ 63` samples.
-/
theorem load_of_train (h : train corpus settings = .ok run) (hcorpus : corpus.size < 2 ^ 63)
    (hwidth : run.classifier.vectorizer.width < UInt64.size)
    (hfinite : forall x, x ∈ run.classifier.singles -> x.isFinite = true)
    (hkept : forall x, x ∈ run.classifier.singles -> x.isFinite = true -> Json.KeepsSingle x) :
    Bundle.read (Bundle.write run.classifier) = .ok run.classifier ∧
      forall path before after,
        (Bundle.save run.classifier path : StateM Workspace _) before = (.ok (), after) ->
          ((Bundle.load path : StateM Workspace _) after).1 = .ok run.classifier := by
  rcases TrainingRun.parts_of_train h with ⟨_, _, hparts⟩
  have hnumbers : forall x, x ∈ run.classifier.singles -> Json.KeepsSingle x :=
    fun x hx => hkept x hx (hfinite x hx)
  have hread : Bundle.read (Bundle.write run.classifier) = .ok run.classifier := by
    apply Bundle.read_write
    · exact hparts.storable_vectorizer hnumbers
    · exact hparts.storable_forest hcorpus hwidth hnumbers
    · exact hparts.fingerprint_eq
    · exact hparts.isTrained.width_eq
  exact ⟨hread, fun _ _ _ hsave => Bundle.load_of_save hread hsave⟩

end Trained

def Corpus.quoted : Corpus :=
  .ofPairs [("\"\n", "\\"), ("\"\n", "\\"), ("\"\n", "λ"), ("c", "λ")]

def TrainingSettings.leaves : TrainingSettings where
  vectorizer := { leastWindow := 2, mostWindow := 2 }
  forest := { estimators := 1, minLeafSize := 9 }

theorem checks_quoted : TrainingSettings.leaves.check = .ok () ∧ Corpus.quoted.check = .ok () ∧
    Split.Divisible Corpus.quoted.labels := by
  refine ⟨by decide, by decide, ?_⟩
  constructor
  · decide
  · decide

theorem split_quoted : Split.stratified Corpus.quoted.labels TrainingSettings.leaves.testShare
    TrainingSettings.leaves.splitSeed = .ok ⟨[1, 3], [0, 2]⟩ := by
  have hparts : Split.draw TrainingSettings.leaves.testShare
      ((Labels.distinct Corpus.quoted.labels).map fun label =>
        Labels.positions label Corpus.quoted.labels)
      (.ofSeed TrainingSettings.leaves.splitSeed) = [([0], [1]), ([2], [3])] := by
    decide
  rw [Split.stratified_eq checks_quoted.2.2, hparts]
  simp [Split.ascending, List.mergeSort_of_pairwise]

theorem terms_quoted : TermStatistics.best TrainingSettings.leaves.vectorizer.maxFeatures.toNat
    (TermStatistics.ofDocuments TrainingSettings.leaves.vectorizer Corpus.quoted.codes) =
      [⟨"\"\n", 3, 3⟩] := by
  have hterms : Corpus.quoted.codes.map TrainingSettings.leaves.vectorizer.terms =
      [["\"\n"], ["\"\n"], ["\"\n"], []] := by
    decide
  have hcounts : Corpus.quoted.codes.flatMap
      (fun d => TermStatistics.counts (TrainingSettings.leaves.vectorizer.terms d)) =
        [("\"\n", 1), ("\"\n", 1), ("\"\n", 1)] := by
    rw [← List.flatMap_map (f := TrainingSettings.leaves.vectorizer.terms), hterms]
    simp [TermStatistics.counts, TermStatistics.addOccurrence]
  unfold TermStatistics.ofDocuments
  rw [hcounts, List.mergeSort_of_pairwise (by decide)]
  simp [TermStatistics.best, TermStatistics.addDocument, TrainingSettings.leaves]

theorem Estimator.singles_classModel {settings : ModelSettings}
    {features : Array (Array Float32)} {targets : Array Nat} {rows : List DrawnRow}
    {columns : List (List Nat)} {cls : Nat} (h : rows.length ≤ settings.minLeafSize) :
    (classModel settings features targets rows columns cls).singles =
      (classModel settings #[] targets rows [] cls).singles := by
  unfold classModel
  cases settings.maxDepth.toNat with
  | zero => rfl
  | succ levels =>
      simp only [TrainingRows.grow, List.length_map, h, decide_true, Bool.or_true, ↓reduceIte]
      rfl

theorem vectorizer_quoted {run : TrainingRun}
    (h : @TrainingRun.Consists logarithmOfFiveQuarters Corpus.quoted .leaves run) :
    run.classifier.vectorizer.weights = #[.ofBits 0x3f9c8ff8] ∧
      run.classifier.vectorizer.width = 9 := by
  have hfit := @Vectorizer.eq_ofTerms_of_fit logarithmOfFiveQuarters _ _ _
    (@TrainingRun.Consists.fit_eq logarithmOfFiveQuarters _ _ _ h)
  rw [terms_quoted] at hfit
  rw [hfit]
  constructor
  · decide +kernel
  · decide +kernel

theorem forest_quoted {features : Array (Array Float32)} {f : Forest} (hsize : features.size = 2)
    (h : Forest.fit TrainingSettings.leaves.forest 9 features ["\\", "λ"] = .ok f) :
    (f.estimators.flatMap fun e => e.models.flatMap ClassModel.singles) =
      [0.5, 0, 0, 0.5, 0, 0] := by
  have hclasses : Labels.distinct ["\\", "λ"] = ["\\", "λ"] := by decide
  have htargets : ["\\", "λ"].mapM (Forest.classNumber ["\\", "λ"]) = .ok [0, 1] := by
    decide +kernel
  have hsample : Forest.samples 2 TrainingSettings.leaves.forest.estimators.toNat
      (.ofSeed TrainingSettings.leaves.forest.seed) = [[⟨0, 1⟩, ⟨1, 1⟩]] := by
    decide
  have hfirst : (Estimator.classModel (ClassModel.trainedSettings 9 TrainingSettings.leaves.forest)
      #[] #[0, 1] [⟨0, 1⟩, ⟨1, 1⟩] [] 0).singles = [0.5, 0, 0] := by
    decide +kernel
  have hsecond : (Estimator.classModel (ClassModel.trainedSettings 9 TrainingSettings.leaves.forest)
      #[] #[0, 1] [⟨0, 1⟩, ⟨1, 1⟩] [] 1).singles = [0.5, 0, 0] := by
    decide +kernel
  rw [← hsize] at hsample
  rw [Forest.estimators_of_fit h (by rw [hclasses]; exact htargets) hsample, hclasses]
  show (Estimator.classModel _ _ _ _ _ 0).singles ++
    ((Estimator.classModel _ _ _ _ _ 1).singles ++ []) ++ [] = _
  rw [Estimator.singles_classModel (by decide), hfirst,
    Estimator.singles_classModel (by decide), hsecond]
  rfl

theorem singles_quoted {run : TrainingRun}
    (h : @TrainingRun.Consists logarithmOfFiveQuarters Corpus.quoted .leaves run) :
    run.classifier.singles = [.ofBits 0x3f9c8ff8, 0.5, 0, 0, 0.5, 0, 0] := by
  rcases vectorizer_quoted h with ⟨hweights, hwidth⟩
  rcases @TrainingRun.Consists.forest_eq logarithmOfFiveQuarters _ _ _ h with
    ⟨forest, hforest, heq⟩
  have hsplit := @TrainingRun.Consists.split_eq_of_stratified logarithmOfFiveQuarters _ _ _ h _
    split_quoted
  have hlabels := @TrainingRun.Consists.trainLabels_eq logarithmOfFiveQuarters _ _ _ h
  have hfeatures := @TrainingRun.Consists.trainFeatures_eq logarithmOfFiveQuarters _ _ _ h
  rw [hsplit] at hlabels hfeatures
  have hsize : run.trainFeatures.toArray.size = 2 :=
    Attempts.length_of_mapM_eq_ok hfeatures
  have hnames : run.trainLabels = ["\\", "λ"] := by
    injection hlabels with hlabels
    exact hlabels.symm
  rw [hwidth, hnames] at hforest
  rw [Classifier.singles, hweights, heq]
  show [_] ++ (forest.estimators.flatMap fun e => e.models.flatMap ClassModel.singles) = _
  rw [forest_quoted hsize hforest]
  rfl

theorem load_of_train_quoted :
    ∃ run, @train logarithmOfFiveQuarters Corpus.quoted .leaves = .ok run ∧
      Bundle.read (Bundle.write run.classifier) = .ok run.classifier := by
  rcases @exists_run_of_checks logarithmOfFiveQuarters lawful_logarithmOfFiveQuarters _ _
    checks_quoted.1 checks_quoted.2.1 checks_quoted.2.2 (by decide) with ⟨run, hrun⟩
  have hparts := (@TrainingRun.parts_of_train logarithmOfFiveQuarters _ _ _ hrun).2.2
  have hsingles := singles_quoted hparts
  have hwidth : run.classifier.vectorizer.width < UInt64.size := by
    rw [(vectorizer_quoted hparts).2]
    decide
  have hfinite : forall x, x ∈ run.classifier.singles -> x.isFinite = true := by
    rw [hsingles]
    decide +kernel
  have hkept : forall x, x ∈ run.classifier.singles -> x.isFinite = true ->
      Json.KeepsSingle x := by
    rw [hsingles]
    unfold Json.KeepsSingle
    decide +kernel
  exact ⟨run, hrun, (@load_of_train logarithmOfFiveQuarters _ _ run hrun (by decide) hwidth
    hfinite hkept).1⟩

end Polyglot
