import Polyglot.Proofs.Fitting
import Polyglot.Proofs.Json.Readable
import Polyglot.Proofs.Training.Magnitudes

/-!
# Reloading trained classifiers

The bundle of a classifier that was trained on a corpus of moderate size is accepted.
The numbers of its trees are finite, so they are read as numbers, and only the weights
have to be read as the very numbers that were written: the fingerprint depends on them.
-/

namespace Polyglot

open Json Polyglot.Bundle

theorem ModelTree.Fits.exists_tree? {t : ModelTree} (h : t.Fits)
    (hfinite : forall n, n ∈ t.nodes ->
      n.threshold.isFinite = true ∧ n.prediction.isFinite = true) :
    ∃ read, tree? (treeJson t) = some read := by
  have hnodes : ∃ nodes, (ofList nodeJson t.nodes.toList).list? node? = some nodes := by
    apply exists_list?_ofList
    intro n hn
    have hmem := Array.mem_toList_iff.mp hn
    rcases exists_float32?_ofFloat32 (hfinite n hmem).1 with ⟨threshold, hthreshold⟩
    rcases exists_float32?_ofFloat32 (hfinite n hmem).2 with ⟨prediction, hprediction⟩
    exact ⟨_, node?_of_numbers (h.nodes n hmem) hthreshold hprediction⟩
  rcases hnodes with ⟨nodes, hnodes⟩
  exact ⟨_, tree?_of_nodes hnodes h.featureSize h.minLeafSize h.featureShare⟩

theorem ClassModel.Fits.exists_model? {m : ClassModel} (h : m.Fits)
    (hfinite : forall x, x ∈ m.singles -> x.isFinite = true) :
    ∃ read, model? (modelJson m) = some read := by
  have htrees : ∃ trees, (ofList treeJson m.trees).list? tree? = some trees := by
    apply exists_list?_ofList
    intro t ht
    apply (h.trees t ht).exists_tree?
    intro n hn
    have hsingles := mem_singles_of_node ht hn
    exact ⟨hfinite _ hsingles.1, hfinite _ hsingles.2⟩
  rcases htrees with ⟨trees, htrees⟩
  rcases exists_float32?_ofFloat32 (hfinite m.bias List.mem_cons_self) with ⟨bias, hbias⟩
  exact ⟨_, model?_of_trees h.settings htrees hbias⟩

theorem Forest.Fits.exists_forest? {f : Forest} (h : f.Fits)
    (hfinite : forall e, e ∈ f.estimators -> forall m, m ∈ e.models -> forall x, x ∈ m.singles ->
      x.isFinite = true) :
    ∃ read, forest? (forestJson f) = some read ∧ read.fingerprint = f.fingerprint ∧
      read.width = f.width := by
  have hestimators : ∃ estimators,
      (ofList estimatorJson f.estimators).list? estimator? = some estimators := by
    apply exists_list?_ofList
    intro e he
    have hmodels : ∃ models, (ofList modelJson e.models).list? model? = some models :=
      exists_list?_ofList fun m hm => (h.models e he m hm).exists_model? (hfinite e he m hm)
    rcases hmodels with ⟨models, hmodels⟩
    exact ⟨_, estimator?_of_models hmodels⟩
  rcases hestimators with ⟨estimators, hestimators⟩
  exact ⟨_, forest?_of_estimators h.width hestimators, rfl, rfl⟩

/-- What has been written is accepted, though the trees may come back with other numbers. -/
theorem Bundle.exists_read_write {c : Classifier} (hvectorizer : c.vectorizer.Storable)
    (hforest : c.forest.Fits) (hfinite : forall x, x ∈ c.singles -> x.isFinite = true)
    (hfingerprint : c.forest.fingerprint = c.fingerprint)
    (hwidth : c.forest.width = c.vectorizer.width) :
    ∃ accepted, read (write c) = .ok accepted ∧ accepted.vectorizer = c.vectorizer := by
  have hmodels : forall e, e ∈ c.forest.estimators -> forall m, m ∈ e.models ->
      forall x, x ∈ m.singles -> x.isFinite = true := by
    intro e he m hm x hx
    apply hfinite x
    apply List.mem_append_right
    exact List.mem_flatMap.mpr ⟨e, he, List.mem_flatMap.mpr ⟨m, hm, hx⟩⟩
  rcases hforest.exists_forest? hmodels with ⟨forest, hread, hsame, hsameWidth⟩
  refine ⟨⟨c.vectorizer, forest⟩, ?_, rfl⟩
  unfold read write
  rw [parse_print (spelled_json _ _ _), Option.bind_some, parts?_of_forest _ hvectorizer hread]
  exact assemble_eq_ok (hsame.trans hfingerprint) (hsameWidth.trans hwidth)

section Fitting

variable [Logarithm] {s : VectorizerSettings} {documents : List String} {v : Vectorizer}

namespace Vectorizer

theorem exists_weight_of_fit (h : fit s documents = .ok v) {w : Float32} (hw : w ∈ v.weights) :
    ∃ n, n ≤ documents.length ∧ w = weight documents.length n := by
  have hleast := one_le_of_fit h
  rw [eq_ofTerms_of_fit h] at hw
  rcases List.mem_map.mp (List.mem_toArray.mp hw) with ⟨t, ht, rfl⟩
  have hmem : t ∈ TermStatistics.ofDocuments s documents :=
    (TermStatistics.ranking_perm _).mem_iff.mp
      (List.mem_of_mem_take ((TermStatistics.best_perm _ _).mem_iff.mp ht))
  refine ⟨t.documents, ?_, rfl⟩
  rw [TermStatistics.eq_counted hleast hmem]
  exact List.countP_le_length

theorem width_le_of_fit (h : fit s documents = .ok v) : v.width ≤ s.maxFeatures.toNat + 8 := by
  rw [eq_ofTerms_of_fit h]
  have hlength := TermStatistics.length_best_le s.maxFeatures.toNat
    (TermStatistics.ofDocuments s documents)
  have hascending := TermStatistics.ascending_best s.maxFeatures.toNat
    (TermStatistics.ascending_ofDocuments s documents)
  show (Vocabulary.ofList _).size + 8 ≤ _
  rw [Vocabulary.size, Vocabulary.entries_ofList_zipIdx (List.pairwise_map.mpr hascending),
    List.length_zipIdx, List.length_map]
  omega

end Vectorizer

end Fitting

/--
The bundle of a trained classifier is accepted, for every corpus of at most `2 ^ 14`
samples, if the weights that its terms can have are read as they are written.
-/
theorem exists_read_of_train [Logarithm] [LawfulLogarithm] {corpus : Corpus}
    {settings : TrainingSettings} {run : TrainingRun} (h : train corpus settings = .ok run)
    (hcorpus : corpus.size ≤ 2 ^ 14) (hwidth : settings.vectorizer.maxFeatures.toNat + 8 < UInt64.size)
    (hkept : forall n, n ≤ corpus.size -> KeepsSingle (Vectorizer.weight corpus.size n)) :
    ∃ accepted, Bundle.read (Bundle.write run.classifier) = .ok accepted ∧
      accepted.vectorizer = run.classifier.vectorizer := by
  have hparts := (TrainingRun.parts_of_train h).2.2
  have hdocuments : corpus.codes.length = corpus.size := List.length_map _
  have hstorable : run.classifier.vectorizer.Storable := by
    constructor
    · exact fun e he => Vectorizer.column_lt_of_fit hparts.fit_eq he
    · intro w hw
      rcases Vectorizer.exists_weight_of_fit hparts.fit_eq hw with ⟨n, hn, rfl⟩
      rw [hdocuments] at hn ⊢
      exact hkept n hn
  apply Bundle.exists_read_write hstorable
  · apply hparts.fits_forest (by omega)
    exact lt_of_le_of_lt (Vectorizer.width_le_of_fit hparts.fit_eq) hwidth
  · exact fun x hx => finite_of_train h hcorpus hx
  · exact hparts.fingerprint_eq
  · exact hparts.isTrained.width_eq

end Polyglot
