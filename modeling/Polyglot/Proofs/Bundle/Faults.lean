import Polyglot.Proofs.Descent
import Polyglot.Proofs.Training.Storage

/-!
# Faults of loaded classifiers

Reading a bundle makes sure of the fingerprints and of the number of features,
but not of the columns of the terms, of the number of trees of a model, or of
the nodes of the trees, which a prediction relies on as well.  The main
statement says exactly when a prediction of a loaded classifier comes to a
fault, and that it never does if these parts are sound.
-/

namespace Polyglot

namespace Vectorizer

theorem lt_size_of_counts {columns : List Nat} {start counts : Array Float32}
    (h : columns.foldlM countHit start = .ok counts) :
    (forall column, column ∈ columns -> column < start.size) ∧ counts.size = start.size := by
  induction columns generalizing start with
  | nil =>
      injection h with h
      subst h
      exact ⟨fun column hcolumn => (by cases hcolumn), rfl⟩
  | cons first columns ih =>
      rw [List.foldlM_cons] at h
      rcases Attempts.bind_eq_ok.mp h with ⟨next, hnext, hrest⟩
      unfold countHit at hnext
      split at hnext
      · rename_i hfirst
        injection hnext with hnext
        rcases ih hrest with ⟨hcolumns, hsize⟩
        rw [← hnext, Array.size_modify] at hcolumns hsize
        exact ⟨List.forall_mem_cons.mpr ⟨hfirst, hcolumns⟩, hsize⟩
      · cases hnext

theorem exists_counts_iff {v : Vectorizer} {text : String} :
    (∃ counts, v.counts text = .ok counts) ↔
      forall column, column ∈ v.hits text -> column < v.weights.size := by
  constructor
  · rintro ⟨counts, h⟩
    have hcolumns := (lt_size_of_counts h).1
    rwa [Array.size_replicate] at hcolumns
  · intro h
    rcases @foldlM_countHit (fun _ => True) (fun _ _ => trivial) (v.hits text)
      (Array.replicate v.weights.size 0) (fun _ _ => trivial) (fun column hcolumn => by
        rw [Array.size_replicate]
        exact h column hcolumn) with ⟨counts, hcounts, _⟩
    exact ⟨counts, hcounts⟩

theorem exists_assemble_iff {v : Vectorizer} {code : String} :
    (∃ sample, v.assemble code = .ok sample) ↔
      forall column, column ∈ v.hits code -> column < v.weights.size := by
  rw [← exists_counts_iff]
  constructor
  · rintro ⟨sample, h⟩
    rcases Attempts.bind_eq_ok.mp h with ⟨vector, hvector, _⟩
    rcases Attempts.bind_eq_ok.mp hvector with ⟨counts, hcounts, _⟩
    exact ⟨counts, hcounts⟩
  · rintro ⟨counts, h⟩
    refine ⟨normalized (counts.zipWith (· * ·) v.weights) ++ Structure.features code, ?_⟩
    rw [assemble, transform, h]
    rfl

theorem size_of_assemble {v : Vectorizer} {code : String} {sample : Array Float32}
    (h : v.assemble code = .ok sample) :
    sample.size = v.weights.size + Structure.names.length := by
  rcases Attempts.bind_eq_ok.mp h with ⟨vector, hvector, hsample⟩
  rcases Attempts.bind_eq_ok.mp hvector with ⟨counts, hcounts, hscaled⟩
  have hsize := (lt_size_of_counts hcounts).2
  rw [Array.size_replicate] at hsize
  injection hscaled with hscaled
  injection hsample with hsample
  rw [← hsample, ← hscaled, ← Array.length_toList, Array.toList_appendList, List.length_append,
    Array.length_toList, size_normalized, Array.size_zipWith, hsize, Nat.min_self,
    length_structure]

end Vectorizer

/-!
## Models
-/

namespace ClassModel

def HasAnswer (m : ClassModel) (sample : Array Float32) : Prop :=
  m.trees.length = m.settings.iterations ∧ forall t, t ∈ m.trees -> t.nodes.Leads sample

theorem exists_foldlM_iff {shrinkage : Float32} {sample : Array Float32}
    {trees : List ModelTree} {start : Float32} :
    (∃ sum, trees.foldlM (addTree shrinkage sample) start = .ok sum) ↔
      forall t, t ∈ trees -> t.nodes.Leads sample := by
  induction trees generalizing start with
  | nil => exact ⟨fun _ t ht => (by cases ht), fun _ => ⟨start, rfl⟩⟩
  | cons tree trees ih =>
      rw [List.forall_mem_cons, List.foldlM_cons]
      constructor
      · rintro ⟨sum, h⟩
        rcases Attempts.bind_eq_ok.mp h with ⟨next, hnext, hrest⟩
        rcases Attempts.bind_eq_ok.mp hnext with ⟨prediction, hprediction, _⟩
        exact ⟨StoredTree.leads_iff.mpr ⟨prediction, hprediction⟩, ih.mp ⟨sum, hrest⟩⟩
      · rintro ⟨htree, htrees⟩
        rcases StoredTree.leads_iff.mp htree with ⟨prediction, hprediction⟩
        rw [addTree, hprediction]
        exact ih.mpr htrees

theorem exists_predict_iff {m : ClassModel} {sample : Array Float32} :
    (∃ x, m.predict sample = .ok x) ↔ m.HasAnswer sample := by
  unfold predict HasAnswer
  split
  · rename_i hcount
    exact ⟨fun ⟨x, hx⟩ => (by cases hx), fun h => absurd h.1 hcount⟩
  · rename_i hcount
    rw [not_not] at hcount
    split
    · rename_i hnone
      rw [List.isEmpty_iff.mp hnone] at hcount ⊢
      exact ⟨fun _ => ⟨hcount, fun t ht => by cases ht⟩, fun _ => ⟨_, rfl⟩⟩
    · constructor
      · rintro ⟨x, hx⟩
        rcases Attempts.bind_eq_ok.mp hx with ⟨sum, hsum, _⟩
        exact ⟨hcount, exists_foldlM_iff.mp ⟨sum, hsum⟩⟩
      · rintro ⟨_, htrees⟩
        rcases exists_foldlM_iff.mpr htrees with ⟨sum, hsum⟩
        exact ⟨m.settings.loss.answer sum, Attempts.bind_eq_ok.mpr ⟨sum, hsum, rfl⟩⟩

end ClassModel

theorem Estimator.exists_vote_iff {e : Estimator} {sample : Array Float32} :
    (∃ vote, e.vote sample = .ok vote) ↔ forall m, m ∈ e.models -> m.HasAnswer sample := by
  simp only [← ClassModel.exists_predict_iff]
  rw [← Attempts.exists_mapM_eq_ok_iff]
  constructor
  · rintro ⟨vote, h⟩
    rcases Attempts.bind_eq_ok.mp h with ⟨answers, hanswers, _⟩
    exact ⟨answers, hanswers⟩
  · rintro ⟨answers, h⟩
    exact ⟨Vote.distribution (answers.map toDouble), Attempts.bind_eq_ok.mpr ⟨answers, h, rfl⟩⟩

/-!
## Forests
-/

namespace Forest

theorem fault_iff {f : Forest} {sample : Array Float32} :
    (∃ fault, f.probabilities sample = .error (.fault fault)) ↔ f.check sample = .ok () ∧
      ∃ e m, e ∈ f.estimators ∧ m ∈ e.models ∧ ¬ m.HasAnswer sample := by
  have hvotes : (∃ votes, (f.estimators.mapM fun e => e.vote sample) = .ok votes) ↔
      forall e, e ∈ f.estimators -> forall m, m ∈ e.models -> m.HasAnswer sample := by
    simp only [← Estimator.exists_vote_iff]
    exact Attempts.exists_mapM_eq_ok_iff
  unfold probabilities
  split
  · rename_i e hcheck
    rw [hcheck]
    exact ⟨fun ⟨_, h⟩ => (by cases h), fun h => (by cases h.1)⟩
  · rename_i hcheck
    split
    · rename_i fault hfault
      refine ⟨fun _ => ⟨hcheck, ?_⟩, fun _ => ⟨fault, rfl⟩⟩
      by_contra hall
      push Not at hall
      rcases hvotes.mpr fun e he m hm => hall e m he hm with ⟨votes, hok⟩
      cases hfault.symm.trans hok
    · rename_i votes hok
      refine ⟨fun ⟨_, h⟩ => (by cases h), ?_⟩
      rintro ⟨_, e, m, he, hm, hnone⟩
      exact absurd (hvotes.mp ⟨votes, hok⟩ e he m hm) hnone

end Forest

/-!
## Classifiers
-/

namespace Classifier

theorem fault_of_assemble {c : Classifier} {code : String} {f : Fault} (hcode : code ≠ "")
    (h : c.vectorizer.assemble code = .error f) : c.predict code = .error (.fault f) := by
  rw [predict, if_neg (by simpa using hcode), h]

theorem fault_iff_of_assemble {c : Classifier} {code : String} {sample : Array Float32}
    (hcode : code ≠ "") (h : c.vectorizer.assemble code = .ok sample) :
    (∃ f, c.predict code = .error (.fault f)) ↔
      ∃ f, c.forest.probabilities sample = .error (.fault f) := by
  rw [predict, if_neg (by simpa using hcode), h]
  dsimp only
  cases c.forest.probabilities sample with
  | error failure =>
      constructor
      · rintro ⟨f, hf⟩
        injection hf with hf
        exact ⟨f, congrArg Except.error hf⟩
      · rintro ⟨f, hf⟩
        injection hf with hf
        exact ⟨f, congrArg Except.error hf⟩
  | ok p =>
      constructor
      · rintro ⟨f, hf⟩
        dsimp only [bind, Except.bind] at hf
        split at hf
        · cases hf
        · cases hf
      · rintro ⟨f, hf⟩
        cases hf

theorem fault_iff {c : Classifier} {code : String} :
    (∃ f, c.predict code = .error (.fault f)) ↔ code ≠ "" ∧
      ((∃ column, column ∈ c.vectorizer.hits code ∧ c.vectorizer.weights.size ≤ column) ∨
        ∃ sample, c.vectorizer.assemble code = .ok sample ∧ c.forest.check sample = .ok () ∧
          ∃ e m, e ∈ c.forest.estimators ∧ m ∈ e.models ∧ ¬ m.HasAnswer sample) := by
  rcases eq_or_ne code "" with rfl | hcode
  · exact ⟨fun ⟨f, hf⟩ => (by cases hf), fun h => absurd rfl h.1⟩
  · cases hsample : c.vectorizer.assemble code with
    | error f =>
        refine ⟨fun _ => ⟨hcode, .inl ?_⟩, fun _ => ⟨f, fault_of_assemble hcode hsample⟩⟩
        by_contra hall
        push Not at hall
        rcases Vectorizer.exists_assemble_iff.mpr hall with ⟨sample, hok⟩
        cases hsample.symm.trans hok
    | ok sample =>
        rw [fault_iff_of_assemble hcode hsample, Forest.fault_iff]
        constructor
        · exact fun h => ⟨hcode, .inr ⟨sample, rfl, h⟩⟩
        · rintro ⟨_, ⟨column, hcolumn, hle⟩ | ⟨other, hother, h⟩⟩
          · have hlt := Vectorizer.exists_assemble_iff.mp ⟨sample, hsample⟩ column hcolumn
            exact absurd hlt (Nat.not_lt.mpr hle)
          · injection hother with hother
            rwa [hother]

/--
Every term has a column with a weight, every model has as many trees as it
should, and all trees are sound.
-/
structure Sound (c : Classifier) : Prop where
  column_lt : forall term column, c.vectorizer.vocabulary.column? term = some column ->
    column < c.vectorizer.weights.size
  iterations : forall e m, e ∈ c.forest.estimators -> m ∈ e.models ->
    m.trees.length = m.settings.iterations
  trees : forall e m t, e ∈ c.forest.estimators -> m ∈ e.models -> t ∈ m.trees ->
    t.nodes.Sound c.forest.width

theorem Sound.column_lt_of_hit {c : Classifier} (h : c.Sound) {code : String} {column : Nat}
    (hcolumn : column ∈ c.vectorizer.hits code) : column < c.vectorizer.weights.size := by
  rcases List.mem_filterMap.mp hcolumn with ⟨term, _, hterm⟩
  exact h.column_lt term column hterm

theorem Sound.hasAnswer {c : Classifier} (h : c.Sound) {e : Estimator} {m : ClassModel}
    (he : e ∈ c.forest.estimators) (hm : m ∈ e.models) {sample : Array Float32}
    (hsize : sample.size = c.forest.width) : m.HasAnswer sample :=
  ⟨h.iterations e m he hm, fun t ht => (h.trees e m t he hm ht).leads hsize⟩

theorem Sound.not_fault {c : Classifier} (h : c.Sound) (code : String) (f : Fault) :
    c.predict code ≠ .error (.fault f) := by
  intro hf
  rcases fault_iff.mp ⟨f, hf⟩ with ⟨_, ⟨column, hcolumn, hle⟩ | ⟨sample, _, hcheck, e, m, he, hm,
    hnone⟩⟩
  · exact absurd (h.column_lt_of_hit hcolumn) (Nat.not_lt.mpr hle)
  · exact hnone (h.hasAnswer he hm (Forest.check_eq_ok_iff.mp hcheck).1)

/-- Training makes sound classifiers. -/
theorem sound_of_consists [Logarithm] {corpus : Corpus} {settings : TrainingSettings}
    {run : TrainingRun} (h : run.Consists corpus settings) : run.classifier.Sound := by
  have htrained := h.isTrained
  have hmodel : forall e m, e ∈ run.classifier.forest.estimators -> m ∈ e.models ->
      m.IsTrained (ClassModel.trainedSettings run.classifier.vectorizer.width settings.forest) :=
    fun e m he hm => (htrained.estimators he).2 m hm
  constructor
  · exact (Vectorizer.fitted_of_fit h.fit_eq).column_lt
  · intro e m he hm
    rcases hmodel e m he hm with ⟨bias, tree, rfl, _⟩
    rfl
  · intro e m t he hm ht
    rcases hmodel e m he hm with ⟨bias, tree, rfl, hfeatures⟩
    rw [List.mem_singleton.mp ht, htrained.width_eq]
    exact GrownTree.sound_stored hfeatures

end Classifier

/-!
## Classifiers of one letter
-/

namespace Bundle

def ofLetter (column : Nat) (estimators : List Estimator) : Classifier :=
  let vectorizer : Vectorizer :=
    ⟨{ maxFeatures := 1, leastWindow := 1, mostWindow := 1, lowercase := false },
      ⟨[("a", column)], List.pairwise_singleton _ _⟩, #[1]⟩
  ⟨vectorizer, ⟨["x", "y"], 9, vectorizer.fingerprint, estimators⟩⟩

theorem read_ofLetter {column : Nat} {estimators : List Estimator}
    (hcolumn : column < UInt64.size)
    (hmodels : forall e, e ∈ estimators -> forall m, m ∈ e.models -> m.Storable) :
    read (write (ofLetter column estimators)) = .ok (ofLetter column estimators) := by
  apply read_write
  · constructor
    · intro entry hentry
      rw [List.mem_singleton.mp hentry]
      exact hcolumn
    · intro w hw
      rw [List.mem_singleton.mp (Array.mem_toList_iff.mpr hw)]
      exact ClassModel.keepsSingle_one
  · constructor
    · show 9 < UInt64.size
      decide
    · exact hmodels
  · rfl
  · rfl

def agreeing : Classifier :=
  ofLetter 0 [⟨List.replicate 2 (.ofTree (ClassModel.trainedSettings 9 {}) 0 (.leaf 1))⟩]

theorem eq_of_mem_agreeing {e : Estimator} {m : ClassModel}
    (he : e ∈ agreeing.forest.estimators) (hm : m ∈ e.models) :
    m = .ofTree (ClassModel.trainedSettings 9 {}) 0 (.leaf 1) := by
  rw [List.mem_singleton.mp he] at hm
  exact List.eq_of_mem_replicate hm

theorem read_agreeing : read (write agreeing) = .ok agreeing := by
  apply read_ofLetter
  · decide
  · intro e he m hm
    rw [eq_of_mem_agreeing he hm]
    apply ClassModel.Fits.storable
    · apply ClassModel.IsTrained.fits ⟨0, .leaf 1, rfl, trivial⟩
      · decide
      · intro t ht
        rw [List.mem_singleton.mp ht]
        show 1 < UInt64.size
        decide
    · unfold Json.KeepsSingle
      decide +kernel

theorem sound_agreeing : agreeing.Sound := by
  constructor
  · intro term column hcolumn
    injection List.mem_singleton.mp (Vocabulary.mem_of_lookup hcolumn) with _ hzero
    rw [hzero]
    exact Nat.one_pos
  · intro e m he hm
    rw [eq_of_mem_agreeing he hm]
    rfl
  · intro e m t he hm ht
    rw [eq_of_mem_agreeing he hm] at ht
    rw [List.mem_singleton.mp ht]
    exact GrownTree.sound_stored trivial

def stray : Classifier :=
  ofLetter 5 []

theorem read_stray : read (write stray) = .ok stray := by
  apply read_ofLetter
  · decide
  · intro e he
    cases he

/-!
## Loaded classifiers
-/

theorem width_of_read {bytes : List UInt8} {c : Classifier} (h : read bytes = .ok c) :
    c.forest.width = c.vectorizer.width :=
  (parts_of_read h).2.2

theorem check_of_read {bytes : List UInt8} {c : Classifier} (h : read bytes = .ok c)
    {code : String} {sample : Array Float32} (hsample : c.vectorizer.assemble code = .ok sample) :
    c.forest.check sample = .ok () ↔
      c.vectorizer.weights.size = c.vectorizer.vocabulary.size ∧ c.forest.estimators ≠ [] ∧
        forall e, e ∈ c.forest.estimators -> e.models.length = c.forest.classes.length := by
  rw [Forest.check_eq_ok_iff, Vectorizer.size_of_assemble hsample, width_of_read h,
    Vectorizer.width, Nat.add_right_cancel_iff]

/--
A prediction of a loaded classifier comes to a fault exactly if a known term of
the snippet counts for a column without a weight, or all the numbers that a
forest checks are right and some model has the wrong number of trees or a tree
that does not lead the snippet's features to a prediction.  A classifier with
sound parts predicts or refuses every snippet.
-/
theorem predict_of_read {bytes : List UInt8} {c : Classifier} (h : read bytes = .ok c) :
    (forall code, (∃ f, c.predict code = .error (.fault f)) ↔ code ≠ "" ∧
      ((∃ column, column ∈ c.vectorizer.hits code ∧ c.vectorizer.weights.size ≤ column) ∨
        ∃ sample, c.vectorizer.assemble code = .ok sample ∧
          (c.vectorizer.weights.size = c.vectorizer.vocabulary.size ∧
            c.forest.estimators ≠ [] ∧
            forall e, e ∈ c.forest.estimators -> e.models.length = c.forest.classes.length) ∧
          ∃ e m, e ∈ c.forest.estimators ∧ m ∈ e.models ∧
            (m.trees.length ≠ m.settings.iterations ∨
              ∃ t, t ∈ m.trees ∧ ¬ t.nodes.Leads sample))) ∧
    (c.Sound -> forall code,
      (∃ p, c.predict code = .ok p) ∨ ∃ e, c.predict code = .error (.error e)) := by
  constructor
  · intro code
    rw [Classifier.fault_iff]
    refine and_congr_right fun _ => or_congr_right (exists_congr fun sample => ?_)
    refine and_congr_right fun hsample => and_congr (check_of_read h hsample) ?_
    simp only [ClassModel.HasAnswer, not_and_or, not_forall, exists_prop, ne_eq]
  · intro hsound code
    cases hpredict : c.predict code with
    | ok p => exact .inl ⟨p, rfl⟩
    | error failure =>
        cases failure with
        | error e => exact .inr ⟨e, rfl⟩
        | fault f => exact absurd hpredict (hsound.not_fault code f)

theorem predict_of_read_stray :
    (∃ f, stray.predict "a" = .error (.fault f)) ∧
      ((∃ p, agreeing.predict "a" = .ok p) ∨ ∃ e, agreeing.predict "a" = .error (.error e)) := by
  constructor
  · apply ((predict_of_read read_stray).1 "a").mpr
    exact ⟨by decide, .inl ⟨5, by decide, by decide⟩⟩
  · exact (predict_of_read read_agreeing).2 sound_agreeing "a"

/-- Reading accepts a term that counts for a column without a weight. -/
theorem fault_of_read :
    read (write stray) = .ok stray ∧ stray.predict "a" = .error (.fault .columnOutOfRange) :=
  ⟨read_stray, rfl⟩

end Bundle
end Polyglot
