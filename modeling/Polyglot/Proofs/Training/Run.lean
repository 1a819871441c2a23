import Polyglot.Proofs.Forest
import Polyglot.Proofs.Report
import Polyglot.Proofs.Split
import Polyglot.Proofs.Vectorizer
import Polyglot.Training

/-!
# Training runs

What a training run is made of: the results of its steps, each step applied to
the results of those before it.
-/

namespace Polyglot
namespace TrainingRun

theorem rowAt_eq_ok_iff {α : Type} {items : Array α} {row : Nat} {x : α} :
    rowAt items row = .ok x ↔ items[row]? = some x := by
  unfold rowAt
  split
  · rename_i y hy
    rw [hy]
    constructor
    · intro h
      injection h with h
      rw [h]
    · intro h
      injection h with h
      rw [h]
  · rename_i hnone
    rw [hnone]
    constructor
    · intro h
      cases h
    · intro h
      cases h

theorem select_eq_ok_iff {α : Type} {items : Array α} {rows : List Nat} {xs : List α} :
    select items rows = .ok xs ↔ List.Forall₂ (fun row x => items[row]? = some x) rows xs := by
  constructor
  · intro h
    exact (Attempts.forall₂_of_mapM_eq_ok h).imp fun _ _ hx => rowAt_eq_ok_iff.mp hx
  · intro h
    exact Attempts.mapM_eq_ok_of_forall₂ (h.imp fun _ _ hx => rowAt_eq_ok_iff.mpr hx)

theorem exists_select {α : Type} (items : Array α) {rows : List Nat}
    (h : forall row, row ∈ rows -> row < items.size) : ∃ xs, select items rows = .ok xs := by
  have hrows : ∃ xs, rows.mapM (rowAt items) = .ok xs ∧
      List.Forall₂ (fun _ _ => True) rows xs :=
    Attempts.exists_mapM_eq_ok fun row hrow =>
      ⟨_, rowAt_eq_ok_iff.mpr (Array.getElem?_eq_getElem (h row hrow)), trivial⟩
  rcases hrows with ⟨xs, hxs, _⟩
  exact ⟨xs, hxs⟩

theorem mem_of_select {α : Type} {items : Array α} {rows : List Nat} {xs : List α}
    (h : select items rows = .ok xs) {x : α} (hx : x ∈ xs) :
    ∃ row, row ∈ rows ∧ items[row]? = some x := by
  rcases Attempts.exists_of_mem_mapM h hx with ⟨row, hrow, heq⟩
  exact ⟨row, hrow, rowAt_eq_ok_iff.mp heq⟩

theorem exists_mem_of_select {α : Type} {items : Array α} {rows : List Nat} {xs : List α}
    (h : select items rows = .ok xs) {row : Nat} (hrow : row ∈ rows) {x : α}
    (hx : items[row]? = some x) : x ∈ xs := by
  have hall := select_eq_ok_iff.mp h
  clear h
  induction hall with
  | nil => cases hrow
  | cons hhead _ ih =>
      rcases List.mem_cons.mp hrow with rfl | hrow
      · injection hhead.symm.trans hx with heq
        rw [heq]
        exact List.mem_cons_self
      · exact List.mem_cons_of_mem _ (ih hrow)

/-!
## The parts of a run
-/

theorem refuse_eq_ok_iff {α : Type} {x : Except ClassifierError α} {y : α} :
    refuse x = .ok y ↔ x = .ok y := by
  cases x with
  | error e =>
      constructor <;> intro h <;> cases h
  | ok z =>
      constructor
      · intro h
        injection h with h
        rw [h]
      · intro h
        injection h with h
        rw [h]
        rfl

section Parts

variable [Logarithm]

/-- The results of the steps of a run. -/
structure Consists (corpus : Corpus) (settings : TrainingSettings) (run : TrainingRun) : Prop where
  corpus_eq : run.corpus = corpus
  settings_eq : run.settings = settings
  split_eq : Split.stratified corpus.labels settings.testShare settings.splitSeed = .ok run.split
  fit_eq : Vectorizer.fit settings.vectorizer corpus.codes = .ok run.classifier.vectorizer
  features_eq : assembleAll run.classifier.vectorizer corpus.codes = .ok run.features
  trainFeatures_eq : select run.features run.split.train = .ok run.trainFeatures
  trainLabels_eq : select corpus.labels.toArray run.split.train = .ok run.trainLabels
  forest_eq : ∃ forest,
    Forest.fit settings.forest run.classifier.vectorizer.width run.trainFeatures.toArray
      run.trainLabels = .ok forest ∧
    run.classifier.forest = forest.withFingerprint run.classifier.vectorizer.fingerprint
  report_eq : ∃ testLabels testFeatures predicted,
    select corpus.labels.toArray run.split.test = .ok testLabels ∧
    select run.features run.split.test = .ok testFeatures ∧
    testFeatures.mapM run.classifier.forest.predict = .ok predicted ∧
    Report.ofPredictions run.classifier.forest.classes testLabels predicted
      run.split.train.length = .ok run.report

theorem consists_of_ofChecked {corpus : Corpus} {settings : TrainingSettings}
    {run : TrainingRun} (h : ofChecked corpus settings = .ok run) :
    run.Consists corpus settings := by
  unfold ofChecked at h
  rcases Attempts.bind_eq_ok.mp h with ⟨split, hsplit, h⟩
  rcases Attempts.bind_eq_ok.mp h with ⟨vectorizer, hvectorizer, h⟩
  rcases Attempts.bind_eq_ok.mp h with ⟨features, hfeatures, h⟩
  rcases Attempts.bind_eq_ok.mp h with ⟨trainFeatures, htrainFeatures, h⟩
  rcases Attempts.bind_eq_ok.mp h with ⟨trainLabels, htrainLabels, h⟩
  rcases Attempts.bind_eq_ok.mp h with ⟨forest, hforest, h⟩
  rcases Attempts.bind_eq_ok.mp h with ⟨testLabels, htestLabels, h⟩
  rcases Attempts.bind_eq_ok.mp h with ⟨testFeatures, htestFeatures, h⟩
  rcases Attempts.bind_eq_ok.mp h with ⟨predicted, hpredicted, h⟩
  rcases Attempts.bind_eq_ok.mp h with ⟨report, hreport, h⟩
  injection h with h
  subst h
  constructor
  · rfl
  · rfl
  · exact refuse_eq_ok_iff.mp hsplit
  · exact refuse_eq_ok_iff.mp hvectorizer
  · exact hfeatures
  · exact htrainFeatures
  · exact htrainLabels
  · exact ⟨forest, hforest, rfl⟩
  · exact ⟨testLabels, testFeatures, predicted, htestLabels, htestFeatures, hpredicted,
      refuse_eq_ok_iff.mp hreport⟩

theorem parts_of_train {corpus : Corpus} {settings : TrainingSettings} {run : TrainingRun}
    (h : train corpus settings = .ok run) :
    settings.check = .ok () ∧ corpus.check = .ok () ∧ run.Consists corpus settings := by
  unfold train at h
  rcases Attempts.bind_eq_ok.mp h with ⟨_, hsettings, h⟩
  rcases Attempts.bind_eq_ok.mp h with ⟨_, hcorpus, h⟩
  exact ⟨refuse_eq_ok_iff.mp hsettings, refuse_eq_ok_iff.mp hcorpus, consists_of_ofChecked h⟩

theorem Consists.split_eq_of_stratified {corpus : Corpus} {settings : TrainingSettings}
    {run : TrainingRun} (h : run.Consists corpus settings) {split : Split}
    (hsplit : Split.stratified corpus.labels settings.testShare settings.splitSeed = .ok split) :
    run.split = split := by
  cases h.split_eq.symm.trans hsplit
  rfl

end Parts

/-!
## The steps of a run
-/

theorem exists_assembleAll {v : Vectorizer} (h : v.Fitted) (codes : List String) :
    ∃ features, assembleAll v codes = .ok features ∧ features.size = codes.length ∧
      forall x, x ∈ features -> x.size = v.width ∧
        (v.Moderate -> forall a, a ∈ x -> Single.Within 66 a) := by
  rcases Attempts.exists_mapM_eq_ok fun code (_ : code ∈ codes) => v.assemble_eq_ok h code with
    ⟨rows, hrows, _⟩
  refine ⟨rows.toArray, by rw [assembleAll, hrows], ?_, ?_⟩
  · rw [List.size_toArray, Attempts.length_of_mapM_eq_ok hrows]
  · intro x hx
    rcases Attempts.exists_of_mem_mapM hrows (List.mem_toArray.mp hx) with ⟨code, _, heq⟩
    rcases v.assemble_eq_ok h code with ⟨y, hy, hspec⟩
    cases heq.symm.trans hy
    exact hspec

theorem exists_code_of_assembleAll {v : Vectorizer} {codes : List String}
    {features : Array (Array Float32)} (h : assembleAll v codes = .ok features) {row : Nat}
    {x : Array Float32} (hx : features[row]? = some x) :
    ∃ code, codes[row]? = some code ∧ v.assemble code = .ok x := by
  unfold assembleAll at h
  split at h
  · rename_i rows hrows
    injection h with h
    subst h
    rw [List.getElem?_toArray] at hx
    have hall := Attempts.forall₂_of_mapM_eq_ok hrows
    have hlt := (List.getElem?_eq_some_iff.mp hx).1
    have hlt' : row < codes.length := by
      rw [hall.length_eq]
      exact hlt
    refine ⟨codes[row], List.getElem?_eq_getElem hlt', ?_⟩
    have heq := hall.get hlt' hlt
    rw [List.getElem?_eq_getElem hlt] at hx
    injection hx with hx
    rw [← hx]
    exact heq
  · cases h

theorem distinct_trainLabels {labels : List String} {share : Float32} {split : Split}
    (h : Split.Stratifies labels share split) (hdivisible : Split.Divisible labels)
    {trainLabels : List String} (hselect : select labels.toArray split.train = .ok trainLabels) :
    Labels.distinct trainLabels = Labels.distinct labels := by
  apply Labels.distinct_eq_of_mem_iff
  intro label
  constructor
  · intro hlabel
    rcases mem_of_select hselect hlabel with ⟨row, _, hrow⟩
    rw [List.getElem?_toArray] at hrow
    exact List.mem_of_getElem? hrow
  · intro hlabel
    rcases h.exists_train hdivisible hlabel with ⟨row, hrow, heq⟩
    exact exists_mem_of_select hselect hrow (by rwa [List.getElem?_toArray])

theorem exists_evaluation {labels : List String} {features : Array (Array Float32)}
    {forest : Forest} {width : Nat} (hanswers : forest.Answers width)
    (hclasses : forest.classes = Labels.distinct labels)
    (hfeatures : features.size = labels.length)
    (hwidth : forall x, x ∈ features -> x.size = width) {rows : List Nat}
    (hrows : forall row, row ∈ rows -> row < labels.length) (trainSize : Nat) :
    ∃ testLabels testFeatures predicted report,
      select labels.toArray rows = .ok testLabels ∧ select features rows = .ok testFeatures ∧
      testFeatures.mapM forest.predict = .ok predicted ∧
      Report.ofPredictions forest.classes testLabels predicted trainSize = .ok report := by
  rcases exists_select labels.toArray hrows with ⟨testLabels, htestLabels⟩
  rcases exists_select features fun row (hrow : row ∈ rows) =>
    hfeatures ▸ hrows row hrow with ⟨testFeatures, htestFeatures⟩
  have hpredictions : forall x, x ∈ testFeatures ->
      ∃ label, forest.predict x = .ok label ∧ label ∈ forest.classes := by
    intro x hx
    rcases mem_of_select htestFeatures hx with ⟨row, _, hrow⟩
    exact hanswers.predict_eq_ok (hwidth x (Array.mem_of_getElem? hrow))
  rcases Attempts.exists_mapM_eq_ok hpredictions with ⟨predicted, hpredicted, _⟩
  have hlength : testLabels.length = predicted.length := by
    rw [Attempts.length_of_mapM_eq_ok htestLabels, Attempts.length_of_mapM_eq_ok hpredicted,
      Attempts.length_of_mapM_eq_ok htestFeatures]
  have hexpected : forall label, label ∈ testLabels -> label ∈ forest.classes := by
    intro label hlabel
    rcases mem_of_select htestLabels hlabel with ⟨row, _, hrow⟩
    rw [List.getElem?_toArray] at hrow
    rw [hclasses]
    exact Labels.mem_distinct.mpr (List.mem_of_getElem? hrow)
  have hknown : forall label, label ∈ predicted -> label ∈ forest.classes := by
    intro label hlabel
    rcases Attempts.exists_of_mem_mapM hpredicted hlabel with ⟨x, hx, heq⟩
    rcases hpredictions x hx with ⟨other, hother, hmem⟩
    cases heq.symm.trans hother
    exact hmem
  rcases Report.exists_ofPredictions hlength hexpected hknown trainSize with ⟨report, hreport⟩
  exact ⟨testLabels, testFeatures, predicted, report, htestLabels, htestFeatures, hpredicted,
    hreport⟩

/--
What a run trains its forest on.  The rows are numeric, carry every label of the corpus, and
are as wide as the forest will expect the test rows to be.
-/
structure Prepared [Logarithm] (corpus : Corpus) (settings : TrainingSettings) (split : Split)
    (v : Vectorizer) (features : Array (Array Float32)) (trainFeatures : List (Array Float32))
    (trainLabels : List String) : Prop where
  split_eq : Split.stratified corpus.labels settings.testShare settings.splitSeed = .ok split
  stratifies : Split.Stratifies corpus.labels settings.testShare split
  fit_eq : Vectorizer.fit settings.vectorizer corpus.codes = .ok v
  features_eq : assembleAll v corpus.codes = .ok features
  rows : features.size = corpus.labels.length
  width : forall x, x ∈ features -> x.size = v.width
  trainFeatures_eq : select features split.train = .ok trainFeatures
  trainLabels_eq : select corpus.labels.toArray split.train = .ok trainLabels
  numeric : Numeric trainFeatures.toArray
  size_eq : trainFeatures.toArray.size = trainLabels.length
  distinct_eq : Labels.distinct trainLabels = Labels.distinct corpus.labels

section Prepared

variable [Logarithm] {corpus : Corpus} {settings : TrainingSettings}

theorem exists_prepared [LawfulLogarithm] (hrange : settings.vectorizer.rangeUsable = true)
    (hdivisible : Split.Divisible corpus.labels) :
    ∃ split v features trainFeatures trainLabels,
      Prepared corpus settings split v features trainFeatures trainLabels := by
  rcases Split.stratified_of_divisible hdivisible settings.testShare settings.splitSeed with
    ⟨split, hsplit, hstratifies⟩
  have hlabels := hdivisible.labels_ne_nil
  have hsize : corpus.labels.length = corpus.codes.length := by
    simp [Corpus.labels, Corpus.codes]
  have hcodes : corpus.codes ≠ [] := by
    intro hnil
    rw [hnil] at hsize
    exact hlabels (List.length_eq_zero_iff.mp hsize)
  have hfit := Vectorizer.fit_eq_ok hrange hcodes
  generalize Vectorizer.ofTerms settings.vectorizer corpus.codes.length _ = v at hfit
  have hfitted := Vectorizer.fitted_of_fit hfit
  have hmoderate := Vectorizer.moderate_of_fit hfit
  rcases exists_assembleAll hfitted corpus.codes with ⟨features, hfeatures, hrows, hspec⟩
  rcases exists_select features fun row (hrow : row ∈ split.train) =>
    hrows ▸ hsize ▸ hstratifies.train_lt hrow with ⟨trainFeatures, htrainFeatures⟩
  rcases exists_select corpus.labels.toArray fun row (hrow : row ∈ split.train) =>
    hstratifies.train_lt hrow with ⟨trainLabels, htrainLabels⟩
  have hnumeric : Numeric trainFeatures.toArray := by
    intro x hx a ha
    rcases mem_of_select htrainFeatures (List.mem_toArray.mp hx) with ⟨row, _, hrow⟩
    exact ((hspec x (Array.mem_of_getElem? hrow)).2 hmoderate a ha).isNaN
  have htrainSize : trainFeatures.toArray.size = trainLabels.length := by
    rw [List.size_toArray, Attempts.length_of_mapM_eq_ok htrainFeatures,
      Attempts.length_of_mapM_eq_ok htrainLabels]
  exact ⟨split, v, features, trainFeatures, trainLabels, hsplit, hstratifies, hfit, hfeatures,
    hrows.trans hsize.symm, fun x hx => (hspec x hx).1, htrainFeatures, htrainLabels, hnumeric,
    htrainSize, distinct_trainLabels hstratifies hdivisible htrainLabels⟩

namespace Prepared

variable {split : Split} {v : Vectorizer} {features : Array (Array Float32)}
  {trainFeatures : List (Array Float32)} {trainLabels : List String}

theorem ofChecked_eq_error
    (h : Prepared corpus settings split v features trainFeatures trainLabels) {x : Failure}
    (hfit : Forest.fit settings.forest v.width trainFeatures.toArray trainLabels = .error x) :
    ofChecked corpus settings = .error x := by
  unfold ofChecked
  refine (Attempts.bind_of_eq_ok (refuse_eq_ok_iff.mpr h.split_eq)).trans ?_
  refine (Attempts.bind_of_eq_ok (refuse_eq_ok_iff.mpr h.fit_eq)).trans ?_
  refine (Attempts.bind_of_eq_ok h.features_eq).trans ?_
  refine (Attempts.bind_of_eq_ok h.trainFeatures_eq).trans ?_
  refine (Attempts.bind_of_eq_ok h.trainLabels_eq).trans ?_
  rw [hfit]
  rfl

theorem exists_ofChecked
    (h : Prepared corpus settings split v features trainFeatures trainLabels)
    (hlabels : corpus.labels ≠ []) (hestimators : settings.forest.estimators ≠ 0)
    {forest : Forest}
    (hforest : Forest.fit settings.forest v.width trainFeatures.toArray trainLabels =
      .ok forest) :
    ∃ run, ofChecked corpus settings = .ok run := by
  have htrained := Forest.isTrained_of_fit hforest
  have hsome : trainLabels ≠ [] := by
    rintro rfl
    exact Labels.distinct_ne_nil hlabels h.distinct_eq.symm
  have hanswers := (htrained.answers hsome hestimators).withFingerprint v.fingerprint
  rcases exists_evaluation hanswers (htrained.classes_eq.trans h.distinct_eq) h.rows h.width
    (fun row hrow => h.stratifies.test_lt hrow) split.train.length with
      ⟨testLabels, testFeatures, predicted, report, htestLabels, htestFeatures, hpredicted,
        hreport⟩
  refine ⟨⟨corpus, settings, split, features, trainFeatures, trainLabels,
    ⟨v, forest.withFingerprint v.fingerprint⟩, report⟩, ?_⟩
  unfold ofChecked
  refine Attempts.bind_eq_ok.mpr ⟨split, refuse_eq_ok_iff.mpr h.split_eq, ?_⟩
  refine Attempts.bind_eq_ok.mpr ⟨v, refuse_eq_ok_iff.mpr h.fit_eq, ?_⟩
  refine Attempts.bind_eq_ok.mpr ⟨features, h.features_eq, ?_⟩
  refine Attempts.bind_eq_ok.mpr ⟨trainFeatures, h.trainFeatures_eq, ?_⟩
  refine Attempts.bind_eq_ok.mpr ⟨trainLabels, h.trainLabels_eq, ?_⟩
  refine Attempts.bind_eq_ok.mpr ⟨forest, hforest, ?_⟩
  refine Attempts.bind_eq_ok.mpr ⟨testLabels, htestLabels, ?_⟩
  refine Attempts.bind_eq_ok.mpr ⟨testFeatures, htestFeatures, ?_⟩
  refine Attempts.bind_eq_ok.mpr ⟨predicted, hpredicted, ?_⟩
  refine Attempts.bind_eq_ok.mpr ⟨report, refuse_eq_ok_iff.mpr hreport, ?_⟩
  rfl

end Prepared

/--
After the checks, a run asks for room for its estimators and for nothing else.  Without it the
forest is not begun, and the run faults.
-/
theorem ofChecked_of_divisible [LawfulLogarithm]
    (hrange : settings.vectorizer.rangeUsable = true)
    (hestimators : settings.forest.estimators ≠ 0)
    (hdivisible : Split.Divisible corpus.labels) :
    (settings.forest.estimators.toNat ≤ Forest.capacity ->
      ∃ run, ofChecked corpus settings = .ok run) ∧
    (Forest.capacity < settings.forest.estimators.toNat ->
      ofChecked corpus settings = .error (.fault .capacityOverflow)) := by
  rcases exists_prepared hrange hdivisible with
    ⟨split, v, features, trainFeatures, trainLabels, hprepared⟩
  have htwo : 2 ≤ (Labels.distinct trainLabels).length := by
    rw [hprepared.distinct_eq]
    exact hdivisible.two_labels
  constructor
  · intro hroom
    rcases Forest.exists_fit trainLabels hprepared.numeric hprepared.size_eq htwo hroom v.width
      with ⟨forest, hforest⟩
    exact hprepared.exists_ofChecked hdivisible.labels_ne_nil hestimators hforest
  · intro hroom
    exact hprepared.ofChecked_eq_error
      (Forest.fit_eq_capacityOverflow hroom v.width hprepared.size_eq htwo)

end Prepared

end TrainingRun
end Polyglot
