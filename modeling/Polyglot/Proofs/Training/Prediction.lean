import Polyglot.Proofs.Training.Acceptance

/-!
# Predictions of trained classifiers

A trained classifier predicts a label for every snippet, whatever it contains,
and scores every label of its corpus.
-/

namespace Polyglot

namespace Classifier

structure Consistent (c : Classifier) : Prop where
  fitted : c.vectorizer.Fitted
  answers : c.forest.Answers c.vectorizer.width
  ascending : c.forest.classes.Pairwise (· < ·)

theorem isSome_lookup {entries : List (String × Float32)} {label : String}
    (h : label ∈ entries.map Prod.fst) : ∃ score, entries.lookup label = some score := by
  induction entries with
  | nil => cases h
  | cons entry entries ih =>
      rw [List.lookup_cons]
      split
      · exact ⟨entry.2, rfl⟩
      · rename_i hne
        rcases List.mem_cons.mp h with heq | h
        · rw [heq, beq_self_eq_true] at hne
          cases hne
        · exact ih h

theorem keys_scores {classes : List String} {probabilities : List Float}
    (h : probabilities.length = classes.length) :
    (scores classes probabilities).map Prod.fst = Labels.distinct classes := by
  have hkeys : ((classes.zip (probabilities.map ofDouble)).reverse).map Prod.fst =
      classes.reverse := by
    rw [List.map_reverse, List.map_fst_zip (by rw [List.length_map, h])]
  unfold scores
  dsimp only
  generalize (classes.zip (probabilities.map ofDouble)).reverse = named at hkeys
  have hall : forall label, label ∈ Labels.distinct classes ->
      ∃ score, named.lookup label = some score := by
    intro label hlabel
    apply isSome_lookup
    rw [hkeys, List.mem_reverse]
    exact Labels.mem_distinct.mp hlabel
  generalize Labels.distinct classes = kept at hall
  induction kept with
  | nil => rfl
  | cons label labels ih =>
      rcases hall label List.mem_cons_self with ⟨score, hscore⟩
      rw [List.filterMap_cons, hscore]
      show label :: _ = _
      rw [ih fun other hother => hall other (List.mem_cons_of_mem label hother)]

theorem predict_of_forest {c : Classifier} {code label : String} {sample : Array Float32}
    (hcode : code ≠ "") (hsample : c.vectorizer.assemble code = .ok sample)
    (h : c.forest.predict sample = .ok label) :
    ∃ scores, c.predict code = .ok ⟨label, scores⟩ := by
  rcases Forest.predict_eq_ok_iff.mp h with ⟨p, hp, hlabel⟩
  refine ⟨scores c.forest.classes p, ?_⟩
  rw [predict, if_neg (by simpa using hcode), hsample]
  refine Attempts.bind_eq_ok.mpr ⟨p, hp, ?_⟩
  rw [hlabel]
  rfl

theorem Consistent.predict_eq_ok {c : Classifier} (h : c.Consistent) {code : String}
    (hcode : code ≠ "") :
    ∃ p, c.predict code = .ok p ∧ p.scores.map Prod.fst = c.forest.classes ∧
      p.label ∈ c.forest.classes := by
  rcases c.vectorizer.assemble_eq_ok h.fitted code with ⟨sample, hsample, hsize, _⟩
  rcases h.answers.probabilities_eq_ok hsize with ⟨p, hp, hlength⟩
  rcases Forest.exists_class h.answers.some_classes hlength with ⟨label, hlabel, hmem⟩
  refine ⟨⟨label, scores c.forest.classes p⟩, ?_, ?_, hmem⟩
  · rw [predict, if_neg (by simpa using hcode), hsample]
    refine Attempts.bind_eq_ok.mpr ⟨p, hp, ?_⟩
    rw [hlabel]
    rfl
  · rw [keys_scores hlength, Labels.distinct_of_ascending h.ascending]

end Classifier

section Trained

variable [Logarithm] {corpus : Corpus} {settings : TrainingSettings} {run : TrainingRun}

namespace TrainingRun.Consists

theorem divisible (h : run.Consists corpus settings) : Split.Divisible corpus.labels :=
  Split.divisible_of_stratified h.split_eq

theorem stratifies (h : run.Consists corpus settings) :
    Split.Stratifies corpus.labels settings.testShare run.split :=
  Split.stratifies_of_stratified h.split_eq

theorem isTrained (h : run.Consists corpus settings) :
    run.classifier.forest.IsTrained settings.forest run.classifier.vectorizer.width
      run.trainFeatures.toArray run.trainLabels := by
  rcases h.forest_eq with ⟨forest, hforest, heq⟩
  rw [heq]
  exact (Forest.isTrained_of_fit hforest).withFingerprint _

theorem classes_eq (h : run.Consists corpus settings) :
    run.classifier.forest.classes = Labels.distinct corpus.labels := by
  rw [h.isTrained.classes_eq]
  exact TrainingRun.distinct_trainLabels h.stratifies h.divisible h.trainLabels_eq

theorem labels_ne_nil (h : run.Consists corpus settings) : corpus.labels ≠ [] :=
  h.divisible.labels_ne_nil

theorem consistent (h : run.Consists corpus settings) (hsettings : settings.check = .ok ()) :
    run.classifier.Consistent := by
  constructor
  · exact Vectorizer.fitted_of_fit h.fit_eq
  · apply h.isTrained.answers _ (estimators_of_check hsettings)
    intro hnil
    have hclasses := h.classes_eq
    rw [h.isTrained.classes_eq, hnil] at hclasses
    exact Labels.distinct_ne_nil h.labels_ne_nil hclasses.symm
  · rw [h.classes_eq]
    exact Labels.ascending_distinct corpus.labels

end TrainingRun.Consists

/--
A trained classifier answers every snippet that is not empty: it scores the
labels of the corpus, each of them once, and names one of them.
-/
theorem predict_of_train (h : train corpus settings = .ok run) {code : String}
    (hcode : code ≠ "") :
    ∃ p, run.classifier.predict code = .ok p ∧
      (p.scores.map Prod.fst).Pairwise (· < ·) ∧
      (forall label, label ∈ p.scores.map Prod.fst ↔ label ∈ corpus.labels) ∧
      p.label ∈ corpus.labels := by
  rcases TrainingRun.parts_of_train h with ⟨hsettings, _, hparts⟩
  rcases (hparts.consistent hsettings).predict_eq_ok hcode with ⟨p, hp, hscores, hlabel⟩
  rw [hparts.classes_eq] at hscores hlabel
  refine ⟨p, hp, ?_, ?_, Labels.mem_distinct.mp hlabel⟩
  · rw [hscores]
    exact Labels.ascending_distinct corpus.labels
  · intro label
    rw [hscores, Labels.mem_distinct]

end Trained

theorem predict_of_train_twoLabels :
    ∃ run, @train logarithmOfFiveQuarters Corpus.twoLabels .small = .ok run ∧
      ∃ p, run.classifier.predict "λ" = .ok p ∧ p.label ∈ ["x", "x", "y", "y"] := by
  rcases exists_run_twoLabels with ⟨run, hrun⟩
  rcases @predict_of_train logarithmOfFiveQuarters _ _ run hrun "λ" (by decide) with
    ⟨p, hp, _, _, hlabel⟩
  exact ⟨run, hrun, p, hp, hlabel⟩

end Polyglot
