import Polyglot.Proofs.Fitting
import Polyglot.Proofs.Training.Prediction

/-!
# Rearranged texts

Known terms are counted one by one in the order of the text, and every count is added
to on its own.  So the order makes no difference, nor do the windows that are no
known term: texts with equal counts have equal vectors.
-/

namespace Polyglot

namespace Vectorizer

def Alike (v : Vectorizer) (a b : String) : Prop :=
  forall term, term ∈ v.vocabulary.terms ->
    v.settings.occurrences term a = v.settings.occurrences term b

theorem countHit_comm (counts : Array Float32) (i j : Nat) :
    (countHit counts i >>= fun counts => countHit counts j) =
      (countHit counts j >>= fun counts => countHit counts i) := by
  have hswap : (counts.modify i (· + 1)).modify j (· + 1) =
      (counts.modify j (· + 1)).modify i (· + 1) := by
    apply Array.ext
    · simp only [Array.size_modify]
    · intro k _ _
      simp only [Array.getElem_modify]
      split <;> split <;> rfl
  by_cases hi : i < counts.size
  · by_cases hj : j < counts.size
    · simp only [countHit, hi, hj, ↓reduceIte, bind, Except.bind, Array.size_modify, hswap]
    · simp only [countHit, hi, hj, ↓reduceIte, bind, Except.bind, Array.size_modify]
  · by_cases hj : j < counts.size
    · simp only [countHit, hi, hj, ↓reduceIte, bind, Except.bind, Array.size_modify]
    · simp only [countHit, hi, hj, ↓reduceIte, bind, Except.bind]

theorem foldlM_countHit_perm {columns others : List Nat} (h : columns.Perm others)
    (counts : Array Float32) : columns.foldlM countHit counts = others.foldlM countHit counts := by
  induction h generalizing counts with
  | nil => rfl
  | cons column _ ih =>
      rw [List.foldlM_cons, List.foldlM_cons]
      exact bind_congr fun next => ih next
  | swap i j columns =>
      simp only [List.foldlM_cons]
      rw [← bind_assoc, countHit_comm, bind_assoc]
  | trans _ _ ih ih' => rw [ih, ih']

theorem column_eq_none {v : Vectorizer} {term : String} (h : term ∉ v.vocabulary.terms) :
    v.vocabulary.column? term = none := by
  cases hcolumn : v.vocabulary.column? term with
  | none => rfl
  | some column => exact absurd (List.mem_map_of_mem (Vocabulary.mem_of_lookup hcolumn)) h

theorem hits_eq_filterMap_known (v : Vectorizer) (text : String) :
    v.hits text = ((v.settings.terms text).filter fun term => term ∈ v.vocabulary.terms).filterMap
      v.vocabulary.column? := by
  rw [hits, List.filterMap_filter]
  apply List.filterMap_congr
  intro term _
  by_cases hterm : term ∈ v.vocabulary.terms
  · simp only [hterm, decide_true, ↓reduceIte]
  · simp only [hterm, decide_false, column_eq_none hterm, ite_self]

section Fitted

variable [Logarithm] {s : VectorizerSettings} {documents : List String} {v : Vectorizer}

/-- A known term is as many windows of a text as there are places where it begins. -/
theorem count_terms_of_fit (h : fit s documents = .ok v) {term : String}
    (hterm : term ∈ v.vocabulary.terms) (text : String) :
    (v.settings.terms text).count term = v.settings.occurrences term text := by
  rw [settings_of_fit h, s.count_terms (one_le_of_fit h), if_pos (admits_of_fit h hterm)]

theorem exists_document_of_fit (h : fit s documents = .ok v) {term : String}
    (hterm : term ∈ v.vocabulary.terms) : ∃ d, d ∈ documents ∧ term ∈ s.terms d := by
  rw [mem_terms_fit h] at hterm
  have hnamed := List.mem_of_mem_take hterm
  rw [((TermStatistics.ranking_perm _).map _).mem_iff,
    TermStatistics.mem_names_ofDocuments (one_le_of_fit h), s.frequency_pos_iff] at hnamed
  rcases hnamed with ⟨hadmits, d, hd, hpos⟩
  exact ⟨d, hd, (s.mem_terms (one_le_of_fit h)).mpr ⟨hadmits, hpos⟩⟩

theorem hits_perm (h : fit s documents = .ok v) {a b : String} (halike : v.Alike a b) :
    (v.hits a).Perm (v.hits b) := by
  rw [hits_eq_filterMap_known, hits_eq_filterMap_known]
  apply List.Perm.filterMap
  rw [List.perm_iff_count]
  intro term
  by_cases hterm : term ∈ v.vocabulary.terms
  · rw [List.count_filter (by simpa using hterm), List.count_filter (by simpa using hterm),
      count_terms_of_fit h hterm, count_terms_of_fit h hterm, halike term hterm]
  · have hnone : forall text, term ∉ (v.settings.terms text).filter fun term =>
        term ∈ v.vocabulary.terms :=
      fun text hmem => hterm (by simpa using (List.mem_filter.mp hmem).2)
    rw [List.count_eq_zero_of_not_mem (hnone a), List.count_eq_zero_of_not_mem (hnone b)]

theorem transform_of_alike (h : fit s documents = .ok v) {a b : String} (halike : v.Alike a b) :
    v.transform a = v.transform b := by
  rw [transform, transform, counts, counts, foldlM_countHit_perm (hits_perm h halike)]

theorem assemble_of_alike (h : fit s documents = .ok v) {a b : String} (halike : v.Alike a b)
    (hcounts : Structure.Counts.ofCode a.toList = Structure.Counts.ofCode b.toList) :
    v.assemble a = v.assemble b := by
  rw [assemble, assemble, transform_of_alike h halike, Structure.features, Structure.features,
    hcounts]

end Fitted

end Vectorizer

theorem Classifier.predict_of_assemble {c : Classifier} {a b : String} (ha : a ≠ "") (hb : b ≠ "")
    (h : c.vectorizer.assemble a = c.vectorizer.assemble b) : c.predict a = c.predict b := by
  rw [predict, predict, if_neg (by simpa using ha), if_neg (by simpa using hb), h]

/--
Texts in which a fitted vectorizer finds every known term equally often have the same
vector, and snippets that have the same structural counts as well get the same
prediction from a trained classifier.
-/
theorem depends_on_counts [Logarithm] :
    (forall (s : VectorizerSettings) (documents : List String) (v : Vectorizer),
      Vectorizer.fit s documents = .ok v -> forall a b, v.Alike a b ->
        ∃ x, v.transform a = .ok x ∧ v.transform b = .ok x) ∧
    forall (corpus : Corpus) (settings : TrainingSettings) (run : TrainingRun),
      train corpus settings = .ok run -> forall a b, a ≠ "" -> b ≠ "" ->
        run.classifier.vectorizer.Alike a b ->
        Structure.Counts.ofCode a.toList = Structure.Counts.ofCode b.toList ->
        ∃ p, run.classifier.predict a = .ok p ∧ run.classifier.predict b = .ok p := by
  constructor
  · intro s documents v hfit a b halike
    rcases v.transform_eq_ok (Vectorizer.fitted_of_fit hfit) a with ⟨x, hx, _⟩
    exact ⟨x, hx, (Vectorizer.transform_of_alike hfit halike).symm.trans hx⟩
  · intro corpus settings run hrun a b ha hb halike hcounts
    rcases TrainingRun.parts_of_train hrun with ⟨hsettings, _, hparts⟩
    rcases (hparts.consistent hsettings).predict_eq_ok ha with ⟨p, hp, _⟩
    have hsame := Vectorizer.assemble_of_alike hparts.fit_eq halike hcounts
    exact ⟨p, hp, (Classifier.predict_of_assemble ha hb hsame).symm.trans hp⟩

/-- The known terms stand in another order and between other characters. -/
theorem depends_on_counts_twoLabels :
    ∃ run, @train logarithmOfFiveQuarters Corpus.twoLabels .small = .ok run ∧
      (∃ x, run.classifier.vectorizer.transform "ab;x" = .ok x ∧
        run.classifier.vectorizer.transform "yB;A" = .ok x) ∧
      ∃ p, run.classifier.predict "ab;x" = .ok p ∧ run.classifier.predict "yB;A" = .ok p := by
  rcases exists_run_twoLabels with ⟨run, hrun⟩
  have hfit := (@TrainingRun.Consists.fit_eq logarithmOfFiveQuarters _ _ _
    (@TrainingRun.parts_of_train logarithmOfFiveQuarters _ _ _ hrun).2.2)
  have halike : run.classifier.vectorizer.Alike "ab;x" "yB;A" := by
    intro term hterm
    rcases @Vectorizer.exists_document_of_fit logarithmOfFiveQuarters _ _ _ hfit _ hterm with
      ⟨d, hd, hwindow⟩
    rw [@Vectorizer.settings_of_fit logarithmOfFiveQuarters _ _ _ hfit]
    have hall : forall d, d ∈ Corpus.twoLabels.codes ->
        forall term, term ∈ TrainingSettings.small.vectorizer.terms d ->
          TrainingSettings.small.vectorizer.occurrences term "ab;x" =
            TrainingSettings.small.vectorizer.occurrences term "yB;A" := by
      decide +kernel
    exact hall d hd term hwindow
  have hcounts : Structure.Counts.ofCode "ab;x".toList = Structure.Counts.ofCode "yB;A".toList := by
    decide +kernel
  have hvector := (@depends_on_counts logarithmOfFiveQuarters).1 _ _ _ hfit _ _ halike
  have hprediction := (@depends_on_counts logarithmOfFiveQuarters).2 _ _ run hrun _ _ (by decide)
    (by decide) halike hcounts
  exact ⟨run, hrun, hvector, hprediction⟩

end Polyglot
