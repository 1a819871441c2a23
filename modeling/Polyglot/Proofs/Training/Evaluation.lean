import Polyglot.Proofs.Training.Prediction

/-!
# Evaluation of trained classifiers

The report of a training run compares the labels of the held-out samples with
what the finished classifier predicts for their code, although the run itself
predicts from features that it computed before.
-/

namespace Polyglot

variable {corpus : Corpus}

def Corpus.Holds (corpus : Corpus) : List Nat -> List Sample -> Prop :=
  List.Forall₂ fun row sample => corpus.samples[row]? = some sample

theorem Corpus.exists_holds {rows : List Nat}
    (h : forall row, row ∈ rows -> row < corpus.size) : ∃ held, corpus.Holds rows held := by
  induction rows with
  | nil => exact ⟨[], .nil⟩
  | cons row rows ih =>
      rcases ih fun other hother => h other (List.mem_cons_of_mem row hother) with ⟨held, hheld⟩
      exact ⟨_ :: held, .cons (List.getElem?_eq_getElem (h row List.mem_cons_self)) hheld⟩

theorem Corpus.Holds.mem {rows : List Nat} {held : List Sample} (h : corpus.Holds rows held)
    {sample : Sample} (hsample : sample ∈ held) : sample ∈ corpus.samples := by
  induction h with
  | nil => cases hsample
  | cons hrow _ ih =>
      rcases List.mem_cons.mp hsample with rfl | hsample
      · exact List.mem_of_getElem? hrow
      · exact ih hsample

theorem Corpus.Holds.labels_eq {rows : List Nat} {held : List Sample}
    (h : corpus.Holds rows held) {testLabels : List String}
    (hselect : TrainingRun.select corpus.labels.toArray rows = .ok testLabels) :
    held.map Sample.label = testLabels := by
  have hall := TrainingRun.select_eq_ok_iff.mp hselect
  clear hselect
  induction h generalizing testLabels with
  | nil =>
      cases hall
      rfl
  | cons hrow _ ih =>
      cases hall with
      | cons hlabel hall =>
          rw [List.getElem?_toArray, Corpus.labels, List.getElem?_map, hrow] at hlabel
          injection hlabel with hlabel
          rw [List.map_cons, ih hall, ← hlabel]

theorem Corpus.Holds.count_eq {rows : List Nat} {held : List Sample}
    (h : corpus.Holds rows held) (label : String) :
    (held.map Sample.label).count label = Split.carrying corpus.labels label rows := by
  induction h with
  | nil => rfl
  | @cons row sample rows held hrow _ ih =>
      have hlabel : corpus.labels[row]? = some sample.label := by
        rw [Corpus.labels, List.getElem?_map, hrow]
        rfl
      rw [List.map_cons, List.count_cons, ih]
      show _ = (row :: rows).countP _
      rw [List.countP_cons, hlabel]
      rfl

/-!
## Predicted labels
-/

theorem exists_predictions {c : Classifier} {features : Array (Array Float32)}
    (hfeatures : TrainingRun.assembleAll c.vectorizer corpus.codes = .ok features)
    (hcodes : forall sample, sample ∈ corpus.samples -> sample.code ≠ "") {rows : List Nat}
    {held : List Sample} (hheld : corpus.Holds rows held) {testFeatures : List (Array Float32)}
    (hselect : TrainingRun.select features rows = .ok testFeatures) {predicted : List String}
    (hpredicted : testFeatures.mapM c.forest.predict = .ok predicted) :
    ∃ predictions : List Prediction,
      List.Forall₂ (fun sample p => c.predict sample.code = .ok p) held predictions ∧
      predictions.map Prediction.label = predicted := by
  have hrows := TrainingRun.select_eq_ok_iff.mp hselect
  have hlabels := Attempts.forall₂_of_mapM_eq_ok hpredicted
  clear hselect hpredicted
  induction hheld generalizing testFeatures predicted with
  | nil =>
      cases hrows
      cases hlabels
      exact ⟨[], .nil, rfl⟩
  | cons hrow _ ih =>
      cases hrows with
      | cons hx hrows =>
          cases hlabels with
          | cons hlabel hlabels =>
              rcases ih hrows hlabels with ⟨predictions, hall, heq⟩
              rcases TrainingRun.exists_code_of_assembleAll hfeatures hx with
                ⟨code, hcode, hassemble⟩
              rw [Corpus.codes, List.getElem?_map, hrow] at hcode
              injection hcode with hcode
              subst hcode
              rcases Classifier.predict_of_forest (hcodes _ (List.mem_of_getElem? hrow))
                hassemble hlabel with ⟨scores, hp⟩
              exact ⟨_ :: predictions, .cons hp hall, by rw [List.map_cons, heq]⟩

/-!
## The report
-/

def quotas (corpus : Corpus) (share : Float32) : List (String × Nat) :=
  (Labels.distinct corpus.labels).map fun label =>
    (label, Split.quota (corpus.labels.count label) share)

theorem supports_eq_quotas {share : Float32} {split : Split}
    (hstratifies : Split.Stratifies corpus.labels share split) {held : List Sample}
    (hheld : corpus.Holds split.test held) {predicted : List String} {trainSize : Nat} {r : Report}
    (h : Report.ofPredictions (Labels.distinct corpus.labels) (held.map Sample.label) predicted
      trainSize = .ok r) :
    (r.perLabel.map fun m => (m.label, m.support)) = quotas corpus share := by
  rw [Report.supports_eq (Labels.nodup_distinct corpus.labels) h]
  apply List.map_congr_left
  intro label hlabel
  rw [hheld.count_eq, hstratifies.carrying_test label (Labels.mem_distinct.mp hlabel)]

theorem one_le_support {share : Float32} {r : Report}
    (h : (r.perLabel.map fun m => (m.label, m.support)) = quotas corpus share)
    {m : LabelMetrics} (hm : m ∈ r.perLabel) : 1 ≤ m.support := by
  have hentry : (m.label, m.support) ∈ quotas corpus share := by
    rw [← h]
    exact List.mem_map.mpr ⟨m, hm, rfl⟩
  rcases List.mem_map.mp hentry with ⟨label, _, heq⟩
  injection heq with _ hsupport
  rw [← hsupport]
  exact Split.one_le_quota _ _

theorem sum_supports {labels expected predicted : List String} {trainSize : Nat} {r : Report}
    (hnodup : labels.Nodup) (hexpected : forall label, label ∈ expected -> label ∈ labels)
    (h : Report.ofPredictions labels expected predicted trainSize = .ok r) :
    (r.perLabel.map LabelMetrics.support).sum = r.testSize := by
  have hsupports := congrArg (List.map Prod.snd) (Report.supports_eq hnodup h)
  rw [List.map_map, List.map_map] at hsupports
  rcases Report.of_ofPredictions h with ⟨_, _, _, htestSize, _⟩
  rw [htestSize, ← Report.total_map_count_of_subset hnodup hexpected]
  exact congrArg List.sum hsupports

/--
The report of a run compares the labels of the held-out samples with the labels
that the trained classifier predicts for their code.  It names the labels of the
corpus in ascending order, each supported by its quota.
-/
theorem report_of_train [Logarithm] {settings : TrainingSettings} {run : TrainingRun}
    (h : train corpus settings = .ok run) :
    ∃ (held : List Sample) (predictions : List Prediction),
      Split.stratified corpus.labels settings.testShare settings.splitSeed = .ok run.split ∧
      corpus.Holds run.split.test held ∧
      List.Forall₂ (fun sample p => run.classifier.predict sample.code = .ok p)
        held predictions ∧
      Report.ofPredictions run.classifier.info.classes (held.map Sample.label)
        (predictions.map Prediction.label) run.split.train.length = .ok run.report ∧
      run.report.labels = run.classifier.info.classes ∧
      run.report.labels.Pairwise (· < ·) ∧
      (forall label, label ∈ run.report.labels ↔ label ∈ corpus.labels) ∧
      (run.report.perLabel.map fun m => (m.label, m.support)) =
        run.report.labels.map (fun label =>
          (label, max 1 (min (nearestWhole (toSingle (corpus.labels.count label) *
            settings.testShare)) (corpus.labels.count label - 1)))) ∧
      (forall m, m ∈ run.report.perLabel -> 1 ≤ m.support) ∧
      (run.report.perLabel.map LabelMetrics.support).sum = run.report.testSize ∧
      run.report.trainSize + run.report.testSize = corpus.size := by
  rcases TrainingRun.parts_of_train h with ⟨hsettings, hcorpus, hparts⟩
  rcases hparts.report_eq with
    ⟨testLabels, testFeatures, predicted, hlabels, hfeatures, hpredicted, hreport⟩
  have hstratifies := hparts.stratifies
  have hsize : corpus.labels.length = corpus.size := by simp [Corpus.labels, Corpus.size]
  rcases Corpus.exists_holds fun row hrow => hsize ▸ hstratifies.test_lt hrow with
    ⟨held, hheld⟩
  rcases exists_predictions hparts.features_eq (fun _ => code_of_check hcorpus) hheld hfeatures
    hpredicted with ⟨predictions, hpredictions, hpredictedLabels⟩
  rw [← hheld.labels_eq hlabels, ← hpredictedLabels] at hreport
  have hclasses := hparts.classes_eq
  rcases Report.of_ofPredictions hreport with ⟨_, hnames, htrainSize, htestSize, _⟩
  have hnodup : run.classifier.forest.classes.Nodup := by
    rw [hclasses]
    exact Labels.nodup_distinct corpus.labels
  have hexpected : forall label, label ∈ held.map Sample.label ->
      label ∈ run.classifier.forest.classes := by
    intro label hlabel
    rcases List.mem_map.mp hlabel with ⟨sample, hsample, rfl⟩
    rw [hclasses]
    exact Labels.mem_distinct.mpr (List.mem_map.mpr ⟨sample, hheld.mem hsample, rfl⟩)
  have hsum := sum_supports hnodup hexpected hreport
  have hquotas := supports_eq_quotas hstratifies hheld (hclasses ▸ hreport)
  refine ⟨held, predictions, hparts.split_eq, hheld, hpredictions, hreport, hnames,
    ?_, ?_, ?_, fun m hm => one_le_support hquotas hm, hsum, ?_⟩
  · rw [hnames, hclasses]
    exact Labels.ascending_distinct corpus.labels
  · intro label
    rw [hnames, hclasses, Labels.mem_distinct]
  · rw [hquotas, hnames, hclasses]
    rfl
  · rw [htrainSize, htestSize, List.length_map, ← hheld.length_eq, hstratifies.length_add_length,
      hsize]

theorem report_of_train_twoLabels :
    ∃ run, @train logarithmOfFiveQuarters Corpus.twoLabels .small = .ok run ∧
      run.report.trainSize + run.report.testSize = 4 := by
  rcases exists_run_twoLabels with ⟨run, hrun⟩
  rcases @report_of_train _ logarithmOfFiveQuarters _ run hrun with
    ⟨_, _, _, _, _, _, _, _, _, _, _, _, hsize⟩
  exact ⟨run, hrun, hsize⟩

end Polyglot
