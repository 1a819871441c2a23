import Polyglot.Proofs.Renaming
import Polyglot.Proofs.Training.Prediction

/-!
# Training on renamed labels

A run on a corpus whose labels are renamed is the run on the corpus itself with its
labels renamed, as long as the order of the labels is kept.  Renaming does not help
or hurt, unless it makes a blank label out of one that is not, or the other way
around.
-/

namespace Polyglot

open Attempts (reword bind_reword mapM_reword)

def Sample.rename (f : String → String) (sample : Sample) : Sample :=
  { sample with label := f sample.label }

def Corpus.rename (f : String → String) (corpus : Corpus) : Corpus :=
  ⟨corpus.samples.map (Sample.rename f)⟩

@[simp] theorem Corpus.labels_rename (f : String → String) (corpus : Corpus) :
    (corpus.rename f).labels = corpus.labels.map f := by
  simp [labels, rename, Sample.rename]

@[simp] theorem Corpus.codes_rename (f : String → String) (corpus : Corpus) :
    (corpus.rename f).codes = corpus.codes := by
  simp [codes, rename, Sample.rename]

def KeepsBlanks (f : String → String) (labels : List String) : Prop :=
  forall label, label ∈ labels ->
    Text.allBlank (f label).toList = Text.allBlank label.toList

theorem Corpus.check_rename {f : String → String} {corpus : Corpus}
    (h : KeepsBlanks f corpus.labels) : (corpus.rename f).check = corpus.check := by
  have hentries : forall entries : List (Sample × Nat),
      (forall entry, entry ∈ entries -> entry.1.label ∈ corpus.labels) ->
        (entries.map (Prod.map (Sample.rename f) id)).forM
            (fun entry => entry.1.check (entry.2 + 1)) =
          entries.forM fun entry => entry.1.check (entry.2 + 1) := by
    intro entries hlabels
    induction entries with
    | nil => rfl
    | cons entry entries ih =>
        have hfirst : (entry.1.rename f).check (entry.2 + 1) = entry.1.check (entry.2 + 1) := by
          unfold Sample.check Sample.rename
          dsimp only
          rw [h _ (hlabels entry List.mem_cons_self)]
        have hrest := ih fun other hother => hlabels other (List.mem_cons_of_mem entry hother)
        show ((entry.1.rename f).check (entry.2 + 1) >>= fun _ => _) =
          (entry.1.check (entry.2 + 1) >>= fun _ => _)
        rw [hfirst]
        exact congrArg _ (funext fun _ => hrest)
  unfold check rename
  dsimp only
  rw [List.isEmpty_map, List.zipIdx_map]
  split
  · rfl
  · apply hentries
    intro entry hentry
    exact List.mem_map_of_mem (List.mem_of_getElem? (List.mem_zipIdx_iff_getElem?.mp hentry))

theorem Corpus.label_of_check {corpus : Corpus} (h : corpus.check = .ok ()) {label : String}
    (hlabel : label ∈ corpus.labels) : Text.allBlank label.toList = false := by
  rcases List.mem_map.mp hlabel with ⟨sample, hsample, rfl⟩
  rcases List.getElem?_of_mem hsample with ⟨i, hi⟩
  have hentry : (sample, i) ∈ corpus.samples.zipIdx := List.mem_zipIdx_iff_getElem?.mpr hi
  have hcondition := (checks_corpus corpus).forall_of_ok h
    ⟨∃ c, c ∈ sample.label.toList ∧ Text.isBlank c = false, .validation, .blankLabel (i + 1)⟩
    (List.mem_cons_of_mem _ (List.mem_flatMap.mpr ⟨(sample, i), hentry, by
      simp [sampleRequirements]⟩))
  rw [Text.allBlank, Bool.eq_false_iff, ne_eq, List.all_eq_true]
  rcases hcondition with ⟨c, hc, hvisible⟩
  intro hall
  rw [hall c hc] at hvisible
  cases hvisible

/-!
## Steps that know no labels
-/

def Nameless {α : Type} (f : String → String) (x : Except Failure α) : Prop :=
  x = reword (Failure.rename f) id x

theorem nameless_of_checks {α : Type} {f : String → String} {rs : List Requirement}
    {x : Except ClassifierError α} (h : Checks rs x)
    (hrs : forall r, r ∈ rs -> r.error.rename f = r.error) : Nameless f (TrainingRun.refuse x) := by
  rcases h with ⟨_, y, rfl⟩ | ⟨r, hr, rfl⟩
  · rfl
  · exact congrArg (Except.error ∘ Failure.error) (hrs r hr.mem).symm

theorem nameless_settings (f : String → String) (s : TrainingSettings) :
    Nameless f (TrainingRun.refuse s.check) := by
  apply nameless_of_checks (checks_settings s)
  intro r hr
  simp only [settingsRequirements, List.mem_cons, List.not_mem_nil, or_false] at hr
  rcases hr with rfl | rfl | rfl | rfl | rfl | rfl <;> rfl

theorem nameless_corpus (f : String → String) (corpus : Corpus) :
    Nameless f (TrainingRun.refuse corpus.check) := by
  apply nameless_of_checks (checks_corpus corpus)
  intro r hr
  rcases List.mem_cons.mp hr with rfl | hr
  · rfl
  · rcases List.mem_flatMap.mp hr with ⟨entry, _, hr⟩
    simp only [sampleRequirements, List.mem_cons, List.not_mem_nil, or_false] at hr
    rcases hr with rfl | rfl <;> rfl

theorem nameless_fit [Logarithm] (f : String → String) (s : VectorizerSettings)
    (documents : List String) : Nameless f (TrainingRun.refuse (Vectorizer.fit s documents)) := by
  unfold Vectorizer.fit
  split
  · rfl
  · split
    · rfl
    · rfl

namespace TrainingRun

theorem nameless_assembleAll (f : String → String) (v : Vectorizer) (codes : List String) :
    Nameless f (assembleAll v codes) := by
  unfold assembleAll
  cases codes.mapM v.assemble with
  | ok rows => rfl
  | error fault => rfl

theorem select_map {α β : Type} (f : String → String) (g : α → β) (items : List α)
    (rows : List Nat) : select (items.map g).toArray rows =
      reword (Failure.rename f) (List.map g) (select items.toArray rows) := by
  have hrow : forall row, rowAt (items.map g).toArray row =
      reword (Failure.rename f) g (rowAt items.toArray row) := by
    intro row
    unfold rowAt
    rw [List.getElem?_toArray, List.getElem?_toArray, List.getElem?_map]
    cases items[row]? with
    | none => rfl
    | some x => rfl
  have hmapM := mapM_reword id rows fun row _ => hrow row
  rwa [List.map_id_fun] at hmapM

theorem nameless_select {α : Type} (f : String → String) (items : Array α) (rows : List Nat) :
    Nameless f (select items rows) := by
  have hsame := select_map f id items.toList rows
  rwa [List.map_id_fun] at hsame

theorem refuse_reword {α β : Type} {f : String → String} {value : α → β}
    {x : Except ClassifierError α} {x' : Except ClassifierError β}
    (h : x' = reword (ClassifierError.rename f) value x) :
    refuse x' = reword (Failure.rename f) value (refuse x) := by
  subst h
  cases x with
  | error e => rfl
  | ok y => rfl

/-!
## Renamed runs
-/

def rename (f : String → String) (run : TrainingRun) : TrainingRun :=
  { run with
    corpus := run.corpus.rename f
    trainLabels := run.trainLabels.map f
    classifier := run.classifier.rename f
    report := run.report.rename f }

variable [Logarithm]

theorem ofChecked_rename {f : String → String} {corpus : Corpus}
    (h : KeepsOrder f corpus.labels) (settings : TrainingSettings) :
    ofChecked (corpus.rename f) settings =
      reword (Failure.rename f) (rename f) (ofChecked corpus settings) := by
  have hknown : forall {rows : List Nat} {labels : List String},
      select corpus.labels.toArray rows = .ok labels -> labels ⊆ corpus.labels := by
    intro rows labels hlabels label hlabel
    rcases mem_of_select hlabels hlabel with ⟨row, _, hrow⟩
    rw [List.getElem?_toArray] at hrow
    exact List.mem_of_getElem? hrow
  unfold ofChecked
  dsimp only
  rw [Corpus.labels_rename, Corpus.codes_rename]
  refine bind_reword (refuse_reword (Split.stratified_map h (List.Subset.refl _) _ _))
    fun split _ => ?_
  refine bind_reword (nameless_fit f _ _) fun vectorizer _ => ?_
  refine bind_reword (nameless_assembleAll f _ _) fun features _ => ?_
  refine bind_reword (nameless_select f _ _) fun trainFeatures _ => ?_
  refine bind_reword (select_map f f _ _) fun trainLabels htrainLabels => ?_
  refine bind_reword (Forest.fit_rename h _ _ _ (hknown htrainLabels)) fun forest hforest => ?_
  refine bind_reword (select_map f f _ _) fun testLabels htestLabels => ?_
  refine bind_reword (nameless_select f _ _) fun testFeatures _ => ?_
  have hclasses : forest.classes ⊆ corpus.labels := by
    rw [(Forest.isTrained_of_fit hforest).classes_eq]
    exact fun label hlabel => hknown htrainLabels (Labels.mem_distinct.mp hlabel)
  have hpredict := mapM_reword id testFeatures fun x _ =>
    Forest.predict_rename f (forest.withFingerprint vectorizer.fingerprint) x
  rw [List.map_id_fun] at hpredict
  refine bind_reword hpredict fun predicted hpredicted => ?_
  have hnames : predicted ⊆ corpus.labels := by
    intro label hlabel
    rcases Attempts.exists_of_mem_mapM hpredicted hlabel with ⟨x, _, hx⟩
    rcases Forest.predict_eq_ok_iff.mp hx with ⟨p, _, hclass⟩
    rcases Option.bind_eq_some_iff.mp hclass with ⟨i, _, hi⟩
    exact hclasses (List.mem_of_getElem? hi)
  refine bind_reword (refuse_reword (Report.ofPredictions_map h hclasses
    (hknown htestLabels) hnames _)) fun report _ => ?_
  rfl

end TrainingRun

theorem train_rename_of_check [Logarithm] {f : String → String} {corpus : Corpus}
    (h : KeepsOrder f corpus.labels) (hcheck : (corpus.rename f).check = corpus.check)
    (settings : TrainingSettings) : train (corpus.rename f) settings =
      reword (Failure.rename f) (TrainingRun.rename f) (train corpus settings) := by
  unfold train
  rw [hcheck]
  refine bind_reword (nameless_settings f settings) fun _ _ => ?_
  refine bind_reword (nameless_corpus f corpus) fun _ _ => ?_
  exact TrainingRun.ofChecked_rename h settings

/-- A corpus that passes its checks passes them with names that are not blank. -/
theorem Corpus.check_rename_of_ok {f : String → String} {corpus : Corpus}
    (h : corpus.check = .ok ())
    (hvisible : forall label, label ∈ corpus.labels ->
      Text.allBlank label.toList = false -> Text.allBlank (f label).toList = false) :
    (corpus.rename f).check = corpus.check := by
  apply check_rename
  intro label hlabel
  have hlabelVisible := label_of_check h hlabel
  rw [hlabelVisible, hvisible label hlabel hlabelVisible]

/--
Labels are data.  Renaming them in a way that keeps their order, and makes none of them
blank, makes no difference to a run that succeeds but for the names: the vectorizer and
all trees are the same, and classes, report and predictions carry the new names.  If
blank labels stay blank as well, a run that fails still fails, for the same cause.
-/
theorem train_rename [Logarithm] {f : String → String} {corpus : Corpus}
    (horder : KeepsOrder f corpus.labels)
    (hvisible : forall label, label ∈ corpus.labels ->
      Text.allBlank label.toList = false -> Text.allBlank (f label).toList = false)
    (settings : TrainingSettings) :
    (forall run, train corpus settings = .ok run ->
      ∃ run', train (corpus.rename f) settings = .ok run' ∧
        run'.classifier.vectorizer = run.classifier.vectorizer ∧
        run'.classifier.fingerprint = run.classifier.fingerprint ∧
        run'.classifier.forest = run.classifier.forest.rename f ∧
        run'.split = run.split ∧
        run'.report = run.report.rename f ∧
        forall code,
          run'.classifier.predict code =
            reword (Failure.rename f) (Prediction.rename f) (run.classifier.predict code) ∧
          forall p, run.classifier.predict code = .ok p -> forall label, label ∈ corpus.labels ->
            (p.rename f).scores.lookup (f label) = p.scores.lookup label) ∧
    ((forall label, label ∈ corpus.labels ->
        Text.allBlank label.toList = true -> Text.allBlank (f label).toList = true) ->
      ((∃ run, train (corpus.rename f) settings = .ok run) ↔
        ∃ run, train corpus settings = .ok run) ∧
      (forall e, train corpus settings = .error (.error e) ->
        train (corpus.rename f) settings = .error (.error (e.rename f)) ∧
          (e.rename f).kind = e.kind) ∧
      forall fault, train corpus settings = .error (.fault fault) ->
        train (corpus.rename f) settings = .error (.fault fault)) := by
  constructor
  · intro run hrun
    rcases TrainingRun.parts_of_train hrun with ⟨_, hcorpus, hparts⟩
    have hrenamed := train_rename_of_check horder
      (Corpus.check_rename_of_ok hcorpus hvisible) settings
    rw [hrun] at hrenamed
    have hclasses : run.classifier.forest.classes ⊆ corpus.labels := by
      rw [hparts.classes_eq]
      exact fun label hlabel => Labels.mem_distinct.mp hlabel
    refine ⟨run.rename f, hrenamed, rfl, rfl, rfl, rfl, rfl, fun code => ⟨?_, ?_⟩⟩
    · exact Classifier.predict_rename horder hclasses code
    · intro p hp label hlabel
      apply lookup_map horder hlabel
      intro e he
      have hcode : code ≠ "" := by
        rintro rfl
        cases hp
      rcases predict_of_train hrun hcode with ⟨p', hp', _, hkeys, _⟩
      cases hp.symm.trans hp'
      exact (hkeys e.1).mp (List.mem_map_of_mem he)
  · intro hblank
    have hblanks : KeepsBlanks f corpus.labels := by
      intro label hlabel
      cases hlabelBlank : Text.allBlank label.toList with
      | true => exact hblank label hlabel hlabelBlank
      | false => exact hvisible label hlabel hlabelBlank
    rw [train_rename_of_check horder (Corpus.check_rename hblanks) settings]
    cases train corpus settings with
    | ok run =>
        refine ⟨iff_of_true ⟨_, rfl⟩ ⟨run, rfl⟩, ?_, ?_⟩
        · intro e he
          cases he
        · intro fault hfault
          cases hfault
    | error failure =>
        refine ⟨iff_of_false ?_ ?_, ?_, ?_⟩
        · rintro ⟨run, hrun⟩
          cases hrun
        · rintro ⟨run, hrun⟩
          cases hrun
        · rintro e ⟨⟩
          exact ⟨rfl, ClassifierError.kind_rename f e⟩
        · rintro fault ⟨⟩
          rfl

def plainName (label : String) : String :=
  if label = " " then "x" else if label = "y" then "z" else label

theorem train_rename_twoLabels :
    ∃ run', @train logarithmOfFiveQuarters (Corpus.twoLabels.rename plainName) .small = .ok run' ∧
      run'.classifier.forest.classes = ["x", "z"] := by
  have horder : KeepsOrder plainName Corpus.twoLabels.labels := by
    unfold KeepsOrder
    decide +kernel
  have hvisible : forall label, label ∈ Corpus.twoLabels.labels ->
      Text.allBlank label.toList = false -> Text.allBlank (plainName label).toList = false := by
    decide +kernel
  rcases exists_run_twoLabels with ⟨run, hrun⟩
  rcases (@train_rename logarithmOfFiveQuarters plainName Corpus.twoLabels horder hvisible
    .small).1 run hrun with ⟨run', hrun', _, _, hforest, _⟩
  have hparts := (@TrainingRun.parts_of_train logarithmOfFiveQuarters _ _ _ hrun).2.2
  refine ⟨run', hrun', ?_⟩
  rw [hforest, Forest.rename, @TrainingRun.Consists.classes_eq logarithmOfFiveQuarters _ _ _ hparts]
  show (Labels.distinct Corpus.twoLabels.labels).map plainName = _
  decide +kernel

def Corpus.blankLabel : Corpus :=
  .ofPairs [("ab", " "), ("b", " "), ("a", "y"), ("ab", "y")]

/-- A blank label is refused, and the name that it is given is not. -/
theorem train_rename_blankLabel :
    KeepsOrder plainName Corpus.blankLabel.labels ∧
    (forall label, label ∈ Corpus.blankLabel.labels ->
      Text.allBlank label.toList = false -> Text.allBlank (plainName label).toList = false) ∧
    (∃ run, @train logarithmOfFiveQuarters (Corpus.blankLabel.rename plainName) .small = .ok run) ∧
    @train logarithmOfFiveQuarters Corpus.blankLabel .small = .error (.error (.blankLabel 1)) := by
  refine ⟨?_, ?_, ?_, ?_⟩
  · unfold KeepsOrder
    decide +kernel
  · decide +kernel
  · have hlabels : Split.Divisible (Corpus.blankLabel.rename plainName).labels := by
      constructor
      · decide +kernel
      · decide +kernel
    exact @exists_run_of_checks logarithmOfFiveQuarters lawful_logarithmOfFiveQuarters _ _
      checks_twoLabels.1 (by decide +kernel) hlabels (by decide)
  · have hsettings : TrainingSettings.small.check = .ok () := checks_twoLabels.1
    have hcorpus : Corpus.blankLabel.check = .error (.blankLabel 1) := by decide +kernel
    unfold train
    rw [hsettings, hcorpus]
    rfl

end Polyglot
