import Polyglot.Proofs.Training.Run

/-!
# Accepted inputs

What a training run asks of its settings and its corpus, in the order in which
it asks.  If something is missing, the first thing that is missing is reported.
If everything is granted, the run is carried out exactly when there is room for
the estimators that it is asked for.
-/

namespace Polyglot

/-- A condition, and the error that reports its violation. -/
structure Requirement where
  condition : Prop
  kind : ErrorKind
  error : ClassifierError

/-- The requirement is violated, and all those before it are met. -/
inductive FirstViolated : List Requirement -> Requirement -> Prop
  | here {r : Requirement} {rs : List Requirement} (h : ¬ r.condition) :
      FirstViolated (r :: rs) r
  | later {q r : Requirement} {rs : List Requirement} (hq : q.condition)
      (h : FirstViolated rs r) : FirstViolated (q :: rs) r

namespace FirstViolated

theorem not_forall {rs : List Requirement} {r : Requirement} (h : FirstViolated rs r) :
    ¬ forall q, q ∈ rs -> q.condition := by
  induction h with
  | here h => exact fun hall => h (hall _ List.mem_cons_self)
  | later _ _ ih => exact fun hall => ih fun q hq => hall q (List.mem_cons_of_mem _ hq)

theorem mem {rs : List Requirement} {r : Requirement} (h : FirstViolated rs r) : r ∈ rs := by
  induction h with
  | here _ => exact List.mem_cons_self
  | later _ _ ih => exact List.mem_cons_of_mem _ ih

theorem append_right {rs : List Requirement} {r : Requirement} (h : FirstViolated rs r)
    (rs' : List Requirement) : FirstViolated (rs ++ rs') r := by
  induction h with
  | here h => exact .here h
  | later hq _ ih => exact .later hq ih

theorem append_left {rs rs' : List Requirement} {r : Requirement}
    (hrs : forall q, q ∈ rs -> q.condition) (h : FirstViolated rs' r) :
    FirstViolated (rs ++ rs') r := by
  induction rs with
  | nil => exact h
  | cons q rs ih =>
      exact .later (hrs q List.mem_cons_self)
        (ih fun other hother => hrs other (List.mem_cons_of_mem q hother))

theorem of_find? {β : Type} {items : List β} {bad : β -> Bool} {r : β -> Requirement}
    (hr : forall item, bad item = false ↔ (r item).condition) {item : β}
    (h : items.find? bad = some item) : FirstViolated (items.map r) (r item) := by
  induction items with
  | nil => cases h
  | cons first items ih =>
      rw [List.find?_cons] at h
      split at h
      · rename_i hbad
        injection h with h
        subst h
        apply FirstViolated.here
        rw [← hr, hbad]
        exact Bool.noConfusion
      · rename_i hgood
        exact .later ((hr first).mp hgood) (ih h)

end FirstViolated

/-!
## Checks
-/

/-- A computation that succeeds if all requirements are met, and else reports the first violated one. -/
def Checks {α : Type} (rs : List Requirement) (x : Except ClassifierError α) : Prop :=
  ((forall r, r ∈ rs -> r.condition) ∧ ∃ y, x = .ok y) ∨
    ∃ r, FirstViolated rs r ∧ x = .error r.error

namespace Checks

variable {α β : Type}

theorem ok (y : α) : Checks [] (.ok y) :=
  .inl ⟨fun _ hr => absurd hr List.not_mem_nil, y, rfl⟩

theorem ite {rs : List Requirement} {r : Requirement} {violated : Prop} [Decidable violated]
    {x : Except ClassifierError α} (hr : ¬ violated ↔ r.condition)
    (h : r.condition -> Checks rs x) :
    Checks (r :: rs) (if violated then .error r.error else x) := by
  by_cases hviolated : violated
  · rw [if_pos hviolated]
    exact .inr ⟨r, .here fun hcondition => hr.mpr hcondition hviolated, rfl⟩
  · have hcondition := hr.mp hviolated
    rw [if_neg hviolated]
    rcases h hcondition with ⟨hall, y, hy⟩ | ⟨q, hq, hx⟩
    · refine .inl ⟨?_, y, hy⟩
      intro q hq
      rcases List.mem_cons.mp hq with rfl | hq
      · exact hcondition
      · exact hall q hq
    · exact .inr ⟨q, .later hcondition hq, hx⟩

theorem bind {rs rs' : List Requirement} {x : Except ClassifierError α}
    {f : α -> Except ClassifierError β} (h : Checks rs x)
    (h' : forall y, x = .ok y -> Checks rs' (f y)) : Checks (rs ++ rs') (x >>= f) := by
  rcases h with ⟨hall, y, rfl⟩ | ⟨r, hr, rfl⟩
  · rcases h' y rfl with ⟨hall', hz⟩ | ⟨r, hr, hx⟩
    · refine .inl ⟨?_, hz⟩
      intro r hr
      rcases List.mem_append.mp hr with hr | hr
      · exact hall r hr
      · exact hall' r hr
    · exact .inr ⟨r, .append_left hall hr, hx⟩
  · exact .inr ⟨r, hr.append_right rs', rfl⟩

theorem forM {xs : List β} {rs : β -> List Requirement} {f : β -> Except ClassifierError PUnit}
    (h : forall x, x ∈ xs -> Checks (rs x) (f x)) : Checks (xs.flatMap rs) (xs.forM f) := by
  induction xs with
  | nil => exact Checks.ok _
  | cons x xs ih =>
      rw [List.flatMap_cons]
      show Checks _ (f x >>= fun _ => xs.forM f)
      exact (h x List.mem_cons_self).bind fun _ _ =>
        ih fun other hother => h other (List.mem_cons_of_mem x hother)

theorem forall_of_ok {rs : List Requirement} {x : Except ClassifierError α} {y : α}
    (h : Checks rs x) (hx : x = .ok y) : forall r, r ∈ rs -> r.condition := by
  rcases h with ⟨hall, _⟩ | ⟨r, _, herror⟩
  · exact hall
  · cases herror.symm.trans hx

end Checks

/-!
## What is required
-/

def settingsRequirements (s : TrainingSettings) : List Requirement := [
  { condition := 1 ≤ s.vectorizer.leastWindow ∧ s.vectorizer.leastWindow ≤ s.vectorizer.mostWindow
    kind := .validation
    error := .windowRange s.vectorizer.leastWindow s.vectorizer.mostWindow },
  { condition := 1 ≤ s.vectorizer.maxFeatures
    kind := .validation
    error := .notPositive .maxFeatures },
  { condition := 1 ≤ s.forest.estimators
    kind := .validation
    error := .notPositive .estimators },
  { condition := 1 ≤ s.forest.maxDepth
    kind := .validation
    error := .notPositive .maxDepth },
  { condition := 1 ≤ s.forest.minLeafSize
    kind := .validation
    error := .notPositive .minLeafSize },
  { condition := 0 < s.testShare ∧ s.testShare < 1
    kind := .validation
    error := .testShare s.testShare }]

/-- A sample needs code, and a label that is not blank; positions count from one. -/
def sampleRequirements (entry : Sample × Nat) : List Requirement := [
  { condition := entry.1.code ≠ ""
    kind := .validation
    error := .emptyCode (entry.2 + 1) },
  { condition := ∃ c, c ∈ entry.1.label.toList ∧ Text.isBlank c = false
    kind := .validation
    error := .blankLabel (entry.2 + 1) }]

def corpusRequirements (corpus : Corpus) : List Requirement :=
  { condition := corpus.samples ≠ []
    kind := .build
    error := .noSamples } :: corpus.samples.zipIdx.flatMap sampleRequirements

/-- There have to be two labels, and two samples of each; the smallest rare label is named. -/
def labelRequirements (labels : List String) : List Requirement :=
  { condition := 2 ≤ (Labels.distinct labels).length
    kind := .configuration
    error := .tooFewLabels (Labels.distinct labels).length } ::
  (Labels.distinct labels).map fun label =>
    { condition := 2 ≤ labels.count label
      kind := .configuration
      error := .rareLabel label (labels.count label) }

def requirements (corpus : Corpus) (settings : TrainingSettings) : List Requirement :=
  settingsRequirements settings ++
    (corpusRequirements corpus ++ labelRequirements corpus.labels)

/-!
## The checks of a run
-/

private theorem not_eq_zero_iff {n : UInt64} : ¬ n = 0 ↔ 1 ≤ n := by
  rw [UInt64.le_iff_toNat_le, ← UInt64.toNat_inj]
  show ¬ n.toNat = 0 ↔ 1 ≤ n.toNat
  omega

theorem checks_settings (s : TrainingSettings) : Checks (settingsRequirements s) s.check := by
  unfold TrainingSettings.check settingsRequirements
  refine Checks.ite ?_ fun _ => ?_
  · simp only [VectorizerSettings.rangeUsable]
    rw [← not_eq_zero_iff]
    simp
  refine Checks.ite not_eq_zero_iff fun _ => ?_
  refine Checks.ite not_eq_zero_iff fun _ => ?_
  refine Checks.ite not_eq_zero_iff fun _ => ?_
  refine Checks.ite not_eq_zero_iff fun _ => ?_
  rw [← ite_not]
  exact Checks.ite not_not fun _ => Checks.ok ()

theorem checks_sample (entry : Sample × Nat) :
    Checks (sampleRequirements entry) (entry.1.check (entry.2 + 1)) := by
  unfold Sample.check sampleRequirements
  refine Checks.ite ?_ fun _ => Checks.ite ?_ fun _ => Checks.ok ()
  · simp
  · simp [Text.allBlank]

theorem checks_corpus (corpus : Corpus) : Checks (corpusRequirements corpus) corpus.check := by
  unfold Corpus.check corpusRequirements
  refine Checks.ite ?_ fun _ => Checks.forM fun entry _ => checks_sample entry
  simp

theorem checks_stratified (labels : List String) (share : Float32) (seed : UInt64) :
    Checks (labelRequirements labels) (Split.stratified labels share seed) := by
  have hrare : forall label, decide (labels.count label < 2) = false ↔ 2 ≤ labels.count label := by
    intro label
    rw [decide_eq_false_iff_not, Nat.not_lt]
  unfold Split.stratified labelRequirements
  refine Checks.ite Nat.not_lt fun _ => ?_
  cases hfind : (Labels.distinct labels).find? fun label => decide (labels.count label < 2) with
  | some label =>
      exact .inr ⟨_, FirstViolated.of_find? (r := fun label => ⟨2 ≤ labels.count label,
        .configuration, .rareLabel label (labels.count label)⟩) hrare hfind, rfl⟩
  | none =>
      refine .inl ⟨?_, _, rfl⟩
      intro r hr
      rcases List.mem_map.mp hr with ⟨label, hlabel, rfl⟩
      exact (hrare label).mp (Bool.eq_false_iff.mpr (List.find?_eq_none.mp hfind label hlabel))

theorem labelRequirements_iff {labels : List String} :
    (forall r, r ∈ labelRequirements labels -> r.condition) ↔ Split.Divisible labels := by
  constructor
  · intro h
    constructor
    · exact h _ List.mem_cons_self
    · intro label hlabel
      exact h ⟨2 ≤ labels.count label, .configuration, .rareLabel label (labels.count label)⟩
        (List.mem_cons_of_mem _ (List.mem_map.mpr ⟨label, Labels.mem_distinct.mpr hlabel, rfl⟩))
  · intro h r hr
    rcases List.mem_cons.mp hr with rfl | hr
    · exact h.two_labels
    · rcases List.mem_map.mp hr with ⟨label, hlabel, rfl⟩
      exact h.two_rows label (Labels.mem_distinct.mp hlabel)

theorem estimators_of_check {s : TrainingSettings} (h : s.check = .ok ()) :
    s.forest.estimators ≠ 0 := by
  apply not_eq_zero_iff.mpr
  exact (checks_settings s).forall_of_ok h
    ⟨1 ≤ s.forest.estimators, .validation, .notPositive .estimators⟩
    (by simp [settingsRequirements])

theorem code_of_check {corpus : Corpus} (h : corpus.check = .ok ()) {sample : Sample}
    (hsample : sample ∈ corpus.samples) : sample.code ≠ "" := by
  rcases List.getElem?_of_mem hsample with ⟨i, hi⟩
  have hentry : (sample, i) ∈ corpus.samples.zipIdx := List.mem_zipIdx_iff_getElem?.mpr hi
  apply (checks_corpus corpus).forall_of_ok h ⟨sample.code ≠ "", .validation, .emptyCode (i + 1)⟩
  apply List.mem_cons_of_mem
  exact List.mem_flatMap.mpr ⟨(sample, i), hentry, List.mem_cons_self⟩

theorem requirements_of_checks {corpus : Corpus} {settings : TrainingSettings}
    (hsettings : settings.check = .ok ()) (hcorpus : corpus.check = .ok ())
    (hlabels : Split.Divisible corpus.labels) {r : Requirement}
    (h : r ∈ requirements corpus settings) : r.condition := by
  rcases List.mem_append.mp h with h | h
  · exact (checks_settings _).forall_of_ok hsettings r h
  · rcases List.mem_append.mp h with h | h
    · exact (checks_corpus _).forall_of_ok hcorpus r h
    · exact labelRequirements_iff.mpr hlabels r h

/-!
## Acceptance
-/

section Acceptance

variable [Logarithm]

/--
The checks are made in the order of the requirements.  Once all of them are passed, only room
for the estimators can be missing.
-/
theorem train_of_checks [LawfulLogarithm] (corpus : Corpus) (settings : TrainingSettings) :
    ((forall r, r ∈ requirements corpus settings -> r.condition) ∧
      (settings.forest.estimators.toNat ≤ Forest.capacity ->
        ∃ run, train corpus settings = .ok run) ∧
      (Forest.capacity < settings.forest.estimators.toNat ->
        train corpus settings = .error (.fault .capacityOverflow))) ∨
    ∃ r, FirstViolated (requirements corpus settings) r ∧
      train corpus settings = .error (.error r.error) := by
  unfold requirements train
  rcases checks_settings settings with ⟨hsettings, _, hok⟩ | ⟨r, hr, herror⟩
  · rw [hok]
    rcases checks_corpus corpus with ⟨hcorpus, _, hok'⟩ | ⟨r, hr, herror⟩
    · rw [hok']
      rcases checks_stratified corpus.labels settings.testShare settings.splitSeed with
        ⟨hlabels, _⟩ | ⟨r, hr, herror⟩
      · left
        have hwindow := hsettings _ List.mem_cons_self
        have hestimators := hsettings ⟨1 ≤ settings.forest.estimators, .validation,
          .notPositive .estimators⟩ (by simp [settingsRequirements])
        constructor
        · intro r hr
          rcases List.mem_append.mp hr with hr | hr
          · exact hsettings r hr
          · rcases List.mem_append.mp hr with hr | hr
            · exact hcorpus r hr
            · exact hlabels r hr
        · apply TrainingRun.ofChecked_of_divisible
          · simpa [VectorizerSettings.rangeUsable, not_eq_zero_iff] using hwindow
          · exact not_eq_zero_iff.mpr hestimators
          · exact labelRequirements_iff.mp hlabels
      · right
        refine ⟨r, .append_left hsettings (.append_left hcorpus hr), ?_⟩
        show TrainingRun.ofChecked corpus settings = _
        rw [TrainingRun.ofChecked, herror]
        rfl
    · right
      refine ⟨r, .append_left hsettings (hr.append_right _), ?_⟩
      rw [herror]
      rfl
  · right
    refine ⟨r, hr.append_right _, ?_⟩
    rw [herror]
    rfl

theorem exists_run_of_checks [LawfulLogarithm] {corpus : Corpus} {settings : TrainingSettings}
    (hsettings : settings.check = .ok ()) (hcorpus : corpus.check = .ok ())
    (hlabels : Split.Divisible corpus.labels)
    (hroom : settings.forest.estimators.toNat ≤ Forest.capacity) :
    ∃ run, train corpus settings = .ok run := by
  rcases train_of_checks corpus settings with ⟨_, hrun, _⟩ | ⟨r, hr, _⟩
  · exact hrun hroom
  · exact absurd (fun _ => requirements_of_checks hsettings hcorpus hlabels) hr.not_forall

end Acceptance

/-- The logarithm of five quarters, in single precision; all other logarithms are left at zero. -/
abbrev logarithmOfFiveQuarters : Logarithm where
  ln x := if x = 1.25 then Float32.ofBits 0x3e647fbe else 0

theorem lawful_logarithmOfFiveQuarters : @LawfulLogarithm logarithmOfFiveQuarters := by
  apply @LawfulLogarithm.mk logarithmOfFiveQuarters
  intro x v _ _
  by_cases hx : x = 1.25
  · subst hx
    refine ⟨1 * ((0xe47fbe : Nat) * 2 ^ (-26 : ℤ)), rfl, ?_, ?_⟩
    · norm_num
    · norm_num
  · refine ⟨0, ?_, by norm_num, by norm_num⟩
    show Single.value? (if x = 1.25 then _ else 0) = _
    rw [if_neg hx]
    rfl

/-- Two labels with two samples each; both terms of width one stand in three of the samples. -/
def Corpus.twoLabels : Corpus :=
  .ofPairs [("ab", "x"), ("b", "x"), ("a", "y"), ("ab", "y")]

def TrainingSettings.small : TrainingSettings where
  vectorizer := { mostWindow := 1 }
  forest := { estimators := 2 }

theorem checks_twoLabels : TrainingSettings.small.check = .ok () ∧
    Corpus.twoLabels.check = .ok () ∧ Split.Divisible Corpus.twoLabels.labels := by
  refine ⟨by decide +kernel, by decide +kernel, ?_⟩
  constructor
  · decide +kernel
  · decide +kernel

def TrainingSettings.endless : TrainingSettings where
  vectorizer := { mostWindow := 1 }
  forest := { estimators := 0xffffffffffffffff }

theorem exists_run_twoLabels :
    ∃ run, @train logarithmOfFiveQuarters Corpus.twoLabels .small = .ok run :=
  @exists_run_of_checks logarithmOfFiveQuarters lawful_logarithmOfFiveQuarters _ _
    checks_twoLabels.1 checks_twoLabels.2.1 checks_twoLabels.2.2 (by decide)

end Polyglot
