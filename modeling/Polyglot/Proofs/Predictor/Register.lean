import Mathlib.Logic.Function.Basic
import Polyglot.Proofs.Files.Places
import Polyglot.Proofs.Predictor.Failure
import Polyglot.Proofs.Training.Storage

/-!
# A shared bundle

Several predictors and stores that use one path share one classifier at most: the
one that was saved last, until it is removed.  Whoever loads gets that one, and a
predictor trains by itself only as long as there is none.
-/

namespace Polyglot

/-- The numbers of a classifier are numbers that a bundle keeps. -/
structure Classifier.Storable (c : Classifier) : Prop where
  vectorizer : c.vectorizer.Storable
  forest : c.forest.Storable

/-- The forest was trained for the features of the vectorizer. -/
structure Classifier.Coherent (c : Classifier) : Prop where
  fingerprint : c.forest.fingerprint = c.fingerprint
  width : c.forest.width = c.vectorizer.width

namespace Bundle

theorem read_write_cases {c : Classifier} (h : c.Storable) :
    (c.Coherent ∧ read (write c) = .ok c) ∨
      ¬ c.Coherent ∧ ∃ e, read (write c) = .error e := by
  have hread : read (write c) = assemble ⟨c.fingerprint, c.vectorizer, c.forest⟩ := by
    unfold read write
    rw [Json.parse_print (spelled_json _ _ _), Option.bind_some, parts?_json _ h.vectorizer h.forest]
  by_cases hcoherent : c.Coherent
  · exact .inl ⟨hcoherent, read_write h.vectorizer h.forest hcoherent.fingerprint hcoherent.width⟩
  · refine .inr ⟨hcoherent, ?_⟩
    rw [hread, assemble]
    dsimp only
    split
    · exact ⟨_, rfl⟩
    · split
      · exact ⟨_, rfl⟩
      · rename_i hfingerprint
        split
        · exact ⟨_, rfl⟩
        · rename_i hwidth
          exact absurd ⟨Decidable.not_not.mp hfingerprint, Decidable.not_not.mp hwidth⟩ hcoherent

end Bundle

/-- At the path stands the bundle of the classifier, or nothing but a place for one. -/
structure Files.Tree.Holds (t : Files.Tree) (path : Path) (kept : Option Classifier) : Prop where
  keeps : t.Keeps path (kept.map Bundle.write)
  storable : forall c, kept = some c -> c.Storable

namespace Files.Tree.Holds

variable {t : Files.Tree} {path : Path} {kept : Option Classifier}

theorem isPresent_eq (h : t.Holds path kept) : t.isPresent path = kept.isSome := by
  rw [h.keeps.isPresent_eq, Option.isSome_map]

theorem exists_save (h : t.Holds path kept) {c : Classifier} (hc : c.Storable) :
    ∃ after, t.save path (Bundle.write c) = (.ok (), after) ∧ after.Holds path (some c) := by
  rcases h.keeps.admits.exists_save (Bundle.write c) with ⟨after, hsaved, hkeeps⟩
  refine ⟨after, hsaved, hkeeps, fun other hother => ?_⟩
  cases hother
  exact hc

theorem classifier_of_none (h : t.Holds path none) :
    t.classifier path = .error (.notFound path) :=
  h.keeps.classifier_eq

theorem classifier_of_some {c : Classifier} (h : t.Holds path (some c)) :
    t.classifier path = (Bundle.read (Bundle.write c)).mapError .bundle :=
  h.keeps.classifier_eq

theorem exists_remove {c : Classifier} (h : t.Holds path (some c)) :
    ∃ after, t.remove path = .ok after ∧ after.Holds path none := by
  rcases Keeps.exists_remove h.keeps with ⟨after, hremoved, hkeeps⟩
  refine ⟨after, hremoved, hkeeps, ?_⟩
  intro c hnone
  cases hnone

end Files.Tree.Holds

/-!
## Operations
-/

/-- What is asked of one of several predictors, or of a store. -/
inductive Operation (ι : Type) where
  | train (i : ι)
  | load (i : ι)
  | loadOrTrain (i : ι)
  | save (s : Store) (c : Classifier)
  | fetch (s : Store)
  | remove (s : Store)
  | check (s : Store)

inductive Answer where
  | trained (result : Except PredictorError Report)
  | loaded (result : Except ModelError Bool)
  | loadedOrTrained (result : Except PredictorError (Option Report))
  | saved (result : Except ModelError Path)
  | fetched (result : Except ModelError Classifier)
  | removed (result : Except ModelError Unit)
  | checked (isSaved : Bool)

/-- Several predictors, and the workspace that they share. -/
structure Shared (ι : Type) where
  predictors : ι → Predictor
  workspace : Workspace

/-- An operation with its answer, and what it has changed. -/
structure Event (ι : Type) where
  operation : Operation ι
  answer : Answer
  before : Shared ι
  after : Shared ι

section Shared

variable [Logarithm] {ι : Type} [DecidableEq ι]

namespace Shared

def act {α : Type} (s : Shared ι) (i : ι) (action : Predictor → StateM Workspace (α × Predictor)) :
    α × Shared ι :=
  let result := action (s.predictors i) s.workspace
  (result.1.1, ⟨Function.update s.predictors i result.1.2, result.2⟩)

def serve {α : Type} (s : Shared ι) (action : StateM Workspace α) : α × Shared ι :=
  let result := action s.workspace
  (result.1, { s with workspace := result.2 })

def perform (s : Shared ι) : Operation ι → Answer × Shared ι
  | .train i => (s.act i Predictor.train).map .trained id
  | .load i => (s.act i Predictor.load).map .loaded id
  | .loadOrTrain i => (s.act i Predictor.loadOrTrain).map .loadedOrTrained id
  | .save store c => (s.serve (store.save c)).map .saved id
  | .fetch store => (s.serve store.load).map .fetched id
  | .remove store => (s.serve store.remove).map .removed id
  | .check store => (s.serve store.isSaved).map .checked id

def event (s : Shared ι) (operation : Operation ι) : Event ι where
  operation
  answer := (s.perform operation).1
  before := s
  after := (s.perform operation).2

def events (s : Shared ι) : List (Operation ι) → List (Event ι)
  | [] => []
  | operation :: operations =>
      s.event operation :: (s.event operation).after.events operations

end Shared

namespace Event

def next (kept : Option Classifier) (e : Event ι) : Option Classifier :=
  match e.operation, e.answer with
  | .train i, .trained (.ok _) => (e.after.predictors i).classifier
  | .loadOrTrain i, .loadedOrTrained (.ok (some _)) => (e.after.predictors i).classifier
  | .save _ c, .saved (.ok _) => some c
  | .remove _, .removed (.ok _) => none
  | _, _ => kept

def kept (history : List (Event ι)) : Option Classifier :=
  history.foldl next none

def Trains {α : Type} (e : Event ι) (i : ι) (result : Except PredictorError α)
    (answer : Report → α) : Prop :=
  match train (e.before.predictors i).corpus (e.before.predictors i).settings with
  | .ok run => result = .ok (answer run.report) ∧
      (e.after.predictors i).classifier = some run.classifier
  | .error f => result = .error (.classifier f) ∧ e.after.predictors = e.before.predictors ∧
      e.after.workspace.files = e.before.workspace.files

section Trains

variable {α : Type} {e : Event ι} {i : ι} {result : Except PredictorError α}
  {answer : Report → α}

omit [DecidableEq ι] in
theorem Trains.of_run {run : TrainingRun}
    (hrun : train (e.before.predictors i).corpus (e.before.predictors i).settings = .ok run)
    (hresult : result = .ok (answer run.report))
    (hkept : (e.after.predictors i).classifier = some run.classifier) :
    e.Trains i result answer := by
  unfold Trains
  rw [hrun]
  exact ⟨hresult, hkept⟩

omit [DecidableEq ι] in
theorem Trains.of_failure {f : Failure}
    (hrun : train (e.before.predictors i).corpus (e.before.predictors i).settings = .error f)
    (hresult : result = .error (.classifier f))
    (hpredictors : e.after.predictors = e.before.predictors)
    (hfiles : e.after.workspace.files = e.before.workspace.files) :
    e.Trains i result answer := by
  unfold Trains
  rw [hrun]
  exact ⟨hresult, hpredictors, hfiles⟩

end Trains

/--
What an event has to be like while a classifier, or none, is kept.  Loading gives what
is kept, and says that nothing is there exactly if nothing is kept.  A predictor that
may load or train trains exactly if nothing is kept, and otherwise changes no file.
-/
def Conforms (kept : Option Classifier) (e : Event ι) : Prop :=
  match e.operation, e.answer with
  | .train i, .trained result => e.Trains i result id
  | .load i, .loaded result =>
      (result = .ok false ↔ kept = none) ∧
      (result = .ok true -> kept ≠ none ∧ (e.after.predictors i).classifier = kept) ∧
      (forall c, kept = some c -> (result = .ok true ↔ c.Coherent)) ∧
      e.after.workspace.files = e.before.workspace.files
  | .loadOrTrain i, .loadedOrTrained result =>
      ((∃ report, result = .ok (some report)) ↔ kept = none ∧
        ∃ run, train (e.before.predictors i).corpus (e.before.predictors i).settings = .ok run) ∧
      (kept = none -> e.Trains i result some) ∧
      (result = .ok none -> kept ≠ none ∧ (e.after.predictors i).classifier = kept) ∧
      (forall c, kept = some c -> (result = .ok none ↔ c.Coherent)) ∧
      (kept ≠ none -> e.after.workspace.files = e.before.workspace.files)
  | .save s _, .saved result => result = .ok s.bundlePath
  | .fetch _, .fetched result =>
      ((∃ path, result = .error (.notFound path)) ↔ kept = none) ∧
      (forall c, result = .ok c -> kept = some c) ∧
      (forall c, kept = some c -> (result = .ok c ↔ c.Coherent)) ∧
      e.after.workspace.files = e.before.workspace.files
  | .remove _, .removed result => result = .ok ()
  | .check _, .checked isSaved => (isSaved = false ↔ kept = none) ∧
      e.after.workspace.files = e.before.workspace.files
  | _, _ => False

end Event

/-!
## Who takes part
-/

/--
A predictor keeps its classifier at the path, and whatever it trains can be kept:
sizes are machine words, and numbers are finite and read as they were written.
-/
structure Predictor.Uses (p : Predictor) (path : Path) : Prop where
  path_eq : p.modelPath = path
  samples : p.corpus.size < 2 ^ 63
  width : forall run, Polyglot.train p.corpus p.settings = .ok run ->
    run.classifier.vectorizer.width < UInt64.size
  finite : forall run, Polyglot.train p.corpus p.settings = .ok run ->
    forall x, x ∈ run.classifier.singles -> x.isFinite = true
  numbers : forall run, Polyglot.train p.corpus p.settings = .ok run ->
    forall x, x ∈ run.classifier.singles -> x.isFinite = true -> Json.KeepsSingle x

theorem Predictor.Uses.storable {p : Predictor} {path : Path} (h : p.Uses path)
    {run : TrainingRun} (hrun : Polyglot.train p.corpus p.settings = .ok run) :
    run.classifier.Storable := by
  rcases TrainingRun.parts_of_train hrun with ⟨_, _, hparts⟩
  have hnumbers : forall x, x ∈ run.classifier.singles -> Json.KeepsSingle x :=
    fun x hx => h.numbers run hrun x hx (h.finite run hrun x hx)
  constructor
  · exact hparts.storable_vectorizer hnumbers
  · exact hparts.storable_forest h.samples (h.width run hrun) hnumbers

theorem Predictor.Uses.with_classifier {p : Predictor} {path : Path} (h : p.Uses path)
    (kept : Option Classifier) : ({ p with classifier := kept } : Predictor).Uses path :=
  ⟨h.path_eq, h.samples, h.width, h.finite, h.numbers⟩

def Operation.Uses (path : Path) : Operation ι → Prop
  | .save s c => s.bundlePath = path ∧ c.Storable
  | .fetch s | .remove s | .check s => s.bundlePath = path
  | _ => True

/-- All predictors use the path, and there stands what is kept. -/
structure Shared.Holds (s : Shared ι) (path : Path) (kept : Option Classifier) : Prop where
  uses : forall i, (s.predictors i).Uses path
  files : s.workspace.files.Holds path kept

/-!
## What the operations do
-/

namespace Predictor

variable {p : Predictor} {w : Workspace} {path : Path} {kept : Option Classifier}

theorem outcome_train_of_holds (h : w.files.Holds path kept) (huses : p.Uses path) :
    (∃ run after, Polyglot.train p.corpus p.settings = .ok run ∧
      outcome p.train w = ((.ok run.report, { p with classifier := some run.classifier }), after) ∧
      after.Holds path (some run.classifier)) ∨
    ∃ f, Polyglot.train p.corpus p.settings = .error f ∧
      outcome p.train w = ((.error (.classifier f), p), w.files) := by
  rw [outcome_train]
  cases hrun : Polyglot.train p.corpus p.settings with
  | error f => exact .inr ⟨f, rfl, rfl⟩
  | ok run =>
      rcases h.exists_save (huses.storable hrun) with ⟨after, hsaved, hholds⟩
      refine .inl ⟨run, after, rfl, ?_, hholds⟩
      dsimp only
      rw [huses.path_eq, hsaved]

omit [Logarithm] in
theorem outcome_load_of_none (h : w.files.Holds path none) (hpath : p.modelPath = path) :
    outcome p.load w = ((.ok false, p), w.files) := by
  rw [outcome_load, hpath, h.classifier_of_none]

omit [Logarithm] in
theorem outcome_load_of_some {c : Classifier} (h : w.files.Holds path (some c))
    (hpath : p.modelPath = path) :
    (c.Coherent ∧ outcome p.load w = ((.ok true, { p with classifier := some c }), w.files)) ∨
      ¬ c.Coherent ∧ ∃ e, outcome p.load w = ((.error (.bundle e), p), w.files) := by
  rw [outcome_load, hpath, h.classifier_of_some]
  rcases Bundle.read_write_cases (h.storable c rfl) with ⟨hcoherent, hread⟩ | ⟨hnot, e, hread⟩
  · rw [hread]
    exact .inl ⟨hcoherent, rfl⟩
  · rw [hread]
    exact .inr ⟨hnot, e, rfl⟩

theorem outcome_loadOrTrain_of_none (h : w.files.Holds path none) (hpath : p.modelPath = path) :
    outcome p.loadOrTrain w =
      (((outcome p.train w).1.1.map some, (outcome p.train w).1.2), (outcome p.train w).2) := by
  rw [outcome_loadOrTrain, hpath, h.classifier_of_none]

theorem outcome_loadOrTrain_of_some {c : Classifier} (h : w.files.Holds path (some c))
    (hpath : p.modelPath = path) :
    (c.Coherent ∧
      outcome p.loadOrTrain w = ((.ok none, { p with classifier := some c }), w.files)) ∨
      ¬ c.Coherent ∧ ∃ e, outcome p.loadOrTrain w = ((.error (.model (.bundle e)), p), w.files) := by
  rw [outcome_loadOrTrain, hpath, h.classifier_of_some]
  rcases Bundle.read_write_cases (h.storable c rfl) with ⟨hcoherent, hread⟩ | ⟨hnot, e, hread⟩
  · rw [hread]
    exact .inl ⟨hcoherent, rfl⟩
  · rw [hread]
    exact .inr ⟨hnot, e, rfl⟩

end Predictor

namespace Shared

variable {s : Shared ι} {path : Path} {kept : Option Classifier}

theorem Holds.update (h : s.Holds path kept) {i : ι} {p : Predictor} (hp : p.Uses path)
    {w : Workspace} {kept' : Option Classifier} (hw : w.files.Holds path kept') :
    (⟨Function.update s.predictors i p, w⟩ : Shared ι).Holds path kept' := by
  constructor
  · intro j
    show (Function.update s.predictors i p j).Uses path
    by_cases hj : j = i
    · subst hj
      rw [Function.update_self]
      exact hp
    · rw [Function.update_of_ne hj]
      exact h.uses j
  · exact hw

def Advances (s : Shared ι) (path : Path) (kept : Option Classifier) (o : Operation ι) : Prop :=
  (s.event o).Conforms kept ∧ (s.event o).after.Holds path ((s.event o).next kept)

theorem event_of_act {α : Type} {i : ι} {action : Predictor → StateM Workspace (α × Predictor)}
    {o : Operation ι} {f : α → Answer} {answer : α} {p : Predictor} {files : Files.Tree}
    (ho : s.perform o = (s.act i action).map f id)
    (h : outcome (action (s.predictors i)) s.workspace = ((answer, p), files)) :
    ∃ w, w.files = files ∧
      s.event o = ⟨o, f answer, s, ⟨Function.update s.predictors i p, w⟩⟩ := by
  have hfirst : (action (s.predictors i) s.workspace).1 = (answer, p) := congrArg Prod.fst h
  refine ⟨(action (s.predictors i) s.workspace).2, congrArg Prod.snd h, ?_⟩
  rw [event, ho, act, hfirst]
  rfl

theorem event_of_serve {α : Type} {action : StateM Workspace α} {o : Operation ι}
    {f : α → Answer} {answer : α} {files : Files.Tree}
    (ho : s.perform o = (s.serve action).map f id)
    (h : outcome action s.workspace = (answer, files)) :
    ∃ w, w.files = files ∧ s.event o = ⟨o, f answer, s, { s with workspace := w }⟩ := by
  have hanswer : (action s.workspace).1 = answer := congrArg Prod.fst h
  refine ⟨(action s.workspace).2, congrArg Prod.snd h, ?_⟩
  rw [event, ho, serve, hanswer]
  rfl

theorem advances_train (h : s.Holds path kept) (i : ι) : s.Advances path kept (.train i) := by
  unfold Advances
  rcases Predictor.outcome_train_of_holds h.files (h.uses i) with
    ⟨run, after, hrun, hout, hholds⟩ | ⟨f, hrun, hout⟩
  · rcases event_of_act (o := .train i) (f := .trained) rfl hout with ⟨w, rfl, hevent⟩
    rw [hevent]
    have hself : (Function.update s.predictors i { s.predictors i with
        classifier := some run.classifier } i).classifier = some run.classifier := by
      rw [Function.update_self]
    constructor
    · show Event.Trains _ i _ id
      exact .of_run hrun rfl hself
    · show Holds _ path (Function.update s.predictors i _ i).classifier
      rw [hself]
      exact h.update ((h.uses i).with_classifier _) hholds
  · rcases event_of_act (o := .train i) (f := .trained) rfl hout with ⟨w, hw, hevent⟩
    rw [hevent]
    constructor
    · show Event.Trains _ i _ id
      exact .of_failure hrun rfl (Function.update_eq_self i s.predictors) hw
    · exact h.update (h.uses i) (hw ▸ h.files)

theorem advances_load (h : s.Holds path kept) (i : ι) : s.Advances path kept (.load i) := by
  unfold Advances
  cases kept with
  | none =>
      have hout := Predictor.outcome_load_of_none h.files (h.uses i).path_eq
      rcases event_of_act (o := .load i) (f := .loaded) rfl hout with ⟨w, hw, hevent⟩
      rw [hevent]
      refine ⟨⟨by simp, by simp, by simp, hw⟩, ?_⟩
      exact h.update (h.uses i) (hw ▸ h.files)
  | some c =>
      rcases Predictor.outcome_load_of_some h.files (h.uses i).path_eq with
        ⟨hcoherent, hout⟩ | ⟨hnot, e, hout⟩
      · rcases event_of_act (o := .load i) (f := .loaded) rfl hout with ⟨w, hw, hevent⟩
        rw [hevent]
        refine ⟨⟨by simp, by simp, ?_, hw⟩, ?_⟩
        · rintro other ⟨⟩
          simpa using hcoherent
        · exact h.update ((h.uses i).with_classifier _) (hw ▸ h.files)
      · rcases event_of_act (o := .load i) (f := .loaded) rfl hout with ⟨w, hw, hevent⟩
        rw [hevent]
        refine ⟨⟨by simp, by simp, ?_, hw⟩, ?_⟩
        · rintro other ⟨⟩
          simpa using hnot
        · exact h.update (h.uses i) (hw ▸ h.files)

theorem advances_loadOrTrain (h : s.Holds path kept) (i : ι) :
    s.Advances path kept (.loadOrTrain i) := by
  unfold Advances
  cases kept with
  | none =>
      have hboth := Predictor.outcome_loadOrTrain_of_none h.files (h.uses i).path_eq
      rcases Predictor.outcome_train_of_holds h.files (h.uses i) with
        ⟨run, after, hrun, hout, hholds⟩ | ⟨f, hrun, hout⟩
      · rw [hout] at hboth
        rcases event_of_act (o := .loadOrTrain i) (f := .loadedOrTrained) rfl hboth with
          ⟨w, rfl, hevent⟩
        rw [hevent]
        have hself : (Function.update s.predictors i { s.predictors i with
            classifier := some run.classifier } i).classifier = some run.classifier := by
          rw [Function.update_self]
        constructor
        · refine ⟨?_, fun _ => ?_, by simp [Except.map], by simp, fun hsome => absurd rfl hsome⟩
          · exact iff_of_true ⟨_, rfl⟩ ⟨rfl, run, hrun⟩
          · exact .of_run hrun rfl hself
        · show Holds _ path (Function.update s.predictors i _ i).classifier
          rw [hself]
          exact h.update ((h.uses i).with_classifier _) hholds
      · rw [hout] at hboth
        rcases event_of_act (o := .loadOrTrain i) (f := .loadedOrTrained) rfl hboth with
          ⟨w, hw, hevent⟩
        rw [hevent]
        constructor
        · refine ⟨?_, fun _ => ?_, by simp [Except.map], by simp, fun hsome => absurd rfl hsome⟩
          · dsimp only
            rw [hrun]
            simp [Except.map]
          · exact .of_failure hrun rfl (Function.update_eq_self i s.predictors) hw
        · exact h.update (h.uses i) (hw ▸ h.files)
  | some c =>
      rcases Predictor.outcome_loadOrTrain_of_some h.files (h.uses i).path_eq with
        ⟨hcoherent, hout⟩ | ⟨hnot, e, hout⟩
      · rcases event_of_act (o := .loadOrTrain i) (f := .loadedOrTrained) rfl hout with
          ⟨w, hw, hevent⟩
        rw [hevent]
        refine ⟨⟨by simp, by simp, by simp, ?_, fun _ => hw⟩, ?_⟩
        · rintro other ⟨⟩
          simpa using hcoherent
        · exact h.update ((h.uses i).with_classifier _) (hw ▸ h.files)
      · rcases event_of_act (o := .loadOrTrain i) (f := .loadedOrTrained) rfl hout with
          ⟨w, hw, hevent⟩
        rw [hevent]
        refine ⟨⟨by simp, by simp, by simp, ?_, fun _ => hw⟩, ?_⟩
        · rintro other ⟨⟩
          simpa using hnot
        · exact h.update (h.uses i) (hw ▸ h.files)

omit [DecidableEq ι] in
theorem Holds.replace (h : s.Holds path kept) {w : Workspace} {kept' : Option Classifier}
    (hw : w.files.Holds path kept') : ({ s with workspace := w } : Shared ι).Holds path kept' :=
  ⟨h.uses, hw⟩

theorem advances_save (h : s.Holds path kept) {store : Store} {c : Classifier}
    (hstore : store.bundlePath = path) (hc : c.Storable) :
    s.Advances path kept (.save store c) := by
  unfold Advances
  rcases h.files.exists_save hc with ⟨after, hsaved, hholds⟩
  have hout := store.outcome_save c s.workspace
  rw [hstore, hsaved] at hout
  rcases event_of_serve (o := .save store c) (f := .saved) rfl hout with ⟨w, rfl, hevent⟩
  rw [hevent]
  exact ⟨congrArg Except.ok hstore.symm, h.replace hholds⟩

theorem advances_fetch (h : s.Holds path kept) {store : Store}
    (hstore : store.bundlePath = path) : s.Advances path kept (.fetch store) := by
  unfold Advances
  have hout := store.outcome_load s.workspace
  rw [hstore] at hout
  rcases event_of_serve (o := .fetch store) (f := .fetched) rfl hout with ⟨w, hw, hevent⟩
  rw [hevent]
  refine ⟨?_, h.replace (hw ▸ h.files)⟩
  cases kept with
  | none =>
      rw [h.files.classifier_of_none]
      exact ⟨by simp, by simp, by simp, hw⟩
  | some c =>
      rw [h.files.classifier_of_some]
      rcases Bundle.read_write_cases (h.files.storable c rfl) with ⟨hcoherent, hread⟩ | ⟨hnot, e, hread⟩
      · rw [hread]
        refine ⟨by simp [Except.mapError], by simp [Except.mapError], ?_, hw⟩
        rintro other ⟨⟩
        simpa [Except.mapError] using hcoherent
      · rw [hread]
        refine ⟨by simp [Except.mapError], by simp [Except.mapError], ?_, hw⟩
        rintro other ⟨⟩
        simpa [Except.mapError] using hnot

theorem advances_remove (h : s.Holds path kept) {store : Store}
    (hstore : store.bundlePath = path) : s.Advances path kept (.remove store) := by
  unfold Advances
  have hout := store.outcome_remove s.workspace
  rw [hstore, h.files.isPresent_eq] at hout
  cases kept with
  | none =>
      rcases event_of_serve (o := .remove store) (f := .removed) rfl hout with ⟨w, hw, hevent⟩
      rw [hevent]
      exact ⟨rfl, h.replace (hw ▸ h.files)⟩
  | some c =>
      rcases h.files.exists_remove with ⟨after, hremoved, hholds⟩
      rw [hremoved] at hout
      rcases event_of_serve (o := .remove store) (f := .removed) rfl hout with ⟨w, rfl, hevent⟩
      rw [hevent]
      exact ⟨rfl, h.replace hholds⟩

theorem advances_check (h : s.Holds path kept) {store : Store}
    (hstore : store.bundlePath = path) : s.Advances path kept (.check store) := by
  unfold Advances
  have hout := store.outcome_isSaved s.workspace
  rw [hstore, h.files.isPresent_eq] at hout
  rcases event_of_serve (o := .check store) (f := .checked) rfl hout with ⟨w, hw, hevent⟩
  rw [hevent]
  exact ⟨⟨by simp, hw⟩, h.replace (hw ▸ h.files)⟩

theorem advances (h : s.Holds path kept) {o : Operation ι} (ho : o.Uses path) :
    s.Advances path kept o := by
  cases o with
  | train i => exact advances_train h i
  | load i => exact advances_load h i
  | loadOrTrain i => exact advances_loadOrTrain h i
  | save store c => exact advances_save h ho.1 ho.2
  | fetch store => exact advances_fetch h ho
  | remove store => exact advances_remove h ho
  | check store => exact advances_check h ho

/-- In a run that finds `kept` at the path, every event fits what the events before it left. -/
theorem conforms_of_mem_events (h : s.Holds path kept) {operations : List (Operation ι)}
    (ho : forall o, o ∈ operations -> o.Uses path) {history future : List (Event ι)}
    {e : Event ι} (hevents : s.events operations = history ++ e :: future) :
    e.Conforms (history.foldl Event.next kept) := by
  induction operations generalizing s kept history with
  | nil =>
      rw [events] at hevents
      simp at hevents
  | cons o operations ih =>
      rcases advances h (ho o List.mem_cons_self) with ⟨hconforms, hholds⟩
      rw [events] at hevents
      cases history with
      | nil =>
          injection hevents with hfirst _
          rw [← hfirst]
          exact hconforms
      | cons first history =>
          injection hevents with hfirst hrest
          rw [← hfirst]
          exact ih hholds (fun other hother => ho other (List.mem_cons_of_mem o hother)) hrest

/--
A path that nothing stands at, and that a file could be written to, is a register for
one classifier.  Several predictors and stores work on it in any order, and whatever
one of them is asked at any time, it does what the last save, training or removal
before that calls for.
-/
theorem conforms_of_shared_path {operations : List (Operation ι)}
    (habsent : s.workspace.files.isPresent path = false)
    (hwritable : s.workspace.files.Admits path)
    (hpredictors : forall i, (s.predictors i).Uses path)
    (hoperations : forall o, o ∈ operations -> o.Uses path)
    {history future : List (Event ι)} {e : Event ι}
    (hevents : s.events operations = history ++ e :: future) :
    e.Conforms (Event.kept history) := by
  have hholds : s.Holds path none := by
    refine ⟨hpredictors, .of_absent habsent hwritable, ?_⟩
    intro c hnone
    cases hnone
  exact conforms_of_mem_events hholds hoperations hevents

end Shared
end Shared

def Predictor.quoted : Predictor where
  modelPath := ⟨Store.bundleName⟩
  corpus := .quoted
  settings := .leaves

theorem uses_quoted :
    @Predictor.Uses logarithmOfFiveQuarters .quoted ⟨Store.bundleName⟩ := by
  have hparts : forall run, @train logarithmOfFiveQuarters .quoted .leaves = .ok run ->
      @TrainingRun.Consists logarithmOfFiveQuarters .quoted .leaves run :=
    fun run hrun => (@TrainingRun.parts_of_train logarithmOfFiveQuarters _ _ _ hrun).2.2
  apply @Predictor.Uses.mk logarithmOfFiveQuarters
  · rfl
  · decide
  · intro run hrun
    rw [(vectorizer_quoted (hparts run hrun)).2]
    decide
  · intro run hrun
    rw [singles_quoted (hparts run hrun)]
    decide +kernel
  · intro run hrun
    rw [singles_quoted (hparts run hrun)]
    unfold Json.KeepsSingle
    decide +kernel

/-- The second predictor loads what the first one has trained. -/
theorem conforms_of_shared_path_quoted :
    ∃ checked trained loaded, @Shared.events logarithmOfFiveQuarters (Fin 2) _
        ⟨fun _ => .quoted, {}⟩ [.check ⟨⟨""⟩⟩, .loadOrTrain 0, .load 1] =
          [checked, trained, loaded] ∧
      @Event.Conforms logarithmOfFiveQuarters _ (Event.kept [checked, trained]) loaded := by
  refine ⟨_, _, _, rfl, ?_⟩
  apply @Shared.conforms_of_shared_path logarithmOfFiveQuarters (Fin 2) _
    ⟨fun _ => .quoted, {}⟩ ⟨Store.bundleName⟩
    [.check ⟨⟨""⟩⟩, .loadOrTrain 0, .load 1] _ _ _ _ [_, _] [] _ rfl
  · decide +kernel
  · exact Files.Tree.admits_of_write (by decide +kernel) rfl
  · exact fun _ => uses_quoted
  · intro o ho
    simp only [List.mem_cons, List.not_mem_nil, or_false] at ho
    rcases ho with rfl | rfl | rfl
    · exact rfl
    · trivial
    · trivial

end Polyglot
