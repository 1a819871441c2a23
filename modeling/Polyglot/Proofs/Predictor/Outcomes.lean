import Polyglot.Predictor
import Polyglot.Proofs.Bundle.RoundTrip
import Polyglot.Proofs.Files.Places

/-!
# Outcomes

What training, loading, saving and removing answer, and which files they leave,
depends on the files only that they find.
-/

namespace Polyglot

def outcome {α : Type} (action : StateM Workspace α) (w : Workspace) : α × Files.Tree :=
  ((action w).1, (action w).2.files)

section Outcome

variable {α β : Type} {action : StateM Workspace α} {next : α → StateM Workspace β}
  {w : Workspace} {a : α} {t : Files.Tree}

theorem outcome_bind (next : α → StateM Workspace β) (h : outcome action w = (a, t)) :
    ∃ w', w'.files = t ∧ outcome (action >>= next) w = outcome (next a) w' := by
  have hanswer : (action w).1 = a := congrArg Prod.fst h
  have hfiles : (action w).2.files = t := congrArg Prod.snd h
  refine ⟨(action w).2, hfiles, ?_⟩
  rw [← hanswer]
  rfl

/-- Nothing but the files matters to what comes next. -/
theorem outcome_bind_eq {result : β × Files.Tree} (h : outcome action w = (a, t))
    (hnext : forall w', w'.files = t -> outcome (next a) w' = result) :
    outcome (action >>= next) w = result := by
  rcases outcome_bind next h with ⟨w', hw', heq⟩
  rw [heq, hnext w' hw']

theorem outcome_pure (a : α) (w : Workspace) :
    outcome (pure a : StateM Workspace α) w = (a, w.files) :=
  rfl

theorem outcome_note_bind (entries : List Entry) (next : Unit → StateM Workspace β)
    (w : Workspace) : outcome ((Host.note entries : StateM Workspace Unit) >>= next) w =
      outcome (next ()) (w.note entries) :=
  rfl

end Outcome

/-!
## Bundles
-/

def Files.Tree.save (t : Files.Tree) (p : Path) (bytes : List UInt8) :
    Except FileError Unit × Files.Tree :=
  match t.makeDirectories p.parent with
  | (.error e, made) => (.error e, made)
  | (.ok (), made) =>
      match made.write p bytes with
      | .ok after => (.ok (), after)
      | .error e => (.error e, made)

theorem Files.Tree.Admits.exists_save {t : Files.Tree} {p : Path} (h : t.Admits p)
    (bytes : List UInt8) :
    ∃ after, t.save p bytes = (.ok (), after) ∧ after.Keeps p (some bytes) := by
  rcases h.exists_write bytes with ⟨made, after, hmade, hwritten, hkeeps⟩
  refine ⟨after, ?_, hkeeps⟩
  rw [save, hmade]
  dsimp only
  rw [hwritten]

def Files.Tree.classifier (t : Files.Tree) (p : Path) : Except ModelError Classifier :=
  match t.read p with
  | .ok bytes => (Bundle.read bytes).mapError .bundle
  | .error .notFound => .error (.notFound p)
  | .error e => .error (.file e)

theorem Files.Tree.classifier_of_read {t : Files.Tree} {p : Path} {bytes : List UInt8}
    (h : t.read p = .ok bytes) : t.classifier p = (Bundle.read bytes).mapError .bundle := by
  rw [classifier, h]

theorem Files.Tree.Keeps.classifier_eq {t : Files.Tree} {p : Path}
    {content : Option (List UInt8)} (h : t.Keeps p content) : t.classifier p =
      match content with
      | none => .error (.notFound p)
      | some bytes => (Bundle.read bytes).mapError .bundle := by
  cases content with
  | none => rw [classifier, h.read_eq]
  | some bytes => exact classifier_of_read h.read_eq

theorem Bundle.outcome_save (c : Classifier) (p : Path) (w : Workspace) :
    outcome (Bundle.save c p) w = w.files.save p (write c) := by
  have hmake : outcome (Host.makeDirectories p.parent) w = w.files.makeDirectories p.parent := rfl
  unfold Bundle.save Files.Tree.save
  rcases hmade : w.files.makeDirectories p.parent with ⟨result, made⟩
  rw [hmade] at hmake
  refine outcome_bind_eq hmake fun w' hw' => ?_
  subst hw'
  cases result with
  | error e => rfl
  | ok =>
      show ((w'.note [writingEntry (write c).length p]).change (w'.files.write p (write c))).map id
        Workspace.files = match w'.files.write p (write c) with | _ => _
      cases w'.files.write p (write c) with
      | ok after => rfl
      | error e => rfl

theorem Bundle.outcome_load (p : Path) (w : Workspace) :
    outcome (Bundle.load p) w = (w.files.classifier p, w.files) := by
  have hread : outcome (Host.read p) w = (w.files.read p, w.files) := rfl
  unfold Bundle.load Files.Tree.classifier
  refine outcome_bind_eq hread fun w' hw' => ?_
  rw [← hw']
  cases w'.files.read p with
  | ok bytes => rfl
  | error e => cases e <;> rfl

/-!
## Predictors
-/

namespace Predictor

theorem outcome_train [Logarithm] (p : Predictor) (w : Workspace) : outcome p.train w =
    match Polyglot.train p.corpus p.settings with
    | .error f => ((.error (.classifier f), p), w.files)
    | .ok run =>
        match w.files.save p.modelPath (Bundle.write run.classifier) with
        | (.error e, after) => ((.error (.model (.file e)), p), after)
        | (.ok (), after) =>
            ((.ok run.report, { p with classifier := some run.classifier }), after) := by
  unfold train
  rw [outcome_note_bind]
  dsimp only
  rw [outcome_note_bind]
  generalize Polyglot.train p.corpus p.settings = trained
  cases trained with
  | error f => rfl
  | ok run =>
      dsimp only
      rcases hsaved : w.files.save p.modelPath (Bundle.write run.classifier) with ⟨result, after⟩
      refine outcome_bind_eq ((Bundle.outcome_save _ _ _).trans hsaved) fun w' hw' => ?_
      subst hw'
      cases result with
      | error e => rfl
      | ok => rfl

theorem outcome_load (p : Predictor) (w : Workspace) : outcome p.load w =
    (match w.files.classifier p.modelPath with
      | .ok c => (.ok true, { p with classifier := some c })
      | .error (.notFound _) => (.ok false, p)
      | .error e => (.error e, p), w.files) := by
  unfold load
  refine outcome_bind_eq (Bundle.outcome_load _ _) fun w' hw' => ?_
  rw [← hw']
  cases w'.files.classifier p.modelPath with
  | ok c => rfl
  | error e => cases e <;> rfl

theorem outcome_loadOrTrain [Logarithm] (p : Predictor) (w : Workspace) :
    outcome p.loadOrTrain w =
      match w.files.classifier p.modelPath with
      | .ok c => ((.ok none, { p with classifier := some c }), w.files)
      | .error (.notFound _) =>
          (((outcome p.train w).1.1.map some, (outcome p.train w).1.2), (outcome p.train w).2)
      | .error e => ((.error (.model e), p), w.files) := by
  unfold loadOrTrain
  refine outcome_bind_eq (p.outcome_load w) fun w' hw' => ?_
  cases w.files.classifier p.modelPath with
  | ok c => rw [← hw']; rfl
  | error e =>
      cases e with
      | notFound path =>
          have hsame : outcome p.train (w'.note [untrainedEntry]) = outcome p.train w := by
            rw [outcome_train, outcome_train]
            show _ = _
            rw [← hw']
            rfl
          dsimp only
          rw [outcome_note_bind]
          exact outcome_bind_eq hsame fun w'' hw'' => congrArg (Prod.mk _) hw''
      | bundle e => rw [← hw']; rfl
      | file e => rw [← hw']; rfl

end Predictor

/-!
## Stores
-/

namespace Store

theorem outcome_save (s : Store) (c : Classifier) (w : Workspace) : outcome (s.save c) w =
    match w.files.save s.bundlePath (Bundle.write c) with
    | (.error e, after) => (.error (.file e), after)
    | (.ok (), after) => (.ok s.bundlePath, after) := by
  unfold save
  rcases hsaved : w.files.save s.bundlePath (Bundle.write c) with ⟨result, after⟩
  refine outcome_bind_eq ((Bundle.outcome_save _ _ _).trans hsaved) fun w' hw' => ?_
  subst hw'
  cases result with
  | error e => rfl
  | ok => rfl

theorem outcome_load (s : Store) (w : Workspace) :
    outcome s.load w = (w.files.classifier s.bundlePath, w.files) := by
  unfold load
  refine outcome_bind_eq (Bundle.outcome_load _ _) fun w' hw' => ?_
  cases w.files.classifier s.bundlePath with
  | ok c => rw [← hw']; rfl
  | error e => rw [← hw']; rfl

theorem outcome_remove (s : Store) (w : Workspace) : outcome s.remove w =
    if w.files.isPresent s.bundlePath then
      match w.files.remove s.bundlePath with
      | .ok after => (.ok (), after)
      | .error e => (.error (.file e), w.files)
    else (.ok (), w.files) := by
  have hpresent : outcome (Host.isPresent s.bundlePath) w =
      (w.files.isPresent s.bundlePath, w.files) := rfl
  unfold remove
  refine outcome_bind_eq hpresent fun w' hw' => ?_
  split
  · have hremove : outcome (Host.remove s.bundlePath) w' =
        ((w'.change (w'.files.remove s.bundlePath)).1,
          (w'.change (w'.files.remove s.bundlePath)).2.files) := rfl
    refine outcome_bind_eq hremove fun w'' hw'' => ?_
    rw [outcome_pure, hw'', ← hw']
    cases w'.files.remove s.bundlePath with
    | ok after => rfl
    | error e => rfl
  · rw [outcome_pure, hw']

theorem outcome_isSaved (s : Store) (w : Workspace) :
    outcome s.isSaved w = (w.files.isPresent s.bundlePath, w.files) :=
  rfl

end Store
end Polyglot
