import Polyglot.Proofs.Files.Directories
import Polyglot.Proofs.Predictor.Outcomes

/-!
# Failing predictors

Training and loading either succeed, or leave the predictor as it was.  Files are
changed by a successful training only; one that fails while it saves may have made
directories, and nothing else.
-/

namespace Polyglot

namespace Files.Tree

variable {t after : Tree} {p : Path} {bytes : List UInt8} {e : FileError}

theorem extends_of_save (h : t.save p bytes = (.error e, after)) : t.Extends after := by
  have hmade := extends_makeDirectories t p.parent
  unfold save at h
  split at h
  · rename_i hmake
    cases h
    rwa [hmake] at hmade
  · rename_i hmake
    split at h
    · cases h
    · cases h
      rwa [hmake] at hmade

theorem isPresent_of_classifier {path : Path} (h : t.classifier p = .error (.notFound path)) :
    t.isPresent p = false := by
  unfold classifier at h
  split at h
  · cases hread : Bundle.read _ with
    | ok c => rw [hread] at h; cases h
    | error e => rw [hread] at h; cases h
  · rename_i hnone
    unfold isPresent
    cases hfind : t.find p with
    | error e => rfl
    | ok item =>
        rw [read, hfind] at hnone
        cases item <;> cases hnone
  · cases h

end Files.Tree

/-!
## Failing attempts
-/

namespace Predictor

section Attempts

variable [Logarithm] {p after : Predictor} {w : Workspace} {files : Files.Tree}

theorem of_train_error {e : PredictorError} (h : outcome p.train w = ((.error e, after), files)) :
    after = p ∧ w.files.Extends files ∧ ((∃ f, e = .classifier f) -> files = w.files) := by
  rw [outcome_train] at h
  split at h
  · cases h
    exact ⟨rfl, .refl _, fun _ => rfl⟩
  · split at h
    · rename_i hsave
      cases h
      refine ⟨rfl, Files.Tree.extends_of_save hsave, ?_⟩
      rintro ⟨f, hf⟩
      cases hf
    · cases h

omit [Logarithm] in
theorem of_load {answer : Except ModelError Bool}
    (h : outcome p.load w = ((answer, after), files)) :
    files = w.files ∧ (answer ≠ .ok true -> after = p) := by
  rw [outcome_load] at h
  split at h
  · cases h
    exact ⟨rfl, fun hanswer => absurd rfl hanswer⟩
  · cases h
    exact ⟨rfl, fun _ => rfl⟩
  · cases h
    exact ⟨rfl, fun _ => rfl⟩

/-- Training follows on loading exactly if there is nothing to load. -/
theorem outcome_loadOrTrain_cases (p : Predictor) (w : Workspace) :
    (outcome p.loadOrTrain w).2 = w.files ∧ ((outcome p.loadOrTrain w).1.2 = p ∨
        ∃ c, outcome p.loadOrTrain w = ((.ok none, { p with classifier := some c }), w.files)) ∨
      w.files.isPresent p.modelPath = false ∧ (outcome p.load w).1.1 = .ok false ∧
        outcome p.loadOrTrain w =
          (((outcome p.train w).1.1.map some, (outcome p.train w).1.2), (outcome p.train w).2) := by
  rw [outcome_loadOrTrain, outcome_load]
  cases hfound : w.files.classifier p.modelPath with
  | ok c => exact .inl ⟨rfl, .inr ⟨c, rfl⟩⟩
  | error e =>
      cases e with
      | notFound path => exact .inr ⟨Files.Tree.isPresent_of_classifier hfound, rfl, rfl⟩
      | bundle e => exact .inl ⟨rfl, .inl rfl⟩
      | file e => exact .inl ⟨rfl, .inl rfl⟩

theorem of_loadOrTrain_error {e : PredictorError}
    (h : outcome p.loadOrTrain w = ((.error e, after), files)) :
    after = p ∧ w.files.Extends files ∧
      ((∃ f, e = .classifier f) ∨ (∃ e', (outcome p.load w).1.1 = .error e') ->
        files = w.files) := by
  rcases p.outcome_loadOrTrain_cases w with ⟨hfiles, hcases⟩ | ⟨_, habsent, htrain⟩
  · rw [h] at hfiles hcases
    change files = w.files at hfiles
    subst hfiles
    refine ⟨?_, .refl _, fun _ => rfl⟩
    rcases hcases with hsame | ⟨c, hloaded⟩
    · exact hsame
    · cases hloaded
  · rw [h] at htrain
    rcases htrained : outcome p.train w with ⟨⟨result, trained⟩, left⟩
    rw [htrained] at htrain
    cases result with
    | ok report => cases htrain
    | error e' =>
        cases htrain
        rcases of_train_error htrained with ⟨hsame, hextends, hfiles⟩
        refine ⟨hsame, hextends, ?_⟩
        rintro (hclassifier | ⟨e', herror⟩)
        · exact hfiles hclassifier
        · rw [habsent] at herror
          cases herror

/-!
## Lives of predictors
-/

/-- What can happen to a predictor, in its own work or in the files around it. -/
inductive Happening where
  | train
  | load
  | loadOrTrain
  | predict (code : String)
  | predictFile (path : Path)
  | runBattery
  | configure (settings : TrainingSettings)
  | rearrange (files : Files.Tree)

def experience (p : Predictor) : Happening → StateM Workspace Predictor
  | .train => do return (← p.train).2
  | .load => do return (← p.load).2
  | .loadOrTrain => do return (← p.loadOrTrain).2
  | .predict code => do
      let _ ← p.predict code
      return p
  | .predictFile path => do
      let _ ← p.predictFile path
      return p
  | .runBattery => do
      let _ ← p.runBattery
      return p
  | .configure settings => return { p with settings }
  | .rearrange files => do
      modify fun w => { w with files }
      return p

def live (p : Predictor) (life : List Happening) : StateM Workspace Predictor :=
  life.foldlM experience p

theorem isTrained_train (h : p.isTrained = true) (w : Workspace) :
    (outcome p.train w).1.2.isTrained = true := by
  rw [outcome_train]
  split
  · exact h
  · split
    · exact h
    · rfl

omit [Logarithm] in
theorem isTrained_load (h : p.isTrained = true) (w : Workspace) :
    (outcome p.load w).1.2.isTrained = true := by
  rw [outcome_load]
  split
  · rfl
  · exact h
  · exact h

theorem isTrained_loadOrTrain (h : p.isTrained = true) (w : Workspace) :
    (outcome p.loadOrTrain w).1.2.isTrained = true := by
  rcases p.outcome_loadOrTrain_cases w with ⟨_, hsame | ⟨c, hloaded⟩⟩ | ⟨_, _, htrain⟩
  · rw [hsame]
    exact h
  · rw [hloaded]
    rfl
  · rw [htrain]
    exact isTrained_train h w

theorem isTrained_experience (h : p.isTrained = true) (happening : Happening) (w : Workspace) :
    (p.experience happening w).1.isTrained = true := by
  cases happening with
  | train => exact isTrained_train h w
  | load => exact isTrained_load h w
  | loadOrTrain => exact isTrained_loadOrTrain h w
  | predict code => exact h
  | predictFile path => exact h
  | runBattery => exact h
  | configure settings => exact h
  | rearrange files => exact h

theorem isTrained_live (h : p.isTrained = true) (life : List Happening) (w : Workspace) :
    (p.live life w).1.isTrained = true := by
  unfold live
  induction life generalizing p w with
  | nil => exact h
  | cons happening life ih =>
      rw [List.foldlM_cons, Bundle.bind_workspace]
      exact ih (isTrained_experience h happening w) _

/--
An attempt to train or to load that fails, or that finds nothing to load, leaves the
predictor as it was.  If the failure is one of training or of loading, the files
are as they were too; if it is one of saving, no file has changed.  What is present
is never replaced by a predictor that could load it, and a predictor that has a
classifier always has one.
-/
theorem keeps_on_failure (p : Predictor) (w : Workspace) :
    (forall e after files, outcome p.train w = ((.error e, after), files) ->
      after = p ∧ w.files.Extends files ∧ ((∃ f, e = .classifier f) -> files = w.files)) ∧
    (forall answer after files, outcome p.load w = ((answer, after), files) ->
      answer ≠ .ok true -> after = p ∧ files = w.files) ∧
    (forall e after files, outcome p.loadOrTrain w = ((.error e, after), files) ->
      after = p ∧ w.files.Extends files ∧
        ((∃ f, e = .classifier f) ∨ (∃ e', (outcome p.load w).1.1 = .error e') ->
          files = w.files)) ∧
    (w.files.isPresent p.modelPath = true -> (outcome p.loadOrTrain w).2 = w.files) ∧
    (p.isTrained = true -> forall life, (p.live life w).1.isTrained = true) := by
  refine ⟨fun _ _ _ => of_train_error, fun _ _ _ hload hanswer => ?_,
    fun _ _ _ => of_loadOrTrain_error, fun hpresent => ?_, fun htrained life => isTrained_live htrained life w⟩
  · rcases of_load hload with ⟨hfiles, hsame⟩
    exact ⟨hsame hanswer, hfiles⟩
  · rcases p.outcome_loadOrTrain_cases w with ⟨hfiles, _⟩ | ⟨habsent, _⟩
    · exact hfiles
    · rw [hpresent] at habsent
      cases habsent

end Attempts

/-- Without samples and at a file that holds no bundle, all three attempts fail. -/
theorem keeps_on_failure_garbage :
    ∃ (p : Predictor) (w : Workspace),
      w.files.read p.modelPath = .ok (Text.bytes "garbage") ∧
      (∃ f, outcome p.train w = ((.error (.classifier f), p), w.files)) ∧
      (∃ e, outcome p.load w = ((.error e, p), w.files)) ∧
      ∃ e, outcome p.loadOrTrain w = ((.error e, p), w.files) := by
  let p : Predictor := { modelPath := ⟨"m.json"⟩, corpus := {} }
  let w : Workspace := Bundle.oneFile (Text.bytes "garbage")
  have hread : w.files.read p.modelPath = .ok (Text.bytes "garbage") := Bundle.read_oneFile _
  have hchecked : p.settings.check = .ok () := by decide +kernel
  have hunparsed : Json.parse (Text.bytes "garbage") = none := by decide
  have hfound : w.files.classifier p.modelPath =
      .error (.bundle (.corrupt (Bundle.refusal (Text.bytes "garbage")))) := by
    rw [Files.Tree.classifier_of_read hread, Bundle.read, hunparsed]
    rfl
  have htrain : (outcome p.train w).1.1 = .error (.classifier (.error .noSamples)) := by
    rw [outcome_train, Polyglot.train, hchecked]
    rfl
  have hload : ∃ e, (outcome p.load w).1.1 = .error e := by
    rw [outcome_load, hfound]
    exact ⟨_, rfl⟩
  have hloadOrTrain : ∃ e, (outcome p.loadOrTrain w).1.1 = .error e := by
    rw [outcome_loadOrTrain, hfound]
    exact ⟨_, rfl⟩
  rcases keeps_on_failure p w with ⟨hkeepsTrain, hkeepsLoad, hkeepsBoth, _, _⟩
  rcases hload with ⟨e, he⟩
  rcases hloadOrTrain with ⟨e', he'⟩
  have htrained := hkeepsTrain _ _ _ (Prod.ext (Prod.ext htrain rfl) rfl)
  have hloaded := hkeepsLoad _ _ _ (Prod.ext (Prod.ext he rfl) rfl) (by simp)
  have hboth := hkeepsBoth _ _ _ (Prod.ext (Prod.ext he' rfl) rfl)
  refine ⟨p, w, hread, ⟨.error .noSamples, ?_⟩, ⟨e, ?_⟩, ⟨e', ?_⟩⟩
  · exact Prod.ext (Prod.ext htrain htrained.1) (htrained.2.2 ⟨_, rfl⟩)
  · exact Prod.ext (Prod.ext he hloaded.1) hloaded.2
  · exact Prod.ext (Prod.ext he' hboth.1) (hboth.2.2 (.inr ⟨e, he⟩))

end Predictor
end Polyglot
