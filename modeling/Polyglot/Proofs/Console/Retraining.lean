import Polyglot.Console.Session
import Polyglot.Proofs.Predictor.Outcomes
import Polyglot.Proofs.Training.Acceptance
import Polyglot.Proofs.Training.Reload

/-!
# Retraining

What becomes of a model file when a session is asked to train.  Every session begins
with the model that is there, so a file that holds no usable bundle ends the session
before it comes to training; a missing or usable one is replaced by a usable one.
-/

namespace Polyglot

theorem checks_demo : ({} : TrainingSettings).check = .ok () ∧ Corpus.demo.check = .ok () ∧
    Split.Divisible Corpus.demo.labels := by
  refine ⟨by decide +kernel, by decide +kernel, ?_⟩
  constructor
  · decide +kernel
  · decide +kernel

def KeepsDemoWeights [Logarithm] : Prop :=
  forall n, n ≤ Corpus.demo.size -> Json.KeepsSingle (Vectorizer.weight Corpus.demo.size n)

namespace Predictor

/-- A predictor for the demonstration corpus, whatever it has learned so far. -/
def demo (path : Path) (learned : Option Classifier) : Predictor where
  modelPath := path
  corpus := .demo
  classifier := learned

theorem modelPath_demo (path : Path) (learned : Option Classifier) :
    (demo path learned).modelPath = path :=
  rfl

theorem exists_train_demo [Logarithm] [LawfulLogarithm] (hkept : KeepsDemoWeights) {path : Path}
    (learned : Option Classifier) {w : Workspace} (hadmits : w.files.Admits path) :
    ∃ report learned' after,
      outcome (demo path learned).train w = ((.ok report, demo path learned'), after) ∧
        after.Admits path ∧ ∃ c, after.classifier path = .ok c := by
  rcases checks_demo with ⟨hsettings, hcorpus, hlabels⟩
  rcases exists_run_of_checks hsettings hcorpus hlabels (by decide) with ⟨run, hrun⟩
  rcases hadmits.exists_save (Bundle.write run.classifier) with ⟨after, hsaved, hkeeps⟩
  rcases exists_read_of_train hrun (by decide) (by decide) hkept with ⟨c, hread, _⟩
  refine ⟨run.report, some run.classifier, after, ?_, hkeeps.admits, c, ?_⟩
  · have htrained : Polyglot.train (demo path learned).corpus (demo path learned).settings =
        .ok run := hrun
    rw [outcome_train, htrained]
    dsimp only
    rw [modelPath_demo, hsaved]
    rfl
  · rw [hkeeps.classifier_eq]
    dsimp only
    rw [hread]
    rfl

end Predictor

/-!
## Sessions
-/

namespace Console

theorem read_retraining (environment : String → Option String) {text : String}
    (hplain : Word.ofString text = .plain) (hsome : text.isEmpty = false) :
    Request.read environment ["--train", "--model", text] =
      .ok (.run { train := true, model := some ⟨text⟩ }) := by
  have htrain : Word.ofString "--train" = .switch .train := by decide
  have hmodel : Word.ofString "--model" = .valued .model none := by decide
  have hwords : Arguments.readFrom {} ["--train", "--model", text] =
      .ok (.run { train := true, model := some ⟨text⟩ }) := by
    simp [Arguments.readFrom, Arguments.add, Arguments.addPath, htrain, hmodel, hplain, hsome]
  unfold Request.read
  rw [hwords]
  rfl

def complaint (e : PredictorError) : String :=
  "Error: " ++ e.message ++ "\n" ++
    match e.source? with
    | none => ""
    | some source => "\nCaused by:\n    " ++ indented source ++ "\n"

theorem reportError_apply (e : PredictorError) (w : Workspace) :
    (reportError e : StateM Workspace ExitCode) w =
      (exitCode e, { w with complaints := w.complaints ++ complaint e }) := by
  unfold complaint reportError report
  cases e.source? with
  | none =>
      rw [String.append_empty]
      rfl
  | some source =>
      rw [← @String.append_assoc w.complaints]
      rfl

section Retraining

variable [Logarithm] {environment : String → Option String} {words : List String}
  {a : Arguments} {path : Path} {w : Workspace} {after : Files.Tree}

theorem outcome_serve (htrain : a.train = true) {p trained : Predictor} {r : Report}
    (h : outcome p.train w = ((.ok r, trained), after)) :
    outcome (serve p a) w = (.ended success, after) := by
  have hshown : outcome (showTraining p) w = (none, after) :=
    outcome_bind_eq h fun w' hw' => congrArg (Prod.mk none) hw'
  unfold serve
  rw [if_pos htrain]
  exact outcome_bind_eq hshown fun w' hw' => congrArg (Prod.mk _) hw'

theorem run_eq (hmodel : a.model = some path) :
    (run environment a : StateM Workspace Progress) = (do
      match ← (Predictor.demo path none).loadOrTrain with
      | (.error e, _) => return .ended (← reportError e)
      | (.ok trained, p) => do
          match trained with
          | none => pure ()
          | some r => Host.print (Display.report r)
          serve p a) := by
  have hplace : (modelPath environment a : StateM Workspace _) = pure (.ok path) := by
    unfold modelPath
    rw [hmodel]
  unfold run
  rw [hplace, pure_bind]
  rfl

theorem outcome_run_of_ok (hmodel : a.model = some path) {trained : Option Report} {p : Predictor}
    (h : outcome (Predictor.demo path none).loadOrTrain w = ((.ok trained, p), after)) :
    ∃ w', w'.files = after ∧ outcome (run environment a) w = outcome (serve p a) w' := by
  rw [run_eq hmodel]
  rcases outcome_bind _ h with ⟨w', hw', heq⟩
  cases trained with
  | none => exact ⟨w', hw', heq⟩
  | some r => exact ⟨{ w' with printed := w'.printed ++ Display.report r }, hw', heq⟩

theorem loadOrTrain_of_unusable {bytes : List UInt8} {e : BundleError}
    (hbytes : w.files.read path = .ok bytes) (hunusable : Bundle.read bytes = .error e) :
    ((Predictor.demo path none).loadOrTrain : StateM Workspace _) w =
      ((.error (.model (.bundle e)), Predictor.demo path none),
        w.note (Bundle.readEntry bytes.length path :: Bundle.refusalJournal path (.error e))) := by
  have hread : (Host.read path : StateM Workspace _) w = (.ok bytes, w) := by
    rw [← hbytes]
    rfl
  have hload : (Bundle.load path : StateM Workspace _) w = (.error (.bundle e),
      w.note (Bundle.readEntry bytes.length path :: Bundle.refusalJournal path (.error e))) := by
    unfold Bundle.load
    rw [Bundle.bind_workspace, hread]
    dsimp only
    rw [hunusable]
    rfl
  unfold Predictor.loadOrTrain Predictor.load
  rw [Predictor.modelPath_demo, Bundle.bind_workspace, Bundle.bind_workspace, hload]
  rfl

variable (environment) in
/-- No request is carried out with a file that holds no usable bundle. -/
theorem run_of_unusable (hmodel : a.model = some path) {bytes : List UInt8} {e : BundleError}
    (hbytes : w.files.read path = .ok bytes) (hunusable : Bundle.read bytes = .error e) :
    ∃ w', (run environment a : StateM Workspace _) w = (.ended failed, w') ∧
      w'.files = w.files ∧ w'.printed = w.printed ∧
      w'.complaints = w.complaints ++ complaint (.model (.bundle e)) := by
  rw [run_eq hmodel, Bundle.bind_workspace, loadOrTrain_of_unusable hbytes hunusable]
  dsimp only
  rw [Bundle.bind_workspace, reportError_apply]
  exact ⟨_, rfl, rfl, rfl, rfl⟩

theorem outcome_run_of_usable [LawfulLogarithm] (hkept : KeepsDemoWeights)
    (hmodel : a.model = some path) (htrain : a.train = true) (hadmits : w.files.Admits path)
    (h : w.files.isPresent path = false ∨ ∃ c, w.files.classifier path = .ok c) :
    ∃ after, outcome (run environment a) w = (.ended success, after) ∧
      ∃ c, after.classifier path = .ok c := by
  have hready : ∃ trained learned between, outcome (Predictor.demo path none).loadOrTrain w =
      ((.ok trained, Predictor.demo path learned), between) ∧ between.Admits path := by
    rw [Predictor.outcome_loadOrTrain, Predictor.modelPath_demo]
    rcases h with habsent | ⟨c, hfound⟩
    · have hnone : w.files.classifier path = .error (.notFound path) :=
        (Files.Tree.Keeps.of_absent habsent hadmits).classifier_eq
      rcases Predictor.exists_train_demo hkept none hadmits with
        ⟨report, learned, between, htrained, hbetween, _⟩
      rw [hnone, htrained]
      exact ⟨_, learned, _, rfl, hbetween⟩
    · rw [hfound]
      exact ⟨_, some c, _, rfl, hadmits⟩
  rcases hready with ⟨trained, learned, between, hready, hbetween⟩
  rcases outcome_run_of_ok hmodel hready with ⟨w', rfl, hrun⟩
  rcases Predictor.exists_train_demo hkept learned hbetween with
    ⟨report, learned', after, htrained, _, hloads⟩
  refine ⟨after, ?_, hloads⟩
  rw [hrun, outcome_serve htrain htrained]

theorem session_of_ended (hread : Request.read environment words = .ok (.run a))
    {code : ExitCode} {w' : Workspace}
    (h : (run environment a : StateM Workspace _) w = (.ended code, w')) (input : List UInt8) :
    (session environment words input : StateM Workspace _) w = (code, w') := by
  unfold session start
  rw [hread, Bundle.bind_workspace]
  dsimp only
  rw [h]
  rfl

/--
A session that is asked to train succeeds and leaves a usable bundle if the file was
missing or usable before.  If its bytes are no usable bundle, the session fails, leaves
them where they are, and says nothing but why they are refused.
-/
theorem retraining_outcome [LawfulLogarithm] (hkept : KeepsDemoWeights)
    (hread : Request.read environment words = .ok (.run a)) (htrain : a.train = true)
    (hmodel : a.model = some path) (hadmits : w.files.Admits path) (input : List UInt8) :
    ((w.files.isPresent path = false ∨
        ∃ c, ((Bundle.load path : StateM Workspace _) w).1 = .ok c) ->
      ∃ after, (session environment words input : StateM Workspace _) w = (success, after) ∧
        ∃ c, ((Bundle.load path : StateM Workspace _) after).1 = .ok c) ∧
    forall bytes e, w.files.read path = .ok bytes -> Bundle.read bytes = .error e ->
      outcome (session environment words input) w = (failed, w.files) ∧
      ((session environment words input : StateM Workspace _) w).2.printed = w.printed ∧
      ((session environment words input : StateM Workspace _) w).2.complaints =
        w.complaints ++ complaint (.model (.bundle e)) := by
  have hload : forall w : Workspace,
      ((Bundle.load path : StateM Workspace _) w).1 = w.files.classifier path :=
    fun w => congrArg Prod.fst (Bundle.outcome_load path w)
  constructor
  · intro husable
    rw [hload w] at husable
    rcases outcome_run_of_usable hkept hmodel htrain hadmits husable with ⟨after, hrun, hloads⟩
    rcases hresult : (run environment a : StateM Workspace _) w with ⟨progress, final⟩
    unfold outcome at hrun
    rw [hresult] at hrun
    cases hrun
    refine ⟨final, session_of_ended hread hresult input, ?_⟩
    rw [hload]
    exact hloads
  · intro bytes e hbytes hunusable
    rcases run_of_unusable environment hmodel hbytes hunusable with
      ⟨w', hrun, hfiles, hprinted, hcomplaints⟩
    have hsession := session_of_ended hread hrun input
    unfold outcome
    rw [hsession]
    exact ⟨congrArg (Prod.mk _) hfiles, hprinted, hcomplaints⟩

end Retraining
end Console

def logarithmsOfNineteenths : List (UInt32 × UInt32) :=
  [(0x41980000, 0x403c71b0), (0x41180000, 0x4010152a), (0x40caaaab, 0x3fec440d),
   (0x40980000, 0x3fc77148), (0x40733333, 0x3faae151), (0x404aaaab, 0x3f938b01),
   (0x402db6db, 0x3f7f9f95), (0x40180000, 0x3f5d7079), (0x40071c72, 0x3f3f4972),
   (0x3ff33333, 0x3f245089), (0x3fdd1746, 0x3f0bea4a), (0x3fcaaaab, 0x3eeb47d3),
   (0x3fbb13b1, 0x3ec24c76), (0x3fadb6db, 0x3e9c5afb), (0x3fa22222, 0x3e720fe6),
   (0x3f980000, 0x3e2ff984), (0x3f8f0f0f, 0x3de3ca43), (0x3f871c72, 0x3d5d759e),
   (0x3f800000, 0x00000000)]

abbrev logarithmOfNineteenths : Logarithm where
  ln x := ((logarithmsOfNineteenths.find? fun e => e.1 == x.toBits).map fun e =>
    Float32.ofBits e.2).getD 0

theorem lawful_logarithmOfNineteenths : @LawfulLogarithm logarithmOfNineteenths := by
  have hall : (logarithmsOfNineteenths.all fun e =>
      (Single.value? (Float32.ofBits e.2)).any fun w => decide (-104 ≤ w ∧ w ≤ 89)) = true := by
    decide +kernel
  apply @LawfulLogarithm.mk logarithmOfNineteenths
  intro x v _ _
  show ∃ w, Single.value? (((logarithmsOfNineteenths.find? _).map _).getD 0) = some w ∧ _
  cases hfind : logarithmsOfNineteenths.find? fun e => e.1 == x.toBits with
  | none => exact ⟨0, rfl, by norm_num, by norm_num⟩
  | some e =>
      have he := List.all_eq_true.mp hall e (List.mem_of_find?_eq_some hfind)
      rcases (Option.any_eq_true _ _).mp he with ⟨w, hw, hbounds⟩
      exact ⟨w, hw, of_decide_eq_true hbounds⟩

theorem keepsDemoWeights_nineteenths : @KeepsDemoWeights logarithmOfNineteenths := by
  unfold KeepsDemoWeights Json.KeepsSingle
  decide +kernel

def Files.Tree.garbled : Files.Tree :=
  ⟨[(["m.json"], .file (Text.bytes "garbage"))]⟩

theorem Files.Tree.admits_garbled : garbled.Admits ⟨"m.json"⟩ :=
  admits_of_write (by decide) rfl

theorem read_garbage :
    Bundle.read (Text.bytes "garbage") = .error (.corrupt ⟨.expectedValue, 1, 1⟩) := by
  have hparse : Json.parse (Text.bytes "garbage") = none := by decide
  have hrefusal : Bundle.refusal (Text.bytes "garbage") = ⟨.expectedValue, 1, 1⟩ := by decide
  unfold Bundle.read
  rw [hparse, hrefusal]
  rfl

namespace Console

theorem read_retraining_here : Request.read (fun _ => none) ["--train", "--model", "m.json"] =
    .ok (.run { train := true, model := some ⟨"m.json"⟩ }) :=
  read_retraining _ (by decide) (by decide)

/-- One session trains where there is nothing, another one gives up on a garbled file. -/
theorem retraining_outcome_here :
    (∃ after, @session (StateM Workspace) _ _ logarithmOfNineteenths (fun _ => none)
        ["--train", "--model", "m.json"] [] {} = (success, after) ∧
      ∃ c, ((Bundle.load ⟨"m.json"⟩ : StateM Workspace _) after).1 = .ok c) ∧
    outcome (@session (StateM Workspace) _ _ logarithmOfNineteenths (fun _ => none)
      ["--train", "--model", "m.json"] []) { files := .garbled } = (failed, .garbled) := by
  have hadmits : ({} : Files.Tree).Admits ⟨"m.json"⟩ :=
    Files.Tree.admits_of_write (by decide +kernel) rfl
  constructor
  · exact (@retraining_outcome logarithmOfNineteenths _ _ _ _ {} lawful_logarithmOfNineteenths
      keepsDemoWeights_nineteenths read_retraining_here rfl rfl hadmits []).1 (.inl rfl)
  · exact ((@retraining_outcome logarithmOfNineteenths _ _ _ _ { files := .garbled }
      lawful_logarithmOfNineteenths keepsDemoWeights_nineteenths read_retraining_here rfl rfl
      Files.Tree.admits_garbled []).2 _ _ rfl read_garbage).1

/-- A garbled file can be written to, but asking for training does not repair it. -/
theorem retraining_gives_up :
    Files.Tree.garbled.Admits ⟨"m.json"⟩ ∧
      Files.Tree.garbled.read ⟨"m.json"⟩ = .ok (Text.bytes "garbage") ∧
      ∃ w', (session (fun _ => none) ["--train", "--model", "m.json"] [] : StateM Workspace _)
          { files := .garbled } = (failed, w') ∧ w'.files = .garbled ∧ w'.printed = "" ∧
        w'.complaints = "Error: Model bundle is corrupt: expected value at line 1 column 1\n" ++
          "\nCaused by:\n    expected value at line 1 column 1\n" := by
  refine ⟨Files.Tree.admits_garbled, rfl, ?_⟩
  have hbytes : ({ files := .garbled } : Workspace).files.read ⟨"m.json"⟩ =
      .ok (Text.bytes "garbage") := rfl
  rcases run_of_unusable (a := { train := true, model := some ⟨"m.json"⟩ }) (fun _ => none) rfl
    hbytes read_garbage with ⟨w', hrun, hfiles, hprinted, hcomplaints⟩
  refine ⟨w', session_of_ended read_retraining_here hrun [], hfiles, hprinted, ?_⟩
  rw [hcomplaints]
  decide

end Console
end Polyglot
