import Polyglot.Battery
import Polyglot.Bundle.Store
import Polyglot.Journal.Training

/-!
# Predictors

A predictor holds at most one classifier and knows where it is kept.  It trains
or loads the classifier and answers questions with it.  Training and loading
change the classifier only if they succeed.
-/

namespace Polyglot

inductive PredictorError where
  | notTrained
  | fileNotFound (path : Path)
  | fileUnreadable (path : Path) (e : FileError)
  | classifier (f : Failure)
  | model (e : ModelError)
  deriving DecidableEq

namespace PredictorError

def message : PredictorError → String
  | .notTrained => "Model is not trained. Train or load a model first."
  | .fileNotFound path => "File '" ++ path.text ++ "' not found"
  | .fileUnreadable path e => "Error reading file '" ++ path.text ++ "': " ++ e.message
  | .classifier (.error e) => e.message
  | .classifier (.fault _) => "The model is inconsistent"
  | .model e => e.message

def source? : PredictorError → Option String
  | .fileUnreadable _ e => some e.message
  | .model e => e.source?
  | _ => none

end PredictorError

/-- A corpus, the settings for training on it, and the classifier with its place. -/
structure Predictor where
  modelPath : Path
  corpus : Corpus
  settings : TrainingSettings := {}
  classifier : Option Classifier := none

namespace Predictor

def isTrained (p : Predictor) : Bool :=
  p.classifier.isSome

def distributionText (distribution : List (String × Nat)) : String :=
  "\x7b" ++ ", ".intercalate (distribution.map fun e =>
    Text.quoted e.1 ++ ": " ++ toString e.2) ++ "\x7d"

def trainingEntry (corpus : Corpus) : Entry :=
  ⟨.info, s!"Training new model on {corpus.size} samples: " ++
    distributionText corpus.distribution⟩

def missingEntry (path : Path) : Entry :=
  ⟨.warn, "No trained model found at " ++ Bundle.shown path⟩

def untrainedEntry : Entry :=
  ⟨.info, "No existing model found. Training new model..."⟩

def fileEntry (path : Path) : Entry :=
  ⟨.info, "Analyzing file: " ++ Bundle.shown path⟩

variable {m : Type → Type} [Monad m] [Host m]

def train [Logarithm] (p : Predictor) : m (Except PredictorError Report × Predictor) := do
  Host.note [trainingEntry p.corpus]
  let result := Polyglot.train p.corpus p.settings
  Host.note (trainJournal result)
  match result with
  | .error f => return (.error (.classifier f), p)
  | .ok run =>
      match ← Bundle.save run.classifier p.modelPath with
      | .error e => return (.error (.model (.file e)), p)
      | .ok () => do
          Host.note [Bundle.savedEntry p.modelPath]
          return (.ok run.report, { p with classifier := some run.classifier })

/-- Loads the saved classifier and keeps it; the answer is whether there is one. -/
def load (p : Predictor) : m (Except ModelError Bool × Predictor) := do
  match ← Bundle.load p.modelPath with
  | .ok c => do
      Host.note [Bundle.loadedEntry p.modelPath]
      return (.ok true, { p with classifier := some c })
  | .error (.notFound path) => do
      Host.note [missingEntry path]
      return (.ok false, p)
  | .error e => return (.error e, p)

def loadOrTrain [Logarithm] (p : Predictor) :
    m (Except PredictorError (Option Report) × Predictor) := do
  match ← p.load with
  | (.error e, p) => return (.error (.model e), p)
  | (.ok true, p) => return (.ok none, p)
  | (.ok false, p) => do
      Host.note [untrainedEntry]
      let (result, p) ← p.train
      return (result.map some, p)

def classify (p : Predictor) (code : String) : Except PredictorError Prediction :=
  match p.classifier with
  | none => .error .notTrained
  | some c => (c.predict code).mapError .classifier

def classifyJournal (p : Predictor) (code : String) : List Entry :=
  match p.classifier with
  | none => []
  | some c => c.predictJournal code

def predict (p : Predictor) (code : String) : m (Except PredictorError Prediction) := do
  Host.note (p.classifyJournal code)
  return p.classify code

def readText (path : Path) : m (Except PredictorError String) := do
  match ← Host.read path with
  | .error .notFound => return .error (.fileNotFound path)
  | .error e => return .error (.fileUnreadable path e)
  | .ok bytes =>
      match Text.ofUtf8? bytes with
      | none => return .error (.fileUnreadable path .notText)
      | some code => return .ok (String.ofList code)

def predictFile (p : Predictor) (path : Path) : m (Except PredictorError Prediction) := do
  match ← readText path with
  | .error e => return .error e
  | .ok code => do
      Host.note [fileEntry path]
      p.predict code

def tryExamples (p : Predictor) :
    List Battery.Example → m (Except PredictorError (List Battery.Outcome))
  | [] => return .ok []
  | e :: rest => do
      match ← p.predict e.code with
      | .error f => return .error f
      | .ok prediction =>
          return (← tryExamples p rest).map (⟨e.name, e.expected, prediction.label⟩ :: ·)

def runBattery (p : Predictor) : m (Except PredictorError (List Battery.Outcome)) :=
  p.tryExamples Battery.examples

end Predictor
end Polyglot
