import Polyglot.Classifier
import Polyglot.Corpus
import Polyglot.Evaluation.Report
import Polyglot.Text.Blank

/-!
# Training

A training run fits the vectorizer on the whole corpus and the forest on the
training rows, and evaluates the classifier on the test rows.
-/

namespace Polyglot

/-- Refuses a sample without code or with a blank label; positions count from one. -/
def Sample.check (sample : Sample) (position : Nat) : Except ClassifierError Unit :=
  if sample.code.isEmpty then .error (.emptyCode position)
  else if Text.allBlank sample.label.toList then .error (.blankLabel position)
  else .ok ()

namespace Corpus

def add (corpus : Corpus) (sample : Sample) : Except ClassifierError Corpus := do
  sample.check (corpus.size + 1)
  return corpus.push sample

/-- Refuses a corpus without samples; otherwise the first unusable sample counts. -/
def check (corpus : Corpus) : Except ClassifierError Unit :=
  if corpus.samples.isEmpty then .error .noSamples
  else corpus.samples.zipIdx.forM fun entry => entry.1.check (entry.2 + 1)

end Corpus

structure TrainingRun where
  corpus : Corpus
  settings : TrainingSettings
  split : Split
  features : Array (Array Float32)
  trainFeatures : List (Array Float32)
  trainLabels : List String
  classifier : Classifier
  report : Report

namespace TrainingRun

def assembleAll (v : Vectorizer) (codes : List String) :
    Except Failure (Array (Array Float32)) :=
  match codes.mapM v.assemble with
  | .ok rows => .ok rows.toArray
  | .error f => .error (.fault f)

/-- What stands in a row; every row that is asked for has to be there. -/
def rowAt (items : Array α) (row : Nat) : Except Failure α :=
  match items[row]? with
  | some x => .ok x
  | none => .error (.fault .rowOutOfRange)

def select (items : Array α) (rows : List Nat) : Except Failure (List α) :=
  rows.mapM (rowAt items)

def refuse (x : Except ClassifierError α) : Except Failure α :=
  x.mapError .error

variable [Logarithm]

def ofChecked (corpus : Corpus) (settings : TrainingSettings) :
    Except Failure TrainingRun := do
  let labels := corpus.labels.toArray
  let split ← refuse (Split.stratified corpus.labels settings.testShare settings.splitSeed)
  let vectorizer ← refuse (Vectorizer.fit settings.vectorizer corpus.codes)
  let features ← assembleAll vectorizer corpus.codes
  let trainFeatures ← select features split.train
  let trainLabels ← select labels split.train
  let forest ← Forest.fit settings.forest vectorizer.width trainFeatures.toArray trainLabels
  let forest := forest.withFingerprint vectorizer.fingerprint
  let testLabels ← select labels split.test
  let testFeatures ← select features split.test
  let predicted ← testFeatures.mapM forest.predict
  let report ← refuse (Report.ofPredictions forest.classes testLabels predicted
    split.train.length)
  return {
    corpus, settings, split, features, trainFeatures, trainLabels
    classifier := ⟨vectorizer, forest⟩
    report }

end TrainingRun

def train [Logarithm] (corpus : Corpus) (settings : TrainingSettings) : Except Failure TrainingRun := do
  TrainingRun.refuse settings.check
  TrainingRun.refuse corpus.check
  TrainingRun.ofChecked corpus settings

end Polyglot
