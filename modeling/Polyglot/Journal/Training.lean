import Polyglot.Journal.Entry
import Polyglot.Training

/-!
# The journal of training and prediction

The entries are a view of what was done: they are computed from the inputs and
results of an operation, which does not depend on them.
-/

namespace Polyglot

def Split.journal (labels : List String) (share : Float32) (split : Split) : List Entry :=
  let requested := Split.requested labels.length share
  if split.test.length = requested then []
  else
    [⟨.warn, s!"Stratified split holds out {split.test.length} of {labels.length} rows " ++
      s!"({requested} requested by test_size " ++ Decimal.plain share ++ ")"⟩]

namespace Vectorizer

def fitJournal (v : Vectorizer) (documents : List String) : List Entry :=
  let distinct := (TermStatistics.ofDocuments v.settings documents).length
  [⟨.info, s!"Fitted vectorizer on {documents.length} documents: " ++
    s!"kept {v.vocabulary.size} of {distinct} distinct n-grams"⟩]

def transformJournal (v : Vectorizer) (text : String) : List Entry :=
  match v.counts text with
  | .error _ => []
  | .ok _ =>
      let unknown := v.unknown text
      if unknown = 0 then []
      else [⟨.debug, s!"Ignored {unknown} n-grams outside the fitted vocabulary"⟩]

end Vectorizer

namespace Forest

/-- Notes the estimators from number `done + 1` on, up to one that cannot be trained. -/
def estimatorJournal (features : Array (Array Float32)) (total : Nat) :
    Nat → Nat → Chance.Generator → List Entry × Bool
  | 0, _, _ => ([], true)
  | count + 1, done, g =>
      let (rows, g) := bootstrap features.size g
      if unordered features (rows.map DrawnRow.row) then ([], false)
      else
        let (entries, finished) := estimatorJournal features total count (done + 1) g
        (⟨.debug, s!"Estimator {done + 1}/{total}: {rows.length} distinct bootstrap rows"⟩ ::
          entries, finished)

def fitJournal (s : ForestSettings) (width : Nat) (features : Array (Array Float32))
    (labels : List String) : List Entry :=
  let classes := (Labels.distinct labels).length
  if features.size ≠ labels.length ∨ features.size = 0 ∨ classes < 2 then []
  else
    let total := s.estimators.toNat
    let (entries, finished) := estimatorJournal features total total 0 (.ofSeed s.seed)
    if finished then
      entries ++ [⟨.info, s!"Fitted random forest: {total} trees over {features.size} " ++
        s!"samples x {width} features, {classes} classes"⟩]
    else entries

end Forest

def Classifier.predictJournal (c : Classifier) (code : String) : List Entry :=
  if code.isEmpty then [] else c.vectorizer.transformJournal code

namespace TrainingRun

def journal (run : TrainingRun) : List Entry :=
  let labels := run.corpus.labels
  let v := run.classifier.vectorizer
  run.split.journal labels run.settings.testShare ++
    [⟨.info, s!"Training on {run.corpus.size} samples ({run.split.train.length} train / " ++
      s!"{run.split.test.length} test) across {run.corpus.distribution.length} labels"⟩] ++
    v.fitJournal run.corpus.codes ++
    run.corpus.codes.flatMap v.transformJournal ++
    [⟨.debug, s!"Feature matrix shape: [{run.corpus.size}, {v.width}]"⟩] ++
    Forest.fitJournal run.settings.forest v.width run.trainFeatures.toArray run.trainLabels ++
    [⟨.info, "Test accuracy: " ++ Decimal.fixed 2 (run.report.accuracy * 100) ++ "%"⟩]

end TrainingRun

/-- Notes a training run; a refused one leaves no entries. -/
def trainJournal (result : Except Failure TrainingRun) : List Entry :=
  match result with
  | .ok run => run.journal
  | .error _ => []

end Polyglot
