import Polyglot.Forest.Bootstrap
import Polyglot.Labels
import Polyglot.Text.Quoted

/-!
# Forests

A forest is a list of estimators over one list of classes.  Each estimator votes
with a distribution over the classes, and the forest's answer is the mean of the
votes.
-/

namespace Polyglot

/-- Estimators over ascending classes, and the fingerprint of the features they expect. -/
structure Forest where
  classes : List String
  width : Nat
  fingerprint : String
  estimators : List Estimator
  deriving DecidableEq

/-- What votes are computed with. -/
class VoteNumber (α : Type) extends Add α, Div α, LT α where
  ofNat : Nat → α
  decLt : (x y : α) → Decidable (x < y)

namespace Vote

variable {α : Type} [VoteNumber α]

instance decidableLt (x y : α) : Decidable (x < y) := VoteNumber.decLt x y

def clamp (x : α) : α :=
  if x < VoteNumber.ofNat 0 then VoteNumber.ofNat 0
  else if VoteNumber.ofNat 1 < x then VoteNumber.ofNat 1
  else x

def sum (xs : List α) : α :=
  xs.foldl (· + ·) (VoteNumber.ofNat 0)

/-- Scales scores to a total of one; scores without a positive total count alike. -/
def share (scores : List α) : List α :=
  if VoteNumber.ofNat 0 < sum scores then scores.map (· / sum scores)
  else scores.map fun _ => VoteNumber.ofNat 1 / VoteNumber.ofNat scores.length

def distribution (answers : List α) : List α :=
  share (answers.map clamp)

def average (size : Nat) (votes : List (List α)) : List α :=
  if votes.isEmpty then List.replicate size (VoteNumber.ofNat 0)
  else
    (votes.foldl (fun total vote => total.zipWith (· + ·) vote)
      (List.replicate size (VoteNumber.ofNat 0))).map (· / VoteNumber.ofNat votes.length)

/-- The position of the largest number; of several, the first one. -/
def argmax (xs : List α) : Option Nat :=
  (xs.zipIdx.foldl (fun (best : Option (α × Nat)) entry =>
    match best with
    | none => some entry
    | some b => if b.1 < entry.1 then some entry else best) none).map Prod.snd

end Vote

instance : VoteNumber Float where
  ofNat := Float.ofNat
  decLt := inferInstance

namespace Estimator

def vote (e : Estimator) (sample : Array Float32) : Except Fault (List Float) := do
  let answers ← e.models.mapM fun model => model.predict sample
  return Vote.distribution (answers.map toDouble)

end Estimator

namespace Forest

/-- Trains `count` estimators, one after another, on samples of the rows. -/
def trainEstimators (settings : ModelSettings) (features : Array (Array Float32))
    (targets : Array Nat) (classes : Nat) :
    Nat → Chance.Generator → Except Fault (List Estimator)
  | 0, _ => .ok []
  | count + 1, g => do
      let (rows, g) := bootstrap features.size g
      let e ← Estimator.train settings features targets classes rows
      let es ← trainEstimators settings features targets classes count g
      return e :: es

def classNumber (classes : List String) (label : String) : Except ClassifierError Nat :=
  match Labels.position? classes label with
  | some number => .ok number
  | none => .error (.untrainedLabel label)

/--
The most estimators that room can be asked for: each of them is a list of models, which takes
three words, and a list holds less than `2 ^ 63` bytes.
-/
def capacity : Nat :=
  9223372036854775807 / 24

/--
Trains a forest on rows that carry the given classes.  Room for all estimators is asked for
before the first of them is trained.
-/
def fitClasses (s : ForestSettings) (width : Nat) (features : Array (Array Float32))
    (classes labels : List String) : Except Failure Forest :=
  match labels.mapM (classNumber classes) with
  | .error e => .error (.error e)
  | .ok targets =>
      if capacity < s.estimators.toNat then .error (.fault .capacityOverflow)
      else
        match trainEstimators (ClassModel.trainedSettings width s) features targets.toArray
            classes.length s.estimators.toNat (.ofSeed s.seed) with
        | .error f => .error (.fault f)
        | .ok estimators => .ok ⟨classes, width, "", estimators⟩

def fit (s : ForestSettings) (width : Nat) (features : Array (Array Float32))
    (labels : List String) : Except Failure Forest :=
  if features.size ≠ labels.length then
    .error (.error (.rowsAndLabels features.size labels.length))
  else if features.size = 0 then .error (.error .noRows)
  else
    let classes := Labels.distinct labels
    if classes.length < 2 then .error (.error (.tooFewClasses classes.length))
    else fitClasses s width features classes labels

def withFingerprint (f : Forest) (fingerprint : String) : Forest :=
  { f with fingerprint := fingerprint }

def check (f : Forest) (sample : Array Float32) : Except ClassifierError Unit :=
  if sample.size ≠ f.width then .error (.featureCount f.width sample.size)
  else if f.estimators.isEmpty then .error .noTrees
  else
    match f.estimators.find? fun e => e.models.length ≠ f.classes.length with
    | some e => .error (.treesAndClasses e.models.length f.classes.length)
    | none => .ok ()

def probabilities (f : Forest) (sample : Array Float32) : Except Failure (List Float) :=
  match f.check sample with
  | .error e => .error (.error e)
  | .ok () =>
      match f.estimators.mapM fun e => e.vote sample with
      | .error fault => .error (.fault fault)
      | .ok votes => .ok (Vote.average f.classes.length votes)

/-- The class with the largest probability; of several, the first one. -/
def predict (f : Forest) (sample : Array Float32) : Except Failure String := do
  let p ← f.probabilities sample
  match (Vote.argmax p).bind fun i => f.classes[i]? with
  | some label => return label
  | none => throw (.error .noClasses)

def summary (f : Forest) : String :=
  "RandomForest \x7b classes: " ++ Text.quotedList f.classes ++
    ", n_features: " ++ toString f.width ++
    ", fingerprint: " ++ Text.quoted f.fingerprint ++
    ", n_trees: " ++ toString f.estimators.length ++ " \x7d"

end Forest
end Polyglot
