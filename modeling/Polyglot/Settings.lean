import Polyglot.Failure

/-!
# Settings

The settings of the vectorizer, of the forest and of a whole training run, and
the check that they can be used.  Sizes in settings are machine words.
-/

namespace Polyglot

/-- Which windows of a text are terms, and how many terms are kept. -/
structure VectorizerSettings where
  maxFeatures : UInt64 := 1000
  leastWindow : UInt64 := 1
  mostWindow : UInt64 := 3
  lowercase : Bool := true
  deriving DecidableEq

structure ForestSettings where
  estimators : UInt64 := 100
  maxDepth : UInt64 := 20
  minLeafSize : UInt64 := 1
  seed : UInt64 := 42
  deriving DecidableEq

def defaultTestShare : Float32 := Float32.ofBits 0x3e4ccccd

structure TrainingSettings where
  vectorizer : VectorizerSettings := {}
  forest : ForestSettings := {}
  testShare : Float32 := defaultTestShare
  splitSeed : UInt64 := 42
  deriving DecidableEq

def VectorizerSettings.rangeUsable (s : VectorizerSettings) : Bool :=
  s.leastWindow != 0 && s.leastWindow ≤ s.mostWindow

/-- Refuses settings that cannot be used; the first unusable one counts. -/
def TrainingSettings.check (s : TrainingSettings) : Except ClassifierError Unit :=
  if !s.vectorizer.rangeUsable then
    .error (.windowRange s.vectorizer.leastWindow s.vectorizer.mostWindow)
  else if s.vectorizer.maxFeatures = 0 then .error (.notPositive .maxFeatures)
  else if s.forest.estimators = 0 then .error (.notPositive .estimators)
  else if s.forest.maxDepth = 0 then .error (.notPositive .maxDepth)
  else if s.forest.minLeafSize = 0 then .error (.notPositive .minLeafSize)
  else if 0 < s.testShare ∧ s.testShare < 1 then .ok ()
  else .error (.testShare s.testShare)

end Polyglot
