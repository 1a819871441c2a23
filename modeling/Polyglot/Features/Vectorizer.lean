import Polyglot.Features.Structure
import Polyglot.Features.Terms
import Polyglot.Features.Vocabulary

/-!
# Vectorizers

A vectorizer turns a text into numbers: one for each term of its vocabulary, the
count of the term times its weight, scaled to length one.  Terms that occur in
few documents weigh more.
-/

namespace Polyglot

/-- The natural logarithm that weights are computed with. -/
class Logarithm where
  ln : Float32 → Float32

instance : Logarithm where
  ln := Float32.log

/-- A vocabulary with a weight for every column. -/
structure Vectorizer where
  settings : VectorizerSettings
  vocabulary : Vocabulary
  weights : Array Float32

namespace Vectorizer

section Fitting

variable [Logarithm]

/-- The weight of a term that `documents` of `total` documents contain. -/
def weight (total documents : Nat) : Float32 :=
  Logarithm.ln ((1 + toSingle total) / (1 + toSingle documents)) + 1

def ofTerms (s : VectorizerSettings) (total : Nat) (terms : List TermStatistics) :
    Vectorizer where
  settings := s
  vocabulary := .ofList (terms.map TermStatistics.term).zipIdx
  weights := (terms.map fun t => weight total t.documents).toArray

def fit (s : VectorizerSettings) (documents : List String) :
    Except ClassifierError Vectorizer :=
  if documents.isEmpty then .error .noDocuments
  else if !s.rangeUsable then .error (.windowRange s.leastWindow s.mostWindow)
  else
    .ok (ofTerms s documents.length
      (TermStatistics.best s.maxFeatures.toNat (TermStatistics.ofDocuments s documents)))

end Fitting

def hits (v : Vectorizer) (text : String) : List Nat :=
  (v.settings.terms text).filterMap v.vocabulary.column?

def unknown (v : Vectorizer) (text : String) : Nat :=
  (v.settings.terms text).countP fun term => (v.vocabulary.column? term).isNone

def countHit (counts : Array Float32) (column : Nat) : Except Fault (Array Float32) :=
  if column < counts.size then .ok (counts.modify column (· + 1))
  else .error .columnOutOfRange

def counts (v : Vectorizer) (text : String) : Except Fault (Array Float32) :=
  (v.hits text).foldlM countHit (Array.replicate v.weights.size 0)

def norm (x : Array Float32) : Float32 :=
  (x.foldl (fun sum a => sum + a * a) 0).sqrt

/-- The vector scaled to length one; a vector that is too short gives zeros. -/
def normalized (x : Array Float32) : Array Float32 :=
  let length := norm x
  if 1e-10 < length then x.map (· / length) else Array.replicate x.size 0

def transform (v : Vectorizer) (text : String) : Except Fault (Array Float32) := do
  let counts ← v.counts text
  return normalized (counts.zipWith (· * ·) v.weights)

def width (v : Vectorizer) : Nat :=
  v.vocabulary.size + Structure.names.length

def assemble (v : Vectorizer) (code : String) : Except Fault (Array Float32) := do
  let vector ← v.transform code
  return vector ++ Structure.features code

end Vectorizer
end Polyglot
