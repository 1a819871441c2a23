import Polyglot.Settings
import Polyglot.Text.Case
import Polyglot.Text.Windows

/-!
# Terms

The terms of a text are its windows, blanks included.  A list of documents gives
each term a frequency, the number of places where it begins, and the number of
documents that contain it.
-/

namespace Polyglot

def VectorizerSettings.characters (s : VectorizerSettings) (text : String) : List Char :=
  if s.lowercase then Text.lower text.toList else text.toList

def VectorizerSettings.terms (s : VectorizerSettings) (text : String) : List String :=
  (Text.windowsBetween s.leastWindow.toNat s.mostWindow.toNat (s.characters text)).map
    String.ofList

/-- How often a term occurs, and in how many documents. -/
structure TermStatistics where
  term : String
  frequency : Nat
  documents : Nat
  deriving DecidableEq

namespace TermStatistics

/-- Adds a document that contains the term `count` times to statistics in term order. -/
def addDocument (term : String) (count : Nat) :
    List TermStatistics → List TermStatistics
  | [] => [⟨term, count, 1⟩]
  | s :: rest =>
      if s.term = term then ⟨term, s.frequency + count, s.documents + 1⟩ :: rest
      else ⟨term, count, 1⟩ :: s :: rest

def addOccurrence (term : String) : List (String × Nat) → List (String × Nat)
  | [] => [(term, 1)]
  | (t, n) :: rest => if t = term then (t, n + 1) :: rest else (term, 1) :: (t, n) :: rest

def counts (terms : List String) : List (String × Nat) :=
  (terms.mergeSort (· ≤ ·)).foldr addOccurrence []

def ofDocuments (s : VectorizerSettings) (documents : List String) : List TermStatistics :=
  ((documents.flatMap fun d => counts (s.terms d)).mergeSort (·.1 ≤ ·.1)).foldr
    (fun entry => addDocument entry.1 entry.2) []

def preferred (a b : TermStatistics) : Bool :=
  b.frequency < a.frequency || (a.frequency = b.frequency && a.term ≤ b.term)

/-- The most preferred terms, at most `limit` of them, in term order. -/
def best (limit : Nat) (statistics : List TermStatistics) : List TermStatistics :=
  ((statistics.mergeSort preferred).take limit).mergeSort (·.term ≤ ·.term)

end TermStatistics
end Polyglot
