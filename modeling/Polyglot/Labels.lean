/-!
# Labels

The distinct labels of a list in ascending order.  Everything that is kept per
label follows this order.
-/

namespace Polyglot
namespace Labels

/-- Puts a label into an ascending list that may already hold it. -/
def insert (label : String) : List String → List String
  | [] => [label]
  | x :: xs =>
      if label < x then label :: x :: xs
      else if label = x then x :: xs
      else x :: insert label xs

def distinct (labels : List String) : List String :=
  labels.foldr insert []

def distribution (labels : List String) : List (String × Nat) :=
  (distinct labels).map fun label => (label, labels.count label)

def positions (label : String) (labels : List String) : List Nat :=
  (labels.zipIdx.filter fun entry => entry.1 == label).map Prod.snd

/--
Looks for a label among the `size` items of an ascending list from `first` on, by
comparing with an item in the middle until one item is left.
-/
def search (labels : Array String) (label : String) (first size : Nat) : Option Nat :=
  if 1 < size then
    let middle := first + size / 2
    if label < labels.getD middle "" then search labels label first (size - size / 2)
    else search labels label middle (size - size / 2)
  else if size = 1 ∧ labels[first]? = some label then some first
  else none
termination_by size

def position? (labels : List String) (label : String) : Option Nat :=
  search labels.toArray label 0 labels.length

end Labels
end Polyglot
