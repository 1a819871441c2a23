import Polyglot.Chance.Generator

/-!
# Shuffles

A shuffle takes the items one after another and puts each at a random place
among those before it; the item found there moves to the end.  One draw serves
for several places: a number below `n * (n + 1) * ... * (n + k)` is split into
one place for each factor.
-/

namespace Polyglot
namespace Chance

/-- What is left of a draw, and for how many more places it serves. -/
structure PlaceSource where
  rest : Nat
  remaining : Nat

/--
The product of consecutive numbers from `product` on that still fits a word, and
the number of its factors.
-/
def consecutiveProduct : Nat → Nat → Nat → Nat → Nat × Nat
  | 0, product, _, count => (product, count)
  | fuel + 1, product, next, count =>
      if product * next < 0x100000000 then
        consecutiveProduct fuel (product * next) (next + 1) (count + 1)
      else
        (product, count)

namespace PlaceSource

def start : PlaceSource := ⟨0, 1⟩

/-- A place below `n`. -/
def place (source : PlaceSource) (n : Nat) (g : Generator) :
    Nat × PlaceSource × Generator :=
  let (source, g) :=
    if source.remaining = 0 then
      let (bound, count) := consecutiveProduct 32 n (n + 1) 1
      let (rest, g) := g.below bound
      ((⟨rest, count⟩ : PlaceSource), g)
    else
      (source, g)
  if source.remaining ≤ 1 then
    (source.rest, ⟨source.rest, 0⟩, g)
  else
    (source.rest % n, ⟨source.rest / n, source.remaining - 1⟩, g)

end PlaceSource

/-- Puts `x` at a place of the list; the item found there moves to the end. -/
def putAt (xs : List α) (place : Nat) (x : α) : List α :=
  match xs[place]? with
  | some y => xs.set place x ++ [y]
  | none => xs ++ [x]

def shuffleInto (placed : List α) (source : PlaceSource) (g : Generator) :
    List α → List α × Generator
  | [] => (placed, g)
  | x :: xs =>
      let (place, source, g) := source.place (placed.length + 1) g
      shuffleInto (putAt placed place x) source g xs

def shuffle (xs : List α) (g : Generator) : List α × Generator :=
  if xs.length ≤ 1 then (xs, g) else shuffleInto [] .start g xs

end Chance
end Polyglot
