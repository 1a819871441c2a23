import Polyglot.Chance.Keystream

/-!
# Random numbers

A generator is a key and a position in its keystream.  Every draw returns the
generator at the position that follows the words it used.
-/

namespace Polyglot
namespace Chance

/-- A position in the keystream of a key. -/
structure Generator where
  key : Key
  position : Nat
  deriving DecidableEq

def seedStep (state : UInt64) : UInt64 :=
  state * 6364136223846793005 + 11634580027462260723

def seedWord (state : UInt64) : UInt32 :=
  let mixed := (((state >>> 18) ^^^ state) >>> 27).toUInt32
  let turn := (state >>> 59).toUInt32
  (mixed >>> turn) ||| (mixed <<< ((32 - turn) % 32))

def seedLanes (state : UInt64) : Lanes × UInt64 :=
  let s1 := seedStep state
  let s2 := seedStep s1
  let s3 := seedStep s2
  let s4 := seedStep s3
  (⟨seedWord s1, seedWord s2, seedWord s3, seedWord s4⟩, s4)

namespace Generator

def ofSeed (seed : UInt64) : Generator :=
  let first := seedLanes seed
  let second := seedLanes first.2
  ⟨⟨first.1, second.1⟩, 0⟩

def word (g : Generator) : Nat × Generator :=
  ((g.key.word g.position).toNat, { g with position := g.position + 1 })

def doubleWord (g : Generator) : Nat × Generator :=
  let (low, g) := g.word
  let (high, g) := g.word
  (low + high * 0x100000000, g)

/--
A number below `n`, which is positive and at most `size`, from numbers below
`size`.  The draw is scaled to the range; where its remainder leaves the result
undecided, the next draw decides whether it moves up by one.
-/
def scaled (size : Nat) (draw : Generator → Nat × Generator) (n : Nat) (g : Generator) :
    Nat × Generator :=
  let (r, g) := draw g
  let whole := r * n / size
  let rest := r * n % size
  if size - n < rest then
    let (r, g) := draw g
    (if size ≤ rest + r * n / size then whole + 1 else whole, g)
  else
    (whole, g)

/-- A number below `n`; one word serves for every range that fits a word. -/
def below (n : Nat) (g : Generator) : Nat × Generator :=
  if n < 0x100000000 then g.scaled 0x100000000 word n
  else g.scaled 0x10000000000000000 doubleWord n

/-- A list of `count` numbers below `n`. -/
def belowMany (n : Nat) : Nat → Generator → List Nat × Generator
  | 0, g => ([], g)
  | count + 1, g =>
      let (x, g) := g.below n
      let (xs, g) := g.belowMany n count
      (x :: xs, g)

end Generator
end Chance
end Polyglot
