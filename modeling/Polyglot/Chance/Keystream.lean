/-!
# The keystream

The eight-round ChaCha block function.  A block is a square of sixteen words,
kept as four rows; a column round mixes the rows lane by lane, and a diagonal
round does the same after turning the rows against each other.
-/

namespace Polyglot
namespace Chance

structure Lanes where
  a : UInt32
  b : UInt32
  c : UInt32
  d : UInt32
  deriving DecidableEq

namespace Lanes

/-- Lane by lane, modulo `2 ^ 32`. -/
def add (x y : Lanes) : Lanes :=
  ⟨x.a + y.a, x.b + y.b, x.c + y.c, x.d + y.d⟩

def xor (x y : Lanes) : Lanes :=
  ⟨x.a ^^^ y.a, x.b ^^^ y.b, x.c ^^^ y.c, x.d ^^^ y.d⟩

def rotateWord (n : UInt32) (x : UInt32) : UInt32 :=
  (x <<< n) ||| (x >>> (32 - n))

def rotate (n : UInt32) (x : Lanes) : Lanes :=
  ⟨rotateWord n x.a, rotateWord n x.b, rotateWord n x.c, rotateWord n x.d⟩

def turn (x : Lanes) : Lanes :=
  ⟨x.b, x.c, x.d, x.a⟩

def toList (x : Lanes) : List UInt32 :=
  [x.a, x.b, x.c, x.d]

end Lanes

structure Block where
  top : Lanes
  upper : Lanes
  lower : Lanes
  bottom : Lanes
  deriving DecidableEq

namespace Block

def mixColumns (x : Block) : Block :=
  let top := x.top.add x.upper
  let bottom := (x.bottom.xor top).rotate 16
  let lower := x.lower.add bottom
  let upper := (x.upper.xor lower).rotate 12
  let top := top.add upper
  let bottom := (bottom.xor top).rotate 8
  let lower := lower.add bottom
  let upper := (upper.xor lower).rotate 7
  ⟨top, upper, lower, bottom⟩

def toDiagonals (x : Block) : Block :=
  ⟨x.top, x.upper.turn, x.lower.turn.turn, x.bottom.turn.turn.turn⟩

def ofDiagonals (x : Block) : Block :=
  ⟨x.top, x.upper.turn.turn.turn, x.lower.turn.turn, x.bottom.turn⟩

def doubleRound (x : Block) : Block :=
  x.mixColumns.toDiagonals.mixColumns.ofDiagonals

/-- Word by word, modulo `2 ^ 32`. -/
def add (x y : Block) : Block :=
  ⟨x.top.add y.top, x.upper.add y.upper, x.lower.add y.lower, x.bottom.add y.bottom⟩

def toList (x : Block) : List UInt32 :=
  x.top.toList ++ x.upper.toList ++ x.lower.toList ++ x.bottom.toList

end Block

structure Key where
  first : Lanes
  second : Lanes
  deriving DecidableEq

def Key.start (key : Key) (block : Nat) : Block where
  top := ⟨0x61707865, 0x3320646e, 0x79622d32, 0x6b206574⟩
  upper := key.first
  lower := key.second
  bottom := ⟨UInt32.ofNat block, UInt32.ofNat (block / 0x100000000), 0, 0⟩

def Key.block (key : Key) (block : Nat) : List UInt32 :=
  let start := key.start block
  (start.doubleRound.doubleRound.doubleRound.doubleRound.add start).toList

def Key.word (key : Key) (position : Nat) : UInt32 :=
  (key.block (position / 16)).getD (position % 16) 0

end Chance
end Polyglot
