import Polyglot.Classifier

/-!
# Rankings

Scores from the largest to the smallest; equal scores follow label order.  The
order of scores is the total order of all bit patterns, so that it does not
depend on which numbers the patterns stand for: negative ones come below
positive ones, and patterns that are no number come at the two ends.
-/

namespace Polyglot
namespace Ranking

def key (bits : UInt32) : Nat :=
  if bits.toNat < 0x80000000 then 0x80000000 + bits.toNat else 0xffffffff - bits.toNat

def before (a b : String × UInt32) : Bool :=
  key b.2 < key a.2 || (key a.2 == key b.2 && a.1 ≤ b.1)

def rank (entries : List (String × UInt32)) : List (String × UInt32) :=
  entries.mergeSort before

end Ranking

def Prediction.ranked (p : Prediction) : List (String × Float32) :=
  (Ranking.rank (p.scores.map fun s => (s.1, s.2.toBits))).map fun s =>
    (s.1, Float32.ofBits s.2)

end Polyglot
