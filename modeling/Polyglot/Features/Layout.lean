import Polyglot.Features.Vectorizer
import Polyglot.Digest.Sha256
import Polyglot.Text.Utf8

/-!
# Feature layouts

All that determines the meaning of the feature columns, written out as bytes:
the settings of the vectorizer, every term with its column and weight, and the
names of the structural counts.  The fingerprint of a layout is their hash.
-/

namespace Polyglot
namespace Vectorizer

/-- The lowest `count` bytes of a number, the least significant one first. -/
def littleEndian : Nat → Nat → List UInt8
  | 0, _ => []
  | count + 1, n => UInt8.ofNat n :: littleEndian count (n / 256)

/-- The bits of the weight of a column; a column without a weight has all bits set. -/
def weightBits (v : Vectorizer) (column : Nat) : Nat :=
  match v.weights[column]? with
  | some w => w.toBits.toNat
  | none => 0xffffffff

def settingsLine (s : VectorizerSettings) : String :=
  s!"ngram={s.leastWindow}-{s.mostWindow};" ++
    s!"lowercase={s.lowercase};max_features={s.maxFeatures}\n"

def entryBytes (v : Vectorizer) (entry : String × Nat) : List UInt8 :=
  Text.bytes entry.1 ++ 0x1f :: littleEndian 8 entry.2 ++ littleEndian 4 (v.weightBits entry.2)

def layout (v : Vectorizer) : List UInt8 :=
  Text.bytes (settingsLine v.settings) ++
    v.vocabulary.entries.flatMap v.entryBytes ++
    Text.bytes (",".intercalate Structure.names)

def fingerprint (v : Vectorizer) : String :=
  Sha256.hexHash v.layout

end Vectorizer
end Polyglot
