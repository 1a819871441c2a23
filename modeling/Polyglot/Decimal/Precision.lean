/-!
# Two precisions

Every single-precision number is a double-precision number, and every
double-precision number has a nearest single-precision one.  Both directions are
a rounding of the exact value to the other format.
-/

namespace Polyglot

open Float.Model (Format UnpackedFloat)

/-- Rounds a finite number to a format, an exact half to the even neighbour. -/
def roundTo (format : Format) : UnpackedFloat → UnpackedFloat
  | .finite sign significand exponent _ => .round format sign significand exponent
  | x => x

def toDouble (x : Float32) : Float :=
  .ofModel (.pack (roundTo .binary64 x.toModel.unpack))

def ofDouble (x : Float) : Float32 :=
  .ofModel (.pack (roundTo .binary32 x.toModel.unpack))

end Polyglot
