import Polyglot.Proofs.Single.Arithmetic

/-!
# Double-precision arithmetic

Bounds for sums, products and quotients in double precision, and for the
conversions between the two precisions.
-/

namespace Polyglot
namespace Double

open Float.Model (Format UnpackedFloat)
open Single (finite? signFactor)

def value? (x : Float) : Option ℚ :=
  finite? x.toModel.unpack

/-- A finite number of at most a power of two, whatever its sign. -/
def Within (t : ℤ) (x : Float) : Prop :=
  Binary.Within t x.toModel.unpack

def AtMost (k : Nat) (t : ℤ) (x : Float) : Prop :=
  Binary.AtMost k t x.toModel.unpack

variable {x y : Float} {s t : ℤ}

theorem canonical (x : Float) : Binary.Canonical .binary64 x.toModel.unpack :=
  Binary.canonical_unpack _

theorem Within.isInf (h : Within t x) : x.isInf = false :=
  Binary.isInf_of_finite? h.choose_spec.1

theorem atMost_zero (t : ℤ) : AtMost 0 t 0 :=
  ⟨0, rfl, by simp⟩

theorem AtMost.within {k n : Nat} (h : AtMost k t x) (hk : k ≤ 2 ^ n) : Within (n + t) x :=
  Binary.AtMost.within h hk

theorem AtMost.add {k : Nat} (hx : AtMost k t x) (hy : Within t y) (hk : k + 1 < 2 ^ 53)
    (hleast : -1074 ≤ t) (hmost : t ≤ 970) : AtMost (k + 1) t (x + y) :=
  Binary.atMost_add (by decide) (canonical x) (canonical y) hx hy hk hleast
    (show (52 : ℤ) + 1 + t ≤ 1023 by omega)

theorem Within.mul (hx : Within s x) (hy : Within t y) (hleast : -1074 ≤ s + t)
    (hmost : s + t ≤ 1023) : Within (s + t) (x * y) :=
  Binary.within_mul (by decide) (canonical x) (canonical y) hx hy hleast hmost

theorem Within.div_weight (hx : Within s x) (hy : Within t y) (hweight : ¬ y.abs < 1e-10)
    (hsmall : t ≤ 1023) (hleast : -1074 ≤ s + 34) (hmost : s + 34 ≤ 1023) :
    Within (s + 34) (x / y) := by
  rcases hy with ⟨b, hb, hble⟩
  have htiny : (1e-10 : Float).toModel.unpack =
      .finite .positive 7737125245533627 (-86) (by norm_num) := by
    rfl
  have hvalue : value? 1e-10 = some (7737125245533627 * 2 ^ (-86 : ℤ)) := by
    unfold value?
    rw [htiny]
    norm_num [finite?, signFactor]
  have habs : value? y.abs = some |b| := by
    show finite? (UnpackedFloat.unpack .binary64 (UnpackedFloat.pack .binary64 _)) = _
    rw [Binary.unpack_pack (by decide) (canonical y).abs (Binary.finite?_abs hb)]
    · exact Binary.finite?_abs hb
    · rw [abs_abs]
      exact hble.trans (zpow_le_zpow_right₀ one_le_two hsmall)
  have hpow : (2 : ℚ) ^ (-34 : ℤ) ≤ |b| := by
    by_contra hless
    apply hweight
    have hlt : |b| < 7737125245533627 * 2 ^ (-86 : ℤ) := by
      refine lt_of_lt_of_le (not_le.mp hless) ?_
      norm_num
    exact decide_eq_true ((Binary.lt_iff (canonical _) (canonical _) habs hvalue).mpr hlt)
  have hdiv := Binary.within_div (f := .binary64) (by decide) hx hb hpow
    (by rw [sub_neg_eq_add]; exact hleast) (by rw [sub_neg_eq_add]; exact hmost)
  rwa [sub_neg_eq_add] at hdiv

theorem within_toDouble {x : Float32} (h : Single.Within t x) (hleast : -1074 ≤ t)
    (hmost : t ≤ 1023) : Within t (toDouble x) := by
  rcases h with ⟨a, ha, hale⟩
  exact (Binary.isRounding_roundTo .binary64 ha).within (by decide) hleast hmost hale

theorem Within.ofDouble (h : Within t x) (hleast : -149 ≤ t) (hmost : t ≤ 127) :
    Single.Within t (ofDouble x) := by
  rcases h with ⟨a, ha, hale⟩
  exact (Binary.isRounding_roundTo .binary32 ha).within (by decide) hleast hmost hale

theorem within_toFloat (n : UInt64) : Within 64 n.toFloat := by
  have hbound : |((n.toNat : ℤ) : ℚ) * 2 ^ (0 : ℤ)| ≤ 2 ^ (64 : ℤ) := by
    rw [zpow_zero, mul_one, abs_of_nonneg (by positivity)]
    exact_mod_cast n.toNat_lt.le
  exact (Binary.isRounding_normalize (f := .binary64) n.toNat 0 .positive).within
    (by decide) (by decide) (by decide) hbound

end Double
end Polyglot
