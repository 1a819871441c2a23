import Polyglot.Decimal.Whole
import Polyglot.Proofs.Binary.Arithmetic

/-!
# Single-precision arithmetic

Sums, products and quotients of finite numbers are finite as long as the exact
result is not too large, and they lie on the same side of every power of two as
the exact result.
-/

namespace Polyglot
namespace Single

open Float.Model (Format UnpackedFloat)

variable {x y : Float32} {a b : ℚ}

theorem canonical (x : Float32) : Binary.Canonical .binary32 x.toModel.unpack :=
  Binary.canonical_unpack _

theorem value?_add (hx : value? x = some a) (hy : value? y = some b)
    (h : |a + b| ≤ 2 ^ (127 : ℤ)) :
    ∃ c, value? (x + y) = some c ∧ Binary.Rounded .binary32 (a + b) c :=
  (Binary.isRounding_add (canonical x) (canonical y) hx hy).finite?_unpack_pack (by decide) h

theorem value?_div (hx : value? x = some a) (hy : value? y = some b) (hne : b ≠ 0)
    (h : |a / b| ≤ 2 ^ (127 : ℤ)) :
    ∃ c, value? (x / y) = some c ∧ Binary.Rounded .binary32 (a / b) c :=
  (Binary.isRounding_div hx hy hne).finite?_unpack_pack (by decide) h

theorem value?_one : value? 1 = some 1 := by
  have hunpack : (1 : Float32).toModel.unpack =
      .finite .positive (2 ^ 23) (-23) (by norm_num) := by
    rfl
  unfold value?
  rw [hunpack]
  norm_num [finite?, signFactor]

theorem value?_toSingle (n : Nat) :
    ∃ c, value? (toSingle n) = some c ∧ 0 ≤ c ∧ c ≤ 2 ^ (64 : ℤ) := by
  have hbound : |(((UInt64.ofNat n).toNat : ℤ) : ℚ) * 2 ^ (0 : ℤ)| ≤ 2 ^ (64 : ℤ) := by
    have hlt := (UInt64.ofNat n).toNat_lt
    rw [zpow_zero, mul_one, abs_of_nonneg (by positivity)]
    exact_mod_cast hlt.le
  rcases (Binary.isRounding_normalize (f := .binary32) (UInt64.ofNat n).toNat 0 .positive
    ).finite?_unpack_pack (by decide)
      (hbound.trans (zpow_le_zpow_right₀ one_le_two (by decide))) with ⟨c, hc, hrounded⟩
  refine ⟨c, hc, hrounded.nonneg (by positivity), ?_⟩
  exact (le_abs_self c).trans (hrounded.abs_le_pow 64 (by decide) hbound)

theorem value?_one_add_toSingle (n : Nat) :
    ∃ c, value? (1 + toSingle n) = some c ∧ 2 ^ (0 : ℤ) ≤ c ∧ c ≤ 2 ^ (65 : ℤ) := by
  rcases value?_toSingle n with ⟨a, ha, hnonneg, hle⟩
  have hlow : (2 : ℚ) ^ (0 : ℤ) ≤ 1 + a := by
    rw [zpow_zero]
    linarith
  have hhigh : |1 + a| ≤ (2 : ℚ) ^ (65 : ℤ) := by
    rw [abs_of_nonneg (by linarith)]
    norm_num at hle ⊢
    linarith
  rcases value?_add value?_one ha
    (hhigh.trans (zpow_le_zpow_right₀ one_le_two (by norm_num))) with ⟨c, hc, hrounded⟩
  refine ⟨c, hc, hrounded.pow_le (by decide) hlow, ?_⟩
  exact (le_abs_self c).trans (hrounded.abs_le_pow 65 (by decide) hhigh)

/-!
## Bounded numbers
-/

/-- A finite number of at most a power of two, whatever its sign. -/
def Within (t : ℤ) (x : Float32) : Prop :=
  ∃ a, value? x = some a ∧ |a| ≤ 2 ^ t

section Within

variable {s t : ℤ}

theorem Within.isFinite (h : Within t x) : x.isFinite = true :=
  Binary.isFinite_of_finite? h.choose_spec.1

theorem Within.isNaN (h : Within t x) : x.isNaN = false :=
  Binary.isNaN_of_finite? h.choose_spec.1

theorem Within.mono (h : Within s x) (hle : s ≤ t) : Within t x :=
  Binary.Within.mono h hle

theorem within_zero (t : ℤ) : Within t 0 :=
  ⟨0, rfl, by positivity⟩

theorem within_one : Within 0 1 :=
  ⟨1, value?_one, by norm_num⟩

theorem within_toSingle (n : Nat) : Within 64 (toSingle n) := by
  rcases value?_toSingle n with ⟨c, hc, hnonneg, hle⟩
  exact ⟨c, hc, by rwa [abs_of_nonneg hnonneg]⟩

theorem within_toSingle_of_le {n k : Nat} (h : n ≤ 2 ^ k) (hk : k ≤ 127) :
    Within k (toSingle n) := by
  have hle : (UInt64.ofNat n).toNat ≤ 2 ^ k := (Nat.mod_le n _).trans h
  have hbound : |(((UInt64.ofNat n).toNat : ℤ) : ℚ) * 2 ^ (0 : ℤ)| ≤ 2 ^ (k : ℤ) := by
    rw [zpow_zero, mul_one, abs_of_nonneg (by positivity)]
    exact_mod_cast hle
  exact (Binary.isRounding_normalize (f := .binary32) (UInt64.ofNat n).toNat 0 .positive).within
    (by decide) (show (-149 : ℤ) ≤ k by omega) (show (k : ℤ) ≤ 127 by omega) hbound

theorem Within.add (hx : Within t x) (hy : Within t y) (hleast : -149 ≤ t + 1)
    (hmost : t + 1 ≤ 127) : Within (t + 1) (x + y) :=
  Binary.within_add (by decide) (canonical x) (canonical y) hx hy hleast hmost

theorem Within.sub (hx : Within t x) (hy : Within t y) (hleast : -149 ≤ t + 1)
    (hmost : t + 1 ≤ 127) : Within (t + 1) (x - y) :=
  Binary.within_sub (by decide) (canonical x) (canonical y) hx hy hleast hmost

theorem Within.mul (hx : Within s x) (hy : Within t y) (hleast : -149 ≤ s + t)
    (hmost : s + t ≤ 127) : Within (s + t) (x * y) :=
  Binary.within_mul (by decide) (canonical x) (canonical y) hx hy hleast hmost

theorem Within.half (h : Within t x) (hleast : -149 ≤ t - 1) (hmost : t - 1 ≤ 127) :
    Within (t - 1) (x / 2) := by
  have htwo : value? 2 = some (2 ^ (1 : ℤ)) := by
    have hunpack : (2 : Float32).toModel.unpack =
        .finite .positive (2 ^ 23) (-22) (by norm_num) := by
      rfl
    unfold value?
    rw [hunpack]
    norm_num [finite?, signFactor]
  exact Binary.within_div (by decide) h htwo (le_abs_self _) hleast hmost

/-- A quotient by a length that is not tiny is bounded, also if the length is infinite. -/
theorem Within.div_length (h : Within t x) (hy : (1e-10 : Float32) < y) (hleast : -149 ≤ t + 34)
    (hmost : t + 34 ≤ 127) : Within (t + 34) (x / y) := by
  have htiny : (1e-10 : Float32).toModel.unpack =
      .finite .positive 14411519 (-57) (by norm_num) := by
    rfl
  have hlt : UnpackedFloat.lt (1e-10 : Float32).toModel.unpack y.toModel.unpack = true :=
    of_decide_eq_true hy
  cases hb : value? y with
  | some b =>
      have hvalue : value? 1e-10 = some (14411519 * 2 ^ (-57 : ℤ)) := by
        unfold value?
        rw [htiny]
        norm_num [finite?, signFactor]
      have hless := (Binary.lt_iff (canonical _) (canonical y) hvalue hb).mp hlt
      have hpow : (2 : ℚ) ^ (-34 : ℤ) ≤ |b| := by
        refine le_trans ?_ (hless.le.trans (le_abs_self b))
        norm_num
      have hdiv := Binary.within_div (f := .binary32) (by decide) h hb hpow
        (by rw [sub_neg_eq_add]; exact hleast) (by rw [sub_neg_eq_add]; exact hmost)
      rwa [sub_neg_eq_add] at hdiv
  | none =>
      rw [htiny] at hlt
      unfold value? at hb
      have hinfinite : ∃ sign, y.toModel.unpack = .infinity sign := by
        cases hv : y.toModel.unpack with
        | infinity sign => exact ⟨sign, rfl⟩
        | notANumber =>
            rw [hv] at hlt
            cases hlt
        | zero sign =>
            rw [hv] at hb
            cases hb
        | finite sign m e hm =>
            rw [hv] at hb
            cases hb
      rcases hinfinite with ⟨sign, hinfinite⟩
      rcases h with ⟨a, ha, _⟩
      have hzero := (Binary.isRounding_div_infinity (f := .binary32) sign ha).within
        (by decide) hleast hmost (by positivity)
      rw [← hinfinite] at hzero
      exact hzero

end Within

private theorem significand_of_saturated {m : Nat} {e : ℤ} (hlength : m < 2 ^ 24)
    (hlong : e = -149 ∨ 2 ^ 23 ≤ m) (hlow : (2 : ℚ) ^ (25 : ℤ) - 1 < m * 2 ^ e)
    (hhigh : m * 2 ^ e ≤ (2 : ℚ) ^ (25 : ℤ)) : m = 2 ^ 23 ∧ e = 2 := by
  have hm : (m : ℚ) ≤ 2 ^ 24 - 1 := by
    have : m + 1 ≤ 2 ^ 24 := hlength
    rw [le_sub_iff_add_le]
    exact_mod_cast this
  have he : 2 ≤ e := by
    by_contra hsmall
    have hpow : (2 : ℚ) ^ e ≤ 2 ^ (1 : ℤ) := zpow_le_zpow_right₀ one_le_two (by omega)
    have : (m : ℚ) * 2 ^ e ≤ (2 ^ 24 - 1) * 2 ^ (1 : ℤ) := by gcongr
    norm_num at *
    linarith
  have hfull : 2 ^ 23 ≤ m := by omega
  have hpow : (2 : ℚ) ^ (2 : ℤ) ≤ 2 ^ e := zpow_le_zpow_right₀ one_le_two he
  have hexponent : e ≤ 2 := by
    have hle : (2 : ℚ) ^ (23 + e) ≤ 2 ^ (25 : ℤ) :=
      calc (2 : ℚ) ^ (23 + e)
        _ = ((2 ^ 23 : Nat) : ℚ) * 2 ^ e := by
            rw [zpow_add₀ two_ne_zero]
            norm_num
        _ ≤ m * 2 ^ e := by gcongr
        _ ≤ 2 ^ (25 : ℤ) := hhigh
    have := (zpow_le_zpow_iff_right₀ one_lt_two).mp hle
    omega
  have hsignificand : m ≤ 2 ^ 23 := by
    obtain rfl : e = 2 := by omega
    have hquarter : (m : ℚ) ≤ (8388608 : Nat) := by
      norm_num at hhigh
      push_cast
      linarith
    exact Nat.cast_le.mp hquarter
  exact ⟨by omega, by omega⟩

private theorem unpack_of_saturated (hx : value? x = some a)
    (hlow : (2 : ℚ) ^ (25 : ℤ) - 1 < a) (hhigh : a ≤ (2 : ℚ) ^ (25 : ℤ)) :
    x.toModel.unpack = .finite .positive (2 ^ 23) 2 (Nat.two_pow_pos 23) := by
  have hcanonical := canonical x
  unfold value? at hx
  have hpositive : (0 : ℚ) < a := lt_trans (by norm_num) hlow
  generalize x.toModel.unpack = u at hx hcanonical
  cases u with
  | infinity sign => cases hx
  | notANumber => cases hx
  | zero sign =>
      cases hx
      exact absurd hpositive (lt_irrefl 0)
  | finite sign m e hm =>
      cases hx
      cases sign with
      | negative =>
          have : (0 : ℚ) ≤ m * 2 ^ e := by positivity
          simp only [signFactor] at hpositive
          linarith
      | positive =>
          rw [signFactor, one_mul] at hlow hhigh
          rcases hcanonical with ⟨_, hlength, hlong⟩
          rcases significand_of_saturated hlength hlong hlow hhigh with ⟨rfl, rfl⟩
          rfl

/-- Adding one does not lead beyond `2 ^ 25`, since one is lost there. -/
theorem Within.add_one (h : Within 25 x) : Within 25 (x + 1) := by
  rcases h with ⟨a, ha, hale⟩
  have hbounds := abs_le.mp hale
  rcases le_or_gt (a + 1) ((2 : ℚ) ^ (25 : ℤ)) with hle | hgt
  · have hsum : |a + 1| ≤ (2 : ℚ) ^ (25 : ℤ) := abs_le.mpr ⟨by linarith, hle⟩
    rcases value?_add ha value?_one
      (hsum.trans (zpow_le_zpow_right₀ one_le_two (by norm_num))) with ⟨c, hc, hrounded⟩
    exact ⟨c, hc, hrounded.abs_le_pow 25 (by decide) hsum⟩
  · have hunpack := unpack_of_saturated ha (by linarith) hbounds.2
    have hsum : value? (x + 1) = some (1 * (((2 ^ 23 : Nat) : ℚ) * 2 ^ (2 : ℤ))) := by
      show finite? (UnpackedFloat.unpack .binary32 (UnpackedFloat.pack .binary32
        (UnpackedFloat.add .binary32 x.toModel.unpack _))) = _
      rw [hunpack]
      rfl
    exact ⟨_, hsum, by norm_num⟩

end Single
end Polyglot
