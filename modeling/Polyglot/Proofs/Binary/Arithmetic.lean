import Polyglot.Proofs.Binary.Rounding

/-!
# Binary arithmetic

Sums, differences, products, quotients and conversions of finite numbers are the
exact results, rounded.  They are finite as long as the exact result is not too
large, and finite numbers are compared by their values.
-/

namespace Polyglot
namespace Binary

open Float.Model (Format UnpackedFloat totalExponent)
open Float.Model.UnpackedFloat
open Single (signFactor finite?)

variable {f : Format} {x y : UnpackedFloat} {a b : ℚ}

private theorem apply_cast (sign : Sign) (n : Nat) :
    ((sign.apply n : ℤ) : ℚ) = signFactor sign * n := by
  cases sign <;> simp [Sign.apply, signFactor]

private theorem signFactor_mul (s s' : Sign) :
    signFactor (s * s') = signFactor s * signFactor s' := by
  cases s with
  | positive =>
      cases s' with
      | positive => exact (one_mul 1).symm
      | negative => exact (one_mul (-1)).symm
  | negative =>
      cases s' with
      | positive => exact (mul_one (-1)).symm
      | negative => exact ((neg_mul_neg 1 1).trans (one_mul 1)).symm

private theorem signFactor_div (s s' : Sign) :
    signFactor (s / s') = signFactor s / signFactor s' := by
  cases s with
  | positive =>
      cases s' with
      | positive => exact (div_one 1).symm
      | negative => exact (div_neg 1).trans (congrArg _ (div_one 1)) |>.symm
  | negative =>
      cases s' with
      | positive => exact (div_one (-1)).symm
      | negative => exact (div_self (neg_ne_zero.mpr one_ne_zero)).symm

private theorem signFactor_neg (s : Sign) : signFactor (-s) = -signFactor s := by
  cases s with
  | positive => rfl
  | negative => exact (neg_neg 1).symm

theorem finite?_neg (h : finite? x = some a) : finite? x.neg = some (-a) := by
  cases x with
  | infinity sign => cases h
  | notANumber => cases h
  | zero sign =>
      cases h
      exact congrArg some neg_zero.symm
  | finite sign m e hm =>
      cases h
      show some (signFactor (-sign) * _) = _
      rw [signFactor_neg, neg_mul]

theorem finite?_abs (h : finite? x = some a) : finite? x.abs = some |a| := by
  cases x with
  | infinity sign => cases h
  | notANumber => cases h
  | zero sign =>
      cases h
      exact congrArg some abs_zero.symm
  | finite sign m e hm =>
      cases h
      show some (1 * (m * 2 ^ e : ℚ)) = _
      rw [abs_mul, abs_of_nonneg (a := (m : ℚ) * 2 ^ e) (by positivity)]
      cases sign <;> simp [signFactor]

theorem Canonical.neg (h : Canonical f x) : Canonical f x.neg := by
  cases x <;> exact h

theorem Canonical.abs (h : Canonical f x) : Canonical f x.abs := by
  cases x <;> exact h

/-!
## Operations
-/

private theorem isRounding_self (hcanonical : Canonical f x) (hexact : finite? x = some a) :
    IsRounding f a x :=
  ⟨a, hexact, hcanonical, .refl a⟩

theorem round_eq (f : Format) (sign : Sign) (m : Nat) (e : ℤ) :
    UnpackedFloat.round f sign m e =
      roundWithAccuracy f sign (m <<< (e - target f m e).toNat)
        (e - (e - target f m e).toNat) .exact := by
  simp only [UnpackedFloat.round, decreaseExponent, targetExponent_eq]

theorem shiftLeft_ne_zero {m : Nat} (hm : m ≠ 0) (k : Nat) : m <<< k ≠ 0 :=
  Nat.shiftLeft_eq_zero_iff.not.mpr hm

theorem log2_shiftLeft {m : Nat} (hm : m ≠ 0) (k : Nat) : (m <<< k).log2 = m.log2 + k := by
  have hlow := Nat.log2_self_le hm
  have hhigh := Nat.lt_log2_self (n := m)
  rw [Nat.log2_eq_iff (shiftLeft_ne_zero hm k), Nat.shiftLeft_eq]
  constructor
  · rw [pow_add]
    gcongr
  · rw [Nat.add_right_comm, pow_add]
    gcongr

/-- A longer significand with a smaller exponent is rounded to the same exponent. -/
theorem target_shiftLeft {m : Nat} (hm : m ≠ 0) (e : ℤ) (k : Nat) :
    target f (m <<< k) (e - k) = target f m e := by
  unfold target
  rw [log2_shiftLeft hm]
  push_cast
  congr 1
  omega

theorem shiftLeft_value (m : Nat) (e : ℤ) (k : Nat) :
    ((m <<< k : Nat) : ℚ) * 2 ^ (e - k) = m * 2 ^ e := by
  have hback : (e - (e - (k : ℤ))).toNat = k := by omega
  rw [Nat.shiftLeft_eq, pow_eq_mul (s := e - k) (t := e) (by omega), ← mul_assoc, hback]
  push_cast
  rfl

private theorem isRounding_round (sign : Sign) {m : Nat} (hm : m ≠ 0) (e : ℤ) :
    IsRounding f (signFactor sign * (m * 2 ^ e)) (UnpackedFloat.round f sign m e) := by
  rw [round_eq, ← shiftLeft_value m e (e - target f m e).toNat]
  apply isRounding_roundWithAccuracy sign
  · rfl
  · rw [target_shiftLeft hm]
    omega
  · exact fun hzero => absurd hzero (shiftLeft_ne_zero hm _)

theorem isRounding_normalize (n e : ℤ) (zeroSign : Sign) :
    IsRounding f (n * 2 ^ e) (UnpackedFloat.normalize f n e zeroSign) := by
  unfold UnpackedFloat.normalize
  rcases lt_trichotomy n 0 with hlt | heq | hgt
  · rw [compare_lt_iff_lt.mpr hlt]
    have hround := isRounding_round (f := f) .negative (m := (-n).toNat) (by omega) e
    have hcast : (((-n).toNat : Nat) : ℚ) = -(n : ℚ) := by
      have hint : (((-n).toNat : Nat) : ℤ) = -n := by omega
      exact_mod_cast hint
    rw [hcast] at hround
    simpa [signFactor] using hround
  · subst heq
    refine ⟨0, rfl, trivial, ?_⟩
    simpa using Rounded.refl 0
  · rw [compare_gt_iff_gt.mpr hgt]
    have hround := isRounding_round (f := f) .positive (m := n.toNat) (by omega) e
    have hcast : ((n.toNat : Nat) : ℚ) = (n : ℚ) := by
      have hint : ((n.toNat : Nat) : ℤ) = n := by omega
      exact_mod_cast hint
    rw [hcast] at hround
    simpa [signFactor] using hround

theorem isRounding_add (hx : Canonical f x) (hy : Canonical f y) (ha : finite? x = some a)
    (hb : finite? y = some b) : IsRounding f (a + b) (UnpackedFloat.add f x y) := by
  cases x with
  | infinity sign => cases ha
  | notANumber => cases ha
  | zero sign =>
      cases ha
      rw [zero_add]
      cases y with
      | infinity sign' => cases hb
      | notANumber => cases hb
      | zero sign' =>
          cases hb
          cases sign <;> cases sign' <;> exact isRounding_self trivial rfl
      | finite sign' m' e' hm' => exact isRounding_self hy hb
  | finite sign m e hm =>
      cases y with
      | infinity sign' => cases hb
      | notANumber => cases hb
      | zero sign' =>
          cases hb
          rw [add_zero]
          exact isRounding_self hx ha
      | finite sign' m' e' hm' =>
          cases ha
          cases hb
          have hsum := isRounding_normalize (f := f)
            (sign.apply (m <<< (e - min e e').toNat : Nat) +
              sign'.apply (m' <<< (e' - min e e').toNat : Nat)) (min e e') .positive
          have hcommon : (((sign.apply (m <<< (e - min e e').toNat : Nat) +
              sign'.apply (m' <<< (e' - min e e').toNat : Nat) : ℤ)) : ℚ) * 2 ^ min e e' =
                signFactor sign * (m * 2 ^ e) + signFactor sign' * (m' * 2 ^ e') := by
            rw [pow_eq_mul (min_le_left e e'), pow_eq_mul (min_le_right e e')]
            rw [Int.cast_add, apply_cast, apply_cast, Nat.shiftLeft_eq, Nat.shiftLeft_eq,
              Nat.cast_mul, Nat.cast_mul]
            ring
          rw [hcommon] at hsum
          exact hsum

private theorem sub_eq_add (f : Format) (x y : UnpackedFloat) :
    UnpackedFloat.sub f x y = UnpackedFloat.add f x y.neg := by
  cases x with
  | infinity sign => cases y <;> rfl
  | notANumber => cases y <;> rfl
  | zero sign => cases y <;> rfl
  | finite sign m e hm =>
      cases y with
      | infinity sign' => rfl
      | notANumber => rfl
      | zero sign' => rfl
      | finite sign' m' e' hm' =>
          have happly : forall n : ℤ, (-sign').apply n = -sign'.apply n := by
            intro n
            cases sign' with
            | positive => rfl
            | negative => exact (neg_neg n).symm
          show UnpackedFloat.normalize f (_ - sign'.apply _) _ _ =
            UnpackedFloat.normalize f (_ + (-sign').apply _) _ _
          rw [happly, sub_eq_add_neg]

theorem isRounding_sub (hx : Canonical f x) (hy : Canonical f y) (ha : finite? x = some a)
    (hb : finite? y = some b) : IsRounding f (a - b) (UnpackedFloat.sub f x y) := by
  rw [sub_eq_add, sub_eq_add_neg]
  exact isRounding_add hx hy.neg ha (finite?_neg hb)

private theorem log2_of_le {m n : Nat} (h : 2 ^ n ≤ m) : n ≤ m.log2 :=
  (Nat.le_log2 (Nat.ne_of_gt (lt_of_lt_of_le (Nat.two_pow_pos n) h))).mpr h

private theorem le_target_mul {sign sign' : Sign} {m m' : Nat} {e e' : ℤ} (hm : 0 < m)
    (hm' : 0 < m') (hx : Canonical f (.finite sign m e hm))
    (hy : Canonical f (.finite sign' m' e' hm')) : e + e' ≤ target f (m * m') (e + e') := by
  have hleast := minExponent_eq f
  rcases hx with ⟨_, _, hshort | hlong⟩
  · rcases hy with ⟨_, _, hshort' | hlong'⟩
    · unfold target
      have := f.hm
      omega
    · have := log2_of_le (hlong'.trans (Nat.le_mul_of_pos_left m' hm))
      unfold target
      omega
  · have := log2_of_le (hlong.trans (Nat.le_mul_of_pos_right m hm'))
    unfold target
    omega

theorem isRounding_mul (hx : Canonical f x) (hy : Canonical f y) (ha : finite? x = some a)
    (hb : finite? y = some b) : IsRounding f (a * b) (UnpackedFloat.mul f x y) := by
  cases x with
  | infinity sign => cases ha
  | notANumber => cases ha
  | zero sign =>
      cases ha
      rw [zero_mul]
      cases y with
      | infinity sign' => cases hb
      | notANumber => cases hb
      | zero sign' => exact isRounding_self trivial rfl
      | finite sign' m' e' hm' => exact isRounding_self trivial rfl
  | finite sign m e hm =>
      cases y with
      | infinity sign' => cases hb
      | notANumber => cases hb
      | zero sign' =>
          cases hb
          rw [mul_zero]
          exact isRounding_self trivial rfl
      | finite sign' m' e' hm' =>
          cases ha
          cases hb
          have hpos : m * m' ≠ 0 := by positivity
          have hproduct := isRounding_roundWithAccuracy (f := f) (sign * sign')
            (show Approximates (m * m' * 2 ^ (e + e')) (m * m') (e + e') .exact by
              simp [Approximates]) ?_ (fun hzero => absurd hzero hpos)
          · have hvalue : signFactor (sign * sign') * (m * m' * 2 ^ (e + e')) =
                signFactor sign * (m * 2 ^ e) * (signFactor sign' * (m' * 2 ^ e')) := by
              rw [signFactor_mul, zpow_add₀ two_ne_zero]
              ring
            rw [hvalue] at hproduct
            exact hproduct
          · exact le_target_mul hm hm' hx hy

private theorem accuracy_approximates {m d : Nat} (hd : 0 < d) (e : ℤ) :
    Approximates (m / d * 2 ^ e) (m / d) e (accuracyOfFraction (m % d) d) := by
  have hdivision : (m : ℚ) = d * (m / d : Nat) + (m % d : Nat) := by
    exact_mod_cast (Nat.div_add_mod m d).symm
  have hd' : (0 : ℚ) < d := by exact_mod_cast hd
  have hquotient : (m : ℚ) / d = (m / d : Nat) + (m % d : Nat) / d := by
    rw [div_eq_iff hd'.ne', add_mul, div_mul_cancel₀ _ hd'.ne']
    linarith
  unfold accuracyOfFraction
  split
  · rename_i hzero
    show (m / d * 2 ^ e : ℚ) = _
    rw [hquotient, hzero]
    simp
  · rename_i hrest
    have hpositive : (0 : ℚ) < (m % d : Nat) / d := by positivity
    have hless : ((m % d : Nat) : ℚ) / d < 1 := by
      rw [div_lt_one hd']
      exact_mod_cast Nat.mod_lt m hd
    constructor
    · rw [hquotient]
      gcongr
      linarith
    · rw [hquotient]
      gcongr

private def quotientExponent (f : Format) (m : Nat) (e : ℤ) (m' : Nat) (e' : ℤ) : ℤ :=
  min (e - e')
    (max ((m.log2 + e) - (m'.log2 + e') - (f.mantissaBitsWithoutImplicit + 1)) f.minExponent)

private theorem divCore_eq (m : Nat) (e : ℤ) (m' : Nat) (e' : ℤ) :
    divCore f m e m' e' =
      (let shifted := m <<< (e - e' - quotientExponent f m e m' e').toNat
      (shifted / m', quotientExponent f m e m' e', accuracyOfFraction (shifted % m') m')) := by
  have hexponent : min (e - e') (f.targetExponent
      (totalExponent m e - totalExponent m' e')) = quotientExponent f m e m' e' := by
    simp only [Format.targetExponent, totalExponent, Format.mantissaBits, quotientExponent]
    push_cast
    congr 2
    ring
  unfold divCore
  rw [hexponent]

private theorem log2_quotient {m m' : Nat} {e e' : ℤ} (hm : 0 < m) (hm' : 0 < m')
    (hfine : f.minExponent < quotientExponent f m e m' e') :
    f.mantissaBitsWithoutImplicit ≤
      ((m <<< (e - e' - quotientExponent f m e m' e').toNat) / m').log2 := by
  apply log2_of_le
  rw [Nat.le_div_iff_mul_le hm', Nat.shiftLeft_eq]
  generalize hk : (e - e' - quotientExponent f m e m' e').toNat = k
  have hbits : m'.log2 + 1 + f.mantissaBitsWithoutImplicit ≤ m.log2 + k := by
    unfold quotientExponent at *
    omega
  calc 2 ^ f.mantissaBitsWithoutImplicit * m'
    _ ≤ 2 ^ f.mantissaBitsWithoutImplicit * 2 ^ (m'.log2 + 1) :=
        Nat.mul_le_mul_left _ Nat.lt_log2_self.le
    _ = 2 ^ (m'.log2 + 1 + f.mantissaBitsWithoutImplicit) := by
        rw [mul_comm, ← pow_add]
    _ ≤ 2 ^ (m.log2 + k) := Nat.pow_le_pow_right (by norm_num) hbits
    _ = 2 ^ m.log2 * 2 ^ k := pow_add ..
    _ ≤ m * 2 ^ k := Nat.mul_le_mul_right _ (Nat.log2_self_le hm.ne')

private theorem quotient_value (f : Format) (sign sign' : Sign) (m : Nat) (e : ℤ) (m' : Nat)
    (e' : ℤ) :
    signFactor (sign / sign') *
        ((m <<< (e - e' - quotientExponent f m e m' e').toNat : Nat) / (m' : ℚ) *
          2 ^ quotientExponent f m e m' e') =
      signFactor sign * (m * 2 ^ e) / (signFactor sign' * (m' * 2 ^ e')) := by
  have hle : quotientExponent f m e m' e' ≤ e - e' := min_le_left _ _
  have hpow : (2 : ℚ) ^ e / 2 ^ e' =
      ((2 ^ (e - e' - quotientExponent f m e m' e').toNat : Nat) : ℚ) *
        2 ^ quotientExponent f m e m' e' := by
    rw [← zpow_sub₀ two_ne_zero, pow_eq_mul hle]
  rw [signFactor_div, Nat.shiftLeft_eq, Nat.cast_mul, mul_div_mul_comm, mul_div_mul_comm, hpow]
  ring

theorem isRounding_div (ha : finite? x = some a) (hb : finite? y = some b) (hne : b ≠ 0) :
    IsRounding f (a / b) (UnpackedFloat.div f x y) := by
  cases y with
  | infinity sign' => cases hb
  | notANumber => cases hb
  | zero sign' =>
      cases hb
      exact absurd rfl hne
  | finite sign' m' e' hm' =>
      cases x with
      | infinity sign => cases ha
      | notANumber => cases ha
      | zero sign =>
          cases ha
          rw [zero_div]
          exact isRounding_self trivial rfl
      | finite sign m e hm =>
          cases ha
          cases hb
          have hround := isRounding_roundWithAccuracy (f := f) (sign / sign')
            (accuracy_approximates (m := m <<< (e - e' - quotientExponent f m e m' e').toNat)
              hm' (quotientExponent f m e m' e')) ?_ ?_
          · rw [← quotient_value f]
            simp only [div, divCore_eq]
            exact hround
          · rcases le_or_gt (quotientExponent f m e m' e') f.minExponent with hcoarse | hfine
            · exact hcoarse.trans (le_max_right _ _)
            · have := log2_quotient hm hm' hfine
              unfold target
              omega
          · intro hzero
            rcases le_or_gt (quotientExponent f m e m' e') f.minExponent with hcoarse | hfine
            · rw [hzero]
              unfold target
              simp
              omega
            · have := log2_quotient hm hm' hfine
              have hbits := f.hm
              rw [hzero, Nat.log2_zero] at this
              omega

theorem isRounding_div_infinity (sign : Sign) (h : finite? x = some a) :
    IsRounding f 0 (UnpackedFloat.div f x (.infinity sign)) := by
  cases x with
  | infinity sign => cases h
  | notANumber => cases h
  | zero sign => exact isRounding_self trivial rfl
  | finite sign m e hm => exact isRounding_self trivial rfl

theorem isRounding_roundTo (f : Format) (h : finite? x = some a) :
    IsRounding f a (roundTo f x) := by
  cases x with
  | infinity sign => cases h
  | notANumber => cases h
  | zero sign =>
      cases h
      exact isRounding_self trivial rfl
  | finite sign m e hm =>
      cases h
      exact isRounding_round sign hm.ne' e

/-!
## Packed results
-/

/-- What is computed is finite as long as the exact result is not too large. -/
theorem IsRounding.finite?_unpack_pack {v : ℚ} (h : IsRounding f v x) (hf : 1 < f.exponentBits)
    (hv : |v| ≤ 2 ^ (f.exponentBias : ℤ)) :
    ∃ c, finite? (UnpackedFloat.unpack f (UnpackedFloat.pack f x)) = some c ∧ Rounded f v c := by
  rcases h with ⟨c, hexact, hcanonical, hrounded⟩
  have hleast : f.minExponent ≤ f.exponentBias := by
    rw [minExponent_eq]
    have := f.hm
    omega
  refine ⟨c, ?_, hrounded⟩
  rw [unpack_pack hf hcanonical hexact (hrounded.abs_le_pow _ hleast hv)]
  exact hexact

/-- A finite number of at most a power of two, whatever its sign. -/
def Within (t : ℤ) (u : UnpackedFloat) : Prop :=
  ∃ a, finite? u = some a ∧ |a| ≤ 2 ^ t

theorem isFinite_of_finite? (h : finite? x = some a) : x.isFinite = true := by
  cases x with
  | notANumber => cases h
  | infinity sign => cases h
  | zero sign => rfl
  | finite sign m e hm => rfl

theorem isNaN_of_finite? (h : finite? x = some a) : x.isNaN = false := by
  cases x with
  | notANumber => cases h
  | infinity sign => cases h
  | zero sign => rfl
  | finite sign m e hm => rfl

theorem isInf_of_finite? (h : finite? x = some a) : x.isInf = false := by
  cases x with
  | notANumber => cases h
  | infinity sign => cases h
  | zero sign => rfl
  | finite sign m e hm => rfl

section Within

variable {s t : ℤ}

theorem Within.mono (h : Within s x) (hle : s ≤ t) : Within t x := by
  rcases h with ⟨a, ha, hbound⟩
  exact ⟨a, ha, hbound.trans (zpow_le_zpow_right₀ one_le_two hle)⟩

theorem IsRounding.within {v : ℚ} (h : IsRounding f v x) (hf : 1 < f.exponentBits)
    (hleast : f.minExponent ≤ t) (hmost : t ≤ f.exponentBias) (hv : |v| ≤ 2 ^ t) :
    Within t (UnpackedFloat.unpack f (UnpackedFloat.pack f x)) := by
  rcases h.finite?_unpack_pack hf (hv.trans (zpow_le_zpow_right₀ one_le_two hmost)) with
    ⟨c, hc, hrounded⟩
  exact ⟨c, hc, hrounded.abs_le_pow t hleast hv⟩

theorem abs_add_le_pow (ha : |a| ≤ 2 ^ t) (hb : |b| ≤ 2 ^ t) : |a + b| ≤ 2 ^ (t + 1) := by
  rw [zpow_add_one₀ two_ne_zero]
  linarith [abs_add_le a b]

theorem abs_mul_le_pow (ha : |a| ≤ 2 ^ s) (hb : |b| ≤ 2 ^ t) : |a * b| ≤ 2 ^ (s + t) := by
  rw [abs_mul, zpow_add₀ two_ne_zero]
  gcongr

theorem abs_div_le_pow (ha : |a| ≤ 2 ^ s) (hb : 2 ^ t ≤ |b|) : |a / b| ≤ 2 ^ (s - t) := by
  rw [abs_div, zpow_sub₀ two_ne_zero]
  gcongr

theorem within_add (hf : 1 < f.exponentBits) (hx : Canonical f x) (hy : Canonical f y)
    (ha : Within t x) (hb : Within t y) (hleast : f.minExponent ≤ t + 1)
    (hmost : t + 1 ≤ f.exponentBias) :
    Within (t + 1) (UnpackedFloat.unpack f (UnpackedFloat.pack f (UnpackedFloat.add f x y))) := by
  rcases ha with ⟨a, ha, hale⟩
  rcases hb with ⟨b, hb, hble⟩
  exact (isRounding_add hx hy ha hb).within hf hleast hmost (abs_add_le_pow hale hble)

theorem within_sub (hf : 1 < f.exponentBits) (hx : Canonical f x) (hy : Canonical f y)
    (ha : Within t x) (hb : Within t y) (hleast : f.minExponent ≤ t + 1)
    (hmost : t + 1 ≤ f.exponentBias) :
    Within (t + 1) (UnpackedFloat.unpack f (UnpackedFloat.pack f (UnpackedFloat.sub f x y))) := by
  rcases ha with ⟨a, ha, hale⟩
  rcases hb with ⟨b, hb, hble⟩
  apply (isRounding_sub hx hy ha hb).within hf hleast hmost
  rw [sub_eq_add_neg]
  exact abs_add_le_pow hale (by rwa [abs_neg])

theorem within_mul (hf : 1 < f.exponentBits) (hx : Canonical f x) (hy : Canonical f y)
    (ha : Within s x) (hb : Within t y) (hleast : f.minExponent ≤ s + t)
    (hmost : s + t ≤ f.exponentBias) :
    Within (s + t) (UnpackedFloat.unpack f (UnpackedFloat.pack f (UnpackedFloat.mul f x y))) := by
  rcases ha with ⟨a, ha, hale⟩
  rcases hb with ⟨b, hb, hble⟩
  exact (isRounding_mul hx hy ha hb).within hf hleast hmost (abs_mul_le_pow hale hble)

def AtMost (k : Nat) (t : ℤ) (u : UnpackedFloat) : Prop :=
  ∃ a, finite? u = some a ∧ |a| ≤ k * 2 ^ t

theorem AtMost.within {k n : Nat} (h : AtMost k t x) (hk : k ≤ 2 ^ n) : Within (n + t) x := by
  rcases h with ⟨a, ha, hale⟩
  refine ⟨a, ha, hale.trans ?_⟩
  rw [zpow_add₀ two_ne_zero, zpow_natCast]
  gcongr
  exact_mod_cast hk

theorem atMost_add (hf : 1 < f.exponentBits) {k : Nat} (hx : Canonical f x) (hy : Canonical f y)
    (ha : AtMost k t x) (hb : Within t y) (hk : k + 1 < 2 ^ (f.mantissaBitsWithoutImplicit + 1))
    (hleast : f.minExponent ≤ t) (hmost : f.mantissaBitsWithoutImplicit + 1 + t ≤ f.exponentBias) :
    AtMost (k + 1) t
      (UnpackedFloat.unpack f (UnpackedFloat.pack f (UnpackedFloat.add f x y))) := by
  rcases ha with ⟨a, ha, hale⟩
  rcases hb with ⟨b, hb, hble⟩
  have hsum : |a + b| ≤ (k + 1 : Nat) * 2 ^ t := by
    push_cast
    rw [add_mul, one_mul]
    exact (abs_add_le a b).trans (add_le_add hale hble)
  have hlarge : ((k + 1 : Nat) * 2 ^ t : ℚ) ≤ 2 ^ (f.exponentBias : ℤ) :=
    calc ((k + 1 : Nat) * 2 ^ t : ℚ)
      _ ≤ ((2 ^ (f.mantissaBitsWithoutImplicit + 1) : Nat) : ℚ) * 2 ^ t := by gcongr
      _ = 2 ^ ((f.mantissaBitsWithoutImplicit + 1 : ℤ) + t) := by
          rw [zpow_add₀ two_ne_zero]
          norm_cast
      _ ≤ 2 ^ (f.exponentBias : ℤ) := zpow_le_zpow_right₀ one_le_two hmost
  rcases (isRounding_add hx hy ha hb).finite?_unpack_pack hf (hsum.trans hlarge) with
    ⟨c, hc, hrounded⟩
  exact ⟨c, hc, hrounded.abs_le (k + 1) t hk hleast hsum⟩

theorem within_div (hf : 1 < f.exponentBits) (ha : Within s x) (hb : finite? y = some b)
    (hpow : 2 ^ t ≤ |b|) (hleast : f.minExponent ≤ s - t) (hmost : s - t ≤ f.exponentBias) :
    Within (s - t) (UnpackedFloat.unpack f (UnpackedFloat.pack f (UnpackedFloat.div f x y))) := by
  rcases ha with ⟨a, ha, hale⟩
  have hne : b ≠ 0 := abs_pos.mp (lt_of_lt_of_le (by positivity) hpow)
  exact (isRounding_div ha hb hne).within hf hleast hmost (abs_div_le_pow hale hpow)

end Within

/-!
## Comparison
-/

private theorem lt_of_exponent_lt {sign sign' : Sign} {m m' : Nat} {e e' : ℤ} {hm : 0 < m}
    {hm' : 0 < m'} (hx : Canonical f (.finite sign m e hm))
    (hy : Canonical f (.finite sign' m' e' hm')) (h : e < e') :
    (m * 2 ^ e : ℚ) < m' * 2 ^ e' := by
  rcases hx with ⟨hleast, hlength, _⟩
  rcases hy with ⟨_, _, hshort | hlong⟩
  · omega
  · calc (m * 2 ^ e : ℚ)
      _ < ((2 ^ (f.mantissaBitsWithoutImplicit + 1) : Nat) : ℚ) * 2 ^ e := by gcongr
      _ = ((2 ^ f.mantissaBitsWithoutImplicit : Nat) : ℚ) * 2 ^ (e + 1) := by
          rw [zpow_add_one₀ two_ne_zero, pow_succ]
          push_cast
          ring
      _ ≤ m' * 2 ^ e' := by
          gcongr
          · exact one_le_two
          · exact h

private theorem compare_magnitudes {sign sign' : Sign} {m m' : Nat} {e e' : ℤ} {hm : 0 < m}
    {hm' : 0 < m'} (hx : Canonical f (.finite sign m e hm))
    (hy : Canonical f (.finite sign' m' e' hm')) :
    (compare e e').then (compare m m') = compare (m * 2 ^ e : ℚ) (m' * 2 ^ e') := by
  rcases lt_trichotomy e e' with hlt | heq | hgt
  · rw [compare_lt_iff_lt.mpr hlt, compare_lt_iff_lt.mpr (lt_of_exponent_lt hx hy hlt)]
    rfl
  · subst heq
    rw [compare_eq_iff_eq.mpr rfl]
    have hpow : (0 : ℚ) < 2 ^ e := by positivity
    rcases lt_trichotomy m m' with hlt | heq | hgt
    · rw [compare_lt_iff_lt.mpr hlt, compare_lt_iff_lt.mpr (by gcongr)]
      rfl
    · rw [heq, compare_eq_iff_eq.mpr rfl, compare_eq_iff_eq.mpr rfl]
      rfl
    · rw [compare_gt_iff_gt.mpr hgt, compare_gt_iff_gt.mpr (by gcongr)]
      rfl
  · rw [compare_gt_iff_gt.mpr hgt, compare_gt_iff_gt.mpr (lt_of_exponent_lt hy hx hgt)]
    rfl

private theorem compare_neg (p q : ℚ) : compare (-1 * p) (-1 * q) = (compare p q).swap := by
  rcases lt_trichotomy p q with hlt | heq | hgt
  · rw [compare_lt_iff_lt.mpr hlt, compare_gt_iff_gt.mpr (by linarith)]
    rfl
  · rw [heq, compare_eq_iff_eq.mpr rfl, compare_eq_iff_eq.mpr rfl]
    rfl
  · rw [compare_gt_iff_gt.mpr hgt, compare_lt_iff_lt.mpr (by linarith)]
    rfl

theorem compare_eq (hx : Canonical f x) (hy : Canonical f y) (ha : finite? x = some a)
    (hb : finite? y = some b) : x.compare y = some (compare a b) := by
  have hvalue : forall (m : Nat) (e : ℤ), 0 < m -> (0 : ℚ) < m * 2 ^ e :=
    fun m e hm => by positivity
  cases x with
  | infinity sign => cases ha
  | notANumber => cases ha
  | zero sign =>
      cases ha
      cases y with
      | infinity sign' => cases hb
      | notANumber => cases hb
      | zero sign' =>
          cases hb
          rw [compare_eq_iff_eq.mpr rfl]
          rfl
      | finite sign' m' e' hm' =>
          cases hb
          have hpositive := hvalue m' e' hm'
          cases sign' with
          | positive =>
              rw [signFactor, one_mul, compare_lt_iff_lt.mpr hpositive]
              rfl
          | negative =>
              rw [signFactor, compare_gt_iff_gt.mpr (by linarith)]
              rfl
  | finite sign m e hm =>
      cases ha
      have hpositive := hvalue m e hm
      cases y with
      | infinity sign' => cases hb
      | notANumber => cases hb
      | zero sign' =>
          cases hb
          cases sign with
          | positive =>
              rw [signFactor, one_mul, compare_gt_iff_gt.mpr hpositive]
              rfl
          | negative =>
              rw [signFactor, compare_lt_iff_lt.mpr (by linarith)]
              rfl
      | finite sign' m' e' hm' =>
          cases hb
          have hpositive' := hvalue m' e' hm'
          cases sign with
          | positive =>
              cases sign' with
              | positive =>
                  rw [signFactor, one_mul, one_mul, ← compare_magnitudes hx hy]
                  rfl
              | negative =>
                  rw [signFactor, signFactor, compare_gt_iff_gt.mpr (by linarith)]
                  rfl
          | negative =>
              cases sign' with
              | positive =>
                  rw [signFactor, signFactor, compare_lt_iff_lt.mpr (by linarith)]
                  rfl
              | negative =>
                  rw [signFactor, compare_neg, ← compare_magnitudes hx hy]
                  rfl

theorem lt_iff (hx : Canonical f x) (hy : Canonical f y) (ha : finite? x = some a)
    (hb : finite? y = some b) : x.lt y = true ↔ a < b := by
  unfold UnpackedFloat.lt
  rw [compare_eq hx hy ha hb, beq_iff_eq, Option.some.injEq, compare_lt_iff_lt]

theorem beq_iff (hx : Canonical f x) (hy : Canonical f y) (ha : finite? x = some a)
    (hb : finite? y = some b) : x.beq y = true ↔ a = b := by
  unfold UnpackedFloat.beq
  rw [compare_eq hx hy ha hb, beq_iff_eq, Option.some.injEq, compare_eq_iff_eq]

end Binary
end Polyglot
