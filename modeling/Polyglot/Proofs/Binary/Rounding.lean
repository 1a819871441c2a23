import Mathlib
import Polyglot.Decimal.Precision

/-!
# Rounding to a binary format

The exact values of binary numbers, and what rounding and packing do to them: no
power of two is passed, and what fits is kept.
-/

namespace Polyglot

open Float.Model (Format UnpackedFloat totalExponent)
open Float.Model.UnpackedFloat

namespace Single

def signFactor : Sign -> ℚ
  | .positive => 1
  | .negative => -1

def finite? : UnpackedFloat -> Option ℚ
  | .finite sign significand exponent _ => some (signFactor sign * (significand * 2 ^ exponent))
  | .zero _ => some 0
  | _ => none

def value? (x : Float32) : Option ℚ :=
  finite? x.toModel.unpack

end Single

namespace Binary

open Single

variable {f : Format}

theorem minExponent_eq (f : Format) :
    f.minExponent = 1 - f.exponentBias - f.mantissaBitsWithoutImplicit := by
  have hbias : ((2 ^ (f.exponentBits - 1) - 1 : Nat) : ℤ) = 2 ^ (f.exponentBits - 1) - 1 := by
    rw [Nat.cast_sub Nat.one_le_two_pow]
    norm_num
  unfold Format.minExponent Format.exponentBias Format.mantissaBits
  rw [hbias]
  push_cast
  ring

def Canonical (f : Format) : UnpackedFloat -> Prop
  | .finite _ significand exponent _ =>
      f.minExponent ≤ exponent ∧ significand < 2 ^ (f.mantissaBitsWithoutImplicit + 1) ∧
        (exponent = f.minExponent ∨ 2 ^ f.mantissaBitsWithoutImplicit ≤ significand)
  | _ => True

/--
A bound that is a number of the format itself is not exceeded, and neither a power
of two nor zero lies strictly between the two values.
-/
structure Rounded (f : Format) (v c : ℚ) : Prop where
  abs_le : forall (k : Nat) (t : ℤ), k < 2 ^ (f.mantissaBitsWithoutImplicit + 1) ->
    f.minExponent ≤ t -> |v| ≤ k * 2 ^ t -> |c| ≤ k * 2 ^ t
  pow_le_abs : forall t : ℤ, f.minExponent ≤ t -> 2 ^ t ≤ |v| -> 2 ^ t ≤ |c|
  nonneg : 0 ≤ v -> 0 ≤ c
  nonpos : v ≤ 0 -> c ≤ 0

theorem Rounded.neg {v c : ℚ} (h : Rounded f v c) : Rounded f (-v) (-c) := by
  constructor
  · simpa using h.abs_le
  · simpa using h.pow_le_abs
  · simpa using h.nonpos
  · simpa using h.nonneg

theorem Rounded.refl (v : ℚ) : Rounded f v v :=
  ⟨fun _ _ _ _ h => h, fun _ _ h => h, id, id⟩

theorem Rounded.abs_le_pow {v c : ℚ} (h : Rounded f v c) (t : ℤ) (ht : f.minExponent ≤ t)
    (hv : |v| ≤ 2 ^ t) : |c| ≤ 2 ^ t := by
  have hone := h.abs_le 1 t (Nat.one_lt_two_pow (Nat.succ_ne_zero _)) ht
  rw [Nat.cast_one, one_mul] at hone
  exact hone hv

theorem Rounded.pow_le {v c : ℚ} (h : Rounded f v c) {t : ℤ} (ht : f.minExponent ≤ t)
    (hv : 2 ^ t ≤ v) : 2 ^ t ≤ c := by
  have hpos : (0 : ℚ) ≤ v := le_trans (by positivity) hv
  have habs := h.pow_le_abs t ht (by rwa [abs_of_nonneg hpos])
  rwa [abs_of_nonneg (h.nonneg hpos)] at habs

/-!
## Shifting
-/

private theorem mantissa_shift (em : ExtendedMantissa) (n : Nat) :
    (em >>> n).mantissa = em.mantissa / 2 ^ n := by
  induction n with
  | zero =>
      show em.mantissa = _
      simp
  | succ n ih =>
      show (em >>> n).mantissa / 2 = _
      rw [ih, Nat.div_div_eq_div_mul, pow_succ]

theorem shift_exact (k n : Nat) :
    ExtendedMantissa.mk (k * 2 ^ n) false false >>> n = ⟨k, false, false⟩ := by
  induction n generalizing k with
  | zero =>
      show ExtendedMantissa.mk (k * 2 ^ 0) false false = _
      simp
  | succ n ih =>
      show (ExtendedMantissa.mk (k * 2 ^ (n + 1)) false false >>> n).shiftRightOne = _
      have hpow : k * 2 ^ (n + 1) = k * 2 * 2 ^ n := by ring
      rw [hpow, ih (k * 2)]
      simp [ExtendedMantissa.shiftRightOne]

private theorem mantissa_le_rounded (em : ExtendedMantissa) :
    em.mantissa ≤ em.roundedMantissa := by
  rcases em with ⟨m, r, s⟩
  cases r <;> cases s <;>
    simp [ExtendedMantissa.roundedMantissa, ExtendedMantissa.accuracy,
      Accuracy.roundToNearestEven]

private theorem rounded_le_succ (em : ExtendedMantissa) :
    em.roundedMantissa ≤ em.mantissa + 1 := by
  rcases em with ⟨m, r, s⟩
  cases r <;> cases s <;>
    simp [ExtendedMantissa.roundedMantissa, ExtendedMantissa.accuracy,
      Accuracy.roundToNearestEven]
  omega

private theorem mantissa_of (m : Nat) (accuracy : Accuracy) :
    (ExtendedMantissa.ofMantissaAndAccuracy m accuracy).mantissa = m := by
  cases accuracy with
  | exact => rfl
  | inexact order => cases order <;> rfl

/-- The significand that is left when `n` bits are dropped. -/
def dropped (m : Nat) (accuracy : Accuracy) (n : Nat) : Nat :=
  (ExtendedMantissa.ofMantissaAndAccuracy m accuracy >>> n).roundedMantissa

theorem le_dropped {m k n : Nat} (accuracy : Accuracy) (h : k * 2 ^ n ≤ m) :
    k ≤ dropped m accuracy n := by
  apply le_trans _ (mantissa_le_rounded _)
  rw [mantissa_shift, mantissa_of]
  exact (Nat.le_div_iff_mul_le (by positivity)).mpr h

theorem dropped_le_of_lt {m k n : Nat} (accuracy : Accuracy) (h : m < k * 2 ^ n) :
    dropped m accuracy n ≤ k := by
  apply (rounded_le_succ _).trans
  rw [mantissa_shift, mantissa_of]
  exact (Nat.div_lt_iff_lt_mul (by positivity)).mpr h

theorem dropped_exact_le {m k n : Nat} (h : m ≤ k * 2 ^ n) :
    dropped m .exact n ≤ k := by
  rcases Nat.lt_or_eq_of_le h with hlt | heq
  · exact dropped_le_of_lt .exact hlt
  · subst heq
    show (ExtendedMantissa.mk (k * 2 ^ n) false false >>> n).roundedMantissa ≤ k
    rw [shift_exact]
    exact Nat.le_refl k

/-!
## Rounding
-/

def target (f : Format) (m : Nat) (e : ℤ) : ℤ :=
  max (m.log2 + e - f.mantissaBitsWithoutImplicit) f.minExponent

theorem targetExponent_eq (m : Nat) (e : ℤ) :
    f.targetExponent (totalExponent m e) = target f m e := by
  simp only [Format.targetExponent, totalExponent, Format.mantissaBits, target]
  push_cast
  congr 1
  ring

private theorem shift_none {r : Nat} {e : ℤ} (hr : r < 2 ^ (f.mantissaBitsWithoutImplicit + 1))
    (he : f.minExponent ≤ e) :
    shiftToTargetExponent f r e .exact = (⟨r, false, false⟩, e) := by
  have hlog : r.log2 ≤ f.mantissaBitsWithoutImplicit := by
    by_cases hzero : r = 0
    · simp [hzero]
    · have := (Nat.log2_lt hzero).mpr hr
      omega
  have hamount : (target f r e - e).toNat = 0 := by
    unfold target
    omega
  simp only [shiftToTargetExponent, targetExponent_eq, shiftToExponent, hamount]
  show (ExtendedMantissa.mk r false false, e + 0) = _
  rw [add_zero]

private theorem shift_carry {e : ℤ} (he : f.minExponent ≤ e) :
    shiftToTargetExponent f (2 ^ (f.mantissaBitsWithoutImplicit + 1)) e .exact =
      (⟨2 ^ f.mantissaBitsWithoutImplicit, false, false⟩, e + 1) := by
  have hamount : (target f (2 ^ (f.mantissaBitsWithoutImplicit + 1)) e - e).toNat = 1 := by
    unfold target
    rw [Nat.log2_two_pow]
    omega
  simp only [shiftToTargetExponent, targetExponent_eq, shiftToExponent, hamount]
  rw [pow_succ]
  have hexact := shift_exact (2 ^ f.mantissaBitsWithoutImplicit) 1
  rw [pow_one] at hexact
  exact congrArg (·, e + 1) hexact

private theorem shift_first (m : Nat) (e : ℤ) (accuracy : Accuracy) (h : e ≤ target f m e) :
    shiftToTargetExponent f m e accuracy =
      (ExtendedMantissa.ofMantissaAndAccuracy m accuracy >>> (target f m e - e).toNat,
        target f m e) := by
  simp only [shiftToTargetExponent, targetExponent_eq, shiftToExponent]
  congr 1
  omega

theorem dropped_le {m : Nat} {e : ℤ} (accuracy : Accuracy) :
    dropped m accuracy (target f m e - e).toNat ≤ 2 ^ (f.mantissaBitsWithoutImplicit + 1) := by
  apply dropped_le_of_lt
  by_cases hzero : m = 0
  · subst hzero
    positivity
  · rw [← pow_add, ← Nat.log2_lt hzero]
    unfold target
    omega

theorem le_dropped_target {m : Nat} {e : ℤ} (accuracy : Accuracy)
    (hfine : f.minExponent < target f m e) (hm : m ≠ 0) (he : e ≤ target f m e) :
    2 ^ f.mantissaBitsWithoutImplicit ≤ dropped m accuracy (target f m e - e).toNat := by
  apply le_dropped
  rw [← pow_add, ← Nat.le_log2 hm]
  unfold target at *
  omega

theorem roundWithAccuracy_cases (sign : Sign) {m : Nat} {e : ℤ} (accuracy : Accuracy)
    (he : e ≤ target f m e) :
    (dropped m accuracy (target f m e - e).toNat = 0 ∧
        roundWithAccuracy f sign m e accuracy = .zero sign) ∨
      (dropped m accuracy (target f m e - e).toNat < 2 ^ (f.mantissaBitsWithoutImplicit + 1) ∧
        ∃ hpos, roundWithAccuracy f sign m e accuracy =
          .finite sign (dropped m accuracy (target f m e - e).toNat) (target f m e) hpos) ∨
      (dropped m accuracy (target f m e - e).toNat = 2 ^ (f.mantissaBitsWithoutImplicit + 1) ∧
        roundWithAccuracy f sign m e accuracy =
          .finite sign (2 ^ f.mantissaBitsWithoutImplicit) (target f m e + 1)
            (Nat.two_pow_pos _)) := by
  have hle := dropped_le (f := f) (m := m) (e := e) accuracy
  have hleast : f.minExponent ≤ target f m e := le_max_right _ _
  have hdropped :
      (ExtendedMantissa.ofMantissaAndAccuracy m accuracy >>>
        (target f m e - e).toNat).roundedMantissa =
          dropped m accuracy (target f m e - e).toNat := rfl
  simp only [roundWithAccuracy, shift_first m e accuracy he, hdropped]
  generalize dropped m accuracy (target f m e - e).toNat = r at *
  rcases Nat.lt_or_eq_of_le hle with hlt | heq
  · simp only [shift_none hlt hleast]
    by_cases hzero : r = 0
    · exact .inl ⟨hzero, dif_pos hzero⟩
    · exact .inr (.inl ⟨hlt, Nat.pos_of_ne_zero hzero, dif_neg hzero⟩)
  · subst heq
    simp only [shift_carry hleast]
    exact .inr (.inr ⟨trivial, dif_neg (Nat.two_pow_pos _).ne'⟩)

theorem roundWithAccuracy_spec (sign : Sign) (m : Nat) (e : ℤ) (accuracy : Accuracy)
    (he : e ≤ target f m e) (hfine : m = 0 -> target f m e = f.minExponent) :
    finite? (roundWithAccuracy f sign m e accuracy) =
        some (signFactor sign *
          (dropped m accuracy (target f m e - e).toNat * 2 ^ target f m e)) ∧
      Canonical f (roundWithAccuracy f sign m e accuracy) := by
  have hleast : f.minExponent ≤ target f m e := le_max_right _ _
  have hlong : target f m e = f.minExponent ∨
      2 ^ f.mantissaBitsWithoutImplicit ≤ dropped m accuracy (target f m e - e).toNat := by
    by_cases hm : m = 0
    · exact .inl (hfine hm)
    · rcases eq_or_lt_of_le hleast with heq | hlt
      · exact .inl heq.symm
      · exact .inr (le_dropped_target accuracy hlt hm he)
  rcases roundWithAccuracy_cases sign accuracy he with
    ⟨hzero, hround⟩ | ⟨hlt, hpos, hround⟩ | ⟨hcarry, hround⟩
  · rw [hround, hzero]
    simp [finite?, Canonical]
  · rw [hround]
    exact ⟨rfl, hleast, hlt, hlong⟩
  · rw [hround, hcarry]
    constructor
    · show some (signFactor sign * (_ * (2 : ℚ) ^ (target f m e + 1))) = _
      rw [zpow_add_one₀ two_ne_zero, pow_succ]
      push_cast
      congr 1
      ring
    · exact ⟨by omega, Nat.pow_lt_pow_right one_lt_two (Nat.lt_succ_self _), .inr (Nat.le_refl _)⟩

def Approximates (v : ℚ) (m : Nat) (e : ℤ) : Accuracy -> Prop
  | .exact => v = m * 2 ^ e
  | .inexact _ => m * 2 ^ e < v ∧ v < (m + 1) * 2 ^ e

theorem pow_eq_mul {s t : ℤ} (h : s ≤ t) :
    (2 : ℚ) ^ t = ((2 ^ (t - s).toNat : Nat) : ℚ) * 2 ^ s := by
  push_cast
  rw [← zpow_natCast, ← zpow_add₀ two_ne_zero]
  congr 1
  omega

theorem Approximates.le {v : ℚ} {m : Nat} {e : ℤ} {accuracy : Accuracy}
    (h : Approximates v m e accuracy) : m * 2 ^ e ≤ v := by
  cases accuracy with
  | exact => exact h.ge
  | inexact order => exact h.1.le

theorem Approximates.log2_lt {v : ℚ} {m : Nat} {e t : ℤ} {accuracy : Accuracy}
    (h : Approximates v m e accuracy) (hm : m ≠ 0) (hv : v < 2 ^ t) : m.log2 + e < t := by
  have hpow : ((2 ^ m.log2 : Nat) : ℚ) ≤ m := by exact_mod_cast Nat.log2_self_le hm
  have hlt : (2 : ℚ) ^ ((m.log2 : ℤ) + e) < 2 ^ t :=
    calc (2 : ℚ) ^ ((m.log2 : ℤ) + e)
      _ = ((2 ^ m.log2 : Nat) : ℚ) * 2 ^ e := by
          rw [zpow_add₀ two_ne_zero]
          push_cast
          rw [zpow_natCast]
      _ ≤ m * 2 ^ e := by gcongr
      _ ≤ v := h.le
      _ < 2 ^ t := hv
  exact (zpow_lt_zpow_iff_right₀ one_lt_two).mp hlt

theorem Approximates.dropped_le {v : ℚ} {m k : Nat} {e s : ℤ} {accuracy : Accuracy}
    (h : Approximates v m e accuracy) (he : e ≤ s) (hv : v ≤ k * 2 ^ s) :
    dropped m accuracy (s - e).toNat ≤ k := by
  rw [pow_eq_mul he, ← mul_assoc] at hv
  cases accuracy with
  | exact =>
      apply dropped_exact_le
      rw [h] at hv
      exact_mod_cast le_of_mul_le_mul_right hv (by positivity)
  | inexact order =>
      apply dropped_le_of_lt
      exact_mod_cast lt_of_mul_lt_mul_right (h.1.trans_le hv) (by positivity)

theorem Approximates.le_dropped {v : ℚ} {m k : Nat} {e s : ℤ} {accuracy : Accuracy}
    (h : Approximates v m e accuracy) (he : e ≤ s) (hv : k * 2 ^ s ≤ v) :
    k ≤ dropped m accuracy (s - e).toNat := by
  apply Binary.le_dropped
  rw [pow_eq_mul he, ← mul_assoc] at hv
  cases accuracy with
  | exact =>
      rw [h] at hv
      exact_mod_cast le_of_mul_le_mul_right hv (by positivity)
  | inexact order =>
      apply Nat.le_of_lt_succ
      exact_mod_cast lt_of_mul_lt_mul_right (hv.trans_lt h.2) (by positivity)

theorem Approximates.target_le {v : ℚ} {m : Nat} {e : ℤ} {accuracy : Accuracy}
    (h : Approximates v m e accuracy) (hfine : m = 0 -> target f m e = f.minExponent) {k : Nat}
    {t : ℤ} (hk : k < 2 ^ (f.mantissaBitsWithoutImplicit + 1)) (ht : f.minExponent ≤ t)
    (hv : v ≤ k * 2 ^ t) : target f m e ≤ t := by
  by_cases hm : m = 0
  · rw [hfine hm]
    exact ht
  · have hlt : v < 2 ^ (((f.mantissaBitsWithoutImplicit + 1 : Nat) : ℤ) + t) :=
      calc v
        _ ≤ k * 2 ^ t := hv
        _ < ((2 ^ (f.mantissaBitsWithoutImplicit + 1) : Nat) : ℚ) * 2 ^ t := by gcongr
        _ = 2 ^ (((f.mantissaBitsWithoutImplicit + 1 : Nat) : ℤ) + t) := by
            rw [zpow_add₀ two_ne_zero, zpow_natCast]
            push_cast
            rfl
    have := h.log2_lt hm hlt
    unfold target
    omega

theorem rounded_dropped {v : ℚ} {m : Nat} {e : ℤ} {accuracy : Accuracy}
    (h : Approximates v m e accuracy) (he : e ≤ target f m e)
    (hfine : m = 0 -> target f m e = f.minExponent) :
    Rounded f v (dropped m accuracy (target f m e - e).toNat * 2 ^ target f m e) := by
  have hnonneg : 0 ≤ v := le_trans (by positivity) h.le
  constructor
  · intro k t hk ht hv
    rw [abs_of_nonneg hnonneg] at hv
    rw [abs_of_nonneg (by positivity)]
    have htarget := h.target_le hfine hk ht hv
    rw [pow_eq_mul htarget, ← mul_assoc, ← Nat.cast_mul] at hv ⊢
    have := h.dropped_le he hv
    gcongr
  · intro t ht hv
    rw [abs_of_nonneg hnonneg] at hv
    rw [abs_of_nonneg (by positivity)]
    rcases le_or_gt (target f m e) t with htarget | htarget
    · rw [pow_eq_mul htarget] at hv ⊢
      have := h.le_dropped he hv
      gcongr
    · have hm : m ≠ 0 := by
        intro hzero
        rw [hfine hzero] at htarget
        omega
      have hlong := le_dropped_target accuracy (by omega) hm he
      have hone : (1 : ℚ) ≤ dropped m accuracy (target f m e - e).toNat := by
        exact_mod_cast le_trans Nat.one_le_two_pow hlong
      calc (2 : ℚ) ^ t
        _ ≤ 2 ^ target f m e := zpow_le_zpow_right₀ one_le_two htarget.le
        _ = 1 * 2 ^ target f m e := (one_mul _).symm
        _ ≤ _ := by gcongr
  · intro _
    positivity
  · intro hv
    have hzero := h.dropped_le he (k := 0) (by simpa using hv)
    rw [Nat.le_zero.mp hzero]
    simp

def IsRounding (f : Format) (v : ℚ) (u : UnpackedFloat) : Prop :=
  ∃ c, finite? u = some c ∧ Canonical f u ∧ Rounded f v c

theorem isRounding_roundWithAccuracy {v : ℚ} {m : Nat} {e : ℤ} {accuracy : Accuracy} (sign : Sign)
    (h : Approximates v m e accuracy) (he : e ≤ target f m e)
    (hfine : m = 0 -> target f m e = f.minExponent) :
    IsRounding f (signFactor sign * v) (roundWithAccuracy f sign m e accuracy) := by
  rcases roundWithAccuracy_spec sign m e accuracy he hfine with ⟨hexact, hcanonical⟩
  have hrounded := rounded_dropped h he hfine
  refine ⟨_, hexact, hcanonical, ?_⟩
  cases sign with
  | positive => simpa [signFactor] using hrounded
  | negative => simpa [signFactor] using hrounded.neg

/-!
## Packing
-/

theorem pow_exponentBits (f : Format) : 2 ^ f.exponentBits = 2 * (f.exponentBias + 1) := by
  have hone : f.exponentBits = f.exponentBits - 1 + 1 := by
    have := f.he
    omega
  unfold Format.exponentBias
  rw [Nat.sub_add_cancel Nat.one_le_two_pow, ← pow_succ', ← hone]

theorem toNat_ones (n : Nat) : (-1#n : BitVec n).toNat = 2 ^ n - 1 := by
  rw [BitVec.neg_one_eq_allOnes, BitVec.toNat_allOnes]

theorem zeros_ne_ones (f : Format) : 0#f.exponentBits ≠ -1#f.exponentBits := by
  intro heq
  have hsame := congrArg BitVec.toNat heq
  rw [toNat_ones, BitVec.toNat_zero] at hsame
  have := Nat.pow_le_pow_right two_pos f.he
  omega

private theorem append_implicit {n : Nat} (m : BitVec n) : (1#1 ++ m).toNat = 2 ^ n + m.toNat := by
  rw [BitVec.toNat_append, ← Nat.shiftLeft_add_eq_or_of_lt m.isLt]
  simp [Nat.shiftLeft_eq]

private theorem leastExponent_eq (f : Format) :
    ((0#f.exponentBits).toNat : ℤ) - (f.exponentBias + f.mantissaBitsWithoutImplicit) + 1 =
      f.minExponent := by
  rw [minExponent_eq, BitVec.toNat_zero]
  push_cast
  ring

theorem unpack_packComponents (sign : Sign) (e : BitVec f.exponentBits)
    (m : BitVec f.mantissaBitsWithoutImplicit) :
    UnpackedFloat.unpack f (packComponents f sign e m) =
      if e = -1#_ then if m = 0#_ then .infinity sign else .notANumber
      else if e = 0#_ then
        if h : m = 0#_ then .zero sign
        else .finite sign m.toNat f.minExponent
          (Nat.pos_of_ne_zero fun hz => h (BitVec.eq_of_toNat_eq hz))
      else .finite sign (2 ^ f.mantissaBitsWithoutImplicit + m.toNat)
        ((e.toNat : ℤ) - (f.exponentBias + f.mantissaBitsWithoutImplicit))
        (Nat.add_pos_left (Nat.two_pow_pos _) _) := by
  unfold UnpackedFloat.unpack
  simp only [unpackMantissa_packComponents, unpackExponent_packComponents,
    unpackSign_packComponents, Sign.ofBitVec_toBitVec]
  split
  · rfl
  · split
    · rename_i hzero
      subst hzero
      split
      · rfl
      · congr 1
        exact leastExponent_eq f
    · congr 1
      exact append_implicit m

theorem pack_long (sign : Sign) {m : Nat} {e : ℤ} (hm : 0 < m)
    (hmax : e + f.mantissaBitsWithoutImplicit ≤ f.exponentBias)
    (hlong : 2 ^ f.mantissaBitsWithoutImplicit ≤ m)
    (hlength : m < 2 ^ (f.mantissaBitsWithoutImplicit + 1)) :
    UnpackedFloat.pack f (.finite sign m e hm) =
      packComponents f sign
        (BitVec.ofNat _ (e + f.exponentBias + f.mantissaBitsWithoutImplicit).toNat)
        (BitVec.ofNat _ m) := by
  have hlog : m.log2 = f.mantissaBitsWithoutImplicit :=
    (Nat.log2_eq_iff (by omega)).mpr ⟨hlong, hlength⟩
  have hbits := pow_exponentBits f
  simp only [UnpackedFloat.pack]
  rw [if_neg (by omega), if_pos (by rw [hlog, Format.mantissaBits, add_comm])]

theorem pack_short (sign : Sign) {m : Nat} (hf : 1 < f.exponentBits) (hm : 0 < m)
    (hshort : m < 2 ^ f.mantissaBitsWithoutImplicit) :
    UnpackedFloat.pack f (.finite sign m f.minExponent hm) =
      packComponents f sign 0#_ (BitVec.ofNat _ m) := by
  have hlog : m.log2 < f.mantissaBitsWithoutImplicit := (Nat.log2_lt (by omega)).mpr hshort
  have hbits : 2 ^ 2 ≤ 2 ^ f.exponentBits := Nat.pow_le_pow_right two_pos hf
  have hleast := minExponent_eq f
  simp only [UnpackedFloat.pack]
  rw [if_neg (by omega), if_neg (by unfold Format.mantissaBits; omega)]

theorem unpack_pack_short (sign : Sign) {m : Nat} (hf : 1 < f.exponentBits) (hm : 0 < m)
    (hshort : m < 2 ^ f.mantissaBitsWithoutImplicit) :
    UnpackedFloat.unpack f (UnpackedFloat.pack f (.finite sign m f.minExponent hm)) =
      .finite sign m f.minExponent hm := by
  have hfraction : (BitVec.ofNat f.mantissaBitsWithoutImplicit m).toNat = m := by
    rw [BitVec.toNat_ofNat, Nat.mod_eq_of_lt hshort]
  have hne : BitVec.ofNat f.mantissaBitsWithoutImplicit m ≠ 0#_ := by
    intro hzero
    rw [hzero] at hfraction
    exact Nat.ne_of_lt hm hfraction
  have hleast := minExponent_eq f
  rw [pack_short sign hf hm hshort, unpack_packComponents, if_neg (zeros_ne_ones f), if_pos rfl,
    dif_neg hne]
  congr 1

theorem unpack_pack_long (sign : Sign) {m : Nat} {e : ℤ} (hm : 0 < m) (hleast : f.minExponent ≤ e)
    (hmax : e + f.mantissaBitsWithoutImplicit ≤ f.exponentBias)
    (hfull : 2 ^ f.mantissaBitsWithoutImplicit ≤ m)
    (hlength : m < 2 ^ (f.mantissaBitsWithoutImplicit + 1)) :
    UnpackedFloat.unpack f (UnpackedFloat.pack f (.finite sign m e hm)) = .finite sign m e hm := by
  have hbits := pow_exponentBits f
  have hleast' := minExponent_eq f
  rw [pack_long sign hm hmax hfull hlength, unpack_packComponents]
  generalize hfield : (e + f.exponentBias + f.mantissaBitsWithoutImplicit).toNat = field
  have hsame : (BitVec.ofNat f.exponentBits field).toNat = field := by
    rw [BitVec.toNat_ofNat, Nat.mod_eq_of_lt (by omega)]
  have hones : BitVec.ofNat f.exponentBits field ≠ -1#_ := by
    intro heq
    rw [heq, toNat_ones] at hsame
    omega
  have hzeros : BitVec.ofNat f.exponentBits field ≠ 0#_ := by
    intro heq
    rw [heq, BitVec.toNat_zero] at hsame
    omega
  have hfraction : 2 ^ f.mantissaBitsWithoutImplicit +
      (BitVec.ofNat f.mantissaBitsWithoutImplicit m).toNat = m := by
    rw [pow_succ] at hlength
    rw [BitVec.toNat_ofNat, Nat.mod_eq_sub_mod hfull, Nat.mod_eq_of_lt (by omega)]
    omega
  rw [if_neg hones, if_neg hzeros]
  congr 1
  omega

theorem exponent_le_of_abs_le {sign : Sign} {m : Nat} {e t : ℤ}
    (hfull : 2 ^ f.mantissaBitsWithoutImplicit ≤ m)
    (h : |signFactor sign * (m * 2 ^ e)| ≤ 2 ^ t) : e + f.mantissaBitsWithoutImplicit ≤ t := by
  have hle : (2 : ℚ) ^ ((f.mantissaBitsWithoutImplicit : ℤ) + e) ≤ 2 ^ t :=
    calc (2 : ℚ) ^ ((f.mantissaBitsWithoutImplicit : ℤ) + e)
      _ = ((2 ^ f.mantissaBitsWithoutImplicit : Nat) : ℚ) * 2 ^ e := by
          rw [zpow_add₀ two_ne_zero, zpow_natCast]
          norm_num
      _ ≤ m * 2 ^ e := by gcongr
      _ = |signFactor sign * (m * 2 ^ e)| := by
          rw [abs_mul, abs_of_nonneg (a := (m : ℚ) * 2 ^ e) (by positivity)]
          cases sign <;> simp [signFactor]
      _ ≤ 2 ^ t := h
  have := (zpow_le_zpow_iff_right₀ one_lt_two).mp hle
  omega

/-- A canonical number that is not too large survives packing. -/
theorem unpack_pack {u : UnpackedFloat} {c : ℚ} (hf : 1 < f.exponentBits)
    (hcanonical : Canonical f u) (hexact : finite? u = some c)
    (hc : |c| ≤ 2 ^ (f.exponentBias : ℤ)) :
    UnpackedFloat.unpack f (UnpackedFloat.pack f u) = u := by
  cases u with
  | infinity sign => cases hexact
  | notANumber => cases hexact
  | zero sign =>
      show UnpackedFloat.unpack f (packComponents f sign 0#_ 0#_) = _
      rw [unpack_packComponents, if_neg (zeros_ne_ones f), if_pos rfl, dif_pos rfl]
  | finite sign m e hm =>
      rcases hcanonical with ⟨hleast, hlength, hlong⟩
      rcases Nat.lt_or_ge m (2 ^ f.mantissaBitsWithoutImplicit) with hshort | hfull
      · obtain rfl : e = f.minExponent := by omega
        exact unpack_pack_short sign hf hm hshort
      · injection hexact with hexact
        rw [← hexact] at hc
        exact unpack_pack_long sign hm hleast (exponent_le_of_abs_le hfull hc) hfull hlength

theorem canonical_unpack (b : BitVec f.numBits) : Canonical f (UnpackedFloat.unpack f b) := by
  have hfraction := (@unpackMantissa f b).isLt
  have hleast := minExponent_eq f
  unfold UnpackedFloat.unpack
  simp only
  split
  · split
    · trivial
    · trivial
  · split
    · split
      · trivial
      · rename_i hzero _
        rw [hzero, leastExponent_eq]
        exact ⟨le_refl _, by omega, .inl rfl⟩
    · rename_i hpositive
      have hlength := append_implicit (@unpackMantissa f b)
      have hfield : (@unpackExponent f b).toNat ≠ 0 := by
        intro hzero
        exact hpositive (BitVec.eq_of_toNat_eq hzero)
      refine ⟨by omega, by omega, .inr (by omega)⟩

end Binary
end Polyglot
