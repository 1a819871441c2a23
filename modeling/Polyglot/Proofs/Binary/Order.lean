import Polyglot.Proofs.Binary.Arithmetic

/-!
# The order of binary numbers

Rounding keeps the order of numbers.  Numbers without a minus sign are compared by
their sizes, in a format they are ordered as their bit patterns, and their sums,
products and quotients have no minus sign either.
-/

namespace Polyglot
namespace Binary

open Float.Model (Format UnpackedFloat)
open Float.Model.UnpackedFloat
open Single (signFactor finite?)

variable {f : Format} {x y : UnpackedFloat}

def extent (em : ExtendedMantissa) : Nat :=
  4 * em.mantissa + 2 * em.roundBit.toNat + em.stickyBit.toNat

private theorem extent_div (em : ExtendedMantissa) : extent em / 4 = em.mantissa := by
  rcases em with ⟨m, r, s⟩
  cases r <;> cases s <;> simp only [extent, Bool.toNat_true, Bool.toNat_false] <;> omega

private theorem extent_shiftRightOne (em : ExtendedMantissa) :
    extent em.shiftRightOne = 2 * (extent em / 4) + min 1 (extent em % 4) := by
  rcases em with ⟨m, r, s⟩
  have hbit : (m % 2 != 0).toNat = m % 2 := by
    rcases Nat.mod_two_eq_zero_or_one m with hm | hm
    · rw [hm]
      rfl
    · rw [hm]
      rfl
  cases r <;> cases s <;>
    simp only [extent, ExtendedMantissa.shiftRightOne, hbit, Bool.or_true, Bool.or_false,
      Bool.toNat_true, Bool.toNat_false] <;>
    omega

private theorem roundedMantissa_eq (em : ExtendedMantissa) :
    em.roundedMantissa = (extent em + 1 + extent em / 4 % 2) / 4 := by
  rw [extent_div]
  rcases em with ⟨m, r, s⟩
  cases r <;> cases s <;>
    simp only [extent, ExtendedMantissa.roundedMantissa, ExtendedMantissa.accuracy,
      Accuracy.roundToNearestEven, Bool.toNat_true, Bool.toNat_false] <;>
    omega

private theorem extent_shift_le {em em' : ExtendedMantissa} (h : extent em ≤ extent em')
    (n : Nat) : extent (em >>> n) ≤ extent (em' >>> n) := by
  induction n with
  | zero => exact h
  | succ n ih =>
      show extent (em >>> n).shiftRightOne ≤ extent (em' >>> n).shiftRightOne
      rw [extent_shiftRightOne, extent_shiftRightOne]
      omega

theorem dropped_le_dropped {m m' : Nat} (h : m ≤ m') (n : Nat) :
    dropped m .exact n ≤ dropped m' .exact n := by
  have hextent : extent (.ofMantissaAndAccuracy m .exact) ≤
      extent (.ofMantissaAndAccuracy m' .exact) :=
    show 4 * m + 0 + 0 ≤ 4 * m' + 0 + 0 by omega
  have hshift := extent_shift_le hextent n
  unfold dropped
  rw [roundedMantissa_eq, roundedMantissa_eq]
  generalize extent (ExtendedMantissa.ofMantissaAndAccuracy m .exact >>> n) = a at hshift
  generalize extent (ExtendedMantissa.ofMantissaAndAccuracy m' .exact >>> n) = b at hshift
  rcases eq_or_lt_of_le hshift with rfl | hlt
  · exact le_refl _
  · apply Nat.div_le_div_right
    omega

private theorem shift_add (em : ExtendedMantissa) (k n : Nat) :
    em >>> (k + n) = em >>> k >>> n := by
  induction n with
  | zero => rfl
  | succ n ih =>
      show (em >>> (k + n)).shiftRightOne = (em >>> k >>> n).shiftRightOne
      rw [ih]

theorem dropped_mul (m k n : Nat) :
    dropped (m * 2 ^ k) .exact (k + n) = dropped m .exact n := by
  show (ExtendedMantissa.mk (m * 2 ^ k) false false >>> (k + n)).roundedMantissa = _
  rw [shift_add, shift_exact]
  rfl

theorem dropped_mono {m m' : Nat} {e e' s : ℤ} (he : e ≤ s) (he' : e' ≤ s)
    (h : (m * 2 ^ e : ℚ) ≤ m' * 2 ^ e') :
    dropped m .exact (s - e).toNat ≤ dropped m' .exact (s - e').toNat := by
  have hcommon : m * 2 ^ (e - min e e').toNat ≤ m' * 2 ^ (e' - min e e').toNat := by
    rw [pow_eq_mul (min_le_left e e'), pow_eq_mul (min_le_right e e'), ← mul_assoc,
      ← mul_assoc] at h
    exact_mod_cast le_of_mul_le_mul_right h (by positivity)
  have hsame : (e - min e e').toNat + (s - e).toNat =
      (e' - min e e').toNat + (s - e').toNat := by omega
  calc dropped m .exact (s - e).toNat
    _ = dropped (m * 2 ^ (e - min e e').toNat) .exact
          ((e - min e e').toNat + (s - e).toNat) := (dropped_mul ..).symm
    _ ≤ dropped (m' * 2 ^ (e' - min e e').toNat) .exact
          ((e' - min e e').toNat + (s - e').toNat) := by
        rw [hsame]
        exact dropped_le_dropped hcommon _
    _ = dropped m' .exact (s - e').toNat := dropped_mul ..

/-!
## Places
-/

def limit (f : Format) : Nat :=
  (2 ^ f.exponentBits - 1) * 2 ^ f.mantissaBitsWithoutImplicit

/-- The number of numbers from zero on that come before a number, whatever its sign. -/
def place (f : Format) : UnpackedFloat -> Nat
  | .zero _ => 0
  | .finite _ significand exponent _ =>
      (exponent - f.minExponent).toNat * 2 ^ f.mantissaBitsWithoutImplicit + significand
  | _ => limit f

private theorem place_roundWithAccuracy (sign : Sign) {m : Nat} {e : ℤ} (hm : m ≠ 0)
    (he : e ≤ target f m e) :
    place f (roundWithAccuracy f sign m e .exact) =
      (target f m e - f.minExponent).toNat * 2 ^ f.mantissaBitsWithoutImplicit +
        dropped m .exact (target f m e - e).toNat := by
  have hleast : f.minExponent ≤ target f m e := le_max_right _ _
  rcases roundWithAccuracy_cases sign .exact he with
    ⟨hzero, hround⟩ | ⟨_, hpos, hround⟩ | ⟨hcarry, hround⟩
  · have hsame : target f m e = f.minExponent := by
      by_contra hne
      have hlong := le_dropped_target .exact (lt_of_le_of_ne hleast (Ne.symm hne)) hm he
      rw [hzero] at hlong
      exact absurd hlong (Nat.not_le.mpr (Nat.two_pow_pos _))
    rw [hround, hzero, hsame]
    simp [place]
  · rw [hround]
    rfl
  · rw [hround, hcarry]
    show (target f m e + 1 - f.minExponent).toNat * _ + _ = _
    have hnext : (target f m e + 1 - f.minExponent).toNat =
        (target f m e - f.minExponent).toNat + 1 := by omega
    rw [hnext, pow_succ]
    ring

theorem target_mono {m m' : Nat} {e e' : ℤ} (hm : m ≠ 0)
    (h : (m * 2 ^ e : ℚ) ≤ m' * 2 ^ e') : target f m e ≤ target f m' e' := by
  have hlt : (m * 2 ^ e : ℚ) < 2 ^ ((m'.log2 : ℤ) + 1 + e') :=
    calc (m * 2 ^ e : ℚ)
      _ ≤ m' * 2 ^ e' := h
      _ < ((2 ^ (m'.log2 + 1) : Nat) : ℚ) * 2 ^ e' := by
          gcongr
          exact Nat.lt_log2_self
      _ = 2 ^ ((m'.log2 : ℤ) + 1 + e') := by
          rw [zpow_add₀ two_ne_zero]
          norm_cast
  have hexact : Approximates (m * 2 ^ e) m e .exact := rfl
  have hlog := hexact.log2_lt hm hlt
  unfold target
  omega

def rest (f : Format) (m : Nat) (e : ℤ) : Nat :=
  dropped (m <<< (e - target f m e).toNat) .exact
    (target f m e - (e - (e - target f m e).toNat)).toNat

section Rest

variable {m m' : Nat} {e e' : ℤ}

theorem place_round (sign : Sign) (hm : m ≠ 0) :
    place f (UnpackedFloat.round f sign m e) =
      (target f m e - f.minExponent).toNat * 2 ^ f.mantissaBitsWithoutImplicit + rest f m e := by
  have hsame := target_shiftLeft (f := f) hm e (e - target f m e).toNat
  rw [round_eq, place_roundWithAccuracy sign (shiftLeft_ne_zero hm _) (by rw [hsame]; omega), hsame]
  rfl

theorem rest_le (hm : m ≠ 0) : rest f m e ≤ 2 ^ (f.mantissaBitsWithoutImplicit + 1) := by
  have hle := dropped_le (f := f) (m := m <<< (e - target f m e).toNat)
    (e := e - (e - target f m e).toNat) .exact
  rwa [target_shiftLeft hm] at hle

theorem le_rest (hm : m ≠ 0) (hfine : f.minExponent < target f m e) :
    2 ^ f.mantissaBitsWithoutImplicit ≤ rest f m e := by
  have hsame := target_shiftLeft (f := f) hm e (e - target f m e).toNat
  have hle := le_dropped_target (f := f) (m := m <<< (e - target f m e).toNat)
    (e := e - (e - target f m e).toNat) .exact (by rwa [hsame]) (shiftLeft_ne_zero hm _)
    (by rw [hsame]; omega)
  rwa [hsame] at hle

theorem rest_mono (h : (m * 2 ^ e : ℚ) ≤ m' * 2 ^ e') (hsame : target f m e = target f m' e') :
    rest f m e ≤ rest f m' e' := by
  rw [← shiftLeft_value m e (e - target f m e).toNat,
    ← shiftLeft_value m' e' (e' - target f m' e').toNat] at h
  have hmono := dropped_mono (s := target f m' e') (by omega) (by omega) h
  unfold rest
  rwa [← hsame] at hmono ⊢

theorem place_round_mono (sign sign' : Sign) (hm : m ≠ 0) (hm' : m' ≠ 0)
    (h : (m * 2 ^ e : ℚ) ≤ m' * 2 ^ e') :
    place f (UnpackedFloat.round f sign m e) ≤ place f (UnpackedFloat.round f sign' m' e') := by
  have hleast : f.minExponent ≤ target f m e := le_max_right _ _
  rw [place_round sign hm, place_round sign' hm']
  rcases eq_or_lt_of_le (target_mono hm h : target f m e ≤ target f m' e') with heq | hlt
  · rw [heq]
    exact Nat.add_le_add_left (rest_mono h heq) _
  · have hstep : (target f m e - f.minExponent).toNat + 1 ≤
        (target f m' e' - f.minExponent).toNat := by omega
    calc (target f m e - f.minExponent).toNat * 2 ^ f.mantissaBitsWithoutImplicit + rest f m e
      _ ≤ (target f m e - f.minExponent).toNat * 2 ^ f.mantissaBitsWithoutImplicit +
            2 ^ (f.mantissaBitsWithoutImplicit + 1) := Nat.add_le_add_left (rest_le hm) _
      _ = ((target f m e - f.minExponent).toNat + 1) * 2 ^ f.mantissaBitsWithoutImplicit +
            2 ^ f.mantissaBitsWithoutImplicit := by ring
      _ ≤ _ := Nat.add_le_add (Nat.mul_le_mul_right _ hstep)
          (le_rest hm' (hleast.trans_lt hlt))

end Rest

/-!
## Numbers without a minus sign
-/

/-- A number that has no minus sign; it may be infinite. -/
inductive Unsigned : UnpackedFloat -> Prop
  | zero : Unsigned (.zero .positive)
  | finite (m : Nat) (e : ℤ) (hm : 0 < m) : Unsigned (.finite .positive m e hm)
  | infinity : Unsigned (.infinity .positive)

/-- The size of a number, whatever its sign. -/
def size : UnpackedFloat -> WithTop ℚ
  | .zero _ => ((0 : ℚ) : WithTop ℚ)
  | .finite _ significand exponent _ => ((significand * 2 ^ exponent : ℚ) : WithTop ℚ)
  | _ => ⊤

theorem Unsigned.finite_or_infinity (h : Unsigned x) :
    (∃ a, finite? x = some a ∧ size x = (a : WithTop ℚ)) ∨ x = .infinity .positive := by
  cases h with
  | zero => exact .inl ⟨0, rfl, rfl⟩
  | finite m e hm => exact .inl ⟨1 * (m * 2 ^ e), rfl, by rw [one_mul]; rfl⟩
  | infinity => exact .inr rfl

theorem size_ne_top {a : ℚ} (h : finite? x = some a) : size x ≠ ⊤ := by
  cases x with
  | infinity sign => cases h
  | notANumber => cases h
  | zero sign => exact WithTop.coe_ne_top
  | finite sign m e hm => exact WithTop.coe_ne_top

theorem lt_iff_size (hx : Canonical f x) (hy : Canonical f y) (hpx : Unsigned x)
    (hpy : Unsigned y) : x.lt y = true ↔ size x < size y := by
  rcases hpx.finite_or_infinity with ⟨a, ha, hsize⟩ | rfl
  · rcases hpy.finite_or_infinity with ⟨b, hb, hsize'⟩ | rfl
    · rw [lt_iff hx hy ha hb, hsize, hsize', WithTop.coe_lt_coe]
    · have hlt : x.lt (.infinity .positive) = true := by
        cases x with
        | infinity sign => cases ha
        | notANumber => cases ha
        | zero sign => rfl
        | finite sign m e hm => rfl
      rw [hsize]
      exact iff_of_true hlt (WithTop.coe_lt_top a)
  · rcases hpy.finite_or_infinity with ⟨b, hb, hsize'⟩ | rfl
    · have hlt : UnpackedFloat.lt (.infinity .positive) y = false := by
        cases y with
        | infinity sign => cases hb
        | notANumber => cases hb
        | zero sign => rfl
        | finite sign m e hm => rfl
      rw [hlt]
      exact iff_of_false Bool.false_ne_true (not_lt_of_ge le_top)
    · exact iff_of_false (by decide) (lt_irrefl _)

theorem place_roundTo_mono (hpx : Unsigned x) (hpy : Unsigned y) (h : size x ≤ size y) :
    min (place f (roundTo f x)) (limit f) ≤ min (place f (roundTo f y)) (limit f) := by
  cases hpy with
  | infinity =>
      show _ ≤ min (limit f) (limit f)
      rw [min_self]
      exact min_le_right _ _
  | zero =>
      cases hpx with
      | infinity => cases h
      | zero => exact le_refl _
      | finite m e hm =>
          have hpositive : (0 : ℚ) < m * 2 ^ e := by positivity
          exact absurd (WithTop.coe_le_coe.mp h) (not_le.mpr hpositive)
  | finite m' e' hm' =>
      apply min_le_min_right
      cases hpx with
      | infinity => cases h
      | zero => exact Nat.zero_le _
      | finite m e hm =>
          exact place_round_mono .positive .positive hm.ne' hm'.ne' (WithTop.coe_le_coe.mp h)

/-!
## Bit patterns
-/

theorem toNat_packComponents (e : BitVec f.exponentBits)
    (m : BitVec f.mantissaBitsWithoutImplicit) :
    (packComponents f .positive e m).toNat =
      e.toNat * 2 ^ f.mantissaBitsWithoutImplicit + m.toNat := by
  unfold packComponents
  rw [BitVec.toNat_append, ← Nat.shiftLeft_add_eq_or_of_lt m.isLt, Nat.shiftLeft_eq,
    BitVec.toNat_append]
  simp [Sign.toBitVec]

theorem toNat_packedInfinity (f : Format) : (packedInfinity f .positive).toNat = limit f := by
  show (packComponents f .positive _ 0#_).toNat = _
  rw [toNat_packComponents, toNat_ones]
  exact Nat.add_zero _

section Finite

variable {m : Nat} {e : ℤ} {hm : 0 < m}

/-- A number beyond the largest exponent is packed as infinity, and has no smaller place. -/
private theorem toNat_pack_large (hf : 1 < f.exponentBits)
    (h : Canonical f (.finite .positive m e hm))
    (hlarge : 2 ^ f.exponentBits ≤ (e - f.minExponent).toNat + 2) :
    (UnpackedFloat.pack f (.finite .positive m e hm)).toNat = limit f ∧
      limit f ≤ place f (.finite .positive m e hm) := by
  rcases h with ⟨he, _, hlong⟩
  have hleast := minExponent_eq f
  have hmany : 2 ^ 2 ≤ 2 ^ f.exponentBits := Nat.pow_le_pow_right two_pos hf
  have hfull : 2 ^ f.mantissaBitsWithoutImplicit ≤ m := by
    apply hlong.resolve_left
    omega
  constructor
  · have hpack : UnpackedFloat.pack f (.finite .positive m e hm) = packedInfinity f .positive := by
      simp only [UnpackedFloat.pack]
      rw [if_pos (by omega)]
    rw [hpack, toNat_packedInfinity]
  · calc limit f
      _ ≤ ((e - f.minExponent).toNat + 1) * 2 ^ f.mantissaBitsWithoutImplicit :=
          Nat.mul_le_mul_right _ (by omega)
      _ = (e - f.minExponent).toNat * 2 ^ f.mantissaBitsWithoutImplicit +
            2 ^ f.mantissaBitsWithoutImplicit := Nat.succ_mul _ _
      _ ≤ _ := Nat.add_le_add_left hfull _

private theorem toNat_pack_small (hf : 1 < f.exponentBits)
    (h : Canonical f (.finite .positive m e hm))
    (hsmall : (e - f.minExponent).toNat + 2 < 2 ^ f.exponentBits) :
    (UnpackedFloat.pack f (.finite .positive m e hm)).toNat =
        place f (.finite .positive m e hm) ∧
      place f (.finite .positive m e hm) ≤ limit f := by
  rcases h with ⟨he, hlength, hlong⟩
  have hleast := minExponent_eq f
  have hbits := pow_exponentBits f
  constructor
  · show _ = (e - f.minExponent).toNat * 2 ^ f.mantissaBitsWithoutImplicit + m
    rcases Nat.lt_or_ge m (2 ^ f.mantissaBitsWithoutImplicit) with hshort | hfull
    · obtain rfl : e = f.minExponent := by omega
      rw [pack_short .positive hf hm hshort, toNat_packComponents,
        BitVec.toNat_ofNat m, Nat.mod_eq_of_lt hshort]
      simp
    · have hfield : (e + f.exponentBias + f.mantissaBitsWithoutImplicit).toNat =
          (e - f.minExponent).toNat + 1 := by omega
      rw [pow_succ] at hlength
      rw [pack_long .positive hm (by omega) hfull (by rwa [pow_succ]), toNat_packComponents,
        hfield, BitVec.toNat_ofNat, Nat.mod_eq_of_lt (by omega), BitVec.toNat_ofNat,
        Nat.mod_eq_sub_mod hfull, Nat.mod_eq_of_lt (by omega), Nat.succ_mul]
      omega
  · calc (e - f.minExponent).toNat * 2 ^ f.mantissaBitsWithoutImplicit + m
      _ ≤ (e - f.minExponent).toNat * 2 ^ f.mantissaBitsWithoutImplicit +
            2 ^ (f.mantissaBitsWithoutImplicit + 1) := Nat.add_le_add_left hlength.le _
      _ = ((e - f.minExponent).toNat + 2) * 2 ^ f.mantissaBitsWithoutImplicit := by ring
      _ ≤ limit f := Nat.mul_le_mul_right _ (by omega)

end Finite

theorem toNat_pack (hf : 1 < f.exponentBits) (hx : Canonical f x) (hp : Unsigned x) :
    (UnpackedFloat.pack f x).toNat = min (place f x) (limit f) := by
  cases hp with
  | infinity =>
      show (packedInfinity f .positive).toNat = min (limit f) (limit f)
      rw [toNat_packedInfinity, min_self]
  | zero =>
      show (packComponents f .positive 0#_ 0#_).toNat = min 0 (limit f)
      rw [toNat_packComponents]
      simp
  | finite m e hm =>
      rcases Nat.lt_or_ge ((e - f.minExponent).toNat + 2) (2 ^ f.exponentBits) with hlt | hge
      · rcases toNat_pack_small hf hx hlt with ⟨hpack, hle⟩
        rw [hpack, min_eq_left hle]
      · rcases toNat_pack_large hf hx hge with ⟨hpack, hle⟩
        rw [hpack, min_eq_right hle]

/-!
## Operations
-/

def Nonnegative (x : UnpackedFloat) : Prop :=
  Unsigned x ∨ x = .zero .negative

theorem unsigned_of_pos {a : ℚ} (h : finite? x = some a) (ha : 0 < a) :
    Unsigned x ∧ size x = (a : WithTop ℚ) := by
  cases x with
  | infinity sign => cases h
  | notANumber => cases h
  | zero sign =>
      cases h
      exact absurd ha (lt_irrefl 0)
  | finite sign m e hm =>
      cases h
      cases sign with
      | positive => exact ⟨.finite m e hm, by rw [signFactor, one_mul]; rfl⟩
      | negative =>
          have hpositive : (0 : ℚ) < m * 2 ^ e := by positivity
          rw [signFactor] at ha
          linarith

theorem unsigned_roundWithAccuracy (f : Format) (m : Nat) (e : ℤ) (accuracy : Accuracy) :
    Unsigned (roundWithAccuracy f .positive m e accuracy) := by
  unfold roundWithAccuracy
  dsimp only
  split
  · exact .zero
  · exact .finite ..

theorem unsigned_normalize (f : Format) {n : ℤ} (hn : 0 < n) (e : ℤ) (zeroSign : Sign) :
    Unsigned (UnpackedFloat.normalize f n e zeroSign) := by
  unfold UnpackedFloat.normalize
  rw [compare_gt_iff_gt.mpr hn]
  exact unsigned_roundWithAccuracy ..

theorem Unsigned.roundTo (h : Unsigned x) : Unsigned (roundTo f x) := by
  cases h with
  | zero => exact .zero
  | finite m e hm => exact unsigned_roundWithAccuracy ..
  | infinity => exact .infinity

theorem Unsigned.canonical_roundTo (h : Unsigned x) : Canonical f (Polyglot.roundTo f x) := by
  rcases h.finite_or_infinity with ⟨a, ha, _⟩ | rfl
  · rcases isRounding_roundTo f ha with ⟨_, _, hcanonical, _⟩
    exact hcanonical
  · trivial

theorem Unsigned.repack (h : Unsigned x) :
    Unsigned (UnpackedFloat.unpack f (UnpackedFloat.pack f x)) := by
  have hinfinity : Unsigned (UnpackedFloat.unpack f (packedInfinity f .positive)) := by
    show Unsigned (UnpackedFloat.unpack f (packComponents f .positive _ 0#_))
    rw [unpack_packComponents, if_pos rfl, if_pos rfl]
    exact .infinity
  have hcomponents : forall e m, e ≠ -1#_ ->
      Unsigned (UnpackedFloat.unpack f (packComponents f .positive e m)) := by
    intro e m he
    rw [unpack_packComponents, if_neg he]
    split
    · split
      · exact .zero
      · exact .finite ..
    · exact .finite ..
  cases h with
  | infinity => exact hinfinity
  | zero => exact hcomponents _ _ (zeros_ne_ones f)
  | finite m e hm =>
      simp only [UnpackedFloat.pack]
      split
      · exact hinfinity
      · split
        · apply hcomponents
          intro hones
          have hfield := congrArg BitVec.toNat hones
          rw [toNat_ones, BitVec.toNat_ofNat, Nat.mod_eq_of_lt (by omega)] at hfield
          omega
        · exact hcomponents _ _ (zeros_ne_ones f)

theorem Nonnegative.repack (h : Nonnegative x) :
    Nonnegative (UnpackedFloat.unpack f (UnpackedFloat.pack f x)) := by
  rcases h with h | rfl
  · exact .inl h.repack
  · right
    show UnpackedFloat.unpack f (packComponents f .negative 0#_ 0#_) = _
    rw [unpack_packComponents, if_neg (zeros_ne_ones f), if_pos rfl, dif_pos rfl]

theorem Unsigned.add (hx : Unsigned x) (hy : Nonnegative y) :
    Unsigned (UnpackedFloat.add f x y) := by
  rcases hy with hy | rfl
  · cases hx with
    | infinity => cases hy <;> exact .infinity
    | zero => cases hy <;> constructor
    | finite m e hm =>
        cases hy with
        | infinity => exact .infinity
        | zero => exact .finite m e hm
        | finite m' e' hm' =>
            have hsum : (0 : ℤ) < (m <<< (e - min e e').toNat : Nat) +
                (m' <<< (e' - min e e').toNat : Nat) := by
              rw [Nat.shiftLeft_eq, Nat.shiftLeft_eq]
              positivity
            exact unsigned_normalize f hsum _ _
  · cases hx <;> constructor

theorem Unsigned.mul (hx : Unsigned x) (hy : Unsigned y) (h : size x ≠ ⊤) (h' : size y ≠ ⊤) :
    Unsigned (UnpackedFloat.mul f x y) := by
  cases hx with
  | infinity => exact absurd rfl h
  | zero =>
      cases hy with
      | infinity => exact absurd rfl h'
      | zero => exact .zero
      | finite m' e' hm' => exact .zero
  | finite m e hm =>
      cases hy with
      | infinity => exact absurd rfl h'
      | zero => exact .zero
      | finite m' e' hm' => exact unsigned_roundWithAccuracy ..

/-- Only a quotient of two zeros or of two infinite numbers is no number. -/
theorem Unsigned.div (hx : Unsigned x) (hy : Unsigned y) (hzero : ¬ (size x = 0 ∧ size y = 0))
    (htop : ¬ (size x = ⊤ ∧ size y = ⊤)) : Unsigned (UnpackedFloat.div f x y) := by
  cases hx with
  | infinity =>
      cases hy with
      | infinity => exact absurd ⟨rfl, rfl⟩ htop
      | zero => exact .infinity
      | finite m' e' hm' => exact .infinity
  | zero =>
      cases hy with
      | infinity => exact .zero
      | zero => exact absurd ⟨rfl, rfl⟩ hzero
      | finite m' e' hm' => exact .zero
  | finite m e hm =>
      cases hy with
      | infinity => exact .zero
      | zero => exact .infinity
      | finite m' e' hm' => exact unsigned_roundWithAccuracy ..

theorem Nonnegative.div (hx : Nonnegative x) (hy : Unsigned y) (hzero : size y ≠ 0)
    (htop : size x ≠ ⊤) : Nonnegative (UnpackedFloat.div f x y) := by
  rcases hx with hx | rfl
  · exact .inl (hx.div hy (fun h => hzero h.2) (fun h => htop h.1))
  · cases hy with
    | infinity => exact .inr rfl
    | zero => exact absurd rfl hzero
    | finite m' e' hm' => exact .inr rfl

end Binary
end Polyglot
