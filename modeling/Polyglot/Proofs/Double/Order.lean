import Polyglot.Proofs.Binary.Order
import Polyglot.Proofs.Double.Arithmetic

/-!
# Double-precision numbers without a minus sign

They are ordered by their sizes, sums and quotients have no minus sign either, and
rounding them to single precision keeps their order.
-/

namespace Polyglot
namespace Double

open Float.Model (Format UnpackedFloat)
open Float.Model.UnpackedFloat (roundWithAccuracy)
open Single (finite?)

/-- A number that has no minus sign; it may be infinite. -/
def Unsigned (x : Float) : Prop :=
  Binary.Unsigned x.toModel.unpack

def Nonnegative (x : Float) : Prop :=
  Binary.Nonnegative x.toModel.unpack

/-- The size of a number, whatever its sign. -/
def size (x : Float) : WithTop ℚ :=
  Binary.size x.toModel.unpack

variable {x y : Float}

theorem lt_iff (hx : Unsigned x) (hy : Unsigned y) : x < y ↔ size x < size y := by
  unfold size
  rw [← Binary.lt_iff_size (canonical x) (canonical y) hx hy]
  exact ⟨of_decide_eq_true, decide_eq_true⟩

/-!
## Operations
-/

theorem Unsigned.add (hx : Unsigned x) (hy : Nonnegative y) : Unsigned (x + y) :=
  (Binary.Unsigned.add hx hy).repack

theorem Unsigned.div (hx : Unsigned x) (hy : Unsigned y) (hzero : ¬ (size x = 0 ∧ size y = 0))
    (htop : ¬ (size x = ⊤ ∧ size y = ⊤)) : Unsigned (x / y) :=
  (Binary.Unsigned.div hx hy hzero htop).repack

theorem Nonnegative.div (hx : Nonnegative x) (hy : Unsigned y) (hzero : size y ≠ 0)
    (htop : size x ≠ ⊤) : Nonnegative (x / y) :=
  (Binary.Nonnegative.div hx hy hzero htop).repack

theorem isNaN_iff : x.isNaN = true ↔ x.toModel.unpack = .notANumber :=
  UnpackedFloat.isNaN_iff

theorem isNaN_add (h : x.isNaN = true ∨ y.isNaN = true) : (x + y).isNaN = true := by
  rw [isNaN_iff, isNaN_iff] at h
  have hadd : UnpackedFloat.add .binary64 x.toModel.unpack y.toModel.unpack = .notANumber := by
    rcases h with h | h
    · rw [h]
      rfl
    · rw [h]
      cases x.toModel.unpack <;> rfl
  rw [isNaN_iff]
  show UnpackedFloat.unpack .binary64 (UnpackedFloat.pack .binary64 (UnpackedFloat.add ..)) = _
  rw [hadd]
  exact UnpackedFloat.unpack_packedNaN

theorem isNaN_of_lt (h : x < y) : y.isNaN = false := by
  have hlt : UnpackedFloat.lt x.toModel.unpack y.toModel.unpack = true := of_decide_eq_true h
  show UnpackedFloat.isNaN _ = false
  cases hy : y.toModel.unpack with
  | notANumber =>
      rw [hy] at hlt
      cases hx : x.toModel.unpack <;> rw [hx] at hlt <;> cases hlt
  | infinity sign => rfl
  | zero sign => rfl
  | finite sign m e hm => rfl

/-- A number that is neither below zero nor above one is finite, and not below zero. -/
theorem nonnegative_of_between (hnumber : x.isNaN = false) (hlow : ¬ x < 0) (hhigh : ¬ 1 < x) :
    Nonnegative x ∧ size x ≠ ⊤ := by
  have hlow' : UnpackedFloat.lt x.toModel.unpack (.zero .positive) ≠ true :=
    fun h => hlow (decide_eq_true h)
  have hhigh' : UnpackedFloat.lt (.finite .positive (2 ^ 52) (-52) (by norm_num))
      x.toModel.unpack ≠ true := fun h => hhigh (decide_eq_true h)
  change UnpackedFloat.isNaN _ = false at hnumber
  unfold Nonnegative size
  cases hx : x.toModel.unpack with
  | notANumber =>
      rw [hx] at hnumber
      cases hnumber
  | infinity sign =>
      rw [hx] at hlow' hhigh'
      cases sign with
      | positive => exact absurd rfl hhigh'
      | negative => exact absurd rfl hlow'
  | zero sign =>
      cases sign with
      | positive => exact ⟨.inl .zero, WithTop.coe_ne_top⟩
      | negative => exact ⟨.inr rfl, WithTop.coe_ne_top⟩
  | finite sign m e hm =>
      rw [hx] at hlow'
      cases sign with
      | positive => exact ⟨.inl (.finite m e hm), WithTop.coe_ne_top⟩
      | negative => exact absurd rfl hlow'

/-!
## Counts
-/

theorem value?_unit : value? (.ofBits 0x3ff0000000000000) = some 1 := by
  have hunpack : (Float.ofBits 0x3ff0000000000000).toModel.unpack =
      .finite .positive (2 ^ 52) (-52) (by norm_num) := by
    rfl
  unfold value?
  rw [hunpack]
  norm_num [finite?, Single.signFactor]

theorem ofNat_eq_mul {n : Nat} (hn : n < 2 ^ 53) :
    Float.ofNat n = n.toUInt64.toFloat * .ofBits 0x3ff0000000000000 := by
  show Float.ofScientific n false 0 = _
  unfold Float.ofScientific
  rw [dif_pos ⟨hn, Nat.zero_le 22⟩]
  rfl

theorem unpack_ofNat {n : Nat} (hn : ¬ n < 2 ^ 53) :
    (Float.ofNat n).toModel.unpack = UnpackedFloat.unpack .binary64 (UnpackedFloat.pack .binary64
      (roundWithAccuracy .binary64 .positive (n <<< 53) (-53) .exact)) := by
  have hpos : n ≠ 0 := by omega
  have hmodel : Float.ofNat n = .ofModel (Float.Model.ofScientific n 0) := by
    show Float.ofScientific n false 0 = _
    unfold Float.ofScientific
    rw [dif_neg fun h => hn h.1]
    rfl
  have hproduct : UnpackedFloat.ofScientific .binary64 n 0 =
      roundWithAccuracy .binary64 .positive (n <<< 53 * 10 ^ 0) (-53 + 0) .exact := by
    have hbits : (2 : ℤ) ^ Format.binary64.exponentBits = 2048 := rfl
    unfold UnpackedFloat.ofScientific
    rw [dif_neg hpos, if_neg (by decide), if_neg (by omega), if_pos (le_refl 0)]
    rfl
  rw [hmodel]
  show UnpackedFloat.unpack .binary64 (UnpackedFloat.pack .binary64
    (UnpackedFloat.ofScientific .binary64 n 0)) = _
  rw [hproduct, pow_zero, mul_one, add_zero]

theorem unsigned_toFloat (n : UInt64) : Unsigned n.toFloat := by
  rcases Nat.eq_zero_or_pos n.toNat with hzero | hpos
  · obtain rfl : n = 0 := UInt64.toNat_inj.mp hzero
    exact Binary.Unsigned.zero
  · have hpos' : (0 : ℤ) < n.toNat := by exact_mod_cast hpos
    exact (Binary.unsigned_normalize .binary64 hpos' 0 .positive).repack

theorem unsigned_ofNat (n : Nat) : Unsigned (Float.ofNat n) := by
  by_cases hn : n < 2 ^ 53
  · rw [ofNat_eq_mul hn]
    have hone := Binary.unsigned_of_pos value?_unit one_pos
    refine (Binary.Unsigned.mul (unsigned_toFloat _) hone.1 ?_ ?_).repack
    · rcases within_toFloat n.toUInt64 with ⟨a, ha, _⟩
      exact Binary.size_ne_top ha
    · exact Binary.size_ne_top value?_unit
  · unfold Unsigned
    rw [unpack_ofNat hn]
    exact (Binary.unsigned_roundWithAccuracy ..).repack

private theorem one_le_of_isRounding {v : ℚ} {u : UnpackedFloat}
    (h : Binary.IsRounding .binary64 v u) (hlow : 1 ≤ v) (hhigh : v ≤ 2 ^ (64 : ℤ)) :
    ∃ c, finite? (UnpackedFloat.unpack .binary64 (UnpackedFloat.pack .binary64 u)) = some c ∧
      1 ≤ c ∧ c ≤ 2 ^ (64 : ℤ) := by
  have habs : |v| ≤ 2 ^ (64 : ℤ) := by rwa [abs_of_nonneg (by linarith)]
  rcases h.finite?_unpack_pack (by decide)
    (habs.trans (zpow_le_zpow_right₀ one_le_two (by decide))) with ⟨c, hc, hrounded⟩
  refine ⟨c, hc, ?_, (le_abs_self c).trans (hrounded.abs_le_pow 64 (by decide) habs)⟩
  rw [← zpow_zero 2] at hlow ⊢
  exact hrounded.pow_le (by decide) hlow

section Counts

variable {n : Nat} (hlow : (1 : ℚ) ≤ n) (hhigh : (n : ℚ) ≤ 2 ^ (64 : ℤ))
include hlow hhigh

private theorem value?_ofNat_small (hn : n < 2 ^ 53) :
    ∃ c, value? (Float.ofNat n) = some c ∧ 1 ≤ c := by
  have hword : n.toUInt64.toNat = n := Nat.mod_eq_of_lt (hn.trans (by decide))
  have hcount := Binary.isRounding_normalize (f := .binary64) n.toUInt64.toNat 0 .positive
  have hexact : ((n.toUInt64.toNat : ℤ) : ℚ) * 2 ^ (0 : ℤ) = n := by
    rw [hword, zpow_zero, mul_one]
    norm_cast
  rw [hexact] at hcount
  rcases one_le_of_isRounding hcount hlow hhigh with ⟨a, ha, halow, hahigh⟩
  have hproduct := Binary.isRounding_mul (f := .binary64) (canonical n.toUInt64.toFloat)
    (canonical _) ha value?_unit
  rw [mul_one] at hproduct
  rcases one_le_of_isRounding hproduct halow hahigh with ⟨c, hc, hclow, _⟩
  rw [ofNat_eq_mul hn]
  exact ⟨c, hc, hclow⟩

private theorem value?_ofNat_large (hn : ¬ n < 2 ^ 53) :
    ∃ c, value? (Float.ofNat n) = some c ∧ 1 ≤ c := by
  have hpos : n ≠ 0 := by omega
  have hexact : Binary.Approximates n (n <<< 53) (-53) .exact := by
    have hvalue := Binary.shiftLeft_value n 0 53
    rw [zpow_zero, mul_one] at hvalue
    exact hvalue.symm
  have htarget : (-53 : ℤ) ≤ Binary.target .binary64 (n <<< 53) (-53) := by
    have hsame := Binary.target_shiftLeft (f := .binary64) hpos 0 53
    have hleast : (n.log2 : ℤ) + 0 - 52 ≤ Binary.target .binary64 n 0 := le_max_left _ _
    change Binary.target .binary64 (n <<< 53) (-53) = _ at hsame
    omega
  have hround := Binary.isRounding_roundWithAccuracy (f := .binary64) .positive hexact htarget
    fun hzero => absurd hzero (Binary.shiftLeft_ne_zero hpos 53)
  rw [Single.signFactor, one_mul] at hround
  rcases one_le_of_isRounding hround hlow hhigh with ⟨c, hc, hclow, _⟩
  refine ⟨c, ?_, hclow⟩
  unfold value?
  rwa [unpack_ofNat hn]

end Counts

theorem value?_ofNat {n : Nat} (hpos : 0 < n) (h : n < UInt64.size) :
    ∃ c, value? (Float.ofNat n) = some c ∧ 1 ≤ c := by
  have hlow : (1 : ℚ) ≤ n := by exact_mod_cast hpos
  have hhigh : (n : ℚ) ≤ 2 ^ (64 : ℤ) := by exact_mod_cast h.le
  by_cases hn : n < 2 ^ 53
  · exact value?_ofNat_small hlow hhigh hn
  · exact value?_ofNat_large hlow hhigh hn

/-!
## Rounding to single precision
-/

theorem toNat_toBits_ofDouble (h : Unsigned x) :
    (ofDouble x).toBits.toNat =
      min (Binary.place .binary32 (roundTo .binary32 x.toModel.unpack))
        (Binary.limit .binary32) :=
  Binary.toNat_pack (by decide) h.canonical_roundTo h.roundTo

theorem toBits_ofDouble_lt (h : Unsigned x) : (ofDouble x).toBits.toNat < 2 ^ 31 := by
  rw [toNat_toBits_ofDouble h]
  exact (min_le_right _ _).trans_lt (by decide)

/-- Rounding to single precision keeps the order, although it may make different numbers equal. -/
theorem toBits_ofDouble_le (hx : Unsigned x) (hy : Unsigned y) (h : size x ≤ size y) :
    (ofDouble x).toBits.toNat ≤ (ofDouble y).toBits.toNat := by
  rw [toNat_toBits_ofDouble hx, toNat_toBits_ofDouble hy]
  exact Binary.place_roundTo_mono hx hy h

end Double
end Polyglot
