import Polyglot.Proofs.Double.Arithmetic
import Polyglot.Proofs.Json.Numbers

/-!
# Readable numbers

The text of every finite single-precision number is read as a number: it has few
digits and a moderate power of ten, so that nothing overflows on the way through
double precision.
-/

namespace Polyglot

open Float.Model (UnpackedFloat)

namespace Numeral

def largestPower : Nat := 40

theorem within_powerOfTen {n : Nat} (h : n ≤ largestPower) : Double.Within 135 (powerOfTen n) := by
  have hall : forall n, n < 41 ->
      ((Double.value? (powerOfTen n)).any fun a => decide (|a| ≤ 2 ^ 135)) = true := by
    decide +kernel
  rcases (Option.any_eq_true _ _).mp (hall n (Nat.lt_succ_of_le h)) with ⟨a, ha, hle⟩
  exact ⟨a, ha, of_decide_eq_true hle⟩

theorem exists_applyPower {x : Float} (hx : Double.Within 64 x) {e : ℤ} (hlow : -308 ≤ e)
    (hhigh : e ≤ largestPower) (fuel : Nat) : ∃ y, applyPower (fuel + 1) x e = some y := by
  unfold applyPower
  have hlarge : (largestPower : ℤ) = 40 := rfl
  rw [if_pos (by omega)]
  split
  · have hproduct := hx.mul (within_powerOfTen (n := e.toNat) (by omega)) (by norm_num)
      (by norm_num)
    dsimp only
    rw [hproduct.isInf]
    exact ⟨_, rfl⟩
  · exact ⟨_, rfl⟩

/-!
## Significands
-/

theorem length_natDigits_le {n k : Nat} (h : n < 10 ^ k) (hk : 0 < k) :
    (natDigits n).length ≤ k := by
  induction k generalizing n with
  | zero => exact absurd hk (Nat.lt_irrefl 0)
  | succ k ih =>
      by_cases hsmall : n < 10
      · rw [natDigits_of_lt hsmall]
        exact Nat.succ_le_succ (Nat.zero_le k)
      · rw [natDigits_of_le (Nat.not_lt.mp hsmall), List.length_append, List.length_singleton]
        rw [pow_succ] at h
        have hdiv : n / 10 < 10 ^ k := Nat.div_lt_of_lt_mul (by omega)
        have hpositive : 0 < k := by
          cases k with
          | zero => omega
          | succ k => exact Nat.succ_pos k
        exact Nat.succ_le_succ (ih hdiv hpositive)

theorem length_takeDigits (ds : List UInt8) (significand taken : Nat) :
    (takeDigits significand taken ds).2.1 + (takeDigits significand taken ds).2.2 =
      taken + ds.length := by
  induction ds generalizing significand taken with
  | nil => rfl
  | cons d ds ih =>
      unfold takeDigits
      split
      · rw [ih, List.length_cons]
        omega
      · rfl

theorem power_significand (n : Numeral) :
    -(n.fraction.length : ℤ) ≤ n.significand.2 ∧ n.significand.2 ≤ n.whole.length := by
  rcases hwhole : takeDigits 0 0 n.whole with ⟨whole, taken, left⟩
  rcases hfraction : takeDigits whole 0 n.fraction with ⟨all, taken', left'⟩
  have hlength := length_takeDigits n.whole 0 0
  have hlength' := length_takeDigits n.fraction whole 0
  rw [hwhole] at hlength
  rw [hfraction] at hlength'
  have hpower : n.significand.2 = (left : ℤ) - taken' := by
    unfold significand
    rw [hwhole]
    dsimp only
    rw [hfraction]
  dsimp only at hlength hlength'
  omega

def shift (n : Numeral) : ℤ :=
  match n.exponent with
  | none => 0
  | some (negative, ds) => if negative then -(ofDigits ds : ℤ) else ofDigits ds

theorem shift_spelled (negative : Bool) (whole fraction : List UInt8) (e : ℤ) :
    shift ⟨negative, whole, fraction, some (decide (e < 0), natDigits e.natAbs)⟩ = e := by
  unfold shift
  dsimp only
  rw [ofDigits_natDigits]
  by_cases hnegative : e < 0
  · rw [decide_eq_true hnegative, if_pos rfl]
    omega
  · rw [decide_eq_false hnegative, if_neg Bool.false_ne_true]
    omega

structure Moderate (n : Numeral) : Prop where
  low : -308 ≤ n.shift - n.fraction.length
  high : n.whole.length + n.shift ≤ largestPower

theorem Moderate.exists_float32? {n : Numeral} (h : n.Moderate) : ∃ y, n.float32? = some y := by
  rcases h with ⟨hlow, hhigh⟩
  have hlarge : (largestPower : ℤ) = 40 := rfl
  have hpower := n.power_significand
  have hmagnitude : ∃ y, n.magnitude? = some y := by
    unfold magnitude?
    unfold shift at hlow hhigh
    have hx := Double.within_toFloat (UInt64.ofNat n.significand.1)
    dsimp only
    split
    · rename_i hnone
      rw [hnone] at hlow hhigh
      dsimp only at hlow hhigh
      exact exists_applyPower hx (by omega) (by omega) 3
    · rename_i negative ds hsome
      rw [hsome] at hlow hhigh
      dsimp only at hlow hhigh
      have hlimit : wordLimit 31 = 0x7fffffff := rfl
      unfold saturated
      cases negative with
      | true =>
          simp only [↓reduceIte] at hlow hhigh ⊢
          rw [if_pos (by omega)]
          exact exists_applyPower hx (by omega) (by omega) 3
      | false =>
          simp only [Bool.false_eq_true, ↓reduceIte] at hlow hhigh ⊢
          rw [if_pos (by omega)]
          exact exists_applyPower hx (by omega) (by omega) 3
  unfold float32?
  split
  · exact ⟨_, rfl⟩
  · rcases hmagnitude with ⟨y, hy⟩
    rw [hy]
    exact ⟨_, rfl⟩

end Numeral

/-!
## Shortest decimals
-/

namespace Decimal

structure Between (low high : ℤ) (d : Decimal) : Prop where
  low_le : low ≤ d.exponent
  lt_high : d.exponent < high
  digits_lt : d.digits < 10 ^ (high - d.exponent).toNat

variable {low high : ℤ}

theorem Between.trimmed {d : Decimal} (h : d.Between low high) (fuel : Nat) :
    (d.trimmed fuel).Between low high := by
  induction fuel generalizing d with
  | zero => exact h
  | succ fuel ih =>
      unfold Decimal.trimmed
      split
      · rename_i hzeros
        apply ih
        have hdigits := h.digits_lt
        have hlow := h.low_le
        have htwo : 1 < (high - d.exponent).toNat := by
          by_contra hfew
          have hpow := Nat.pow_le_pow_right (n := 10) (by decide) (Nat.not_lt.mp hfew)
          omega
        have hnext : (high - d.exponent).toNat = (high - (d.exponent + 1)).toNat + 1 := by omega
        constructor
        · show low ≤ d.exponent + 1
          omega
        · show d.exponent + 1 < high
          omega
        · show d.digits / 10 < 10 ^ (high - (d.exponent + 1)).toNat
          rw [hnext, pow_succ] at hdigits
          exact Nat.div_lt_of_lt_mul (by omega)
      · exact h

theorem Target.between_search {t : Target}
    (h : forall k, low ≤ k -> k < high -> t.floorAt k + 1 < 10 ^ (high - k).toNat) (fuel : Nat)
    {exponent : ℤ} (hlow : low + fuel ≤ exponent) (hhigh : exponent < high) :
    (t.search fuel exponent).Between low high := by
  induction fuel generalizing exponent with
  | zero => exact ⟨show low ≤ exponent by omega, hhigh, h exponent (by omega) hhigh⟩
  | succ fuel ih =>
      have hupper := h exponent (by omega) hhigh
      have hle : low ≤ exponent := by omega
      unfold search
      split
      · rename_i d hd
        unfold onGrid? at hd
        dsimp only at hd
        split at hd
        · cases hd
          split
          · exact ⟨hle, hhigh, hupper⟩
          · exact ⟨hle, hhigh, Nat.lt_of_succ_lt hupper⟩
        · cases hd
          exact ⟨hle, hhigh, Nat.lt_of_succ_lt hupper⟩
        · cases hd
          exact ⟨hle, hhigh, hupper⟩
        · cases hd
      · exact ih (by omega) (by omega)

theorem Target.floorAt_lt {t : Target} (hsignificand : t.significand < 2 ^ 24)
    (hexponent : t.exponent ≤ 102) {k : ℤ} (hk : k < 40) :
    t.floorAt k + 1 < 10 ^ (40 - k).toNat := by
  have hnumerator : scaleUp 2 (4 * t.significand) t.exponent < 10 ^ 39 := by
    unfold scaleUp
    calc 4 * t.significand * 2 ^ t.exponent.toNat
      _ ≤ 4 * 2 ^ 24 * 2 ^ 102 := by
          gcongr
          · exact one_le_two
          · omega
      _ < 10 ^ 39 := by norm_num
  have hpowers : 39 + (-k).toNat = k.toNat + (39 - k).toNat := by omega
  have hfloor : t.floorAt k < 10 ^ (39 - k).toNat := by
    unfold floorAt
    apply Nat.div_lt_of_lt_mul
    calc scaleUp 2 (4 * t.significand) t.exponent * 10 ^ (-k).toNat
      _ < 10 ^ 39 * 10 ^ (-k).toNat := by gcongr
      _ = 10 ^ k.toNat * 10 ^ (39 - k).toNat := by rw [← pow_add, ← pow_add, hpowers]
      _ = scaleUp 10 1 k * 1 * 10 ^ (39 - k).toNat := by
          rw [scaleUp, one_mul, mul_one]
          rfl
      _ ≤ scaleUp 10 1 k * scaleDown 2 t.exponent * 10 ^ (39 - k).toNat := by
          gcongr
          exact Nat.one_le_two_pow
  refine lt_of_le_of_lt (Nat.succ_le_of_lt hfloor) ?_
  exact Nat.pow_lt_pow_right (by norm_num) (by omega)

theorem Target.point_bounds {t : Target} (hsignificand : 0 < t.significand)
    (hlength : t.significand < 2 ^ 24) (hlow : -151 ≤ t.exponent) (hhigh : t.exponent ≤ 102) :
    -46 ≤ t.point ∧ t.point ≤ 40 := by
  have hlog : (4 * t.significand).log2 < 26 := (Nat.log2_lt (by omega)).mpr (by omega)
  unfold point
  dsimp only
  split
  · omega
  · split
    · omega
    · omega

/-- The shortest decimal of a single-precision number has few digits and a moderate exponent. -/
theorem between_shortest {significand : Nat} {exponent : ℤ} (hsome : 0 < significand)
    (hlength : significand < 2 ^ 24) (hlow : -149 ≤ exponent) (hhigh : exponent ≤ 104) :
    (shortest .binary32 significand exponent).Between (-64) 40 := by
  have hexponent : (Target.of .binary32 significand exponent).exponent = exponent - 2 := rfl
  have hpoint := Target.point_bounds (t := .of .binary32 significand exponent) hsome hlength
    (by omega) (by omega)
  apply Between.trimmed
  apply Target.between_search
  · exact fun k _ hk => Target.floorAt_lt hlength (by omega) hk
  · omega
  · omega

end Decimal

/-!
## Binary numbers
-/

namespace Json

theorem NumberLayout.moderate_numeral (negative : Bool) {d : Decimal} (h : d.Between (-64) 40)
    (hsome : d.digits ≠ 0) : (single.numeral negative d).Moderate := by
  have hlow := h.low_le
  have hhigh := h.lt_high
  have hlength := Numeral.length_natDigits_le h.digits_lt (by omega)
  have hfirst : 0 < (Numeral.natDigits d.digits).length := by
    rcases Numeral.exists_natDigits hsome with ⟨first, rest, heq, _⟩
    rw [heq]
    exact Nat.succ_pos _
  have hlarge : (Numeral.largestPower : ℤ) = 40 := rfl
  have hleast : single.low = -6 := rfl
  have hmost : single.high = 13 := rfl
  unfold numeral
  generalize Numeral.natDigits d.digits = ds at hlength hfirst
  dsimp only
  split
  · split
    · constructor
      · show -308 ≤ (0 : ℤ) - ((zeros 1).length : ℤ)
        norm_num [zeros]
      · show ((ds ++ zeros d.exponent.toNat).length : ℤ) + 0 ≤ _
        rw [List.length_append, zeros, List.length_replicate]
        omega
    · split
      · constructor
        · show -308 ≤ (0 : ℤ) - ((ds.drop _).length : ℤ)
          rw [List.length_drop]
          omega
        · show ((ds.take _).length : ℤ) + 0 ≤ _
          rw [List.length_take]
          omega
      · constructor
        · show -308 ≤ (0 : ℤ) - ((zeros _ ++ ds).length : ℤ)
          rw [List.length_append, zeros, List.length_replicate]
          omega
        · show ((zeros 1).length : ℤ) + 0 ≤ _
          norm_num [zeros, Numeral.largestPower]
  · have hshift := Numeral.shift_spelled negative (ds.take 1) (ds.drop 1)
      ((ds.length : ℤ) + d.exponent - 1)
    constructor
    · rw [hshift]
      show -308 ≤ _ - ((ds.drop 1).length : ℤ)
      rw [List.length_drop]
      omega
    · rw [hshift]
      show ((ds.take 1).length : ℤ) + _ ≤ _
      rw [List.length_take]
      omega

theorem read_binary32 (bits : Nat) : BinaryFormat.binary32.read bits =
    if bits / 2 ^ 23 % 2 ^ 8 = 255 then
      if bits % 2 ^ 23 = 0 then .infinite (bits / 2 ^ 31 % 2 == 1) else .notANumber
    else if bits / 2 ^ 23 % 2 ^ 8 = 0 then
      .finite (bits / 2 ^ 31 % 2 == 1) (bits % 2 ^ 23) (-149)
    else
      .finite (bits / 2 ^ 31 % 2 == 1) (2 ^ 23 + bits % 2 ^ 23)
        (-149 + (bits / 2 ^ 23 % 2 ^ 8 - 1 : Nat)) :=
  rfl

theorem isFinite_iff_field {x : Float32} :
    x.isFinite = true ↔ x.toBits.toNat / 2 ^ 23 % 2 ^ 8 ≠ 255 := by
  have hfield : (@UnpackedFloat.unpackExponent .binary32 x.toBits.toBitVec).toNat =
      x.toBits.toNat / 2 ^ 23 % 2 ^ 8 := by
    rw [UnpackedFloat.unpackExponent, BitVec.toNat_cast, BitVec.extractLsb_toNat,
      Nat.shiftRight_eq_div_pow]
    rfl
  rw [← hfield]
  show (UnpackedFloat.unpack .binary32 x.toBits.toBitVec).isFinite = true ↔ _
  unfold UnpackedFloat.unpack
  dsimp only
  split
  · rename_i hones
    rw [hones]
    split
    · exact ⟨fun h => (by cases h), fun h => absurd rfl h⟩
    · exact ⟨fun h => (by cases h), fun h => absurd rfl h⟩
  · rename_i hsome
    have hne : (@UnpackedFloat.unpackExponent .binary32 x.toBits.toBitVec).toNat ≠ 255 :=
      fun h => hsome (BitVec.eq_of_toNat_eq h)
    split
    · split
      · exact ⟨fun _ => hne, fun _ => rfl⟩
      · exact ⟨fun _ => hne, fun _ => rfl⟩
    · exact ⟨fun _ => hne, fun _ => rfl⟩

theorem ofFloat32_of_isFinite {x : Float32} (h : x.isFinite = true) :
    ∃ negative significand exponent, BinaryNumber.ofFloat32 x =
        .finite negative significand exponent ∧
      significand < 2 ^ 24 ∧ -149 ≤ exponent ∧ exponent ≤ 104 := by
  have hfield := isFinite_iff_field.mp h
  unfold BinaryNumber.ofFloat32
  generalize x.toBits.toNat = bits at hfield
  rw [read_binary32, if_neg hfield]
  by_cases hzero : bits / 2 ^ 23 % 2 ^ 8 = 0
  · rw [if_pos hzero]
    exact ⟨_, _, _, rfl, by omega, by omega, by omega⟩
  · rw [if_neg hzero]
    exact ⟨_, _, _, rfl, by omega, by omega, by omega⟩

theorem isFinite_of_float32? {x y : Float32} (h : (ofFloat32 x).float32? = some y) :
    x.isFinite = true := by
  apply isFinite_iff_field.mpr
  intro hones
  have hnull : ofFloat32 x = .null := by
    unfold ofFloat32 BinaryNumber.ofFloat32
    rw [read_binary32, if_pos hones]
    split
    · rfl
    · rfl
  rw [hnull] at h
  cases h

theorem exists_float32?_ofFloat32 {x : Float32} (h : x.isFinite = true) :
    ∃ y, (ofFloat32 x).float32? = some y := by
  rcases ofFloat32_of_isFinite h with ⟨negative, significand, exponent, heq, hlength, hlow, hhigh⟩
  unfold ofFloat32
  rw [heq]
  by_cases hzero : significand = 0
  · subst hzero
    have hmoderate : Numeral.Moderate ⟨negative, NumberLayout.zeros 1, NumberLayout.zeros 1, none⟩ := by
      constructor
      · show -308 ≤ (0 : ℤ) - 1
        norm_num
      · show (1 : ℤ) + 0 ≤ 40
        norm_num
    exact hmoderate.exists_float32?
  · have hjson : NumberLayout.single.json (.finite negative significand exponent) =
        .number (NumberLayout.single.numeral negative (.shortest .binary32 significand exponent)) := by
      cases significand with
      | zero => exact absurd rfl hzero
      | succ significand => rfl
    rw [hjson]
    apply Numeral.Moderate.exists_float32?
    apply NumberLayout.moderate_numeral
    · exact Decimal.between_shortest (Nat.pos_of_ne_zero hzero) hlength hlow hhigh
    · exact Decimal.digits_shortest_ne_zero _ _ hzero

end Json
end Polyglot
