import Polyglot.Json.Number
import Polyglot.Json.Printer
import Polyglot.Proofs.Json.Text

/-!
# Written numbers

The digits of a number spell it, every number is written as the format asks for,
and the reader takes all of a number that is written so.
-/

namespace Polyglot
namespace Numeral

def Digits (ds : List UInt8) : Prop :=
  forall d, d ∈ ds -> Json.isDigitByte d = true

theorem Digits.append {as bs : List UInt8} (has : Digits as) (hbs : Digits bs) :
    Digits (as ++ bs) := by
  intro d hd
  rcases List.mem_append.mp hd with hd | hd
  · exact has d hd
  · exact hbs d hd

theorem isDigitByte_digitByte {n : Nat} (h : n < 10) : Json.isDigitByte (digitByte n) = true := by
  have hall : forall m, m < 10 -> Json.isDigitByte (digitByte m) = true := by decide
  exact hall n h

theorem digit_digitByte {n : Nat} (h : n < 10) : digit (digitByte n) = n := by
  have hall : forall m, m < 10 -> digit (digitByte m) = m := by decide
  exact hall n h

theorem ofNat_digitChar {n : Nat} (h : n < 10) :
    UInt8.ofNat n.digitChar.toNat = digitByte n := by
  rw [Nat.toNat_digitChar_of_lt_ten h]
  rfl

theorem natDigits_of_lt {n : Nat} (h : n < 10) : natDigits n = [digitByte n] := by
  rw [natDigits, Nat.toDigits_of_lt_base h, List.map_singleton, ofNat_digitChar h]

theorem natDigits_of_le {n : Nat} (h : 10 ≤ n) :
    natDigits n = natDigits (n / 10) ++ [digitByte (n % 10)] := by
  rw [natDigits, Nat.toDigits_of_base_le (by decide) h, List.map_append, List.map_singleton,
    ofNat_digitChar (Nat.mod_lt n (by decide))]
  rfl

theorem ofDigits_append_singleton (ds : List UInt8) (d : UInt8) :
    ofDigits (ds ++ [d]) = 10 * ofDigits ds + digit d := by
  rw [ofDigits, List.foldl_append]
  rfl

theorem ofDigits_natDigits (n : Nat) : ofDigits (natDigits n) = n := by
  induction n using Nat.strongRecOn with
  | ind n ih =>
      by_cases hsmall : n < 10
      · rw [natDigits_of_lt hsmall]
        show 10 * 0 + digit (digitByte n) = n
        rw [digit_digitByte hsmall, Nat.mul_zero, Nat.zero_add]
      · have hlarge := Nat.not_lt.mp hsmall
        rw [natDigits_of_le hlarge, ofDigits_append_singleton, ih (n / 10) (by omega),
          digit_digitByte (Nat.mod_lt n (by decide))]
        exact Nat.div_add_mod n 10

/-- Digits that may stand before the point: a single zero, or no zero at the front. -/
inductive WholePart : List UInt8 -> Prop where
  | zero : WholePart [0x30]
  | digits {d : UInt8} {ds : List UInt8} (hd : Json.isDigitByte d = true) (hne : d ≠ 0x30)
      (hds : Digits ds) : WholePart (d :: ds)

theorem exists_natDigits {n : Nat} (h : n ≠ 0) :
    ∃ d ds, natDigits n = d :: ds ∧ Json.isDigitByte d = true ∧ d ≠ 0x30 ∧ Digits ds := by
  induction n using Nat.strongRecOn with
  | ind n ih =>
      by_cases hsmall : n < 10
      · refine ⟨digitByte n, [], natDigits_of_lt hsmall, isDigitByte_digitByte hsmall, ?_, ?_⟩
        · have hall : forall m, m < 10 -> m ≠ 0 -> digitByte m ≠ 0x30 := by decide
          exact hall n hsmall h
        · intro d hd
          cases hd
      · have hlarge := Nat.not_lt.mp hsmall
        rcases ih (n / 10) (by omega) (by omega) with ⟨d, ds, heq, hd, hne, hds⟩
        refine ⟨d, ds ++ [digitByte (n % 10)], ?_, hd, hne, ?_⟩
        · rw [natDigits_of_le hlarge, heq, List.cons_append]
        · apply hds.append
          intro e he
          rw [List.mem_singleton.mp he]
          exact isDigitByte_digitByte (Nat.mod_lt n (by decide))

theorem wholePart_natDigits (n : Nat) : WholePart (natDigits n) := by
  by_cases hzero : n = 0
  · subst hzero
    exact .zero
  · rcases exists_natDigits hzero with ⟨d, ds, heq, hd, hne, hds⟩
    rw [heq]
    exact .digits hd hne hds

theorem WholePart.isDigits {ds : List UInt8} (h : WholePart ds) : Digits ds := by
  intro d hd
  cases h with
  | zero =>
      rw [List.mem_singleton.mp hd]
      rfl
  | digits hfirst _ hrest =>
      rcases List.mem_cons.mp hd with rfl | hd
      · exact hfirst
      · exact hrest d hd

theorem WholePart.ne_nil {ds : List UInt8} (h : WholePart ds) : ds ≠ [] := by
  cases h with
  | zero => exact List.cons_ne_nil _ _
  | digits => exact List.cons_ne_nil _ _

/-!
## Whole numbers
-/

theorem nat?_ofNat {limit n : Nat} (h : n ≤ limit) : (ofNat n).nat? limit = some n := by
  have hvalue : ofDigits (ofNat n).whole = n := ofDigits_natDigits n
  have hwhole : (ofNat n).isWhole = true := rfl
  have hpositive : (ofNat n).negative = false := rfl
  simp only [nat?, hvalue, hwhole, hpositive, h, decide_true, Bool.not_false, Bool.and_self,
    ↓reduceIte]

theorem int?_ofInt {limit : Nat} {n : Int} (hlow : -(limit : Int) - 1 ≤ n)
    (hhigh : n ≤ limit) : (ofInt n).int? limit = some n := by
  have hvalue : ofDigits (ofInt n).whole = n.natAbs := ofDigits_natDigits n.natAbs
  have hwhole : (ofInt n).isWhole = true := rfl
  have hnegative : (ofInt n).negative = decide (n < 0) := rfl
  simp only [int?, hvalue, hwhole, hnegative, Bool.not_true, Bool.false_eq_true, ↓reduceIte,
    decide_eq_true_eq]
  by_cases hsign : n < 0
  · rw [if_pos hsign, if_pos (by omega)]
    congr 1
    omega
  · rw [if_neg hsign, if_pos (by omega)]
    congr 1
    omega

/-!
## Numbers as the format asks for them
-/

structure WellFormed (n : Numeral) : Prop where
  whole : WholePart n.whole
  fraction : Digits n.fraction
  exponent : forall negative ds, n.exponent = some (negative, ds) -> ds ≠ [] ∧ Digits ds

theorem wellFormed_ofNat (n : Nat) : (ofNat n).WellFormed := by
  constructor
  · exact wholePart_natDigits n
  · intro d hd
    cases hd
  · intro negative ds h
    cases h

theorem wellFormed_ofInt (n : Int) : (ofInt n).WellFormed := by
  constructor
  · exact wholePart_natDigits n.natAbs
  · intro d hd
    cases hd
  · intro negative ds h
    cases h

end Numeral

/-!
## Shortest decimals
-/

namespace Decimal

theorem Target.digits_ne_zero_of_holds {t : Target} {d : Decimal} (hsome : t.significand ≠ 0)
    (hbelow : t.below ≤ 2) (h : t.holds d = true) : d.digits ≠ 0 := by
  intro hzero
  have hpositive : 0 < (4 * t.significand - t.below) *
      (scaleUp 2 1 t.exponent * scaleDown 10 d.exponent) := by
    apply Nat.mul_pos
    · omega
    · unfold scaleUp scaleDown
      exact Nat.mul_pos (Nat.mul_pos Nat.one_pos (Nat.pow_pos (by decide)))
        (Nat.pow_pos (by decide))
  have hvalue : scaleUp 10 d.digits d.exponent * scaleDown 2 t.exponent = 0 := by
    rw [scaleUp, hzero, Nat.zero_mul, Nat.zero_mul]
  unfold holds at h
  simp only [hvalue] at h
  split at h
  · rw [Bool.and_eq_true, decide_eq_true_eq] at h
    exact absurd h.1 (Nat.not_le.mpr hpositive)
  · rw [Bool.and_eq_true, decide_eq_true_eq] at h
    exact absurd h.1 (Nat.not_lt_zero _)

theorem Target.digits_ne_zero_of_onGrid? {t : Target} {exponent : Int} {d : Decimal}
    (hsome : t.significand ≠ 0) (hbelow : t.below ≤ 2) (h : t.onGrid? exponent = some d) :
    d.digits ≠ 0 := by
  unfold onGrid? at h
  dsimp only at h
  split at h
  · rename_i hlower hupper
    injection h with h
    subst h
    split
    · exact Nat.succ_ne_zero _
    · exact digits_ne_zero_of_holds hsome hbelow hlower
  · rename_i hlower hupper
    injection h with h
    subst h
    exact digits_ne_zero_of_holds hsome hbelow hlower
  · injection h with h
    subst h
    exact Nat.succ_ne_zero _
  · cases h

theorem Target.digits_search_ne_zero {t : Target} (hsome : t.significand ≠ 0)
    (hbelow : t.below ≤ 2) (fuel : Nat) (exponent : Int) :
    (t.search fuel exponent).digits ≠ 0 := by
  induction fuel generalizing exponent with
  | zero => exact Nat.succ_ne_zero _
  | succ fuel ih =>
      unfold search
      split
      · rename_i d hd
        exact digits_ne_zero_of_onGrid? hsome hbelow hd
      · exact ih (exponent - 1)

theorem digits_trimmed_ne_zero {d : Decimal} (h : d.digits ≠ 0) (fuel : Nat) :
    (d.trimmed fuel).digits ≠ 0 := by
  induction fuel generalizing d with
  | zero => exact h
  | succ fuel ih =>
      unfold trimmed
      split
      · rename_i hzeros
        apply ih
        show d.digits / 10 ≠ 0
        omega
      · exact h

theorem digits_shortest_ne_zero (format : BinaryFormat) {significand : Nat} (exponent : Int)
    (h : significand ≠ 0) : (shortest format significand exponent).digits ≠ 0 := by
  apply digits_trimmed_ne_zero
  apply Target.digits_search_ne_zero
  · exact h
  · unfold Target.of
    dsimp only
    split
    · decide
    · decide

end Decimal

/-!
## Binary numbers
-/

namespace Json
namespace NumberLayout

open Numeral

theorem digits_zeros (n : Nat) : Digits (zeros n) := by
  intro d hd
  rw [(List.mem_replicate.mp hd).2]
  rfl

theorem wellFormed_numeral (layout : NumberLayout) (negative : Bool) {d : Decimal}
    (h : d.digits ≠ 0) : (layout.numeral negative d).WellFormed := by
  rcases exists_natDigits h with ⟨first, rest, heq, hfirst, hne, hrest⟩
  have hall : Digits (first :: rest) := by
    rw [← heq]
    exact (wholePart_natDigits _).isDigits
  have hnone : forall (negative : Bool) (ds : List UInt8), (none : Option (Bool × List UInt8)) =
      some (negative, ds) -> ds ≠ [] ∧ Digits ds := by
    intro negative ds h
    cases h
  unfold numeral
  simp only [heq]
  split
  · split
    · exact ⟨.digits hfirst hne (hrest.append (digits_zeros _)), digits_zeros 1, hnone⟩
    · split
      · rename_i hpoint
        refine ⟨?_, fun d hd => hall d (List.mem_of_mem_drop hd), hnone⟩
        have htake : forall n, 0 < n -> WholePart ((first :: rest).take n) := by
          intro n hn
          cases n with
          | zero => exact absurd hn (Nat.not_lt_zero 0)
          | succ n => exact .digits hfirst hne fun d hd => hrest d (List.mem_of_mem_take hd)
        exact htake _ (by omega)
      · exact ⟨.zero, (digits_zeros _).append hall, hnone⟩
  · refine ⟨.digits hfirst hne fun d hd => absurd hd List.not_mem_nil, hrest, ?_⟩
    intro negative ds hexponent
    injection hexponent with hexponent
    injection hexponent with _ hds
    subst hds
    exact ⟨(wholePart_natDigits _).ne_nil, (wholePart_natDigits _).isDigits⟩

theorem json_cases (layout : NumberLayout) (x : BinaryNumber) :
    layout.json x = .null ∨ ∃ n : Numeral, layout.json x = .number n ∧ n.WellFormed := by
  unfold json
  split
  · exact .inl rfl
  · exact .inl rfl
  · refine .inr ⟨_, rfl, .zero, digits_zeros 1, ?_⟩
    intro negative ds h
    cases h
  · rename_i hsome
    refine .inr ⟨_, rfl, wellFormed_numeral layout _ ?_⟩
    exact Decimal.digits_shortest_ne_zero _ _ hsome

end NumberLayout
end Json
end Polyglot
