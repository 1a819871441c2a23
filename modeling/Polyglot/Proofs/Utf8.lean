import Polyglot.Text.Utf8

/-!
# Spelled characters

A character is spelled with one byte below 0x80, or with several bytes that are all at
least that.  So bytes below 0x80 stand for themselves wherever they are, and reading a
spelled text gives the text back.
-/

namespace Polyglot
namespace Text

theorem charOf?_toNat {c : Char} {least : Nat} (h : least ≤ c.toNat) :
    charOf? least c.toNat = some c := by
  have hvalid : c.toNat.isValidChar := c.valid
  unfold charOf?
  rw [dif_pos hvalid, if_pos h]
  congr 1
  apply Char.ext
  exact UInt32.ofNat_toNat

theorem toNat_ofNat_byte {n : Nat} (h : n < 256) : (UInt8.ofNat n).toNat = n :=
  UInt8.toNat_ofNat_of_lt' h

theorem tail?_ofNat {n : Nat} (h : n < 64) : tail? (UInt8.ofNat (n + 0x80)) = some n := by
  have hvalue := @toNat_ofNat_byte (n + 0x80) (by omega)
  unfold tail?
  rw [if_pos]
  · rw [hvalue, Nat.add_sub_cancel]
  · rw [UInt8.le_iff_toNat_le, UInt8.le_iff_toNat_le, hvalue]
    exact ⟨Nat.le_add_left _ _, by change n + 128 ≤ 191; omega⟩

theorem char2?_encoded {c : Char} (hlow : 0x80 ≤ c.toNat) (hhigh : c.toNat ≤ 0x7ff) :
    char2? (UInt8.ofNat (c.toNat / 64 % 0x20 + 0xc0)) (UInt8.ofNat (c.toNat % 0x40 + 0x80)) =
      some c := by
  have hlead := @toNat_ofNat_byte (c.toNat / 64 % 0x20 + 0xc0) (by omega)
  unfold char2?
  rw [tail?_ofNat (Nat.mod_lt _ (by decide)), Option.bind_eq_bind, Option.bind_some, if_pos]
  · rw [hlead]
    have hvalue : (c.toNat / 64 % 0x20 + 0xc0 - 0xc0) * 64 + c.toNat % 0x40 = c.toNat := by
      omega
    rw [hvalue]
    exact charOf?_toNat hlow
  · rw [UInt8.le_iff_toNat_le, UInt8.le_iff_toNat_le, hlead]
    exact ⟨Nat.le_add_left _ _, by change _ ≤ 0xdf; omega⟩

theorem char2?_eq_none {a : UInt8} (h : 0xdf < a) (b : UInt8) : char2? a b = none := by
  have hnot : ¬(0xc0 ≤ a ∧ a ≤ 0xdf) := fun hrange => absurd hrange.2 (UInt8.not_le.mpr h)
  unfold char2?
  cases tail? b with
  | none => rfl
  | some y => exact if_neg hnot

theorem char3?_encoded {c : Char} (hlow : 0x800 ≤ c.toNat) (hhigh : c.toNat ≤ 0xffff) :
    char3? (UInt8.ofNat (c.toNat / 4096 % 0x10 + 0xe0))
      (UInt8.ofNat (c.toNat / 64 % 0x40 + 0x80)) (UInt8.ofNat (c.toNat % 0x40 + 0x80)) =
      some c := by
  have hlead := @toNat_ofNat_byte (c.toNat / 4096 % 0x10 + 0xe0) (by omega)
  unfold char3?
  rw [tail?_ofNat (Nat.mod_lt _ (by decide)), tail?_ofNat (Nat.mod_lt _ (by decide)),
    Option.bind_eq_bind, Option.bind_some, Option.bind_some, if_pos]
  · rw [hlead]
    have hvalue : ((c.toNat / 4096 % 0x10 + 0xe0 - 0xe0) * 64 + c.toNat / 64 % 0x40) * 64 +
        c.toNat % 0x40 = c.toNat := by
      omega
    rw [hvalue]
    exact charOf?_toNat hlow
  · rw [UInt8.le_iff_toNat_le, UInt8.le_iff_toNat_le, hlead]
    exact ⟨Nat.le_add_left _ _, by change _ ≤ 0xef; omega⟩

theorem char3?_eq_none {a : UInt8} (h : 0xef < a) (b c : UInt8) : char3? a b c = none := by
  have hnot : ¬(0xe0 ≤ a ∧ a ≤ 0xef) := fun hrange => absurd hrange.2 (UInt8.not_le.mpr h)
  unfold char3?
  cases tail? b with
  | none => rfl
  | some y =>
      cases tail? c with
      | none => rfl
      | some z => exact if_neg hnot

theorem char4?_encoded {c : Char} (hlow : 0x10000 ≤ c.toNat) :
    char4? (UInt8.ofNat (c.toNat / 262144 % 0x08 + 0xf0))
      (UInt8.ofNat (c.toNat / 4096 % 0x40 + 0x80)) (UInt8.ofNat (c.toNat / 64 % 0x40 + 0x80))
      (UInt8.ofNat (c.toNat % 0x40 + 0x80)) = some c := by
  have hlead := @toNat_ofNat_byte (c.toNat / 262144 % 0x08 + 0xf0) (by omega)
  have hhigh : c.toNat < 0x110000 := by
    rcases c.valid with h | ⟨_, h⟩
    · exact Nat.lt_trans h (by decide)
    · exact h
  unfold char4?
  rw [tail?_ofNat (Nat.mod_lt _ (by decide)), tail?_ofNat (Nat.mod_lt _ (by decide)),
    tail?_ofNat (Nat.mod_lt _ (by decide)), Option.bind_eq_bind, Option.bind_some,
    Option.bind_some, Option.bind_some, if_pos]
  · rw [hlead]
    have hvalue : (((c.toNat / 262144 % 0x08 + 0xf0 - 0xf0) * 64 + c.toNat / 4096 % 0x40) * 64 +
        c.toNat / 64 % 0x40) * 64 + c.toNat % 0x40 = c.toNat := by
      omega
    rw [hvalue]
    exact charOf?_toNat hlow
  · rw [UInt8.le_iff_toNat_le, UInt8.le_iff_toNat_le, hlead]
    exact ⟨Nat.le_add_left _ _, by change _ ≤ 0xf7; omega⟩

/-!
## Spelled characters
-/

/-- The bytes that a character can be spelled with. -/
inductive Spells (c : Char) : List UInt8 → Prop where
  | one {a : UInt8} (hlow : a < 0x80) (hc : a.toNat = c.toNat) : Spells c [a]
  | two {a b : UInt8} (hlead : 0x80 ≤ a) (hb : 0x80 ≤ b) (hc : char2? a b = some c) :
      Spells c [a, b]
  | three {a b d : UInt8} (hlead : 0xdf < a) (hb : 0x80 ≤ b) (hd : 0x80 ≤ d)
      (hc : char3? a b d = some c) : Spells c [a, b, d]
  | four {a b d e : UInt8} (hlead : 0xef < a) (hb : 0x80 ≤ b) (hd : 0x80 ≤ d) (he : 0x80 ≤ e)
      (hc : char4? a b d e = some c) : Spells c [a, b, d, e]

theorem high_ofNat {n : Nat} (h : n < 0x80) : (0x80 : UInt8) ≤ UInt8.ofNat (n + 0x80) := by
  rw [UInt8.le_iff_toNat_le, toNat_ofNat_byte (by omega)]
  exact Nat.le_add_left _ _

theorem high_of_lt {least a : UInt8} (hleast : 0x80 ≤ least) (h : least < a) : 0x80 ≤ a :=
  UInt8.le_trans hleast (UInt8.le_of_lt h)

theorem spells_utf8EncodeChar (c : Char) : Spells c (String.utf8EncodeChar c) := by
  have hcode : c.val.toNat = c.toNat := rfl
  have htail : forall n, (0x80 : UInt8) ≤ UInt8.ofNat (n % 0x40 + 0x80) :=
    fun n => high_ofNat (Nat.lt_trans (Nat.mod_lt n (by decide)) (by decide))
  unfold String.utf8EncodeChar
  simp only [hcode]
  split
  · rename_i hone
    have hbyte := @toNat_ofNat_byte c.toNat (by omega)
    apply Spells.one
    · rw [UInt8.lt_iff_toNat_lt, hbyte]
      exact Nat.lt_succ_of_le hone
    · exact hbyte
  · split
    · rename_i htwo
      apply Spells.two
      · exact high_ofNat (n := c.toNat / 64 % 0x20 + 0x40) (by omega)
      · exact htail _
      · exact char2?_encoded (by omega) htwo
    · split
      · rename_i hthree
        apply Spells.three
        · rw [UInt8.lt_iff_toNat_lt, toNat_ofNat_byte (by omega)]
          show 223 < _
          omega
        · exact htail _
        · exact htail _
        · exact char3?_encoded (by omega) hthree
      · rename_i hthree
        apply Spells.four
        · rw [UInt8.lt_iff_toNat_lt, toNat_ofNat_byte (by omega)]
          show 239 < _
          omega
        · exact htail _
        · exact htail _
        · exact htail _
        · exact char4?_encoded (by omega)

theorem Spells.low_or_high {c : Char} {bs : List UInt8} (h : Spells c bs) :
    (∃ a, bs = [a] ∧ a < 0x80 ∧ a.toNat = c.toNat) ∨ forall b, b ∈ bs -> 0x80 ≤ b := by
  cases h with
  | one hlow hc => exact .inl ⟨_, rfl, hlow, hc⟩
  | two hlead hb hc => exact .inr (by simp [hlead, hb])
  | three hlead hb hd hc =>
      have hlead' := high_of_lt (by decide) hlead
      exact .inr (by simp [hlead', hb, hd])
  | four hlead hb hd he hc =>
      have hlead' := high_of_lt (by decide) hlead
      exact .inr (by simp [hlead', hb, hd, he])

/-!
## Spelled texts
-/

theorem utf8_cons (c : Char) (cs : List Char) :
    utf8 (c :: cs) = String.utf8EncodeChar c ++ utf8 cs :=
  List.flatMap_cons

theorem mem_of_mem_utf8 {b : UInt8} (hlow : b < 0x80) {cs : List Char} (h : b ∈ utf8 cs) :
    Char.ofNat b.toNat ∈ cs := by
  rcases List.mem_flatMap.mp h with ⟨c, hc, hb⟩
  cases (spells_utf8EncodeChar c).low_or_high with
  | inl hone =>
      rcases hone with ⟨a, ha, _, hchar⟩
      rw [ha, List.mem_singleton] at hb
      rw [hb, hchar, Char.ofNat_toNat]
      exact hc
  | inr hhigh => exact absurd (hhigh b hb) (UInt8.not_le.mpr hlow)

theorem Spells.ofUtf8? {c : Char} {bs : List UInt8} (h : Spells c bs) (rest : List UInt8) :
    Text.ofUtf8? (bs ++ rest) = (Text.ofUtf8? rest).map (c :: ·) := by
  cases h with
  | one hlow hc =>
      rw [List.singleton_append, Text.ofUtf8?.eq_def]
      simp only [hlow, ↓reduceIte, hc, Char.ofNat_toNat]
  | two hlead hb hc =>
      show Text.ofUtf8? (_ :: _ :: rest) = _
      rw [Text.ofUtf8?.eq_def]
      simp only [UInt8.not_lt.mpr hlead, ↓reduceIte, hc]
  | three hlead hb hd hc =>
      have hhigh := UInt8.not_lt.mpr (high_of_lt (by decide) hlead)
      show Text.ofUtf8? (_ :: _ :: _ :: rest) = _
      rw [Text.ofUtf8?.eq_def]
      simp only [hhigh, ↓reduceIte, char2?_eq_none hlead, hc]
  | four hlead hb hd he hc =>
      have hhigh := UInt8.not_lt.mpr (high_of_lt (by decide) hlead)
      have hmiddle := UInt8.lt_of_le_of_lt (a := 0xdf) (by decide) hlead
      show Text.ofUtf8? (_ :: _ :: _ :: _ :: rest) = _
      rw [Text.ofUtf8?.eq_def]
      simp only [hhigh, ↓reduceIte, char2?_eq_none hmiddle, char3?_eq_none hlead, hc]

theorem ofUtf8?_utf8 (cs : List Char) : ofUtf8? (utf8 cs) = some cs := by
  induction cs with
  | nil => rfl
  | cons c cs ih => rw [utf8_cons, (spells_utf8EncodeChar c).ofUtf8?, ih, Option.map_some]

theorem ofUtf8?_bytes (s : String) : ofUtf8? (bytes s) = some s.toList :=
  ofUtf8?_utf8 s.toList

end Text
end Polyglot
