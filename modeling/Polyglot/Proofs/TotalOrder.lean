import Polyglot.Proofs.Ranking

/-!
# The total order of scores

All bit patterns of a score are ordered, those of zeros with a sign, of infinities and
of what is no number included.  Together with the labels this leaves one way to list
the entries of a map, and that is the ranking, whatever order the map gives them in.
-/

namespace Polyglot
namespace Ranking

def Negative (bits : UInt32) : Prop :=
  2 ^ 31 ≤ bits.toNat

def magnitude (bits : UInt32) : Nat :=
  bits.toNat % 2 ^ 31

/--
The total order: what has a minus sign is less than what has none, and of two patterns
with one sign the smaller magnitude is less, or greater if the sign is minus.
-/
def TotalLess (a b : UInt32) : Prop :=
  (Negative a ∧ ¬ Negative b) ∨ (¬ Negative a ∧ ¬ Negative b ∧ magnitude a < magnitude b) ∨
    (Negative a ∧ Negative b ∧ magnitude b < magnitude a)

instance (bits : UInt32) : Decidable (Negative bits) :=
  inferInstanceAs (Decidable (_ ≤ _))

instance (a b : UInt32) : Decidable (TotalLess a b) :=
  inferInstanceAs (Decidable (_ ∨ _))

theorem key_of_negative {bits : UInt32} (h : Negative bits) :
    key bits + magnitude bits + 1 = 2 ^ 31 := by
  have hlt := bits.toNat_lt
  unfold Negative at h
  rw [key, if_neg (by omega), magnitude]
  omega

theorem key_of_not_negative {bits : UInt32} (h : ¬ Negative bits) :
    key bits = 2 ^ 31 + magnitude bits := by
  unfold Negative at h
  rw [key, if_pos (by omega), magnitude]
  omega

theorem key_lt_iff {a b : UInt32} : key a < key b ↔ TotalLess a b := by
  unfold TotalLess
  by_cases ha : Negative a
  · have hkey := key_of_negative ha
    by_cases hb : Negative b
    · have hkey' := key_of_negative hb
      simp only [ha, hb, not_true_eq_false, true_and, false_and, and_false, false_or]
      omega
    · have hkey' := key_of_not_negative hb
      simp only [ha, hb, not_false_eq_true, true_and, true_or, iff_true]
      omega
  · have hkey := key_of_not_negative ha
    by_cases hb : Negative b
    · have hkey' := key_of_negative hb
      simp only [ha, hb, not_true_eq_false, true_and, false_and, and_false, false_or, iff_false]
      omega
    · have hkey' := key_of_not_negative hb
      simp only [ha, hb, not_false_eq_true, true_and, false_and, or_false, false_or]
      omega

theorem TotalLess.trans {a b c : UInt32} (hab : TotalLess a b) (hbc : TotalLess b c) :
    TotalLess a c := by
  rw [← key_lt_iff] at *
  exact Nat.lt_trans hab hbc

def Precedes (a b : String × UInt32) : Prop :=
  TotalLess b.2 a.2 ∨ a.2 = b.2 ∧ a.1 < b.1

instance (a b : String × UInt32) : Decidable (Precedes a b) :=
  inferInstanceAs (Decidable (_ ∨ _))

theorem Precedes.trans {a b c : String × UInt32} (hab : Precedes a b) (hbc : Precedes b c) :
    Precedes a c := by
  rcases hab with hab | ⟨hab, hlt⟩
  · rcases hbc with hbc | ⟨hbc, _⟩
    · exact .inl (hbc.trans hab)
    · exact .inl (hbc ▸ hab)
  · rcases hbc with hbc | ⟨hbc, hlt'⟩
    · exact .inl (hab ▸ hbc)
    · exact .inr ⟨hab.trans hbc, String.lt_trans hlt hlt'⟩

instance : Trans Precedes Precedes Precedes :=
  ⟨Precedes.trans⟩

theorem Precedes.not_precedes {a b : String × UInt32} (h : Precedes a b) : ¬ Precedes b a := by
  intro hback
  rcases h.trans hback with hlt | ⟨_, hlt⟩
  · exact Nat.lt_irrefl _ (key_lt_iff.mpr hlt)
  · exact String.lt_irrefl _ hlt

theorem precedes_of_before {a b : String × UInt32} (h : before a b = true) (hne : a.1 ≠ b.1) :
    Precedes a b := by
  rcases before_iff.mp h with hlt | ⟨heq, hle⟩
  · exact .inl (key_lt_iff.mp hlt)
  · exact .inr ⟨key_injective heq, Std.lt_of_le_of_ne hle hne⟩

theorem nodup_of_pairwise {entries : List (String × UInt32)} (h : entries.Pairwise Precedes) :
    entries.Nodup := by
  apply h.imp
  rintro a b hab rfl
  exact hab.not_precedes hab

theorem eq_of_pairwise {entries others : List (String × UInt32)}
    (h : entries.Pairwise Precedes) (h' : others.Pairwise Precedes)
    (hmem : forall entry, entry ∈ others ↔ entry ∈ entries) : others = entries := by
  have hperm : others.Perm entries :=
    (List.perm_ext_iff_of_nodup (nodup_of_pairwise h') (nodup_of_pairwise h)).mpr hmem
  apply hperm.eq_of_pairwise _ h' h
  exact fun a b _ _ hab hba => absurd hba hab.not_precedes

section Map

variable {entries : List (String × UInt32)}

theorem pairwise_precedes_rank (hdistinct : (entries.map Prod.fst).Nodup) :
    (rank entries).Pairwise Precedes := by
  have hlabels : (rank entries).Pairwise fun a b => a.1 ≠ b.1 := by
    apply List.pairwise_map.mp
    exact ((List.mergeSort_perm entries before).map Prod.fst).nodup_iff.mpr hdistinct
  exact (pairwise_rank entries).imp₂ (fun a b => precedes_of_before) hlabels

/--
The ranking of a map, given by its entries in any order, has every entry once, and each
entry precedes the next one.  No other list does, so the order of the entries does not
matter.
-/
theorem rank_canonical (hdistinct : (entries.map Prod.fst).Nodup) :
    (rank entries).Perm entries ∧ (rank entries).Nodup ∧
      (rank entries).IsChain Precedes ∧
      (forall others, others.IsChain Precedes ->
        (forall entry, entry ∈ others ↔ entry ∈ entries) -> others = rank entries) ∧
      forall others, others.Perm entries -> rank others = rank entries := by
  have hsorted := pairwise_precedes_rank hdistinct
  refine ⟨List.mergeSort_perm entries before, nodup_of_pairwise hsorted, hsorted.isChain, ?_, ?_⟩
  · intro others hchain hmem
    apply eq_of_pairwise hsorted (List.isChain_iff_pairwise.mp hchain)
    exact fun entry => (hmem entry).trans mem_rank.symm
  · intro others hperm
    apply eq_of_pairwise hsorted
    · exact pairwise_precedes_rank ((hperm.map Prod.fst).nodup_iff.mpr hdistinct)
    · exact fun entry => mem_rank.trans (hperm.mem_iff.trans mem_rank.symm)

def mixed : List (String × UInt32) :=
  [("p", 0x80000000), ("n", 0xffc00000), ("b", 0x3f800000), ("q", 0), ("a", 0x3f800000),
    ("m", 0x7fc00001), ("i", 0xff800000), ("k", 0x7f800000), ("l", 0x7fc00000)]

theorem rank_canonical_mixed :
    rank mixed = [("m", 0x7fc00001), ("l", 0x7fc00000), ("k", 0x7f800000), ("a", 0x3f800000),
      ("b", 0x3f800000), ("q", 0), ("p", 0x80000000), ("i", 0xff800000), ("n", 0xffc00000)] := by
  have hcanonical := @rank_canonical mixed (by decide)
  have hperm : [("m", 0x7fc00001), ("l", 0x7fc00000), ("k", 0x7f800000), ("a", 0x3f800000),
      ("b", 0x3f800000), ("q", 0), ("p", 0x80000000), ("i", 0xff800000),
      ("n", 0xffc00000)].Perm mixed := by
    decide
  exact (hcanonical.2.2.2.1 _ (by decide) fun _ => hperm.mem_iff).symm

end Map

end Ranking
end Polyglot
