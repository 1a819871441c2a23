import Polyglot.Ranking
import Polyglot.Proofs.Training.Prediction
import Polyglot.Proofs.Bundle.Faults
import Polyglot.Proofs.Votes

/-!
# The predicted label and the ranking

The label is chosen by the means in double precision, and the ranking goes by the
same means in single precision, where different ones may be equal.  So the label has
the largest score of the ranking, and heads it unless a smaller label has the
same score.
-/

namespace Polyglot

namespace Ranking

theorem before_iff {a b : String × UInt32} :
    before a b = true ↔ key b.2 < key a.2 ∨ key a.2 = key b.2 ∧ a.1 ≤ b.1 := by
  simp [before]

theorem before_total (a b : String × UInt32) : (before a b || before b a) = true := by
  rw [Bool.or_eq_true, before_iff, before_iff]
  rcases Nat.lt_trichotomy (key a.2) (key b.2) with hlt | heq | hgt
  · exact .inr (.inl hlt)
  · rcases String.le_total a.1 b.1 with hle | hle
    · exact .inl (.inr ⟨heq, hle⟩)
    · exact .inr (.inr ⟨heq.symm, hle⟩)
  · exact .inl (.inl hgt)

theorem before_trans (a b c : String × UInt32) (hab : before a b = true)
    (hbc : before b c = true) : before a c = true := by
  rw [before_iff] at *
  rcases hab with hab | ⟨hab, hle⟩
  · rcases hbc with hbc | ⟨hbc, _⟩
    · exact .inl (hbc.trans hab)
    · exact .inl (hbc ▸ hab)
  · rcases hbc with hbc | ⟨hbc, hle'⟩
    · exact .inl (hab ▸ hbc)
    · exact .inr ⟨hab.trans hbc, String.le_trans hle hle'⟩

theorem pairwise_rank (entries : List (String × UInt32)) :
    (rank entries).Pairwise fun a b => before a b = true :=
  List.pairwise_mergeSort before_trans before_total entries

theorem mem_rank {entries : List (String × UInt32)} {entry : String × UInt32} :
    entry ∈ rank entries ↔ entry ∈ entries :=
  (List.mergeSort_perm entries before).mem_iff

theorem rank_of_pairwise {entries : List (String × UInt32)}
    (h : entries.Pairwise fun a b => before a b = true) : rank entries = entries :=
  List.mergeSort_of_pairwise h

theorem before_of_rank {entries rest : List (String × UInt32)} {top entry : String × UInt32}
    (h : rank entries = top :: rest) (hentry : entry ∈ entries) : before top entry = true := by
  have hsorted := pairwise_rank entries
  rw [← mem_rank, h] at hentry
  rw [h, List.pairwise_cons] at hsorted
  rcases List.mem_cons.mp hentry with rfl | hentry
  · exact before_iff.mpr (.inr ⟨rfl, String.le_refl _⟩)
  · exact hsorted.1 entry hentry

theorem key_injective {a b : UInt32} (h : key a = key b) : a = b := by
  have ha := a.toNat_lt
  have hb := b.toNat_lt
  apply UInt32.toNat_inj.mp
  unfold key at h
  split at h
  · split at h
    · omega
    · omega
  · split at h
    · omega
    · omega

theorem key_le {a b : UInt32} (h : a.toNat ≤ b.toNat) (hb : b.toNat < 2 ^ 31) :
    key a ≤ key b := by
  unfold key
  split
  · split
    · omega
    · omega
  · omega

end Ranking

/-!
## The head of a ranking
-/

namespace Prediction

open Ranking

/-- The label with the largest score heads the ranking unless a smaller one has the same score. -/
theorem head_of_ranked {p : Prediction} {score : Float32} (hmem : (p.label, score) ∈ p.scores)
    (hmost : forall s, s ∈ p.scores -> key s.2.toBits ≤ key score.toBits) :
    ∃ top rest, p.ranked = (top, score) :: rest ∧ top ≤ p.label ∧
      (top = p.label ↔ forall other, (other, score) ∈ p.scores -> p.label ≤ other) := by
  have hentry : forall s, s ∈ p.scores ->
      (s.1, s.2.toBits) ∈ p.scores.map fun s => (s.1, s.2.toBits) :=
    fun s hs => List.mem_map.mpr ⟨s, hs, rfl⟩
  cases hrank : rank (p.scores.map fun s => (s.1, s.2.toBits)) with
  | nil =>
      have hnone := mem_rank.mpr (hentry _ hmem)
      rw [hrank] at hnone
      cases hnone
  | cons entry rest =>
      have hfirst : entry ∈ rank (p.scores.map fun s => (s.1, s.2.toBits)) := by
        rw [hrank]
        exact List.mem_cons_self
      rcases List.mem_map.mp (mem_rank.mp hfirst) with ⟨⟨top, best⟩, htop, rfl⟩
      have hbefore := before_iff.mp (before_of_rank hrank (hentry _ hmem))
      rcases hbefore with hlt | ⟨hkey, hle⟩
      · exact absurd (hmost _ htop) (Nat.not_le.mpr hlt)
      · obtain rfl : best = score := Float32.toBits_inj.mp (key_injective hkey)
        refine ⟨top, rest.map fun s => (s.1, Float32.ofBits s.2), ?_, hle, ?_⟩
        · unfold ranked
          rw [hrank, List.map_cons, Float32.ofBits_toBits]
        · constructor
          · intro heq other hother
            rcases before_iff.mp (before_of_rank hrank (hentry _ hother)) with hlt | ⟨_, hle⟩
            · exact absurd hlt (lt_irrefl _)
            · exact heq ▸ hle
          · exact fun hleast => String.le_antisymm hle (hleast top htop)

end Prediction

/-!
## Scores
-/

namespace Classifier

variable {classes : List String} {probabilities : List Float} {label : String}

theorem exists_of_mem_scores {score : Float32} (h : (label, score) ∈ scores classes probabilities) :
    ∃ x, x ∈ probabilities ∧ score = ofDouble x := by
  rcases List.mem_filterMap.mp h with ⟨other, _, hother⟩
  rcases Option.map_eq_some_iff.mp hother with ⟨found, hfound, heq⟩
  cases heq
  have hmem := List.mem_reverse.mp (Vocabulary.mem_of_lookup hfound)
  rcases List.mem_map.mp (List.of_mem_zip hmem).2 with ⟨x, hx, heq⟩
  exact ⟨x, hx, heq.symm⟩

theorem mem_scores (hdistinct : classes.Nodup) {i : Nat} {x : Float}
    (hlabel : classes[i]? = some label) (hx : probabilities[i]? = some x) :
    (label, ofDouble x) ∈ scores classes probabilities := by
  have hpair : (classes.zip (probabilities.map ofDouble))[i]? = some (label, ofDouble x) := by
    rw [List.getElem?_zip_eq_some, List.getElem?_map, hx]
    exact ⟨hlabel, rfl⟩
  have hkey : label ∈ (classes.zip (probabilities.map ofDouble)).reverse.map Prod.fst :=
    List.mem_map.mpr ⟨_, List.mem_reverse.mpr (List.mem_of_getElem? hpair), rfl⟩
  rcases isSome_lookup hkey with ⟨score, hscore⟩
  have hmem := List.mem_reverse.mp (Vocabulary.mem_of_lookup hscore)
  rcases List.getElem?_of_mem hmem with ⟨j, hj⟩
  rcases List.getElem?_zip_eq_some.mp hj with ⟨hj, hjscore⟩
  have hsame : i = j := (List.getElem?_inj (List.getElem?_eq_some_iff.mp hlabel).1 hdistinct).mp
    (hlabel.trans hj.symm)
  rw [← hsame, List.getElem?_map, hx] at hjscore
  obtain rfl : ofDouble x = score := by simpa using hjscore
  refine List.mem_filterMap.mpr ⟨label, ?_, ?_⟩
  · exact Labels.mem_distinct.mpr (List.mem_of_getElem? hlabel)
  · rw [hscore]
    rfl

theorem exists_of_predict {c : Classifier} {code : String} {p : Prediction}
    (h : c.predict code = .ok p) :
    ∃ sample means i, c.forest.probabilities sample = .ok means ∧
      Vote.argmax means = some i ∧ c.forest.classes[i]? = some p.label ∧
      p.scores = scores c.forest.classes means := by
  unfold predict at h
  split at h
  · cases h
  · split at h
    · cases h
    · rename_i sample _
      rcases Attempts.bind_eq_ok.mp h with ⟨means, hmeans, h⟩
      split at h
      · rename_i label hlabel
        injection h with h
        subst h
        rcases Option.bind_eq_some_iff.mp hlabel with ⟨i, hi, hclass⟩
        exact ⟨sample, means, i, hmeans, hi, hclass, rfl⟩
      · cases h

/--
The predicted label has the largest score of the ranking, and heads the ranking exactly
if no smaller label has the same score in single precision.
-/
theorem ranked_of_predict {c : Classifier} {code : String} {p : Prediction}
    (hdistinct : c.forest.classes.Nodup) (hfew : c.forest.estimators.length < UInt64.size)
    (h : c.predict code = .ok p) :
    ∃ score top rest, (p.label, score) ∈ p.scores ∧ p.ranked = (top, score) :: rest ∧
      top ≤ p.label ∧
      (top = p.label ↔ forall other, (other, score) ∈ p.scores -> p.label ≤ other) := by
  rcases exists_of_predict h with ⟨sample, means, i, hmeans, hi, hlabel, hscores⟩
  rcases Forest.probabilities_spec hfew hmeans with ⟨_, hunsigned⟩
  have hlt : forall x y, Double.Unsigned x -> Double.Unsigned y ->
      (x < y ↔ Double.size x < Double.size y) := fun _ _ => Double.lt_iff
  rcases Vote.argmax_largest hlt hunsigned hi with ⟨mean, hmean, hmost⟩
  have hmem : (p.label, ofDouble mean) ∈ p.scores := by
    rw [hscores]
    exact mem_scores hdistinct hlabel hmean
  have hlargest : forall s, s ∈ p.scores ->
      Ranking.key s.2.toBits ≤ Ranking.key (ofDouble mean).toBits := by
    intro s hs
    rw [hscores] at hs
    rcases exists_of_mem_scores hs with ⟨x, hx, heq⟩
    have hnumber := hunsigned mean (List.mem_of_getElem? hmean)
    rw [heq]
    exact Ranking.key_le (Double.toBits_ofDouble_le (hunsigned x hx) hnumber (hmost x hx))
      (Double.toBits_ofDouble_lt hnumber)
  rcases Prediction.head_of_ranked hmem hlargest with ⟨top, rest, hranked, hle, hiff⟩
  exact ⟨ofDouble mean, top, rest, hmem, hranked, hle, hiff⟩

theorem ranked_of_predict_agreeing :
    ∃ p, Bundle.agreeing.predict "b" = .ok p ∧
      ∃ score rest, p.ranked = (p.label, score) :: rest := by
  have hpredict : Bundle.agreeing.predict "b" = .ok ⟨"x", [("x", 0.5), ("y", 0.5)]⟩ := by
    decide +kernel
  rcases ranked_of_predict (by decide) (by decide) hpredict with
    ⟨score, top, rest, _, hranked, _, hiff⟩
  have hleast : forall other, (other, score) ∈ [("x", (0.5 : Float32)), ("y", 0.5)] ->
      "x" ≤ other := by
    intro other hother
    simp only [List.mem_cons, List.not_mem_nil, or_false, Prod.mk.injEq] at hother
    rcases hother with ⟨rfl, _⟩ | ⟨rfl, _⟩
    · decide
    · decide
  rw [hiff.mpr hleast] at hranked
  exact ⟨_, hpredict, score, rest, hranked⟩

def narrow : Classifier :=
  let model (answer : Float32) : ClassModel :=
    .ofTree (ClassModel.trainedSettings 9 {}) 0 (.leaf answer)
  Bundle.ofLetter 0 [⟨[model (.ofBits 0x3f7fffff), model 1]⟩, ⟨[model 1, model 1]⟩]

/-- The ranking is headed by a label that was not predicted. -/
theorem ranked_before_label :
    ∃ p, narrow.predict "b" = .ok p ∧ p.label = "y" ∧
      p.ranked = [("x", 0.5), ("y", 0.5)] := by
  refine ⟨⟨"y", [("x", 0.5), ("y", 0.5)]⟩, by decide +kernel, rfl, ?_⟩
  unfold Prediction.ranked
  rw [Ranking.rank_of_pairwise (by decide)]
  simp only [List.map_cons, List.map_nil, Float32.ofBits_toBits]

end Classifier
end Polyglot
