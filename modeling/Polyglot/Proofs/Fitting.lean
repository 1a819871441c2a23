import Polyglot.Proofs.Frequencies
import Polyglot.Proofs.Vectorizer

/-!
# Fitted vectorizers

Fitting keeps the most frequent terms, of equally frequent ones the smaller
ones, numbers them in ascending order and weighs each by the number of documents
that contain it.  The main statement compares this with counting in the texts.
-/

namespace Polyglot

namespace TermStatistics

def Precedes (a b : TermStatistics) : Prop :=
  b.frequency < a.frequency ∨ a.frequency = b.frequency ∧ a.term < b.term

theorem preferred_iff {a b : TermStatistics} :
    preferred a b = true ↔ b.frequency < a.frequency ∨ a.frequency = b.frequency ∧ a.term ≤ b.term := by
  simp [preferred]

theorem Precedes.not_precedes {a b : TermStatistics} (h : Precedes a b) : ¬ Precedes b a := by
  rintro (hlt | ⟨heq, hlt⟩)
  · rcases h with h | ⟨h, _⟩
    · omega
    · omega
  · rcases h with h | ⟨_, h⟩
    · omega
    · exact String.lt_irrefl _ (String.lt_trans h hlt)

def ranking (statistics : List TermStatistics) : List TermStatistics :=
  statistics.mergeSort preferred

theorem ranking_perm (statistics : List TermStatistics) : (ranking statistics).Perm statistics :=
  List.mergeSort_perm statistics preferred

theorem pairwise_ranking {statistics : List TermStatistics}
    (h : (statistics.map TermStatistics.term).Nodup) :
    (ranking statistics).Pairwise Precedes := by
  have hsorted : (ranking statistics).Pairwise fun a b => preferred a b = true := by
    apply List.pairwise_mergeSort
    · intro a b c hab hbc
      rw [preferred_iff] at hab hbc ⊢
      rcases hab with hab | ⟨hab, hle⟩
      · rcases hbc with hbc | ⟨hbc, _⟩
        · exact .inl (Nat.lt_trans hbc hab)
        · exact .inl (hbc ▸ hab)
      · rcases hbc with hbc | ⟨hbc, hle'⟩
        · exact .inl (hab ▸ hbc)
        · exact .inr ⟨hab.trans hbc, String.le_trans hle hle'⟩
    · intro a b
      rw [Bool.or_eq_true, preferred_iff, preferred_iff]
      rcases Nat.lt_trichotomy a.frequency b.frequency with hlt | heq | hgt
      · exact .inr (.inl hlt)
      · rcases String.le_total a.term b.term with hle | hle
        · exact .inl (.inr ⟨heq, hle⟩)
        · exact .inr (.inr ⟨heq.symm, hle⟩)
      · exact .inl (.inl hgt)
  have hnodup : (ranking statistics).Pairwise fun a b => a.term ≠ b.term :=
    List.pairwise_map.mp (((ranking_perm statistics).map _).nodup_iff.mpr h)
  apply hsorted.imp₂ _ hnodup
  intro a b hab hne
  rcases preferred_iff.mp hab with hlt | ⟨heq, hle⟩
  · exact .inl hlt
  · exact .inr ⟨heq, Std.lt_of_le_of_ne hle hne⟩

theorem ranking_eq_of_perm {statistics others : List TermStatistics}
    (h : (statistics.map TermStatistics.term).Nodup) (hperm : statistics.Perm others) :
    ranking statistics = ranking others := by
  have hothers := (hperm.map TermStatistics.term).nodup_iff.mp h
  apply List.Perm.eq_of_pairwise _ (pairwise_ranking h) (pairwise_ranking hothers)
  · exact (ranking_perm statistics).trans (hperm.trans (ranking_perm others).symm)
  · intro a b _ _ hab hba
    exact absurd hba hab.not_precedes

theorem best_eq_of_perm (limit : Nat) {statistics others : List TermStatistics}
    (h : (statistics.map TermStatistics.term).Nodup) (hperm : statistics.Perm others) :
    best limit statistics = best limit others := by
  show ((ranking statistics).take limit).mergeSort _ = ((ranking others).take limit).mergeSort _
  rw [ranking_eq_of_perm h hperm]

theorem best_perm (limit : Nat) (statistics : List TermStatistics) :
    (best limit statistics).Perm ((ranking statistics).take limit) :=
  List.mergeSort_perm _ _

theorem length_best (limit : Nat) (statistics : List TermStatistics) :
    (best limit statistics).length = min limit statistics.length := by
  rw [(best_perm limit statistics).length_eq, List.length_take, (ranking_perm statistics).length_eq]

theorem mem_take_of_precedes {statistics : List TermStatistics} (h : statistics.Pairwise Precedes)
    {limit : Nat} {a b : TermStatistics} (hab : Precedes a b) (ha : a ∈ statistics)
    (hb : b ∈ statistics.take limit) : a ∈ statistics.take limit := by
  rw [← List.take_append_drop limit statistics] at ha h
  rcases List.mem_append.mp ha with ha | ha
  · exact ha
  · exact absurd ((List.pairwise_append.mp h).2.2 b hb a ha) hab.not_precedes

theorem lt_append_of_ne {a b : String} (h : b ≠ "") : a < a ++ b := by
  have hne : b.toList ≠ [] := fun hnil => h (String.toList_eq_nil_iff.mp hnil)
  rw [String.lt_iff_toList_lt, String.toList_append]
  induction a.toList with
  | nil =>
      cases hb : b.toList with
      | nil => exact absurd hb hne
      | cons c cs => exact List.nil_lt_cons c cs
  | cons c cs ih => exact List.cons_lt_cons_self.mpr ih

theorem counted_precedes (s : VectorizerSettings) (documents : List String) (term : String)
    {more : String} (h : more ≠ "") :
    Precedes (counted s documents term) (counted s documents (term ++ more)) := by
  rcases Nat.lt_or_eq_of_le (s.frequency_append_le documents term more) with hlt | heq
  · exact .inl hlt
  · exact .inr ⟨heq.symm, lt_append_of_ne h⟩

end TermStatistics

/-!
## Terms and columns
-/

theorem nodup_of_statistics {statistics : List TermStatistics}
    (h : TermStatistics.Ascending statistics) : (statistics.map TermStatistics.term).Nodup :=
  Labels.nodup_of_ascending (List.pairwise_map.mpr h)

namespace Vectorizer

/-- The columns number the terms in their order, and each has a weight. -/
structure Ranked (v : Vectorizer) : Prop where
  entries_eq : v.vocabulary.entries = v.vocabulary.terms.zipIdx
  size_weights : v.weights.size = v.vocabulary.size

section Fitting

variable [Logarithm]

theorem terms_ofTerms (s : VectorizerSettings) (total : Nat) {terms : List TermStatistics}
    (h : TermStatistics.Ascending terms) :
    (ofTerms s total terms).vocabulary.terms = terms.map TermStatistics.term := by
  have hentries : (ofTerms s total terms).vocabulary.entries =
      (terms.map TermStatistics.term).zipIdx :=
    Vocabulary.entries_ofList_zipIdx (List.pairwise_map.mpr h)
  rw [Vocabulary.terms, hentries, List.zipIdx_map_fst]

theorem ranked_ofTerms (s : VectorizerSettings) (total : Nat) {terms : List TermStatistics}
    (h : TermStatistics.Ascending terms) : Ranked (ofTerms s total terms) := by
  constructor
  · rw [terms_ofTerms s total h]
    exact Vocabulary.entries_ofList_zipIdx (List.pairwise_map.mpr h)
  · exact (fitted_ofTerms s total h).size_weights

theorem weight_of_column {s : VectorizerSettings} {total column : Nat}
    {terms : List TermStatistics} (h : TermStatistics.Ascending terms) {term : String}
    (hcolumn : (ofTerms s total terms).vocabulary.column? term = some column) :
    ∃ t, t ∈ terms ∧ t.term = term ∧
      (ofTerms s total terms).weights[column]? = some (weight total t.documents) := by
  have hmem := Vocabulary.mem_of_lookup hcolumn
  rw [(ranked_ofTerms s total h).entries_eq, terms_ofTerms s total h,
    List.mem_zipIdx_iff_getElem?, List.getElem?_map, Option.map_eq_some_iff] at hmem
  rcases hmem with ⟨t, ht, rfl⟩
  refine ⟨t, List.mem_of_getElem? ht, rfl, ?_⟩
  rw [ofTerms, List.getElem?_toArray, List.getElem?_map, ht]
  rfl

theorem mem_terms_fit {s : VectorizerSettings} {documents : List String} {v : Vectorizer}
    (h : fit s documents = .ok v) {term : String} :
    term ∈ v.vocabulary.terms ↔
      term ∈ ((TermStatistics.ranking (TermStatistics.ofDocuments s documents)).map
        TermStatistics.term).take s.maxFeatures.toNat := by
  have hascending := TermStatistics.ascending_best s.maxFeatures.toNat
    (TermStatistics.ascending_ofDocuments s documents)
  rw [eq_ofTerms_of_fit h, terms_ofTerms _ _ hascending, ← List.map_take]
  exact ((TermStatistics.best_perm _ _).map _).mem_iff

theorem ranked_of_fit {s : VectorizerSettings} {documents : List String} {v : Vectorizer}
    (h : fit s documents = .ok v) : Ranked v := by
  rw [eq_ofTerms_of_fit h]
  exact ranked_ofTerms _ _ (TermStatistics.ascending_best _
    (TermStatistics.ascending_ofDocuments s documents))

theorem settings_of_fit {s : VectorizerSettings} {documents : List String} {v : Vectorizer}
    (h : fit s documents = .ok v) : v.settings = s := by
  rw [eq_ofTerms_of_fit h]
  rfl

theorem one_le_of_fit {s : VectorizerSettings} {documents : List String} {v : Vectorizer}
    (h : fit s documents = .ok v) : 1 ≤ s.leastWindow.toNat := by
  unfold fit at h
  split at h
  · cases h
  · split at h
    · cases h
    · rename_i husable
      have hne : s.leastWindow ≠ 0 := by
        intro hzero
        simp [VectorizerSettings.rangeUsable, hzero] at husable
      rw [ne_eq, ← UInt64.toNat_inj] at hne
      exact Nat.one_le_iff_ne_zero.mpr hne

theorem admits_of_fit {s : VectorizerSettings} {documents : List String} {v : Vectorizer}
    (h : fit s documents = .ok v) {term : String} (hterm : term ∈ v.vocabulary.terms) :
    s.Admits term := by
  rw [mem_terms_fit h] at hterm
  have hranked := List.mem_of_mem_take hterm
  rw [((TermStatistics.ranking_perm _).map _).mem_iff,
    TermStatistics.mem_names_ofDocuments (one_le_of_fit h)] at hranked
  exact hranked.1

/-- With a term, every beginning of it that has a usable width is known as well. -/
theorem mem_terms_of_append {s : VectorizerSettings} {documents : List String} {v : Vectorizer}
    (h : fit s documents = .ok v) {term more : String}
    (hterm : term ++ more ∈ v.vocabulary.terms) (hwidth : s.leastWindow.toNat ≤ term.length) :
    term ∈ v.vocabulary.terms := by
  have hleast := one_le_of_fit h
  by_cases hmore : more = ""
  · rwa [hmore, String.append_empty] at hterm
  have hranking := TermStatistics.pairwise_ranking
    (nodup_of_statistics (TermStatistics.ascending_ofDocuments s documents))
  rw [mem_terms_fit h, ← List.map_take] at hterm ⊢
  rcases List.mem_map.mp hterm with ⟨long, hlong, hname⟩
  have hmem := (TermStatistics.ranking_perm _).mem_iff.mp (List.mem_of_mem_take hlong)
  rw [TermStatistics.eq_counted hleast hmem, hname] at hlong
  have hshort : TermStatistics.counted s documents term ∈
      TermStatistics.ofDocuments s documents := by
    have hnames := List.mem_map_of_mem (f := TermStatistics.term) hmem
    rw [hname] at hnames
    exact TermStatistics.counted_mem hleast
      (TermStatistics.mem_names_of_append hleast hnames hwidth)
  exact List.mem_map.mpr ⟨_, TermStatistics.mem_take_of_precedes hranking
    (TermStatistics.counted_precedes s documents term hmore)
    ((TermStatistics.ranking_perm _).mem_iff.mpr hshort) hlong, rfl⟩

/-!
## Reference
-/

/--
Fitting succeeds for every usable range and every list of documents.  The terms
of the widths in question that occur at all are ranked by the number of positions
that they begin at, and by their order among equally frequent ones; the first of
them are kept, numbered in ascending order, and weighed by the number of
documents that they occur in.  The order in which the statistics or the documents
come makes no difference.
-/
theorem fit_counts {s : VectorizerSettings} {documents : List String}
    (hrange : 1 ≤ s.leastWindow ∧ s.leastWindow ≤ s.mostWindow) (hsome : documents ≠ []) :
    ∃ (v : Vectorizer) (ranked : List String), fit s documents = .ok v ∧
      v.settings = s ∧
      ranked.Pairwise (fun a b =>
        s.frequency documents b < s.frequency documents a ∨
          s.frequency documents a = s.frequency documents b ∧ a < b) ∧
      (forall term, term ∈ ranked ↔
        (s.leastWindow.toNat ≤ term.length ∧ term.length ≤ s.mostWindow.toNat) ∧
          0 < s.frequency documents term) ∧
      v.vocabulary.size = min s.maxFeatures.toNat ranked.length ∧
      (forall term, term ∈ v.vocabulary.terms ↔ term ∈ ranked.take s.maxFeatures.toNat) ∧
      v.vocabulary.terms.Pairwise (· < ·) ∧
      v.vocabulary.entries = v.vocabulary.terms.zipIdx ∧
      v.weights.size = v.vocabulary.size ∧
      (forall term column, v.vocabulary.column? term = some column ->
        v.weights[column]? = some (Logarithm.ln ((1 + toSingle documents.length) /
          (1 + toSingle (s.documentCount documents term))) + 1)) ∧
      (forall statistics, statistics.Perm (TermStatistics.ofDocuments s documents) ->
        ofTerms s documents.length (TermStatistics.best s.maxFeatures.toNat statistics) = v) ∧
      forall others, others.Perm documents -> fit s others = .ok v := by
  have hleast : 1 ≤ s.leastWindow.toNat := UInt64.le_iff_toNat_le.mp hrange.1
  have husable : s.rangeUsable = true := by
    have hne : s.leastWindow ≠ 0 := by
      intro hzero
      rw [hzero] at hleast
      exact absurd hleast (by decide)
    simp [VectorizerSettings.rangeUsable, hne, hrange.2]
  have hfit := fit_eq_ok husable hsome
  have hascending := TermStatistics.ascending_ofDocuments s documents
  have hnodup := nodup_of_statistics hascending
  have hkept := TermStatistics.ascending_best s.maxFeatures.toNat hascending
  have hranked := ranked_ofTerms s documents.length hkept
  have hcounted : forall t, t ∈ TermStatistics.ranking (TermStatistics.ofDocuments s documents) ->
      t.frequency = s.frequency documents t.term := by
    intro t ht
    rw [TermStatistics.eq_counted hleast ((TermStatistics.ranking_perm _).mem_iff.mp ht)]
    rfl
  refine ⟨_, (TermStatistics.ranking (TermStatistics.ofDocuments s documents)).map
    TermStatistics.term, hfit, rfl, ?_, ?_, ?_, fun term => mem_terms_fit hfit, ?_,
    hranked.entries_eq, hranked.size_weights, ?_, ?_, ?_⟩
  · apply List.pairwise_map.mpr
    apply (TermStatistics.pairwise_ranking hnodup).imp_of_mem
    intro a b ha hb hab
    rw [← hcounted a ha, ← hcounted b hb]
    exact hab
  · intro term
    rw [((TermStatistics.ranking_perm _).map _).mem_iff]
    exact TermStatistics.mem_names_ofDocuments hleast
  · rw [← hranked.size_weights, List.length_map, (TermStatistics.ranking_perm _).length_eq,
      ← TermStatistics.length_best]
    simp [ofTerms]
  · rw [terms_ofTerms _ _ hkept]
    exact List.pairwise_map.mpr hkept
  · intro term column hcolumn
    rcases weight_of_column hkept hcolumn with ⟨t, ht, rfl, hweight⟩
    have hmem : t ∈ TermStatistics.ofDocuments s documents := by
      apply (TermStatistics.ranking_perm _).mem_iff.mp
      exact List.mem_of_mem_take ((TermStatistics.best_perm _ _).mem_iff.mp ht)
    rw [hweight, TermStatistics.eq_counted hleast hmem]
    rfl
  · intro statistics hperm
    rw [TermStatistics.best_eq_of_perm _ ((hperm.map _).nodup_iff.mpr hnodup) hperm]
  · intro others hperm
    have hsome' : others ≠ [] := fun hnil => hsome (List.nil_perm.mp (hnil ▸ hperm))
    rw [fit_eq_ok husable hsome', TermStatistics.ofDocuments_perm hleast hperm, hperm.length_eq]

end Fitting

theorem fit_counts_letters :
    ∃ v, fit { leastWindow := 1, mostWindow := 1 } ["ab", "Bc"] = .ok v ∧
      v.vocabulary.entries = v.vocabulary.terms.zipIdx ∧
      (forall column, v.vocabulary.column? "b" = some column ->
        v.weights[column]? = some (weight 2 2)) ∧
      fit { leastWindow := 1, mostWindow := 1 } ["Bc", "ab"] = .ok v := by
  rcases @fit_counts _ { leastWindow := 1, mostWindow := 1 } ["ab", "Bc"] (by decide) (by decide) with
    ⟨v, _, hfit, _, _, _, _, _, _, hentries, _, hweights, _, hothers⟩
  have hcount : VectorizerSettings.documentCount { leastWindow := 1, mostWindow := 1 } ["ab", "Bc"]
      "b" = 2 := by
    decide +kernel
  refine ⟨v, hfit, hentries, fun column hcolumn => ?_, hothers _ (List.Perm.swap ..)⟩
  rw [hweights "b" column hcolumn, hcount]
  rfl

end Vectorizer
end Polyglot
