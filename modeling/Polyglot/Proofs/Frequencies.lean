import Mathlib.Algebra.Order.BigOperators.Group.List
import Mathlib.Algebra.Order.Ring.Nat
import Mathlib.Data.List.Count
import Polyglot.Proofs.Labels
import Polyglot.Proofs.Terms
import Polyglot.Proofs.Windows

/-!
# Frequencies

The statistics of a list of documents are what counting in the texts themselves
gives: how many positions of all documents a term begins at, and how many
documents it begins anywhere in.  Neither depends on the order of the documents.
-/

namespace Polyglot

namespace VectorizerSettings

def occurrences (s : VectorizerSettings) (term document : String) : Nat :=
  Text.occurrences term.toList (s.characters document)

def frequency (s : VectorizerSettings) (documents : List String) (term : String) : Nat :=
  (documents.map (s.occurrences term)).sum

def documentCount (s : VectorizerSettings) (documents : List String) (term : String) : Nat :=
  documents.countP fun d => 0 < s.occurrences term d

def Admits (s : VectorizerSettings) (term : String) : Prop :=
  s.leastWindow.toNat ≤ term.length ∧ term.length ≤ s.mostWindow.toNat

instance (s : VectorizerSettings) (term : String) : Decidable (s.Admits term) :=
  inferInstanceAs (Decidable (_ ∧ _))

theorem count_terms {s : VectorizerSettings} (h : 1 ≤ s.leastWindow.toNat) (term document : String) :
    (s.terms document).count term = if s.Admits term then s.occurrences term document else 0 := by
  have hcount := List.count_map_of_injective
    (Text.windowsBetween s.leastWindow.toNat s.mostWindow.toNat (s.characters document))
    String.ofList (fun _ _ => String.ofList_injective) term.toList
  rw [String.ofList_toList] at hcount
  rw [terms, hcount, Text.count_windowsBetween h, String.length_toList]
  rfl

theorem mem_terms {s : VectorizerSettings} (h : 1 ≤ s.leastWindow.toNat) {term document : String} :
    term ∈ s.terms document ↔ s.Admits term ∧ 0 < s.occurrences term document := by
  rw [← List.count_pos_iff, s.count_terms h]
  by_cases hadmits : s.Admits term
  · simp [hadmits]
  · simp [hadmits]

theorem frequency_pos_iff {s : VectorizerSettings} {documents : List String} {term : String} :
    0 < s.frequency documents term ↔ ∃ d, d ∈ documents ∧ 0 < s.occurrences term d := by
  rw [frequency, Nat.pos_iff_ne_zero, ne_eq, List.sum_eq_zero_iff]
  simp [Nat.pos_iff_ne_zero]

theorem frequency_perm (s : VectorizerSettings) {documents others : List String}
    (h : documents.Perm others) (term : String) :
    s.frequency documents term = s.frequency others term :=
  (h.map _).sum_eq

theorem documentCount_perm (s : VectorizerSettings) {documents others : List String}
    (h : documents.Perm others) (term : String) :
    s.documentCount documents term = s.documentCount others term :=
  h.countP_eq _

theorem frequency_append_le (s : VectorizerSettings) (documents : List String)
    (term more : String) :
    s.frequency documents (term ++ more) ≤ s.frequency documents term := by
  apply List.sum_le_sum
  intro d _
  rw [occurrences, String.toList_append]
  exact Text.occurrences_append_le _ _ _

end VectorizerSettings

namespace TermStatistics

/-!
## Grouping
-/

def total (value : TermStatistics -> Nat) (term : String) (statistics : List TermStatistics) : Nat :=
  ((statistics.filter fun t => t.term = term).map value).sum

theorem total_cons (value : TermStatistics -> Nat) (term : String) (t : TermStatistics)
    (statistics : List TermStatistics) :
    total value term (t :: statistics) =
      (if t.term = term then value t else 0) + total value term statistics := by
  unfold total
  by_cases h : t.term = term
  · simp [h]
  · simp [h]

theorem total_eq {statistics : List TermStatistics} (h : Ascending statistics)
    {t : TermStatistics} (ht : t ∈ statistics) (value : TermStatistics -> Nat) :
    total value t.term statistics = value t := by
  have hother : forall rest : List TermStatistics, (forall u, u ∈ rest -> u.term ≠ t.term) ->
      total value t.term rest = 0 := by
    intro rest hrest
    rw [total, List.filter_eq_nil_iff.mpr fun u hu => by simpa using hrest u hu]
    rfl
  induction statistics with
  | nil => cases ht
  | cons u rest ih =>
      rcases List.pairwise_cons.mp h with ⟨hu, hrest⟩
      rw [total_cons]
      rcases List.mem_cons.mp ht with rfl | ht
      · rw [if_pos rfl, hother rest fun v hv heq => by
          have hlt := hu v hv
          rw [heq] at hlt
          exact String.lt_irrefl _ hlt]
        rfl
      · have hlt := hu t ht
        rw [if_neg fun heq => by
          rw [heq] at hlt
          exact String.lt_irrefl _ hlt, ih hrest ht, Nat.zero_add]

theorem total_addDocument {value : TermStatistics -> Nat} {x : String} {n : Nat}
    (hvalue : forall f d, value ⟨x, f + n, d + 1⟩ = value ⟨x, n, 1⟩ + value ⟨x, f, d⟩)
    (term : String) (statistics : List TermStatistics) :
    total value term (addDocument x n statistics) =
      (if x = term then value ⟨x, n, 1⟩ else 0) + total value term statistics := by
  cases statistics with
  | nil => rw [addDocument, total_cons]
  | cons t rest =>
      rw [addDocument]
      split
      · rename_i heq
        subst heq
        rw [total_cons, total_cons, hvalue, ← Nat.add_assoc]
        congr 1
        by_cases h : t.term = term
        · rw [if_pos h, if_pos h, if_pos h]
        · rw [if_neg h, if_neg h, if_neg h]
      · rw [total_cons]

theorem mem_names_addDocument {term x : String} {n : Nat} {statistics : List TermStatistics} :
    term ∈ (addDocument x n statistics).map TermStatistics.term ↔
      term = x ∨ term ∈ statistics.map TermStatistics.term := by
  cases statistics with
  | nil => simp [addDocument]
  | cons t rest =>
      rw [addDocument]
      split
      · rename_i heq
        subst heq
        simp
      · simp

def grouped (entries : List (String × Nat)) : List TermStatistics :=
  entries.foldr (fun entry => addDocument entry.1 entry.2) []

theorem total_frequency_grouped (term : String) (entries : List (String × Nat)) :
    total frequency term (grouped entries) =
      ((entries.filter fun e => e.1 = term).map Prod.snd).sum := by
  induction entries with
  | nil => rfl
  | cons e entries ih =>
      rw [grouped, List.foldr_cons, total_addDocument fun f _ => Nat.add_comm f e.2]
      show _ + total frequency term (grouped entries) = _
      rw [ih]
      by_cases h : e.1 = term
      · simp [h]
      · simp [h]

theorem total_documents_grouped (term : String) (entries : List (String × Nat)) :
    total documents term (grouped entries) = (entries.map Prod.fst).count term := by
  induction entries with
  | nil => rfl
  | cons e entries ih =>
      rw [grouped, List.foldr_cons, total_addDocument fun _ d => Nat.add_comm d 1]
      show _ + total documents term (grouped entries) = _
      rw [ih, List.map_cons, List.count_cons, Nat.add_comm]
      simp

theorem mem_names_grouped {term : String} {entries : List (String × Nat)} :
    term ∈ (grouped entries).map TermStatistics.term ↔ term ∈ entries.map Prod.fst := by
  induction entries with
  | nil => exact Iff.rfl
  | cons e entries ih =>
      rw [grouped, List.foldr_cons, mem_names_addDocument, List.map_cons, List.mem_cons]
      exact or_congr_right ih

theorem ascending_grouped {entries : List (String × Nat)}
    (h : entries.Pairwise fun a b => a.1 ≤ b.1) : Ascending (grouped entries) :=
  (ascending_foldr_addDocument h).1

/-!
## One document
-/

theorem counts_eq_grouped (terms : List String) :
    counts terms = (grouped ((terms.mergeSort (· ≤ ·)).map fun t => (t, 1))).map
      fun t => (t.term, t.frequency) := by
  unfold counts grouped
  induction terms.mergeSort (· ≤ ·) with
  | nil => rfl
  | cons x xs ih =>
      rw [List.foldr_cons, ih, List.map_cons, List.foldr_cons]
      generalize (xs.map fun t => (t, 1)).foldr
        (fun entry : String × Nat => addDocument entry.1 entry.2) [] = rest
      cases rest with
      | nil => rfl
      | cons t rest =>
          rw [List.map_cons, addOccurrence, addDocument]
          split
          · rename_i heq
            rw [heq]
            rfl
          · rfl

theorem total_counts (term : String) (terms : List String) :
    (((counts terms).filter fun e => e.1 = term).map Prod.snd).sum = terms.count term := by
  have hgrouped := total_frequency_grouped term ((terms.mergeSort (· ≤ ·)).map fun t => (t, 1))
  rw [counts_eq_grouped, List.filter_map, List.map_map]
  refine Eq.trans hgrouped ?_
  rw [List.filter_map, List.map_map, ← (List.mergeSort_perm terms (· ≤ ·)).count_eq]
  simp [List.count_eq_length_filter, Function.comp_def, BEq.beq]

theorem keys_counts (terms : List String) :
    (counts terms).map Prod.fst =
      (grouped ((terms.mergeSort (· ≤ ·)).map fun t => (t, 1))).map TermStatistics.term := by
  rw [counts_eq_grouped, List.map_map]
  rfl

theorem mem_keys_counts {term : String} {terms : List String} :
    term ∈ (counts terms).map Prod.fst ↔ term ∈ terms := by
  rw [keys_counts, mem_names_grouped, List.map_map]
  simp

theorem count_keys_counts (term : String) (terms : List String) :
    ((counts terms).map Prod.fst).count term = if term ∈ terms then 1 else 0 := by
  have hsorted := @List.pairwise_mergeSort _ (fun a b : String => decide (a ≤ b))
    (fun a b c => by simpa using String.le_trans) (fun a b => by simpa using String.le_total a b)
    terms
  have hascending : Ascending (grouped ((terms.mergeSort (· ≤ ·)).map fun t => (t, 1))) := by
    apply ascending_grouped
    exact List.pairwise_map.mpr (hsorted.imp fun hle => by simpa using hle)
  have hnodup : ((counts terms).map Prod.fst).Nodup := by
    rw [keys_counts]
    exact Labels.nodup_of_ascending (List.pairwise_map.mpr hascending)
  rw [List.Nodup.count hnodup]
  exact if_congr mem_keys_counts rfl rfl

/-!
## All documents
-/

variable {s : VectorizerSettings}

theorem total_frequency_ofDocuments (h : 1 ≤ s.leastWindow.toNat) (documents : List String)
    (term : String) (hadmits : s.Admits term) :
    total frequency term (ofDocuments s documents) = s.frequency documents term := by
  have hperm := List.mergeSort_perm (documents.flatMap fun d => counts (s.terms d)) (·.1 ≤ ·.1)
  refine (total_frequency_grouped term _).trans ?_
  rw [((hperm.filter _).map _).sum_eq]
  clear hperm
  induction documents with
  | nil => rfl
  | cons d documents ih =>
      rw [List.flatMap_cons, List.filter_append, List.map_append, List.sum_append, ih, total_counts,
        s.count_terms h, if_pos hadmits]
      rfl

theorem total_documents_ofDocuments (h : 1 ≤ s.leastWindow.toNat) (documents : List String)
    (term : String) (hadmits : s.Admits term) :
    total TermStatistics.documents term (ofDocuments s documents) =
      s.documentCount documents term := by
  have hperm := List.mergeSort_perm (documents.flatMap fun d => counts (s.terms d)) (·.1 ≤ ·.1)
  refine (total_documents_grouped term _).trans ?_
  rw [(hperm.map _).count_eq]
  clear hperm
  induction documents with
  | nil => rfl
  | cons d documents ih =>
      rw [List.flatMap_cons, List.map_append, List.count_append, ih, count_keys_counts,
        VectorizerSettings.documentCount, VectorizerSettings.documentCount, List.countP_cons,
        Nat.add_comm]
      simp [s.mem_terms h, hadmits]

theorem mem_names_ofDocuments (h : 1 ≤ s.leastWindow.toNat) {documents : List String}
    {term : String} :
    term ∈ (ofDocuments s documents).map TermStatistics.term ↔
      s.Admits term ∧ 0 < s.frequency documents term := by
  have hperm := List.mergeSort_perm (documents.flatMap fun d => counts (s.terms d)) (·.1 ≤ ·.1)
  refine mem_names_grouped.trans ?_
  rw [(hperm.map _).mem_iff, List.map_flatMap, List.mem_flatMap, s.frequency_pos_iff]
  simp only [mem_keys_counts, s.mem_terms h]
  constructor
  · rintro ⟨d, hd, hadmits, hpos⟩
    exact ⟨hadmits, d, hd, hpos⟩
  · rintro ⟨hadmits, d, hd, hpos⟩
    exact ⟨d, hd, hadmits, hpos⟩

def counted (s : VectorizerSettings) (documents : List String) (term : String) : TermStatistics :=
  ⟨term, s.frequency documents term, s.documentCount documents term⟩

theorem eq_counted (h : 1 ≤ s.leastWindow.toNat) {documents : List String} {t : TermStatistics}
    (ht : t ∈ ofDocuments s documents) : t = counted s documents t.term := by
  have hascending := ascending_ofDocuments s documents
  have hadmits := ((mem_names_ofDocuments h).mp (List.mem_map_of_mem ht)).1
  have hfrequency := total_eq hascending ht frequency
  have hdocuments := total_eq hascending ht TermStatistics.documents
  rw [total_frequency_ofDocuments h documents _ hadmits] at hfrequency
  rw [total_documents_ofDocuments h documents _ hadmits] at hdocuments
  rw [counted, hfrequency, hdocuments]

theorem counted_mem (h : 1 ≤ s.leastWindow.toNat) {documents : List String} {term : String}
    (hterm : term ∈ (ofDocuments s documents).map TermStatistics.term) :
    counted s documents term ∈ ofDocuments s documents := by
  rcases List.mem_map.mp hterm with ⟨t, ht, rfl⟩
  rw [← eq_counted h ht]
  exact ht

theorem mem_names_of_append (h : 1 ≤ s.leastWindow.toNat) {documents : List String}
    {term more : String} (hterm : term ++ more ∈ (ofDocuments s documents).map TermStatistics.term)
    (hwidth : s.leastWindow.toNat ≤ term.length) :
    term ∈ (ofDocuments s documents).map TermStatistics.term := by
  rw [mem_names_ofDocuments h] at hterm ⊢
  rcases hterm with ⟨⟨_, hmost⟩, hpos⟩
  rw [String.length_append] at hmost
  exact ⟨⟨hwidth, Nat.le_trans (Nat.le_add_right _ _) hmost⟩,
    Nat.lt_of_lt_of_le hpos (s.frequency_append_le documents term more)⟩

/-- The statistics depend on the documents through the counts alone. -/
theorem ofDocuments_perm (h : 1 ≤ s.leastWindow.toNat) {documents others : List String}
    (hperm : documents.Perm others) : ofDocuments s documents = ofDocuments s others := by
  have hform : forall ds : List String, ofDocuments s ds =
      ((ofDocuments s ds).map TermStatistics.term).map (counted s ds) := by
    intro ds
    rw [List.map_map]
    exact (List.map_id' _).symm.trans (List.map_congr_left fun t ht => eq_counted h ht)
  have hnames : (ofDocuments s documents).map TermStatistics.term =
      (ofDocuments s others).map TermStatistics.term := by
    apply Labels.ascending_ext (List.pairwise_map.mpr (ascending_ofDocuments s documents))
      (List.pairwise_map.mpr (ascending_ofDocuments s others))
    intro term
    rw [mem_names_ofDocuments h, mem_names_ofDocuments h, s.frequency_perm hperm]
  have hcounted : counted s documents = counted s others := by
    funext term
    rw [counted, s.frequency_perm hperm, s.documentCount_perm hperm]
    rfl
  rw [hform documents, hnames, hcounted, ← hform others]

end TermStatistics
end Polyglot
