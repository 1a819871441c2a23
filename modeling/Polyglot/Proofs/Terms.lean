import Mathlib.Data.List.Perm.Basic
import Polyglot.Features.Terms
import Polyglot.Features.Vocabulary

/-!
# Fitted vocabularies

The statistics of a list of documents name every term once, in ascending order,
and so do the terms that are kept, so that a vocabulary numbers them from zero on.
-/

namespace Polyglot

namespace TermStatistics

def Ascending (statistics : List TermStatistics) : Prop :=
  statistics.Pairwise fun a b => a.term < b.term

theorem exists_term_of_mem_addDocument {term : String} {count : Nat}
    {statistics : List TermStatistics} {t : TermStatistics}
    (h : t ∈ addDocument term count statistics) :
    t.term = term ∨ t ∈ statistics := by
  cases statistics with
  | nil =>
      rw [addDocument, List.mem_singleton] at h
      exact .inl (congrArg TermStatistics.term h)
  | cons s rest =>
      rw [addDocument] at h
      split at h
      · rcases List.mem_cons.mp h with rfl | h
        · exact .inl rfl
        · exact .inr (List.mem_cons_of_mem s h)
      · rcases List.mem_cons.mp h with rfl | h
        · exact .inl rfl
        · exact .inr h

theorem ascending_addDocument {term : String} {count : Nat} {statistics : List TermStatistics}
    (h : Ascending statistics) (hfirst : forall t, t ∈ statistics -> term ≤ t.term) :
    Ascending (addDocument term count statistics) := by
  cases statistics with
  | nil => exact List.pairwise_singleton _ _
  | cons s rest =>
      rcases List.pairwise_cons.mp h with ⟨hs, hrest⟩
      rw [addDocument]
      split
      · rename_i heq
        subst heq
        exact List.pairwise_cons.mpr ⟨hs, hrest⟩
      · rename_i hne
        refine List.pairwise_cons.mpr ⟨?_, h⟩
        have hlt : term < s.term :=
          Std.lt_of_le_of_ne (hfirst s List.mem_cons_self) (Ne.symm hne)
        intro t ht
        rcases List.mem_cons.mp ht with rfl | ht
        · exact hlt
        · exact String.lt_trans hlt (hs t ht)

theorem ascending_foldr_addDocument {entries : List (String × Nat)}
    (h : entries.Pairwise fun a b => a.1 ≤ b.1) :
    Ascending (entries.foldr (fun entry => addDocument entry.1 entry.2) []) ∧
      forall t, t ∈ entries.foldr (fun entry => addDocument entry.1 entry.2) [] ->
        ∃ entry, entry ∈ entries ∧ entry.1 = t.term := by
  induction entries with
  | nil =>
      constructor
      · exact List.Pairwise.nil
      · intro t ht
        cases ht
  | cons entry entries ih =>
      rcases List.pairwise_cons.mp h with ⟨hentry, hrest⟩
      rcases ih hrest with ⟨hascending, hnamed⟩
      constructor
      · apply ascending_addDocument hascending
        intro t ht
        rcases hnamed t ht with ⟨other, hother, heq⟩
        rw [← heq]
        exact hentry other hother
      · intro t ht
        rcases exists_term_of_mem_addDocument ht with heq | ht
        · exact ⟨entry, List.mem_cons_self, heq.symm⟩
        · rcases hnamed t ht with ⟨other, hother, heq⟩
          exact ⟨other, List.mem_cons_of_mem _ hother, heq⟩

theorem ascending_ofDocuments (s : VectorizerSettings) (documents : List String) :
    Ascending (ofDocuments s documents) := by
  apply (ascending_foldr_addDocument _).1
  have hsorted := @List.pairwise_mergeSort _ (fun a b : String × Nat => decide (a.1 ≤ b.1))
    (fun a b c => by simpa using String.le_trans) (fun a b => by simpa using String.le_total a.1 b.1)
    (documents.flatMap fun d => counts (s.terms d))
  exact hsorted.imp fun h => by simpa using h

theorem ascending_best (limit : Nat) {statistics : List TermStatistics}
    (h : Ascending statistics) : Ascending (best limit statistics) := by
  have hsorted := @List.pairwise_mergeSort _ (fun a b : TermStatistics => decide (a.term ≤ b.term))
    (fun a b c => by simpa using String.le_trans) (fun a b => by simpa using String.le_total a.term b.term)
    ((statistics.mergeSort preferred).take limit)
  have hdistinct : statistics.Pairwise fun a b => a.term ≠ b.term := by
    apply h.imp
    intro a b hlt heq
    rw [heq] at hlt
    exact String.lt_irrefl _ hlt
  have hkept : (best limit statistics).Pairwise fun a b => a.term ≠ b.term := by
    have hsame := (List.mergeSort_perm statistics preferred).symm.pairwise hdistinct
      fun hne => hne.symm
    have htaken := hsame.sublist (List.take_sublist limit _)
    exact (List.mergeSort_perm _ _).symm.pairwise htaken fun hne => hne.symm
  exact hsorted.imp₂ (fun a b hle hne => Std.lt_of_le_of_ne (by simpa using hle) hne) hkept

theorem length_best_le (limit : Nat) (statistics : List TermStatistics) :
    (best limit statistics).length ≤ limit := by
  unfold best
  rw [List.length_mergeSort]
  exact List.length_take_le _ _

end TermStatistics

namespace Vocabulary

theorem insertNew_of_lt {e : String × Nat} {entries : List (String × Nat)}
    (h : forall x, x ∈ entries -> e.1 < x.1) : insertNew e entries = e :: entries := by
  cases entries with
  | nil => rfl
  | cons x xs =>
      unfold insertNew
      rw [if_pos (h x List.mem_cons_self)]

theorem foldr_insertNew_of_ascending {entries : List (String × Nat)}
    (h : entries.Pairwise fun a b => a.1 < b.1) : entries.foldr insertNew [] = entries := by
  induction entries with
  | nil => rfl
  | cons e entries ih =>
      rcases List.pairwise_cons.mp h with ⟨he, hentries⟩
      rw [List.foldr_cons, ih hentries, insertNew_of_lt he]

theorem entries_ofList_zipIdx {terms : List String} (h : terms.Pairwise (· < ·)) :
    (ofList terms.zipIdx).entries = terms.zipIdx := by
  apply foldr_insertNew_of_ascending
  rw [← List.pairwise_map (f := Prod.fst), List.zipIdx_map_fst]
  exact h

theorem mem_of_lookup {β : Type} {entries : List (String × β)} {term : String} {column : β}
    (h : entries.lookup term = some column) : (term, column) ∈ entries := by
  induction entries with
  | nil => cases h
  | cons e entries ih =>
      rw [List.lookup_cons] at h
      split at h
      · rename_i heq
        injection h with h
        subst h
        rw [eq_of_beq heq]
        exact List.mem_cons_self
      · exact List.mem_cons_of_mem e (ih h)

end Vocabulary
end Polyglot
