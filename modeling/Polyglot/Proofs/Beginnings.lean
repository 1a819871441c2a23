import Polyglot.Proofs.Layout

/-!
# Beginnings of terms

Wherever a term begins its beginning does, and the beginning is the smaller of the
two.  So a limit on the number of terms never keeps a term without its beginning: a
fitted vocabulary is closed under leaving out the last character.
-/

namespace Polyglot

namespace VectorizerSettings

theorem rangeUsable_of_le (s : VectorizerSettings) (hleast : 1 ≤ s.leastWindow)
    (hmost : s.leastWindow ≤ s.mostWindow) : s.rangeUsable = true := by
  have hne : s.leastWindow ≠ 0 := by
    intro hzero
    rw [hzero] at hleast
    exact absurd hleast (by decide)
  simp [rangeUsable, hne, hmost]

theorem documentCount_append_le (s : VectorizerSettings) (documents : List String)
    (term more : String) :
    s.documentCount documents (term ++ more) ≤ s.documentCount documents term := by
  apply List.countP_mono_left
  intro d _ hpos
  have hle : s.occurrences (term ++ more) d ≤ s.occurrences term d := by
    rw [occurrences, String.toList_append]
    exact Text.occurrences_append_le _ _ _
  simp only [decide_eq_true_eq] at hpos ⊢
  exact Nat.lt_of_lt_of_le hpos hle

end VectorizerSettings

theorem exists_push_of_length_pos {term : String} (h : 0 < term.length) :
    ∃ (short : String) (last : Char), term = short.push last := by
  have hne : term.toList ≠ [] := by
    intro hnil
    rw [← String.length_toList, hnil] at h
    exact absurd h (by decide)
  refine ⟨String.ofList term.toList.dropLast, term.toList.getLast hne, ?_⟩
  apply String.toList_inj.mp
  rw [String.toList_push, String.toList_ofList, List.dropLast_append_getLast]

namespace Vectorizer

theorem Ranked.getElem?_terms {v : Vectorizer} (h : v.Ranked) {term : String} {column : Nat}
    (hcolumn : v.vocabulary.column? term = some column) :
    v.vocabulary.terms[column]? = some term := by
  have hmem := Vocabulary.mem_of_lookup hcolumn
  rwa [h.entries_eq, List.mem_zipIdx_iff_getElem?] at hmem

theorem exists_column_of_mem {v : Vectorizer} {term : String} (h : term ∈ v.vocabulary.terms) :
    ∃ column, v.vocabulary.column? term = some column := by
  rcases List.mem_map.mp h with ⟨entry, hentry, rfl⟩
  have hsome : (v.vocabulary.entries.lookup entry.1).isSome = true := by
    rw [List.lookup_isSome_iff]
    exact ⟨entry, hentry, beq_self_eq_true entry.1⟩
  exact Option.isSome_iff_exists.mp hsome

theorem Ranked.column_lt_of_lt {v : Vectorizer} (h : v.Ranked) {a b : String} {i j : Nat}
    (hi : v.vocabulary.column? a = some i) (hj : v.vocabulary.column? b = some j) (hlt : a < b) :
    i < j := by
  rcases List.getElem?_eq_some_iff.mp (h.getElem?_terms hi) with ⟨hilt, rfl⟩
  rcases List.getElem?_eq_some_iff.mp (h.getElem?_terms hj) with ⟨hjlt, rfl⟩
  apply Decidable.byContradiction
  intro hnot
  rcases Nat.lt_or_eq_of_le (Nat.le_of_not_lt hnot) with hbefore | rfl
  · have := List.pairwise_iff_getElem.mp (ascending_terms v.vocabulary) j i hjlt hilt hbefore
    exact String.lt_irrefl _ (String.lt_trans hlt this)
  · exact String.lt_irrefl _ hlt

section Fitting

variable [Logarithm]

theorem weight_of_fit {s : VectorizerSettings} {documents : List String} {v : Vectorizer}
    (h : fit s documents = .ok v) {term : String} {column : Nat}
    (hcolumn : v.vocabulary.column? term = some column) :
    v.weights[column]? = some (weight documents.length (s.documentCount documents term)) := by
  have hkept := TermStatistics.ascending_best s.maxFeatures.toNat
    (TermStatistics.ascending_ofDocuments s documents)
  rw [eq_ofTerms_of_fit h] at hcolumn ⊢
  rcases weight_of_column hkept hcolumn with ⟨t, ht, rfl, hweight⟩
  have hmem : t ∈ TermStatistics.ofDocuments s documents := by
    apply (TermStatistics.ranking_perm _).mem_iff.mp
    exact List.mem_of_mem_take ((TermStatistics.best_perm _ _).mem_iff.mp ht)
  rw [hweight, TermStatistics.eq_counted (one_le_of_fit h) hmem]
  rfl

theorem mem_terms_of_push {s : VectorizerSettings} {documents : List String} {v : Vectorizer}
    (h : fit s documents = .ok v) {short : String} {last : Char}
    (hterm : short.push last ∈ v.vocabulary.terms)
    (hwide : s.leastWindow.toNat < (short.push last).length) : short ∈ v.vocabulary.terms := by
  rw [String.push_eq_append] at hterm
  rw [String.length_push] at hwide
  exact mem_terms_of_append h hterm (Nat.le_of_lt_succ hwide)

/--
Fitting knows every known term without its last character as well, as long as that
leaves it wide enough.  The shorter term has an earlier column, and at least as many
documents contain it; the weights in both columns are those of these numbers.
-/
theorem beginning_of_fit {s : VectorizerSettings} {documents : List String}
    (hrange : 1 ≤ s.leastWindow ∧ s.leastWindow ≤ s.mostWindow) (hsome : documents ≠ []) :
    ∃ v, fit s documents = .ok v ∧
      forall term, term ∈ v.vocabulary.terms -> s.leastWindow.toNat < term.length ->
        ∃ short last, term = String.push short last ∧ short ∈ v.vocabulary.terms ∧
          s.documentCount documents term ≤ s.documentCount documents short ∧
          ∃ i j, v.vocabulary.column? short = some i ∧ v.vocabulary.column? term = some j ∧
            i < j ∧
            v.weights[i]? = some (weight documents.length (s.documentCount documents short)) ∧
            v.weights[j]? = some (weight documents.length (s.documentCount documents term)) := by
  have hfit := fit_eq_ok (s.rangeUsable_of_le hrange.1 hrange.2) hsome
  refine ⟨_, hfit, ?_⟩
  intro term hterm hwide
  rcases exists_push_of_length_pos (Nat.zero_lt_of_lt hwide) with ⟨short, last, rfl⟩
  have hshort := mem_terms_of_push hfit hterm hwide
  have hcount : s.documentCount documents (short.push last) ≤ s.documentCount documents short := by
    rw [String.push_eq_append]
    exact s.documentCount_append_le documents short _
  have hlt : short < short.push last := by
    rw [String.push_eq_append]
    exact TermStatistics.lt_append_of_ne String.singleton_ne_empty
  rcases exists_column_of_mem hshort with ⟨i, hi⟩
  rcases exists_column_of_mem hterm with ⟨j, hj⟩
  exact ⟨short, last, rfl, hshort, hcount, i, j, hi, hj,
    (ranked_of_fit hfit).column_lt_of_lt hi hj hlt, weight_of_fit hfit hi, weight_of_fit hfit hj⟩

end Fitting

/-- The three terms of this text are equally frequent, and two of them are kept. -/
theorem beginning_of_fit_tied :
    ∃ v, fit { maxFeatures := 2, mostWindow := 2 } ["ab"] = .ok v ∧
      "ab" ∈ v.vocabulary.terms ∧ "b" ∉ v.vocabulary.terms ∧ "a" ∈ v.vocabulary.terms := by
  rcases @beginning_of_fit _ { maxFeatures := 2, mostWindow := 2 } ["ab"] (by decide)
    (by decide) with ⟨v, hfit, hclosed⟩
  have hranking : (TermStatistics.ranking (TermStatistics.ofDocuments
      { maxFeatures := 2, mostWindow := 2 } ["ab"])).map TermStatistics.term =
        ["a", "ab", "b"] := by
    cbv
  have hlong : "ab" ∈ v.vocabulary.terms := by
    rw [mem_terms_fit hfit, hranking]
    decide
  have hdropped : "b" ∉ v.vocabulary.terms := by
    rw [mem_terms_fit hfit, hranking]
    decide
  rcases hclosed "ab" hlong (by decide) with ⟨short, last, heq, hshort, _⟩
  have hpush : short.push last = "a".push 'b' := heq.symm
  rw [(String.push_inj.mp hpush).1] at hshort
  exact ⟨v, hfit, hlong, hdropped, hshort⟩

end Vectorizer
end Polyglot
