import Mathlib.Data.List.Forall2
import Polyglot.Proofs.Bundle.Faults

/-!
# Whole numbers of loaded classifiers

The reader takes a whole number only if it fits the machine word that it is read
into.  So whatever bundle a classifier comes from, all its columns, indices and
sizes can be written and read again, and what remains to be asked of it are its
binary numbers.
-/

namespace Polyglot

namespace Json

theorem lt_of_nat? {j : Json} {n : Nat} (h : j.nat? = some n) : n < UInt64.size := by
  cases j with
  | number numeral =>
      simp only [nat?, Numeral.nat?, Option.ite_none_right_eq_some, Bool.and_eq_true,
        decide_eq_true_eq, Option.some.injEq] at h
      have hlimit : Numeral.wordLimit 64 < UInt64.size := by decide
      rw [← h.2]
      exact Nat.lt_of_le_of_lt h.1.2 hlimit
  | null => cases h
  | bool b => cases h
  | text raw => cases h
  | array items => cases h
  | object entries => cases h

theorem bounds_of_signedByte? {j : Json} {n : Int} (h : j.signedByte? = some n) :
    -128 ≤ n ∧ n ≤ 127 := by
  cases j with
  | number numeral =>
      have hlimit : Numeral.wordLimit 7 = 127 := rfl
      simp only [signedByte?, Numeral.int?, hlimit] at h
      split at h
      · cases h
      · split at h
        · simp only [Option.ite_none_right_eq_some, Option.some.injEq] at h
          omega
        · simp only [Option.ite_none_right_eq_some, Option.some.injEq] at h
          omega
  | null => cases h
  | bool b => cases h
  | text raw => cases h
  | array items => cases h
  | object entries => cases h

theorem forall₂_of_mapM {α β : Type} {f : α -> Option β} {xs : List α} {ys : List β}
    (h : xs.mapM f = some ys) : List.Forall₂ (fun x y => f x = some y) xs ys := by
  induction xs generalizing ys with
  | nil =>
      cases h
      exact .nil
  | cons x xs ih =>
      rw [List.mapM_cons] at h
      rcases Option.bind_eq_some_iff.mp h with ⟨first, hfirst, h⟩
      rcases Option.bind_eq_some_iff.mp h with ⟨rest, hrest, h⟩
      injection h with h
      subst h
      exact .cons hfirst (ih hrest)

theorem exists_of_mem_mapM {α β : Type} {f : α -> Option β} {xs : List α} {ys : List β}
    (h : xs.mapM f = some ys) {y : β} (hy : y ∈ ys) : ∃ x, f x = some y := by
  have hall := forall₂_of_mapM h
  clear h
  induction hall with
  | nil => cases hy
  | cons hfirst _ ih =>
      rcases List.mem_cons.mp hy with rfl | hy
      · exact ⟨_, hfirst⟩
      · exact ih hy

theorem exists_of_mem_list? {α : Type} {item? : Json -> Option α} {j : Json} {xs : List α}
    (h : j.list? item? = some xs) {x : α} (hx : x ∈ xs) : ∃ item, item? item = some x := by
  cases j with
  | array items =>
      exact exists_of_mem_mapM h hx
  | null => cases h
  | bool b => cases h
  | number n => cases h
  | text raw => cases h
  | object entries => cases h

end Json

/-!
## Parts whose whole numbers are machine words
-/

structure ModelSettings.Sized (s : ModelSettings) : Prop where
  featureSize : s.featureSize < UInt64.size
  iterations : s.iterations < UInt64.size
  minLeafSize : s.minLeafSize < UInt64.size

structure ModelTree.Sized (t : ModelTree) : Prop where
  nodes : forall n, n ∈ t.nodes -> n.Fits
  featureSize : t.featureSize < UInt64.size
  minLeafSize : t.minLeafSize < UInt64.size

structure ClassModel.Sized (m : ClassModel) : Prop where
  settings : m.settings.Sized
  trees : forall t, t ∈ m.trees -> t.Sized

structure Forest.Sized (f : Forest) : Prop where
  width : f.width < UInt64.size
  models : forall e, e ∈ f.estimators -> forall m, m ∈ e.models -> m.Sized

structure Classifier.Sized (c : Classifier) : Prop where
  columns : forall e, e ∈ c.vectorizer.vocabulary.entries -> e.2 < UInt64.size
  forest : c.forest.Sized

theorem ClassModel.Fits.sized {m : ClassModel} (h : m.Fits) : m.Sized := by
  constructor
  · exact ⟨h.settings.featureSize, h.settings.iterations, h.settings.minLeafSize⟩
  · intro t ht
    have htree := h.trees t ht
    exact ⟨htree.nodes, htree.featureSize, htree.minLeafSize⟩

/-!
## Reading
-/

namespace Bundle

open Json

theorem columns_of_vocabulary? {j : Json} {v : Vocabulary} (h : vocabulary? j = some v) :
    forall e, e ∈ v.entries -> e.2 < UInt64.size := by
  cases j with
  | object entries =>
      rcases Option.bind_eq_some_iff.mp h with ⟨named, _, h⟩
      rcases Option.bind_eq_some_iff.mp h with ⟨columns, hcolumns, h⟩
      injection h with h
      have hread : forall e, e ∈ columns -> e.2 < UInt64.size := by
        intro e he
        rcases exists_of_mem_mapM hcolumns he with ⟨entry, hentry⟩
        rcases Option.map_eq_some_iff.mp hentry with ⟨column, hcolumn, rfl⟩
        exact lt_of_nat? hcolumn
      rw [← h]
      show forall e, e ∈ columns.foldr Vocabulary.insertNew [] -> e.2 < UInt64.size
      clear h hcolumns
      induction columns with
      | nil =>
          intro e he
          cases he
      | cons first rest ih =>
          have hparts := List.forall_mem_cons.mp hread
          exact Vocabulary.forall_insertNew hparts.1 (ih hparts.2)
  | null => cases h
  | bool b => cases h
  | number n => cases h
  | text raw => cases h
  | array items => cases h

theorem columns_of_vectorizer? {j : Json} {v : Vectorizer} (h : vectorizer? j = some v) :
    forall e, e ∈ v.vocabulary.entries -> e.2 < UInt64.size := by
  rcases Option.bind_eq_some_iff.mp h with ⟨fields, _, h⟩
  split at h
  · simp only [Option.bind_eq_bind, Option.bind_eq_some_iff, Option.pure_def,
      Option.some.injEq] at h
    rcases h with ⟨_, _, vocabulary, hvocabulary, _, _, rfl⟩
    exact columns_of_vocabulary? hvocabulary
  · cases h

theorem fits_of_node? {j : Json} {n : Node} (h : node? j = some n) : n.Fits := by
  rcases Option.bind_eq_some_iff.mp h with ⟨fields, _, h⟩
  split at h
  · rcases Option.bind_eq_some_iff.mp h with ⟨values, _, h⟩
    split at h
    · simp only [Option.bind_eq_bind, Option.bind_eq_some_iff, Option.pure_def,
        Option.some.injEq] at h
      rcases h with ⟨_, hfeature, _, _, _, _, _, hmissing, _, _, _, hindex, _, hleft, _, hright,
        rfl⟩
      have hbounds := bounds_of_signedByte? hmissing
      exact ⟨lt_of_nat? hfeature, hbounds.1, hbounds.2, lt_of_nat? hindex, lt_of_nat? hleft,
        lt_of_nat? hright⟩
    · cases h
  · cases h

theorem sized_of_tree? {j : Json} {t : ModelTree} (h : tree? j = some t) : t.Sized := by
  rcases Option.bind_eq_some_iff.mp h with ⟨fields, _, h⟩
  split at h
  · rcases Option.bind_eq_some_iff.mp h with ⟨inner, _, h⟩
    split at h
    · simp only [Option.bind_eq_bind, Option.bind_eq_some_iff, Option.pure_def,
        Option.some.injEq] at h
      rcases h with ⟨nodes, hnodes, _, hfeatureSize, _, _, _, hminLeafSize, _, _, _, _, rfl⟩
      constructor
      · intro n hn
        rcases exists_of_mem_list? hnodes (List.mem_toArray.mp hn) with ⟨item, hitem⟩
        exact fits_of_node? hitem
      · exact lt_of_nat? hfeatureSize
      · exact lt_of_nat? hminLeafSize
    · cases h
  · cases h

theorem sized_of_modelSettings? {j : Json} {s : ModelSettings} (h : modelSettings? j = some s) :
    s.Sized := by
  rcases Option.bind_eq_some_iff.mp h with ⟨fields, _, h⟩
  split at h
  · simp only [Option.bind_eq_bind, Option.bind_eq_some_iff, Option.pure_def,
      Option.some.injEq] at h
    rcases h with ⟨_, hfeatureSize, _, _, _, hiterations, _, _, _, _, _, _, _, hminLeafSize, _, _,
      _, _, _, _, _, _, rfl⟩
    exact ⟨lt_of_nat? hfeatureSize, lt_of_nat? hiterations, lt_of_nat? hminLeafSize⟩
  · cases h

theorem sized_of_model? {j : Json} {m : ClassModel} (h : model? j = some m) : m.Sized := by
  rcases Option.bind_eq_some_iff.mp h with ⟨fields, _, h⟩
  split at h
  · simp only [Option.bind_eq_bind, Option.bind_eq_some_iff, Option.pure_def,
      Option.some.injEq] at h
    rcases h with ⟨settings, hsettings, trees, htrees, _, _, rfl⟩
    constructor
    · exact sized_of_modelSettings? hsettings
    · intro t ht
      rcases exists_of_mem_list? htrees ht with ⟨item, hitem⟩
      exact sized_of_tree? hitem
  · cases h

theorem sized_of_estimator? {j : Json} {e : Estimator} (h : estimator? j = some e) :
    forall m, m ∈ e.models -> m.Sized := by
  rcases Option.bind_eq_some_iff.mp h with ⟨fields, _, h⟩
  split at h
  · rcases Option.bind_eq_some_iff.mp h with ⟨models, hmodels, h⟩
    injection h with h
    subst h
    intro m hm
    rcases exists_of_mem_list? hmodels hm with ⟨item, hitem⟩
    exact sized_of_model? hitem
  · cases h

theorem sized_of_forest? {j : Json} {f : Forest} (h : forest? j = some f) : f.Sized := by
  rcases Option.bind_eq_some_iff.mp h with ⟨fields, _, h⟩
  split at h
  · simp only [Option.bind_eq_bind, Option.bind_eq_some_iff, Option.pure_def,
      Option.some.injEq] at h
    rcases h with ⟨_, _, width, hwidth, _, _, estimators, hestimators, rfl⟩
    constructor
    · exact lt_of_nat? hwidth
    · intro e he
      rcases exists_of_mem_list? hestimators he with ⟨item, hitem⟩
      exact sized_of_estimator? hitem
  · cases h

theorem sized_of_read {bytes : List UInt8} {c : Classifier} (h : read bytes = .ok c) : c.Sized := by
  rcases parts_of_read h with ⟨⟨j, _, hparts⟩, _, _⟩
  rcases Option.bind_eq_some_iff.mp hparts with ⟨fields, _, hparts⟩
  split at hparts
  · simp only [Option.bind_eq_bind, Option.bind_eq_some_iff, Option.pure_def, Option.some.injEq,
      Parts.mk.injEq] at hparts
    rcases hparts with ⟨_, _, _, hvectorizer, _, hforest, _, rfl, rfl⟩
    exact ⟨columns_of_vectorizer? hvectorizer, sized_of_forest? hforest⟩
  · cases hparts

end Bundle
end Polyglot
