import Polyglot.Labels

/-!
# The order of labels

The distinct labels of a list are strictly ascending, so halving finds each of
them, and the positions of the labels divide the positions of the list.
-/

namespace Polyglot
namespace Labels

@[simp] theorem mem_insert {x label : String} {xs : List String} :
    x ∈ insert label xs ↔ x = label ∨ x ∈ xs := by
  induction xs with
  | nil => simp [insert]
  | cons y ys ih =>
      unfold insert
      split
      · simp
      · split
        · rename_i heq
          subst heq
          simp
        · simp only [List.mem_cons, ih]
          exact or_left_comm

theorem pairwise_insert {label : String} {xs : List String}
    (h : xs.Pairwise (· < ·)) : (insert label xs).Pairwise (· < ·) := by
  induction xs with
  | nil => simp [insert]
  | cons y ys ih =>
      rcases List.pairwise_cons.mp h with ⟨hy, hys⟩
      unfold insert
      split
      · rename_i hlt
        apply List.pairwise_cons.mpr
        constructor
        · intro z hz
          cases List.mem_cons.mp hz with
          | inl heq => exact heq ▸ hlt
          | inr hmem => exact String.lt_trans hlt (hy z hmem)
        · exact h
      · split
        · exact h
        · rename_i hnot hne
          have hgt : y < label := by
            apply Decidable.byContradiction
            intro hle
            exact hne (String.le_antisymm (String.not_lt.mp hle) (String.not_lt.mp hnot))
          apply List.pairwise_cons.mpr
          constructor
          · intro z hz
            cases mem_insert.mp hz with
            | inl heq => exact heq ▸ hgt
            | inr hmem => exact hy z hmem
          · exact ih hys

@[simp] theorem mem_distinct {x : String} {labels : List String} :
    x ∈ distinct labels ↔ x ∈ labels := by
  induction labels with
  | nil => simp [distinct]
  | cons y ys ih =>
      show x ∈ insert y (distinct ys) ↔ _
      rw [mem_insert, ih, List.mem_cons]

theorem distinct_ne_nil {labels : List String} (h : labels ≠ []) : distinct labels ≠ [] := by
  rcases List.exists_mem_of_ne_nil labels h with ⟨label, hlabel⟩
  exact List.ne_nil_of_mem (mem_distinct.mpr hlabel)

theorem ascending_distinct (labels : List String) :
    (distinct labels).Pairwise (· < ·) := by
  induction labels with
  | nil => exact List.Pairwise.nil
  | cons y ys ih => exact pairwise_insert ih

theorem nodup_of_ascending {xs : List String} (h : xs.Pairwise (· < ·)) : xs.Nodup := by
  apply List.Pairwise.imp _ h
  intro a b hlt heq
  subst heq
  exact String.lt_irrefl a hlt

theorem nodup_distinct (labels : List String) : (distinct labels).Nodup :=
  nodup_of_ascending (ascending_distinct labels)

theorem ascending_ext {xs ys : List String}
    (hxs : xs.Pairwise (· < ·)) (hys : ys.Pairwise (· < ·))
    (hmem : forall x, x ∈ xs ↔ x ∈ ys) : xs = ys := by
  have hperm : xs.Perm ys :=
    (List.perm_ext_iff_of_nodup (nodup_of_ascending hxs) (nodup_of_ascending hys)).mpr hmem
  apply List.Perm.eq_of_pairwise _ hxs hys hperm
  intro a b _ _ hab hba
  exact absurd (String.lt_trans hab hba) (String.lt_irrefl a)

theorem distinct_eq_of_mem_iff {xs ys : List String}
    (hmem : forall x, x ∈ xs ↔ x ∈ ys) : distinct xs = distinct ys := by
  apply ascending_ext (ascending_distinct xs) (ascending_distinct ys)
  intro x
  simp [hmem x]

theorem distinct_of_ascending {xs : List String} (h : xs.Pairwise (· < ·)) :
    distinct xs = xs := by
  apply ascending_ext (ascending_distinct xs) h
  intro x
  exact mem_distinct

/-!
## Positions
-/

theorem mem_positions {label : String} {labels : List String} {i : Nat} :
    i ∈ positions label labels ↔ labels[i]? = some label := by
  simp [positions, List.mem_zipIdx_iff_getElem?]

private theorem positions_from (label : String) (labels : List String) (start : Nat) :
    (((labels.zipIdx start).filter fun entry => entry.1 == label).map Prod.snd).length =
        labels.count label ∧
      (((labels.zipIdx start).filter fun entry => entry.1 == label).map Prod.snd).Pairwise
        (· < ·) := by
  induction labels generalizing start with
  | nil => simp
  | cons x xs ih =>
      rcases ih (start + 1) with ⟨hlength, hascending⟩
      by_cases hx : x = label
      · subst hx
        constructor
        · simpa using hlength
        · simp only [List.zipIdx_cons, beq_self_eq_true, List.filter_cons_of_pos, List.map_cons,
            List.pairwise_cons]
          constructor
          · intro i hi
            simp only [List.mem_map, List.mem_filter, Prod.exists] at hi
            rcases hi with ⟨y, j, ⟨hmem, _⟩, rfl⟩
            have hle := List.le_snd_of_mem_zipIdx hmem
            exact hle
          · exact hascending
      · have hfalse : (x == label) = false := by simpa using hx
        simpa [List.zipIdx_cons, hfalse, List.count_cons] using And.intro hlength hascending

@[simp] theorem length_positions (label : String) (labels : List String) :
    (positions label labels).length = labels.count label :=
  (positions_from label labels 0).1

theorem ascending_positions (label : String) (labels : List String) :
    (positions label labels).Pairwise (· < ·) :=
  (positions_from label labels 0).2

theorem nodup_positions (label : String) (labels : List String) :
    (positions label labels).Nodup :=
  (ascending_positions label labels).imp fun h => Nat.ne_of_lt h

/-!
## Search
-/

private theorem getElem_lt {labels : Array String} (h : labels.toList.Pairwise (· < ·))
    {i j : Nat} (hij : i < j) (hj : j < labels.size) : labels[i] < labels[j] := by
  have := List.pairwise_iff_getElem.mp h i j (by simpa using Nat.lt_trans hij hj)
    (by simpa using hj) hij
  simpa using this

theorem search_eq_some {labels : Array String} {label : String}
    (hascending : labels.toList.Pairwise (· < ·)) {first size i : Nat}
    (hend : first + size ≤ labels.size) (hfirst : first ≤ i) (hlast : i < first + size)
    (hi : labels[i]? = some label) : search labels label first size = some i := by
  have hbound : i < labels.size := Nat.lt_of_lt_of_le hlast hend
  have hlabel : labels[i] = label := by
    simpa [Array.getElem?_eq_getElem hbound] using hi
  fun_induction search labels label first size with
  | case1 first size hsize middle hless ih =>
      have hmiddle : middle < labels.size := by omega
      rw [Array.getD_eq_getD_getElem?, Array.getElem?_eq_getElem hmiddle] at hless
      have hbefore : i < middle := by
        apply Decidable.byContradiction
        intro hnot
        cases Nat.lt_or_eq_of_le (Nat.le_of_not_lt hnot) with
        | inl hlt =>
            have := getElem_lt hascending hlt hbound
            exact String.lt_irrefl _ (String.lt_trans hless (hlabel ▸ this))
        | inr heq =>
            subst heq
            exact String.lt_irrefl _ (hlabel ▸ hless)
      exact ih (by omega) hfirst (by omega)
  | case2 first size hsize middle hnotless ih =>
      have hmiddle : middle < labels.size := by omega
      rw [Array.getD_eq_getD_getElem?, Array.getElem?_eq_getElem hmiddle] at hnotless
      have hafter : middle ≤ i := by
        apply Decidable.byContradiction
        intro hnot
        exact hnotless (hlabel ▸ getElem_lt hascending (Nat.lt_of_not_le hnot) hmiddle)
      exact ih (by omega) hafter (by omega)
  | case3 first size hsize hfound =>
      have : i = first := by omega
      rw [this]
  | case4 first size hsize hnotfound =>
      have : i = first := by omega
      subst this
      exact absurd ⟨by omega, hi⟩ hnotfound

theorem position?_of_mem {labels : List String} {label : String}
    (hascending : labels.Pairwise (· < ·)) (hmem : label ∈ labels) :
    ∃ i, position? labels label = some i ∧ labels[i]? = some label := by
  rcases List.getElem?_of_mem hmem with ⟨i, hi⟩
  have hlt : i < labels.length := (List.getElem?_eq_some_iff.mp hi).1
  exact ⟨i, search_eq_some (by simpa using hascending) (by simp) (Nat.zero_le i)
    (by simpa using hlt) (by simpa using hi), hi⟩

end Labels
end Polyglot
