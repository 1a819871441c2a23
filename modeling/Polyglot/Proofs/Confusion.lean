import Mathlib.Data.List.Basic
import Mathlib.Data.List.Count
import Mathlib.Data.List.Zip
import Mathlib.Data.Prod.Basic
import Polyglot.Proofs.Report

/-!
# Confusion matrices

A report depends on the pairs of an expected and a predicted label through one matrix
of counts.  Every pair is counted in one place of the matrix, so its sums are those of
the pairs; the order of the pairs does not matter, and exchanging the two labels of each
pair transposes the matrix.
-/

namespace Polyglot
namespace Report

def trace (m : List (List Nat)) : Nat :=
  total ((List.range m.length).map fun i => entry m i i)

/-- All places lie in a matrix with `k` rows and columns. -/
def Inside (k : Nat) (places : List (Nat × Nat)) : Prop :=
  forall p, p ∈ places -> p.1 < k ∧ p.2 < k

section Matrix

variable {k : Nat} {places : List (Nat × Nat)} {i j : Nat}

theorem length_matrix : (matrix k places).length = k := by
  rw [matrix, List.length_map, List.length_range]

theorem length_of_mem_matrix {row : List Nat} (h : row ∈ matrix k places) : row.length = k := by
  rcases List.mem_map.mp h with ⟨i, _, rfl⟩
  rw [List.length_map, List.length_range]

theorem entry_matrix (hi : i < k) (hj : j < k) :
    entry (matrix k places) i j = places.count (i, j) := by
  simp [entry, matrix, hi, hj]

theorem entry_matrix_of_not_lt (h : ¬(i < k ∧ j < k)) : entry (matrix k places) i j = 0 := by
  by_cases hi : i < k
  · have hj : ¬j < k := fun hj => h ⟨hi, hj⟩
    simp [entry, matrix, hi, hj]
  · simp [entry, matrix, hi]

theorem total_map_count_range {xs : List Nat} (h : forall x, x ∈ xs -> x < k) :
    total ((List.range k).map fun i => xs.count i) = xs.length :=
  total_map_count_of_subset List.nodup_range fun x hx => List.mem_range.mpr (h x hx)

theorem rowSum_matrix_eq_count (h : Inside k places) (hi : i < k) :
    rowSum (matrix k places) i = (places.map Prod.fst).count i := by
  rw [rowSum_matrix (fun p hp => (h p hp).2) hi, List.count, List.countP_map]
  rfl

theorem map_total_matrix :
    (matrix k places).map total = (List.range k).map (rowSum (matrix k places)) := by
  apply List.ext_getElem?
  intro i
  by_cases hi : i < k
  · simp [rowSum, matrix, hi]
  · simp [matrix, hi]

theorem total_matrix (h : Inside k places) :
    total ((matrix k places).map total) = places.length := by
  have hfirst : forall x, x ∈ places.map Prod.fst -> x < k := by
    intro x hx
    rcases List.mem_map.mp hx with ⟨p, hp, rfl⟩
    exact (h p hp).1
  have hrows : (List.range k).map (rowSum (matrix k places)) =
      (List.range k).map fun i => (places.map Prod.fst).count i := by
    apply List.map_congr_left
    intro i hi
    exact rowSum_matrix_eq_count h (List.mem_range.mp hi)
  rw [map_total_matrix, hrows, total_map_count_range hfirst, List.length_map]

theorem trace_matrix (h : Inside k places) :
    trace (matrix k places) = places.countP fun p => p.1 == p.2 := by
  have hentries : (List.range (matrix k places).length).map (fun i => entry (matrix k places) i i) =
      ((List.range k).map fun i => (i, i)).map fun p => places.count p := by
    rw [length_matrix, List.map_map]
    apply List.map_congr_left
    intro i hi
    exact entry_matrix (List.mem_range.mp hi) (List.mem_range.mp hi)
  have hdistinct : ((List.range k).map fun i => (i, i)).Nodup :=
    List.nodup_range.map fun _ _ heq => congrArg Prod.fst heq
  rw [trace, hentries, total_map_count hdistinct]
  apply List.countP_congr
  rintro ⟨first, second⟩ hp
  simp only [List.contains_iff_mem, List.mem_map, List.mem_range, beq_iff_eq, Prod.mk.injEq]
  constructor
  · rintro ⟨i, _, rfl, rfl⟩
    rfl
  · rintro rfl
    exact ⟨first, (h _ hp).1, rfl, rfl⟩

/-!
## Exchange and order
-/

theorem count_swap (places : List (Nat × Nat)) (i j : Nat) :
    (places.map Prod.swap).count (i, j) = places.count (j, i) :=
  List.count_map_of_injective places Prod.swap Prod.swap_injective (j, i)

theorem entry_matrix_swap (i j : Nat) :
    entry (matrix k (places.map Prod.swap)) i j = entry (matrix k places) j i := by
  by_cases h : i < k ∧ j < k
  · rw [entry_matrix h.1 h.2, entry_matrix h.2 h.1, count_swap]
  · rw [entry_matrix_of_not_lt h, entry_matrix_of_not_lt fun h' => h h'.symm]

theorem columnSum_matrix (hj : j < k) :
    columnSum (matrix k places) j = total ((List.range k).map fun i => places.count (i, j)) := by
  rw [columnSum, matrix, List.map_map]
  congr 1
  apply List.map_congr_left
  intro i _
  simp [hj]

theorem rowSum_matrix_swap (hi : i < k) :
    rowSum (matrix k (places.map Prod.swap)) i = columnSum (matrix k places) i := by
  rw [columnSum_matrix hi, rowSum]
  simp [matrix, hi, count_swap]

theorem columnSum_matrix_swap (hi : i < k) :
    columnSum (matrix k (places.map Prod.swap)) i = rowSum (matrix k places) i := by
  rw [← rowSum_matrix_swap hi, List.map_map, Prod.swap_swap_eq, List.map_id]

theorem matrix_perm {others : List (Nat × Nat)} (h : others.Perm places) :
    matrix k others = matrix k places := by
  unfold matrix
  apply List.map_congr_left
  intro i _
  apply List.map_congr_left
  intro j _
  exact h.count_eq (i, j)

end Matrix

/-!
## Places of known labels
-/

def place (labels : List String) (pair : String × String) : Nat × Nat :=
  (labels.idxOf pair.1, labels.idxOf pair.2)

section Places

variable {labels : List String} {pairs : List (String × String)}

theorem index?_of_mem {label : String} (h : label ∈ labels) :
    index? labels label = .ok (labels.idxOf label) := by
  have hfound : labels.findIdx? (· == label) = some (labels.idxOf label) :=
    List.findIdx?_eq_some_iff_findIdx_eq.mpr ⟨List.idxOf_lt_length_of_mem h, rfl⟩
  rw [index?, hfound]

theorem index?_of_not_mem {label : String} (h : label ∉ labels) :
    index? labels label = .error (.unknownLabel label) := by
  have hnone : labels.findIdx? (· == label) = none := by
    rw [List.findIdx?_eq_none_iff]
    intro other hother
    rw [beq_eq_false_iff_ne]
    rintro rfl
    exact h hother
  rw [index?, hnone]

theorem indexPair_of_mem {pair : String × String} (h : pair.1 ∈ labels ∧ pair.2 ∈ labels) :
    indexPair labels pair = .ok (place labels pair) := by
  rw [indexPair, index?_of_mem h.1, index?_of_mem h.2]
  rfl

theorem of_indexPair_eq_error {pair : String × String} {e : ClassifierError}
    (h : indexPair labels pair = .error e) :
    ∃ label, e = .unknownLabel label ∧ label ∉ labels ∧ (label = pair.1 ∨ label = pair.2) := by
  unfold indexPair at h
  by_cases hfirst : pair.1 ∈ labels
  · by_cases hsecond : pair.2 ∈ labels
    · rw [index?_of_mem hfirst, index?_of_mem hsecond] at h
      cases h
    · rw [index?_of_mem hfirst, index?_of_not_mem hsecond] at h
      injection h with h
      exact ⟨pair.2, h.symm, hsecond, .inr rfl⟩
  · rw [index?_of_not_mem hfirst] at h
    injection h with h
    exact ⟨pair.1, h.symm, hfirst, .inl rfl⟩

theorem map_place_swap (labels : List String) (pairs : List (String × String)) :
    (pairs.map Prod.swap).map (place labels) = (pairs.map (place labels)).map Prod.swap := by
  rw [List.map_map, List.map_map]
  rfl

theorem mapM_indexPair_of_mem (h : forall p, p ∈ pairs -> p.1 ∈ labels ∧ p.2 ∈ labels) :
    pairs.mapM (indexPair labels) = .ok (pairs.map (place labels)) := by
  apply Attempts.mapM_eq_ok_of_forall₂
  rw [List.forall₂_map_right_iff, List.forall₂_same]
  exact fun p hp => indexPair_of_mem (h p hp)

theorem inside_map_place (h : forall p, p ∈ pairs -> p.1 ∈ labels ∧ p.2 ∈ labels) :
    Inside labels.length (pairs.map (place labels)) := by
  intro p hp
  rcases List.mem_map.mp hp with ⟨pair, hpair, rfl⟩
  exact ⟨List.idxOf_lt_length_of_mem (h pair hpair).1,
    List.idxOf_lt_length_of_mem (h pair hpair).2⟩

theorem countP_map_place (h : forall p, p ∈ pairs -> p.1 ∈ labels ∧ p.2 ∈ labels) :
    (pairs.map (place labels)).countP (fun p => p.1 == p.2) =
      pairs.countP fun p => p.1 == p.2 := by
  rw [List.countP_map]
  apply List.countP_congr
  intro p hp
  simp [place, List.idxOf_inj (h p hp).1]

end Places

/-!
## Reports on pairs
-/

/-- Two lists of labels that can be compared over the known ones. -/
structure Comparable (labels expected predicted : List String) : Prop where
  length_eq : expected.length = predicted.length
  expected_known : forall label, label ∈ expected -> label ∈ labels
  predicted_known : forall label, label ∈ predicted -> label ∈ labels

def ofPairs (labels : List String) (pairs : List (String × String)) (trainSize : Nat) : Report where
  accuracy := ratio (pairs.countP fun p => p.1 == p.2) pairs.length
  perLabel := labels.zipIdx.map fun p =>
    metrics (matrix labels.length (pairs.map (place labels))) p.1 p.2
  confusion := matrix labels.length (pairs.map (place labels))
  labels := labels
  trainSize := trainSize
  testSize := pairs.length

section Reports

variable {labels expected predicted : List String} {trainSize : Nat}

theorem Comparable.known (h : Comparable labels expected predicted) :
    forall p, p ∈ expected.zip predicted -> p.1 ∈ labels ∧ p.2 ∈ labels := by
  intro p hp
  rcases List.of_mem_zip hp with ⟨hfirst, hsecond⟩
  exact ⟨h.expected_known _ hfirst, h.predicted_known _ hsecond⟩

theorem Comparable.symm (h : Comparable labels expected predicted) :
    Comparable labels predicted expected :=
  ⟨h.length_eq.symm, h.predicted_known, h.expected_known⟩

theorem Comparable.length_zip (h : Comparable labels expected predicted) :
    (expected.zip predicted).length = expected.length := by
  rw [List.length_zip, ← h.length_eq, Nat.min_self]

theorem comparable_of_pairs {pairs : List (String × String)}
    (h : forall p, p ∈ pairs -> p.1 ∈ labels ∧ p.2 ∈ labels) :
    Comparable labels (pairs.map Prod.fst) (pairs.map Prod.snd) := by
  constructor
  · rw [List.length_map, List.length_map]
  · intro label hlabel
    rcases List.mem_map.mp hlabel with ⟨p, hp, rfl⟩
    exact (h p hp).1
  · intro label hlabel
    rcases List.mem_map.mp hlabel with ⟨p, hp, rfl⟩
    exact (h p hp).2

theorem ofPredictions_of_comparable (h : Comparable labels expected predicted) :
    ofPredictions labels expected predicted trainSize =
      .ok (ofPairs labels (expected.zip predicted) trainSize) := by
  unfold ofPredictions ofPairs
  rw [if_neg (not_not_intro h.length_eq)]
  dsimp only
  rw [mapM_indexPair_of_mem h.known, h.length_zip]
  rfl

/-- A comparison is refused for its lengths or for an unknown label, which it names. -/
theorem of_ofPredictions_eq_error {e : ClassifierError}
    (h : ofPredictions labels expected predicted trainSize = .error e) :
    e = .predictionCount expected.length predicted.length ∧ expected.length ≠ predicted.length ∨
      ∃ label, e = .unknownLabel label ∧ label ∉ labels ∧
        (label ∈ expected ∨ label ∈ predicted) := by
  unfold ofPredictions at h
  split at h
  · rename_i hlength
    injection h with h
    exact .inl ⟨h.symm, hlength⟩
  · dsimp only at h
    cases hindices : (expected.zip predicted).mapM (indexPair labels) with
    | ok indices =>
        rw [hindices] at h
        cases h
    | error e' =>
        rw [hindices] at h
        injection h with h
        subst h
        rcases Attempts.exists_of_mapM_eq_error hindices with ⟨pair, hpair, herror⟩
        rcases of_indexPair_eq_error herror with ⟨label, rfl, hunknown, heither⟩
        rcases List.of_mem_zip hpair with ⟨hfirst, hsecond⟩
        refine .inr ⟨label, rfl, hunknown, ?_⟩
        rcases heither with rfl | rfl
        · exact .inl hfirst
        · exact .inr hsecond

theorem comparable_of_ok {r : Report}
    (h : ofPredictions labels expected predicted trainSize = .ok r) :
    Comparable labels expected predicted := by
  rcases of_ofPredictions h with ⟨hlength, _, _, _, indices, hindices, _⟩
  have hknown : forall p, p ∈ expected.zip predicted -> p.1 ∈ labels ∧ p.2 ∈ labels := by
    intro p hp
    rcases Attempts.exists_mapM_eq_ok_iff.mp ⟨indices, hindices⟩ p hp with ⟨indices, hpair⟩
    exact ⟨List.mem_of_getElem? (getElem?_of_index? (of_indexPair hpair).1),
      List.mem_of_getElem? (getElem?_of_index? (of_indexPair hpair).2)⟩
  have hcomparable := comparable_of_pairs hknown
  rwa [List.map_fst_zip (Nat.le_of_eq hlength), List.map_snd_zip (Nat.le_of_eq hlength.symm)]
    at hcomparable

theorem ofPredictions_eq_ok_iff {r : Report} :
    ofPredictions labels expected predicted trainSize = .ok r ↔
      Comparable labels expected predicted ∧
        r = ofPairs labels (expected.zip predicted) trainSize := by
  constructor
  · intro h
    have hcomparable := comparable_of_ok h
    rw [ofPredictions_of_comparable hcomparable] at h
    injection h with h
    exact ⟨hcomparable, h.symm⟩
  · rintro ⟨hcomparable, rfl⟩
    exact ofPredictions_of_comparable hcomparable

theorem exists_error_iff :
    (∃ e, ofPredictions labels expected predicted trainSize = .error e) ↔
      ¬Comparable labels expected predicted := by
  constructor
  · rintro ⟨e, h⟩ hcomparable
    rw [ofPredictions_of_comparable hcomparable] at h
    cases h
  · intro hnot
    cases h : ofPredictions labels expected predicted trainSize with
    | error e => exact ⟨e, rfl⟩
    | ok r => exact absurd (comparable_of_ok h) hnot

/-!
## Accounts
-/

/-- How the numbers of a report come from the labels that were compared. -/
structure Accounts (labels expected predicted : List String) (r : Report) : Prop where
  labels_eq : r.labels = labels
  testSize_eq : r.testSize = expected.length
  square : r.confusion.length = labels.length ∧
    forall row, row ∈ r.confusion -> row.length = labels.length
  entry_eq : forall i j, i < labels.length -> j < labels.length ->
    entry r.confusion i j = (expected.zip predicted).countP fun p =>
      labels.idxOf p.1 = i ∧ labels.idxOf p.2 = j
  total_eq : total (r.confusion.map total) = r.testSize
  trace_eq : trace r.confusion = (expected.zip predicted).countP fun p => p.1 = p.2
  accuracy_eq : r.accuracy = ratio (trace r.confusion) r.testSize
  names_eq : r.perLabel.map LabelMetrics.label = labels
  support_eq : forall i m, r.perLabel[i]? = some m -> m.support = rowSum r.confusion i
  total_support : total (r.perLabel.map LabelMetrics.support) = r.testSize
  precision_eq : forall i m, r.perLabel[i]? = some m ->
    m.precision = ratio (entry r.confusion i i) (columnSum r.confusion i)
  precision_zero : forall i m, r.perLabel[i]? = some m ->
    columnSum r.confusion i = 0 -> m.precision = 0
  sensitivity_eq : forall i m, r.perLabel[i]? = some m ->
    m.sensitivity = ratio (entry r.confusion i i) (rowSum r.confusion i)
  sensitivity_zero : forall i m, r.perLabel[i]? = some m ->
    rowSum r.confusion i = 0 -> m.sensitivity = 0

/-- Two reports of which one has the roles of expected and predicted labels exchanged. -/
structure Exchanged (r s : Report) : Prop where
  entry_eq : forall i j, entry s.confusion i j = entry r.confusion j i
  precision_eq : s.perLabel.map LabelMetrics.precision = r.perLabel.map LabelMetrics.sensitivity
  sensitivity_eq : s.perLabel.map LabelMetrics.sensitivity = r.perLabel.map LabelMetrics.precision

theorem ratio_zero (n : Nat) : ratio n 0 = 0 :=
  rfl

theorem metrics_of_perLabel {pairs : List (String × String)} {i : Nat} {m : LabelMetrics}
    (h : (ofPairs labels pairs trainSize).perLabel[i]? = some m) :
    ∃ label, m = metrics (ofPairs labels pairs trainSize).confusion label i := by
  simp only [ofPairs, List.getElem?_map, List.getElem?_zipIdx, Option.map_eq_some_iff,
    Nat.zero_add] at h
  rcases h with ⟨_, ⟨label, _, rfl⟩, rfl⟩
  exact ⟨label, rfl⟩

theorem map_perLabel {α : Type} {f : LabelMetrics → α} {g : Nat → α}
    (pairs : List (String × String))
    (h : forall label i,
      f (metrics (matrix labels.length (pairs.map (place labels))) label i) = g i) :
    (ofPairs labels pairs trainSize).perLabel.map f = (List.range labels.length).map g := by
  apply List.ext_getElem?
  intro i
  rw [ofPairs, List.map_map, List.getElem?_map, List.getElem?_map, List.getElem?_zipIdx]
  by_cases hi : i < labels.length
  · simp [hi, h]
  · simp [hi]

theorem supports_ofPairs (pairs : List (String × String)) :
    (ofPairs labels pairs trainSize).perLabel.map LabelMetrics.support =
      (List.range labels.length).map
        (rowSum (matrix labels.length (pairs.map (place labels)))) :=
  map_perLabel pairs fun _ _ => rfl

theorem precisions_ofPairs (pairs : List (String × String)) :
    (ofPairs labels pairs trainSize).perLabel.map LabelMetrics.precision =
      (List.range labels.length).map fun i =>
        ratio (entry (matrix labels.length (pairs.map (place labels))) i i)
          (columnSum (matrix labels.length (pairs.map (place labels))) i) :=
  map_perLabel pairs fun _ _ => rfl

theorem sensitivities_ofPairs (pairs : List (String × String)) :
    (ofPairs labels pairs trainSize).perLabel.map LabelMetrics.sensitivity =
      (List.range labels.length).map fun i =>
        ratio (entry (matrix labels.length (pairs.map (place labels))) i i)
          (rowSum (matrix labels.length (pairs.map (place labels))) i) :=
  map_perLabel pairs fun _ _ => rfl

theorem trace_ofPairs (h : Comparable labels expected predicted) :
    trace (ofPairs labels (expected.zip predicted) trainSize).confusion =
      (expected.zip predicted).countP fun p => p.1 == p.2 :=
  (trace_matrix (inside_map_place h.known)).trans (countP_map_place h.known)

theorem entry_ofPairs {pairs : List (String × String)} {i j : Nat} (hi : i < labels.length)
    (hj : j < labels.length) :
    entry (ofPairs labels pairs trainSize).confusion i j =
      pairs.countP fun p => labels.idxOf p.1 = i ∧ labels.idxOf p.2 = j := by
  show entry (matrix labels.length (pairs.map (place labels))) i j = _
  rw [entry_matrix hi hj, List.count, List.countP_map]
  apply List.countP_congr
  intro p _
  simp [place]

theorem total_ofPairs (h : Comparable labels expected predicted) :
    total ((ofPairs labels (expected.zip predicted) trainSize).confusion.map total) =
      (expected.zip predicted).length :=
  (total_matrix (inside_map_place h.known)).trans (List.length_map _)

theorem accounts_ofPairs (h : Comparable labels expected predicted) :
    Accounts labels expected predicted (ofPairs labels (expected.zip predicted) trainSize) where
  labels_eq := rfl
  testSize_eq := h.length_zip
  square := ⟨length_matrix, fun _ => length_of_mem_matrix⟩
  entry_eq _ _ := entry_ofPairs
  total_eq := total_ofPairs h
  trace_eq := (trace_ofPairs h).trans (List.countP_congr fun p _ => by simp)
  accuracy_eq := by
    rw [trace_ofPairs h]
    rfl
  names_eq := by
    rw [ofPairs, List.map_map]
    exact List.zipIdx_map_fst 0 labels
  support_eq i m hm := by
    rcases metrics_of_perLabel hm with ⟨label, rfl⟩
    rfl
  total_support := by
    rw [supports_ofPairs, ← map_total_matrix]
    exact @total_ofPairs labels expected predicted trainSize h
  precision_eq i m hm := by
    rcases metrics_of_perLabel hm with ⟨label, rfl⟩
    rfl
  precision_zero i m hm hzero := by
    rcases metrics_of_perLabel hm with ⟨label, rfl⟩
    exact (congrArg (ratio _) hzero).trans (ratio_zero _)
  sensitivity_eq i m hm := by
    rcases metrics_of_perLabel hm with ⟨label, rfl⟩
    rfl
  sensitivity_zero i m hm hzero := by
    rcases metrics_of_perLabel hm with ⟨label, rfl⟩
    exact (congrArg (ratio _) hzero).trans (ratio_zero _)

theorem exchanged_ofPairs (pairs : List (String × String)) :
    Exchanged (ofPairs labels pairs trainSize)
      (ofPairs labels (pairs.map Prod.swap) trainSize) where
  entry_eq i j := by
    show entry (matrix _ ((pairs.map Prod.swap).map (place labels))) i j = _
    rw [map_place_swap]
    exact entry_matrix_swap i j
  precision_eq := by
    rw [precisions_ofPairs, sensitivities_ofPairs, map_place_swap]
    apply List.map_congr_left
    intro i hi
    rw [entry_matrix_swap, columnSum_matrix_swap (List.mem_range.mp hi)]
  sensitivity_eq := by
    rw [precisions_ofPairs, sensitivities_ofPairs, map_place_swap]
    apply List.map_congr_left
    intro i hi
    rw [entry_matrix_swap, rowSum_matrix_swap (List.mem_range.mp hi)]

theorem ofPairs_perm {pairs others : List (String × String)} (h : others.Perm pairs) :
    ofPairs labels others trainSize = ofPairs labels pairs trainSize := by
  unfold ofPairs
  rw [matrix_perm (h.map (place labels)), h.countP_eq, h.length_eq]

theorem not_comparable_iff :
    ¬Comparable labels expected predicted ↔
      expected.length ≠ predicted.length ∨
        ∃ label, (label ∈ expected ∨ label ∈ predicted) ∧ label ∉ labels := by
  constructor
  · intro hnot
    apply Classical.byContradiction
    intro hfalse
    apply hnot
    constructor
    · exact Decidable.not_not.mp fun hne => hfalse (.inl hne)
    · intro label hlabel
      exact Decidable.not_not.mp fun hnew => hfalse (.inr ⟨label, .inl hlabel, hnew⟩)
    · intro label hlabel
      exact Decidable.not_not.mp fun hnew => hfalse (.inr ⟨label, .inr hlabel, hnew⟩)
  · intro h hcomparable
    cases h with
    | inl hlength => exact hlength hcomparable.length_eq
    | inr hunknown =>
        rcases hunknown with ⟨label, hexpected | hpredicted, hnew⟩
        · exact hnew (hcomparable.expected_known label hexpected)
        · exact hnew (hcomparable.predicted_known label hpredicted)

end Reports

/--
A comparison is refused, as an invalid input, exactly if the lists differ in length or
hold an unknown label.  Otherwise the numbers of the report are those of the pairs, each
counted where its labels first occur among the known ones; exchanging expectations and
predictions transposes the matrix and exchanges precision and recall, and the order of
the pairs makes no difference.
-/
theorem comparison_accounts (labels expected predicted : List String) (trainSize : Nat) :
    ((∃ e, ofPredictions labels expected predicted trainSize = .error e) ↔
      expected.length ≠ predicted.length ∨
        ∃ label, (label ∈ expected ∨ label ∈ predicted) ∧ label ∉ labels) ∧
    (forall e, ofPredictions labels expected predicted trainSize = .error e ->
      e.kind = .validation) ∧
    forall r, ofPredictions labels expected predicted trainSize = .ok r ->
      Accounts labels expected predicted r ∧
      (∃ s, ofPredictions labels predicted expected trainSize = .ok s ∧
        Accounts labels predicted expected s ∧ Exchanged r s) ∧
      forall others : List (String × String), others.Perm (expected.zip predicted) ->
        ofPredictions labels (others.map Prod.fst) (others.map Prod.snd) trainSize = .ok r := by
  constructor
  · exact exists_error_iff.trans not_comparable_iff
  constructor
  · intro e he
    cases of_ofPredictions_eq_error he with
    | inl hlength =>
        rw [hlength.1]
        rfl
    | inr hunknown =>
        rcases hunknown with ⟨label, heq, _⟩
        rw [heq]
        rfl
  intro r hr
  rcases ofPredictions_eq_ok_iff.mp hr with ⟨hcomparable, hreport⟩
  rw [hreport]
  constructor
  · exact accounts_ofPairs hcomparable
  constructor
  · have hzip : predicted.zip expected = (expected.zip predicted).map Prod.swap :=
      (List.zip_swap expected predicted).symm
    exists ofPairs labels (predicted.zip expected) trainSize
    constructor
    · exact ofPredictions_of_comparable hcomparable.symm
    constructor
    · exact accounts_ofPairs hcomparable.symm
    · rw [hzip]
      exact exchanged_ofPairs _
  · intro others hothers
    have hknown : forall p, p ∈ others -> p.1 ∈ labels ∧ p.2 ∈ labels := by
      intro p hp
      exact hcomparable.known p (hothers.mem_iff.mp hp)
    have hsame : (others.map Prod.fst).zip (others.map Prod.snd) = others := by
      rw [List.zip_map']
      exact List.map_id others
    rw [ofPredictions_of_comparable (comparable_of_pairs hknown), hsame, ofPairs_perm hothers]

/-- A label that is known twice is counted where it stands first. -/
theorem comparison_accounts_repeated :
    ∃ r, ofPredictions ["x", "y", "x"] ["x", "y", "x"] ["x", "x", "y"] 0 = .ok r ∧
      r.confusion = [[1, 1, 0], [1, 0, 0], [0, 0, 0]] ∧ r.accuracy = ratio 1 3 ∧
      ofPredictions ["x", "y", "x"] ["x", "x", "y"] ["y", "x", "x"] 0 = .ok r := by
  have hcomparable : Comparable ["x", "y", "x"] ["x", "y", "x"] ["x", "x", "y"] := by
    constructor <;> decide
  have hreport := @ofPredictions_of_comparable _ _ _ 0 hcomparable
  rcases (comparison_accounts _ _ _ _).2.2 _ hreport with ⟨haccounts, _, hothers⟩
  exact ⟨_, hreport, by decide, haccounts.accuracy_eq,
    hothers [("x", "y"), ("x", "x"), ("y", "x")] (by decide)⟩

end Report
end Polyglot
