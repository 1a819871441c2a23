import Mathlib.Data.List.Nodup
import Polyglot.Evaluation.Report
import Polyglot.Proofs.Attempts

/-!
# Reports

Known labels can always be compared, and the support of a label is the number of
times it is expected.
-/

namespace Polyglot
namespace Report

theorem total_map_count {α : Type} [BEq α] [LawfulBEq α] {items xs : List α}
    (h : items.Nodup) :
    total (items.map fun item => xs.count item) = xs.countP fun x => items.contains x := by
  induction items with
  | nil => simp [total]
  | cons item items ih =>
      rcases List.nodup_cons.mp h with ⟨hnew, hitems⟩
      show xs.count item + total (items.map fun item => xs.count item) = _
      rw [ih hitems]
      clear ih h
      induction xs with
      | nil => rfl
      | cons x xs ih =>
          rw [List.count_cons, List.countP_cons, List.countP_cons, ← ih]
          by_cases heq : x = item
          · subst heq
            simp [hnew]
            omega
          · simp [heq]
            omega

theorem total_map_count_of_subset {α : Type} [BEq α] [LawfulBEq α] {items xs : List α}
    (h : items.Nodup) (hxs : forall x, x ∈ xs -> x ∈ items) :
    total (items.map fun item => xs.count item) = xs.length := by
  rw [total_map_count h, List.countP_eq_length]
  intro x hx
  simpa using hxs x hx

theorem rowSum_matrix {k : Nat} {pairs : List (Nat × Nat)}
    (h : forall p, p ∈ pairs -> p.2 < k) {i : Nat} (hi : i < k) :
    rowSum (matrix k pairs) i = pairs.countP fun p => p.1 == i := by
  have hrow : (matrix k pairs).getD i [] =
      ((List.range k).map fun j => (i, j)).map fun pair => pairs.count pair := by
    simp [matrix, hi]
  have hdistinct : ((List.range k).map fun j => (i, j)).Nodup := by
    apply List.pairwise_map.mpr
    apply List.nodup_range.imp
    intro a b hne heq
    injection heq with _ heq
    exact hne heq
  rw [rowSum, hrow, total_map_count hdistinct]
  apply List.countP_congr
  intro p hp
  rcases p with ⟨first, second⟩
  have hsecond := h _ hp
  simp only [List.contains_iff_mem, List.mem_map, List.mem_range, beq_iff_eq]
  constructor
  · rintro ⟨j, _, heq⟩
    injection heq with heq _
    exact heq.symm
  · intro heq
    exact ⟨second, hsecond, by rw [heq]⟩

/-!
## Places of labels
-/

theorem index?_eq_ok {labels : List String} {label : String} (h : label ∈ labels) :
    ∃ i, index? labels label = .ok i := by
  have hsome : (labels.findIdx? (· == label)).isSome = true := by
    rw [List.findIdx?_isSome, List.any_eq_true]
    exact ⟨label, h, beq_self_eq_true label⟩
  rcases Option.isSome_iff_exists.mp hsome with ⟨i, hi⟩
  exact ⟨i, by rw [index?, hi]⟩

theorem getElem?_of_index? {labels : List String} {label : String} {i : Nat}
    (h : index? labels label = .ok i) : labels[i]? = some label := by
  unfold index? at h
  split at h
  · rename_i j hj
    injection h with h
    subst h
    rcases List.findIdx?_eq_some_iff_getElem.mp hj with ⟨hlt, heq, _⟩
    rw [List.getElem?_eq_getElem hlt, eq_of_beq heq]
  · cases h

theorem index?_eq_ok_iff {labels : List String} (hnodup : labels.Nodup) {label : String}
    {i j : Nat} {other : String} (hother : labels[i]? = some other)
    (h : index? labels label = .ok j) : j = i ↔ label = other := by
  have hlabel := getElem?_of_index? h
  constructor
  · rintro rfl
    exact Option.some.inj (hlabel.symm.trans hother)
  · rintro rfl
    rcases List.getElem?_eq_some_iff.mp hlabel with ⟨hj, hjlabel⟩
    rcases List.getElem?_eq_some_iff.mp hother with ⟨hi, hilabel⟩
    exact (List.Nodup.getElem_inj_iff hnodup).mp (hjlabel.trans hilabel.symm)

theorem of_indexPair {labels : List String} {pair : String × String} {indices : Nat × Nat}
    (h : indexPair labels pair = .ok indices) :
    index? labels pair.1 = .ok indices.1 ∧ index? labels pair.2 = .ok indices.2 := by
  unfold indexPair at h
  cases hfirst : index? labels pair.1 with
  | error e =>
      rw [hfirst] at h
      cases h
  | ok i =>
      cases hsecond : index? labels pair.2 with
      | error e =>
          rw [hfirst, hsecond] at h
          cases h
      | ok j =>
          rw [hfirst, hsecond] at h
          injection h with h
          subst h
          exact ⟨rfl, rfl⟩

theorem indexPair_eq_ok {labels : List String} {pair : String × String}
    (hfirst : pair.1 ∈ labels) (hsecond : pair.2 ∈ labels) :
    ∃ indices, indexPair labels pair = .ok indices := by
  rcases index?_eq_ok hfirst with ⟨i, hi⟩
  rcases index?_eq_ok hsecond with ⟨j, hj⟩
  refine ⟨(i, j), ?_⟩
  rw [indexPair, hi, hj]
  rfl

/-!
## Reports of known labels
-/

theorem exists_ofPredictions {labels expected predicted : List String}
    (hlength : expected.length = predicted.length)
    (hexpected : forall label, label ∈ expected -> label ∈ labels)
    (hpredicted : forall label, label ∈ predicted -> label ∈ labels) (trainSize : Nat) :
    ∃ r, ofPredictions labels expected predicted trainSize = .ok r := by
  have hpairs : ∃ indices, (expected.zip predicted).mapM (indexPair labels) = .ok indices ∧
      List.Forall₂ (fun _ _ => True) (expected.zip predicted) indices :=
    Attempts.exists_mapM_eq_ok fun pair hpair => by
      rcases List.of_mem_zip hpair with ⟨hfirst, hsecond⟩
      rcases indexPair_eq_ok (hexpected _ hfirst) (hpredicted _ hsecond) with ⟨indices, h⟩
      exact ⟨indices, h, trivial⟩
  rcases hpairs with ⟨indices, hindices, _⟩
  unfold ofPredictions
  rw [if_neg (not_not_intro hlength)]
  dsimp only
  rw [hindices]
  exact ⟨_, rfl⟩

theorem of_ofPredictions {labels expected predicted : List String} {trainSize : Nat}
    {r : Report} (h : ofPredictions labels expected predicted trainSize = .ok r) :
    expected.length = predicted.length ∧ r.labels = labels ∧ r.trainSize = trainSize ∧
      r.testSize = expected.length ∧
      ∃ indices, (expected.zip predicted).mapM (indexPair labels) = .ok indices ∧
        r.perLabel = labels.zipIdx.map fun p =>
          metrics (matrix labels.length indices) p.1 p.2 := by
  unfold ofPredictions at h
  split at h
  · cases h
  · rename_i hlength
    dsimp only at h
    cases hindices : (expected.zip predicted).mapM (indexPair labels) with
    | error e =>
        rw [hindices] at h
        cases h
    | ok indices =>
        rw [hindices] at h
        injection h with h
        subst h
        exact ⟨Decidable.not_not.mp hlength, rfl, rfl, rfl, indices, rfl, rfl⟩

theorem countP_first {labels : List String} (hnodup : labels.Nodup) {i : Nat} {label : String}
    (hlabel : labels[i]? = some label) {expected predicted : List String}
    (hlength : expected.length = predicted.length) {indices : List (Nat × Nat)}
    (h : (expected.zip predicted).mapM (indexPair labels) = .ok indices) :
    indices.countP (fun p => p.1 == i) = expected.count label := by
  induction expected generalizing predicted indices with
  | nil =>
      injection h with h
      subst h
      rfl
  | cons first expected ih =>
      cases predicted with
      | nil => cases hlength
      | cons second predicted =>
          rw [List.zip_cons_cons] at h
          rcases Attempts.exists_of_mapM_cons_eq_ok h with ⟨p, rest, rfl, hp, hrest⟩
          rw [List.countP_cons, List.count_cons, ih (Nat.succ.inj hlength) hrest]
          have hsame := index?_eq_ok_iff hnodup hlabel (of_indexPair hp).1
          by_cases heq : first = label
          · rw [if_pos (by simpa using hsame.mpr heq), if_pos (by simpa using heq)]
          · rw [if_neg (by simpa using fun hp => heq (hsame.mp hp)), if_neg (by simpa using heq)]

theorem supports_eq {labels expected predicted : List String} {trainSize : Nat} {r : Report}
    (hnodup : labels.Nodup) (h : ofPredictions labels expected predicted trainSize = .ok r) :
    r.perLabel.map (fun m => (m.label, m.support)) =
      labels.map fun label => (label, expected.count label) := by
  rcases of_ofPredictions h with ⟨hlength, _, _, _, indices, hindices, hperLabel⟩
  have hsecond : forall p, p ∈ indices -> p.2 < labels.length := by
    intro p hp
    rcases Attempts.exists_of_mem_mapM hindices hp with ⟨pair, _, hpair⟩
    exact (List.getElem?_eq_some_iff.mp (getElem?_of_index? (of_indexPair hpair).2)).1
  rw [hperLabel, List.map_map]
  apply List.ext_getElem?
  intro i
  rw [List.getElem?_map, List.getElem?_map, List.getElem?_zipIdx]
  cases hlabel : labels[i]? with
  | none => rfl
  | some label =>
      have hi := (List.getElem?_eq_some_iff.mp hlabel).1
      have hsupport : rowSum (matrix labels.length indices) i = expected.count label := by
        rw [rowSum_matrix hsecond hi, countP_first hnodup hlabel hlength hindices]
      simp [metrics, hsupport]

end Report
end Polyglot
