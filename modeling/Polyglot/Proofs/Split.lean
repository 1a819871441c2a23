import Mathlib.Data.List.Perm.Basic
import Polyglot.Evaluation.Split
import Polyglot.Proofs.Labels

/-!
# Stratified splits

Shuffling loses no row, so the two parts of a split hold every row once, and
every label gives its quota to the test rows and at least one row to either
part.
-/

namespace Polyglot

namespace Chance

theorem putAt_perm (xs : List α) (place : Nat) (x : α) :
    (putAt xs place x).Perm (x :: xs) := by
  unfold putAt
  split
  · rename_i y hy
    rcases List.getElem?_eq_some_iff.mp hy with ⟨hlt, rfl⟩
    calc xs.set place x ++ [xs[place]]
      _ |>.Perm (xs[place] :: xs.set place x) := List.perm_append_singleton ..
      _ |>.Perm (xs[place] :: x :: xs.eraseIdx place) :=
          (List.set_perm_cons_eraseIdx hlt x).cons _
      _ |>.Perm (x :: xs[place] :: xs.eraseIdx place) := List.Perm.swap ..
      _ |>.Perm (x :: xs) := (List.getElem_cons_eraseIdx_perm hlt).cons _
  · exact List.perm_append_singleton x xs

theorem shuffleInto_perm (placed : List α) (source : PlaceSource) (g : Generator)
    (xs : List α) : (shuffleInto placed source g xs).1.Perm (placed ++ xs) := by
  induction xs generalizing placed source g with
  | nil => simp [shuffleInto]
  | cons x xs ih =>
      unfold shuffleInto
      apply (ih _ _ _).trans
      apply ((putAt_perm placed _ x).append_right xs).trans
      exact List.perm_middle.symm

theorem shuffle_perm (xs : List α) (g : Generator) : (shuffle xs g).1.Perm xs := by
  unfold shuffle
  split
  · exact List.Perm.refl xs
  · exact shuffleInto_perm [] .start g xs

end Chance

namespace Split

/-!
## Quotas
-/

theorem one_le_quota (n : Nat) (share : Float32) : 1 ≤ quota n share := by
  unfold quota
  omega

theorem quota_lt {n : Nat} (h : 2 ≤ n) (share : Float32) : quota n share < n := by
  unfold quota
  omega

/-!
## Drawing
-/

def IsCut (share : Float32) (rows : List Nat) (parts : List Nat × List Nat) : Prop :=
  (parts.1 ++ parts.2).Perm rows ∧ parts.1.length = quota rows.length share

theorem draw_isCut (share : Float32) (groups : List (List Nat)) (g : Chance.Generator)
    (hsize : forall rows, rows ∈ groups -> 2 ≤ rows.length) :
    List.Forall₂ (IsCut share) groups (draw share groups g) := by
  induction groups generalizing g with
  | nil => exact List.Forall₂.nil
  | cons rows groups ih =>
      have hperm := Chance.shuffle_perm rows g
      have hquota := quota_lt (hsize rows List.mem_cons_self) share
      rcases hshuffle : Chance.shuffle rows g with ⟨shuffled, next⟩
      rw [hshuffle] at hperm
      simp only [draw, hshuffle, List.splitAt_eq]
      constructor
      · constructor
        · simpa using hperm
        · rw [List.length_take, hperm.length_eq]
          omega
      · exact ih _ fun rows hrows => hsize rows (List.mem_cons_of_mem _ hrows)

theorem flatten_parts_perm {share : Float32} {groups : List (List Nat)}
    {parts : List (List Nat × List Nat)} (h : List.Forall₂ (IsCut share) groups parts) :
    (parts.flatMap Prod.snd ++ parts.flatMap Prod.fst).Perm groups.flatten := by
  induction h with
  | nil => exact List.Perm.refl []
  | @cons rows part groups parts hcut _ ih =>
      calc (part :: parts).flatMap Prod.snd ++ (part :: parts).flatMap Prod.fst
        _ |>.Perm (part.2 ++ (parts.flatMap Prod.snd ++ (part.1 ++ parts.flatMap Prod.fst))) := by
            simp
        _ |>.Perm (part.2 ++ (part.1 ++ (parts.flatMap Prod.snd ++ parts.flatMap Prod.fst))) :=
            List.Perm.append_left _ (List.perm_append_comm_assoc ..)
        _ |>.Perm (part.1 ++ part.2 ++ (parts.flatMap Prod.snd ++ parts.flatMap Prod.fst)) := by
            rw [← List.append_assoc]
            exact List.perm_append_comm.append_right _
        _ |>.Perm (rows ++ groups.flatten) := hcut.1.append ih

/-!
## The groups of a list of labels
-/

theorem mem_groups {labels : List String} {i : Nat} :
    i ∈ ((Labels.distinct labels).map fun label => Labels.positions label labels).flatten ↔
      i < labels.length := by
  simp only [List.mem_flatten, List.mem_map, exists_exists_and_eq_and, Labels.mem_positions,
    Labels.mem_distinct]
  constructor
  · rintro ⟨label, _, hlabel⟩
    exact (List.getElem?_eq_some_iff.mp hlabel).1
  · intro hi
    exact ⟨labels[i], List.getElem_mem hi, List.getElem?_eq_getElem hi⟩

theorem nodup_groups (labels : List String) {kept : List String} (h : kept.Nodup) :
    (kept.map fun label => Labels.positions label labels).flatten.Nodup := by
  induction kept with
  | nil => exact List.Pairwise.nil
  | cons label kept ih =>
      rcases List.nodup_cons.mp h with ⟨hnew, hkept⟩
      rw [List.map_cons, List.flatten_cons, List.nodup_append]
      refine ⟨Labels.nodup_positions label labels, ih hkept, ?_⟩
      intro i hi j hj heq
      subst heq
      simp only [List.mem_flatten, List.mem_map, exists_exists_and_eq_and] at hj
      rcases hj with ⟨other, hother, hj⟩
      have hsame : some label = some other :=
        (Labels.mem_positions.mp hi).symm.trans (Labels.mem_positions.mp hj)
      injection hsame with hsame
      exact hnew (hsame ▸ hother)

theorem groups_perm_range (labels : List String) :
    ((Labels.distinct labels).map fun label => Labels.positions label labels).flatten.Perm
      (List.range labels.length) := by
  apply (List.perm_ext_iff_of_nodup (nodup_groups labels (Labels.nodup_distinct labels))
    List.nodup_range).mpr
  intro i
  rw [mem_groups, List.mem_range]

/-!
## Test rows of a label
-/

def carrying (labels : List String) (label : String) (rows : List Nat) : Nat :=
  rows.countP fun i => labels[i]? == some label

theorem carrying_positions_of_ne {labels : List String} {label other : String}
    (h : other ≠ label) {rows : List Nat}
    (hrows : forall i, i ∈ rows -> i ∈ Labels.positions other labels) :
    carrying labels label rows = 0 := by
  apply List.countP_eq_zero.mpr
  intro i hi
  rw [Labels.mem_positions.mp (hrows i hi)]
  simpa using h

theorem carrying_positions_self {labels : List String} {label : String} {rows : List Nat}
    (hrows : forall i, i ∈ rows -> i ∈ Labels.positions label labels) :
    carrying labels label rows = rows.length := by
  apply List.countP_eq_length.mpr
  intro i hi
  rw [Labels.mem_positions.mp (hrows i hi)]
  simp

theorem carrying_tests {share : Float32} {labels : List String} (label : String)
    {kept : List String} (hnodup : kept.Nodup) {parts : List (List Nat × List Nat)}
    (hcut : List.Forall₂ (IsCut share)
      (kept.map fun label => Labels.positions label labels) parts) :
    carrying labels label (parts.flatMap Prod.fst) =
      if label ∈ kept then quota (labels.count label) share else 0 := by
  induction kept generalizing parts with
  | nil =>
      cases hcut
      rfl
  | cons other kept ih =>
      rcases List.nodup_cons.mp hnodup with ⟨hnew, hkept⟩
      cases hcut with
      | @cons _ part _ parts hhead htail =>
          have hsub : forall i, i ∈ part.1 -> i ∈ Labels.positions other labels :=
            fun i hi => hhead.1.subset (List.mem_append_left _ hi)
          have hrest := ih hkept htail
          rw [List.flatMap_cons, carrying, List.countP_append]
          show carrying labels label part.1 + carrying labels label _ = _
          rw [hrest]
          by_cases heq : other = label
          · subst heq
            rw [carrying_positions_self hsub, hhead.2, Labels.length_positions]
            simp [hnew]
          · rw [carrying_positions_of_ne heq hsub]
            simp [Ne.symm heq]

/-!
## The split of a list of labels
-/

/-- What a stratified split promises: all rows once, in order, and a quota for every label. -/
structure Stratifies (labels : List String) (share : Float32) (split : Split) : Prop where
  rows_perm : (split.train ++ split.test).Perm (List.range labels.length)
  ascending_train : split.train.Pairwise (· < ·)
  ascending_test : split.test.Pairwise (· < ·)
  carrying_test : forall label, label ∈ labels ->
    carrying labels label split.test = quota (labels.count label) share

theorem ascending_perm (rows : List Nat) : (ascending rows).Perm rows :=
  List.mergeSort_perm rows _

theorem pairwise_ascending {rows : List Nat} (h : rows.Nodup) :
    (ascending rows).Pairwise (· < ·) := by
  have hsorted : (ascending rows).Pairwise fun a b => decide (a ≤ b) = true := by
    apply List.pairwise_mergeSort
    · intro a b c
      simpa using Nat.le_trans
    · intro a b
      simpa using Nat.le_total a b
  have hnodup : (ascending rows).Nodup := (ascending_perm rows).nodup_iff.mpr h
  apply hsorted.imp₂ _ hnodup
  intro a b hle hne
  exact Nat.lt_of_le_of_ne (by simpa using hle) hne

/-- Labels that a split can serve: two of them, and two rows of each. -/
structure Divisible (labels : List String) : Prop where
  two_labels : 2 ≤ (Labels.distinct labels).length
  two_rows : forall label, label ∈ labels -> 2 ≤ labels.count label

theorem Divisible.labels_ne_nil {labels : List String} (h : Divisible labels) : labels ≠ [] := by
  rintro rfl
  exact absurd h.two_labels (by decide)

theorem find?_rare_eq_none {labels : List String} (h : Divisible labels) :
    ((Labels.distinct labels).find? fun label => decide (labels.count label < 2)) = none := by
  apply List.find?_eq_none.mpr
  intro label hlabel
  have := h.two_rows label (Labels.mem_distinct.mp hlabel)
  rw [decide_eq_true_eq]
  exact Nat.not_lt.mpr this

theorem stratified_eq {labels : List String} (h : Divisible labels) (share : Float32)
    (seed : UInt64) :
    stratified labels share seed =
      let parts := draw share
        ((Labels.distinct labels).map fun label => Labels.positions label labels) (.ofSeed seed)
      .ok ⟨ascending (parts.flatMap Prod.snd), ascending (parts.flatMap Prod.fst)⟩ := by
  unfold stratified
  rw [if_neg (Nat.not_lt.mpr h.two_labels), find?_rare_eq_none h]

theorem stratified_of_divisible {labels : List String} (h : Divisible labels)
    (share : Float32) (seed : UInt64) :
    ∃ split, stratified labels share seed = .ok split ∧ Stratifies labels share split := by
  have hsizes : forall rows,
      rows ∈ (Labels.distinct labels).map (fun label => Labels.positions label labels) ->
        2 ≤ rows.length := by
    intro rows hrows
    rcases List.mem_map.mp hrows with ⟨label, hlabel, rfl⟩
    rw [Labels.length_positions]
    exact h.two_rows label (Labels.mem_distinct.mp hlabel)
  have hcut := draw_isCut share _ (.ofSeed seed) hsizes
  have hflat := (flatten_parts_perm hcut).trans (groups_perm_range labels)
  have hnodup := hflat.nodup_iff.mpr List.nodup_range
  rcases List.nodup_append.mp hnodup with ⟨htrain, htest, _⟩
  refine ⟨_, stratified_eq h share seed, ?_⟩
  constructor
  · exact ((ascending_perm _).append (ascending_perm _)).trans hflat
  · exact pairwise_ascending htrain
  · exact pairwise_ascending htest
  · intro label hlabel
    have hcount := carrying_tests label (Labels.nodup_distinct labels) hcut
    rw [if_pos (Labels.mem_distinct.mpr hlabel)] at hcount
    rw [← hcount]
    exact (ascending_perm _).countP_eq _

theorem divisible_of_stratified {labels : List String} {share : Float32} {seed : UInt64}
    {split : Split} (h : stratified labels share seed = .ok split) : Divisible labels := by
  simp only [stratified] at h
  split at h
  · cases h
  · rename_i htwo
    split at h
    · cases h
    · rename_i hnone
      constructor
      · exact Nat.le_of_not_lt htwo
      · intro label hlabel
        have hcount := List.find?_eq_none.mp hnone label (Labels.mem_distinct.mpr hlabel)
        rw [decide_eq_true_eq] at hcount
        exact Nat.le_of_not_lt hcount

theorem stratifies_of_stratified {labels : List String} {share : Float32} {seed : UInt64}
    {split : Split} (h : stratified labels share seed = .ok split) :
    Stratifies labels share split := by
  rcases stratified_of_divisible (divisible_of_stratified h) share seed with ⟨other, hok, hother⟩
  cases h.symm.trans hok
  exact hother

/-!
## Consequences
-/

namespace Stratifies

variable {labels : List String} {share : Float32} {split : Split}

theorem train_lt (h : Stratifies labels share split) {i : Nat} (hi : i ∈ split.train) :
    i < labels.length :=
  List.mem_range.mp (h.rows_perm.subset (List.mem_append_left _ hi))

theorem test_lt (h : Stratifies labels share split) {i : Nat} (hi : i ∈ split.test) :
    i < labels.length :=
  List.mem_range.mp (h.rows_perm.subset (List.mem_append_right _ hi))

theorem length_add_length (h : Stratifies labels share split) :
    split.train.length + split.test.length = labels.length := by
  simpa using h.rows_perm.length_eq

theorem carrying_add (h : Stratifies labels share split) (label : String) :
    carrying labels label split.train + carrying labels label split.test =
      labels.count label := by
  have hall := h.rows_perm.countP_eq fun i => labels[i]? == some label
  rw [List.countP_append] at hall
  have hrange : carrying labels label (List.range labels.length) = labels.count label := by
    rw [carrying, List.countP_eq_length_filter, ← Labels.length_positions]
    apply List.Perm.length_eq
    apply (List.perm_ext_iff_of_nodup (List.nodup_range.filter _)
      (Labels.nodup_positions label labels)).mpr
    intro i
    rw [Labels.mem_positions, List.mem_filter, List.mem_range, beq_iff_eq]
    constructor
    · exact fun hi => hi.2
    · exact fun hi => ⟨(List.getElem?_eq_some_iff.mp hi).1, hi⟩
  exact hall.trans hrange

theorem exists_train (h : Stratifies labels share split) (hdiv : Divisible labels)
    {label : String} (hlabel : label ∈ labels) :
    ∃ i, i ∈ split.train ∧ labels[i]? = some label := by
  have hadd := h.carrying_add label
  rw [h.carrying_test label hlabel] at hadd
  have hpos : 0 < carrying labels label split.train := by
    have := quota_lt (hdiv.two_rows label hlabel) share
    omega
  rcases List.countP_pos_iff.mp hpos with ⟨i, hi, heq⟩
  exact ⟨i, hi, by simpa using heq⟩

theorem exists_test (h : Stratifies labels share split)
    {label : String} (hlabel : label ∈ labels) :
    ∃ i, i ∈ split.test ∧ labels[i]? = some label := by
  have hpos : 0 < carrying labels label split.test := by
    rw [h.carrying_test label hlabel]
    exact one_le_quota _ _
  rcases List.countP_pos_iff.mp hpos with ⟨i, hi, heq⟩
  exact ⟨i, hi, by simpa using heq⟩

theorem not_mem_test (h : Stratifies labels share split) {i : Nat} (hi : i ∈ split.train) :
    i ∉ split.test := by
  have hnodup := h.rows_perm.nodup_iff.mpr List.nodup_range
  intro hi'
  exact (List.nodup_append.mp hnodup).2.2 i hi i hi' rfl

theorem mem_or_mem (h : Stratifies labels share split) {i : Nat} :
    i ∈ split.train ∨ i ∈ split.test ↔ i < labels.length := by
  rw [← List.mem_append, h.rows_perm.mem_iff, List.mem_range]

theorem carrying_train (h : Stratifies labels share split) {label : String}
    (hlabel : label ∈ labels) :
    carrying labels label split.train =
      labels.count label - quota (labels.count label) share := by
  have hadd := h.carrying_add label
  rw [h.carrying_test label hlabel] at hadd
  omega

/-- The seed has no say in how many rows of a label go to which side. -/
theorem carrying_eq {other : Split} (h : Stratifies labels share split)
    (h' : Stratifies labels share other) (label : String) :
    carrying labels label split.train = carrying labels label other.train ∧
      carrying labels label split.test = carrying labels label other.test := by
  have hadd := h.carrying_add label
  have hadd' := h'.carrying_add label
  by_cases hlabel : label ∈ labels
  · rw [h.carrying_test label hlabel] at hadd ⊢
    rw [h'.carrying_test label hlabel] at hadd' ⊢
    omega
  · rw [List.count_eq_zero_of_not_mem hlabel] at hadd hadd'
    omega

end Stratifies

/-!
## Partitions
-/

theorem two_le_length_distinct {labels : List String} :
    2 ≤ (Labels.distinct labels).length ↔ ∃ a b, a ∈ labels ∧ b ∈ labels ∧ a ≠ b := by
  have hmem := fun x => @Labels.mem_distinct x labels
  have hnodup := Labels.nodup_distinct labels
  generalize Labels.distinct labels = distinct at hmem hnodup
  constructor
  · intro htwo
    match distinct with
    | a :: b :: rest =>
        refine ⟨a, b, (hmem a).mp List.mem_cons_self, (hmem b).mp (by simp), ?_⟩
        intro heq
        exact (List.nodup_cons.mp hnodup).1 (heq ▸ List.mem_cons_self)
  · rintro ⟨a, b, ha, hb, hne⟩
    have hsub : [a, b] ⊆ distinct := by
      intro x hx
      rcases List.mem_pair.mp hx with rfl | rfl
      · exact (hmem _).mpr ha
      · exact (hmem _).mpr hb
    have hpair : [a, b].Nodup := by simpa using hne
    exact (List.subperm_of_subset hpair hsub).length_le

theorem divisible_iff {labels : List String} :
    Divisible labels ↔ (∃ a b, a ∈ labels ∧ b ∈ labels ∧ a ≠ b) ∧
      forall label, label ∈ labels -> 2 ≤ labels.count label := by
  rw [← two_le_length_distinct]
  exact ⟨fun h => ⟨h.two_labels, h.two_rows⟩, fun h => ⟨h.1, h.2⟩⟩

theorem kind_of_stratified {labels : List String} {share : Float32} {seed : UInt64}
    {e : ClassifierError} (h : stratified labels share seed = .error e) :
    e.kind = .configuration := by
  simp only [stratified] at h
  split at h
  · injection h with h
    exact h ▸ rfl
  · split at h
    · injection h with h
      exact h ▸ rfl
    · cases h

/--
A split exists for two labels with two rows each, whatever the share is.  It
divides the rows, in ascending order, and gives the test rows the rounded share
of every label, within the bounds that leave one row on either side.
-/
theorem stratified_partitions (labels : List String) (share : Float32) (seed : UInt64) :
    ((∃ split, stratified labels share seed = .ok split) ↔
      (∃ a b, a ∈ labels ∧ b ∈ labels ∧ a ≠ b) ∧
        forall label, label ∈ labels -> 2 ≤ labels.count label) ∧
    (forall e, stratified labels share seed = .error e -> e.kind = .configuration) ∧
    forall split, stratified labels share seed = .ok split ->
      split.train.Pairwise (· < ·) ∧ split.test.Pairwise (· < ·) ∧
      (forall i, i ∈ split.train -> i ∉ split.test) ∧
      (forall i, i ∈ split.train ∨ i ∈ split.test ↔ i < labels.length) ∧
      (forall label, label ∈ labels ->
        carrying labels label split.test =
          max 1 (min (nearestWhole (toSingle (labels.count label) * share))
            (labels.count label - 1)) ∧
        carrying labels label split.train =
          labels.count label - carrying labels label split.test ∧
        (∃ i, i ∈ split.test ∧ labels[i]? = some label) ∧
        ∃ i, i ∈ split.train ∧ labels[i]? = some label) ∧
      forall seed', ∃ split', stratified labels share seed' = .ok split' ∧
        forall label,
          carrying labels label split.train = carrying labels label split'.train ∧
          carrying labels label split.test = carrying labels label split'.test := by
  refine ⟨?_, fun e => kind_of_stratified, ?_⟩
  · rw [← divisible_iff]
    constructor
    · rintro ⟨split, hsplit⟩
      exact divisible_of_stratified hsplit
    · intro hdiv
      rcases stratified_of_divisible hdiv share seed with ⟨split, hsplit, _⟩
      exact ⟨split, hsplit⟩
  · intro split hsplit
    have hdiv := divisible_of_stratified hsplit
    have h := stratifies_of_stratified hsplit
    refine ⟨h.ascending_train, h.ascending_test, fun i => h.not_mem_test, fun i => h.mem_or_mem,
      ?_, ?_⟩
    · intro label hlabel
      refine ⟨h.carrying_test label hlabel, ?_, h.exists_test hlabel, h.exists_train hdiv hlabel⟩
      rw [h.carrying_train hlabel, h.carrying_test label hlabel]
    · intro seed'
      rcases stratified_of_divisible hdiv share seed' with ⟨split', hsplit', h'⟩
      exact ⟨split', hsplit', h.carrying_eq h'⟩

/-- A share that is no number leaves one test row to every label. -/
theorem stratified_partitions_notANumber :
    ∃ split, stratified ["b", "a", "b", "a", "b"] (Float32.ofBits 0x7fc00000) 7 = .ok split ∧
      carrying ["b", "a", "b", "a", "b"] "b" split.test = 1 ∧
      carrying ["b", "a", "b", "a", "b"] "b" split.train = 2 := by
  rcases stratified_partitions ["b", "a", "b", "a", "b"] (Float32.ofBits 0x7fc00000) 7 with
    ⟨hiff, _, hsplit⟩
  rcases hiff.mpr ⟨⟨"a", "b", by decide⟩, by decide⟩ with ⟨split, hok⟩
  rcases hsplit split hok with ⟨_, _, _, _, hlabels, _⟩
  rcases hlabels "b" (by decide) with ⟨htest, htrain, _⟩
  have hone : max 1 (min (nearestWhole (toSingle (["b", "a", "b", "a", "b"].count "b") *
      Float32.ofBits 0x7fc00000)) (["b", "a", "b", "a", "b"].count "b" - 1)) = 1 := by
    decide +kernel
  rw [hone] at htest
  exact ⟨split, hok, htest, by rw [htrain, htest]; decide⟩

end Split
end Polyglot
