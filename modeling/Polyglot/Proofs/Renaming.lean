import Mathlib.Data.List.Find
import Polyglot.Proofs.Forest
import Polyglot.Proofs.Report
import Polyglot.Proofs.Split
import Polyglot.Training

/-!
# Renamed labels

Only the order of labels matters.  If labels are renamed in a way that keeps their
order, they are found at the same positions, their rows are drawn alike, the same
trees are grown for them, and they are counted alike.
-/

namespace Polyglot

namespace Attempts

variable {ε ε' α α' β β' : Type}

def reword (cause : ε → ε') (value : α → β) : Except ε α → Except ε' β
  | .ok x => .ok (value x)
  | .error e => .error (cause e)

theorem bind_reword {cause : ε → ε'} {value : α → α'} {value' : β → β'} {x : Except ε α}
    {x' : Except ε' α'} {g : α → Except ε β} {g' : α' → Except ε' β'}
    (hx : x' = reword cause value x)
    (hg : forall y, x = .ok y -> g' (value y) = reword cause value' (g y)) :
    (x' >>= g') = reword cause value' (x >>= g) := by
  subst hx
  cases x with
  | error e => rfl
  | ok y => exact hg y rfl

theorem mapM_reword {cause : ε → ε'} {value : β → β'} {g : α → Except ε β}
    {g' : α' → Except ε' β'} (item : α → α') (xs : List α)
    (h : forall x, x ∈ xs -> g' (item x) = reword cause value (g x)) :
    (xs.map item).mapM g' = reword cause (List.map value) (xs.mapM g) := by
  induction xs with
  | nil => rfl
  | cons x xs ih =>
      rw [List.map_cons, List.mapM_cons, List.mapM_cons]
      apply bind_reword (h x List.mem_cons_self)
      intro y _
      apply bind_reword (ih fun z hz => h z (List.mem_cons_of_mem x hz))
      intro ys _
      rfl

end Attempts

open Attempts (reword bind_reword mapM_reword)

/-!
## Renamings
-/

def ClassifierError.rename (f : String → String) : ClassifierError → ClassifierError
  | .rareLabel label count => .rareLabel (f label) count
  | .untrainedLabel label => .untrainedLabel (f label)
  | .unknownLabel label => .unknownLabel (f label)
  | e => e

theorem ClassifierError.kind_rename (f : String → String) (e : ClassifierError) :
    (e.rename f).kind = e.kind := by
  cases e <;> rfl

def Failure.rename (f : String → String) : Failure → Failure
  | .error e => .error (e.rename f)
  | .fault x => .fault x

def KeepsOrder (f : String → String) (labels : List String) : Prop :=
  forall a, a ∈ labels -> forall b, b ∈ labels -> a < b -> f a < f b

namespace KeepsOrder

variable {f : String → String} {labels : List String}

theorem lt_iff (h : KeepsOrder f labels) {a b : String} (ha : a ∈ labels) (hb : b ∈ labels) :
    f a < f b ↔ a < b := by
  constructor
  · intro hlt
    apply Decidable.byContradiction
    intro hnot
    by_cases hba : b < a
    · exact String.lt_irrefl _ (String.lt_trans hlt (h b hb a ha hba))
    · rw [String.le_antisymm (String.not_lt.mp hba) (String.not_lt.mp hnot)] at hlt
      exact String.lt_irrefl _ hlt
  · exact h a ha b hb

theorem eq_iff (h : KeepsOrder f labels) {a b : String} (ha : a ∈ labels) (hb : b ∈ labels) :
    f a = f b ↔ a = b := by
  constructor
  · intro heq
    apply String.le_antisymm
    · rw [← String.not_lt, ← h.lt_iff hb ha, heq]
      exact String.lt_irrefl _
    · rw [← String.not_lt, ← h.lt_iff ha hb, heq]
      exact String.lt_irrefl _
  · exact congrArg f

theorem beq_eq (h : KeepsOrder f labels) {a b : String} (ha : a ∈ labels) (hb : b ∈ labels) :
    (f a == f b) = (a == b) := by
  rw [Bool.eq_iff_iff, beq_iff_eq, beq_iff_eq]
  exact h.eq_iff ha hb

end KeepsOrder

section Renaming

variable {f : String → String} {known : List String} (h : KeepsOrder f known)

include h

/-!
## Labels
-/

namespace Labels

theorem insert_map {label : String} (hlabel : label ∈ known) {xs : List String}
    (hxs : xs ⊆ known) : insert (f label) (xs.map f) = (insert label xs).map f := by
  induction xs with
  | nil => rfl
  | cons x xs ih =>
      rcases List.cons_subset.mp hxs with ⟨hx, hxs⟩
      rw [List.map_cons, insert, insert]
      simp only [h.lt_iff hlabel hx, h.eq_iff hlabel hx]
      split
      · rfl
      · split
        · rfl
        · rw [ih hxs, List.map_cons]

theorem distinct_map {labels : List String} (hlabels : labels ⊆ known) :
    distinct (labels.map f) = (distinct labels).map f := by
  induction labels with
  | nil => rfl
  | cons x xs ih =>
      rcases List.cons_subset.mp hlabels with ⟨hx, hxs⟩
      show insert (f x) (distinct (xs.map f)) = (insert x (distinct xs)).map f
      rw [ih hxs]
      exact insert_map h hx fun y hy => hxs (mem_distinct.mp hy)

theorem count_map {label : String} (hlabel : label ∈ known) {labels : List String}
    (hlabels : labels ⊆ known) : (labels.map f).count (f label) = labels.count label := by
  rw [List.count, List.countP_map]
  apply List.countP_congr
  intro x hx
  rw [Function.comp_apply, h.beq_eq (hlabels hx) hlabel]

theorem positions_map {label : String} (hlabel : label ∈ known) {labels : List String}
    (hlabels : labels ⊆ known) : positions (f label) (labels.map f) = positions label labels := by
  unfold positions
  rw [List.zipIdx_map, List.filter_map, List.map_map]
  have hsame : labels.zipIdx.filter ((fun entry => entry.1 == f label) ∘ Prod.map f id) =
      labels.zipIdx.filter fun entry => entry.1 == label := by
    apply List.filter_congr
    intro entry hentry
    exact h.beq_eq (hlabels (List.mem_of_getElem? (List.mem_zipIdx_iff_getElem?.mp hentry))) hlabel
  rw [hsame]
  rfl

/-- Halving compares with the same items, as it never leaves the list. -/
theorem search_map {label : String} (hlabel : label ∈ known) {labels : Array String}
    (hlabels : labels.toList ⊆ known) {first size : Nat} (hend : first + size ≤ labels.size) :
    search (labels.map f) (f label) first size = search labels label first size := by
  have hmem : forall i, (hi : i < labels.size) -> labels[i] ∈ known := fun i hi =>
    hlabels (Array.mem_toList_iff.mpr (Array.getElem_mem hi))
  fun_induction search labels label first size with
  | case1 first size hsize middle hless ih =>
      have hmiddle : middle < labels.size := by omega
      rw [Array.getD_eq_getD_getElem?, Array.getElem?_eq_getElem hmiddle,
        Option.getD_some] at hless
      rw [search, if_pos hsize]
      dsimp only
      rw [if_pos]
      · exact ih (by omega)
      · rw [Array.getD_eq_getD_getElem?, Array.getElem?_map, Array.getElem?_eq_getElem hmiddle]
        exact (h.lt_iff hlabel (hmem _ hmiddle)).mpr hless
  | case2 first size hsize middle hnotless ih =>
      have hmiddle : middle < labels.size := by omega
      rw [Array.getD_eq_getD_getElem?, Array.getElem?_eq_getElem hmiddle,
        Option.getD_some] at hnotless
      rw [search, if_pos hsize]
      dsimp only
      rw [if_neg]
      · exact ih (by omega)
      · rw [Array.getD_eq_getD_getElem?, Array.getElem?_map, Array.getElem?_eq_getElem hmiddle]
        exact fun hless => hnotless ((h.lt_iff hlabel (hmem _ hmiddle)).mp hless)
  | case3 first size hsize hfound =>
      have hfirst : first < labels.size := by omega
      rw [search, if_neg hsize, if_pos]
      refine ⟨hfound.1, ?_⟩
      rw [Array.getElem?_map, hfound.2, Option.map_some]
  | case4 first size hsize hnotfound =>
      rw [search, if_neg hsize, if_neg]
      rintro ⟨hone, hitem⟩
      have hfirst : first < labels.size := by omega
      rw [Array.getElem?_map, Array.getElem?_eq_getElem hfirst, Option.map_some,
        Option.some_inj, h.eq_iff (hmem _ hfirst) hlabel] at hitem
      exact hnotfound ⟨hone, by rw [Array.getElem?_eq_getElem hfirst, hitem]⟩

theorem position?_map {label : String} (hlabel : label ∈ known) {labels : List String}
    (hlabels : labels ⊆ known) : position? (labels.map f) (f label) = position? labels label := by
  unfold position?
  rw [List.length_map, ← List.map_toArray]
  exact search_map h hlabel hlabels (by simp)

end Labels

/-!
## Splits
-/

theorem Split.stratified_map {labels : List String} (hlabels : labels ⊆ known) (share : Float32)
    (seed : UInt64) : Split.stratified (labels.map f) share seed =
      reword (ClassifierError.rename f) id (Split.stratified labels share seed) := by
  have hdistinct : Labels.distinct labels ⊆ known := fun x hx => hlabels (Labels.mem_distinct.mp hx)
  have hrare : (Labels.distinct (labels.map f)).find? (fun label => (labels.map f).count label < 2) =
      ((Labels.distinct labels).find? fun label => labels.count label < 2).map f := by
    rw [Labels.distinct_map h hlabels, List.find?_map]
    congr 1
    apply List.find?_congr
    intro label hlabel
    rw [Function.comp_apply, Labels.count_map h (hdistinct hlabel) hlabels]
  have hgroups : (Labels.distinct (labels.map f)).map (fun label =>
      Labels.positions label (labels.map f)) =
        (Labels.distinct labels).map fun label => Labels.positions label labels := by
    rw [Labels.distinct_map h hlabels, List.map_map]
    apply List.map_congr_left
    intro label hlabel
    exact Labels.positions_map h (hdistinct hlabel) hlabels
  unfold Split.stratified
  dsimp only
  rw [hrare, hgroups, Labels.distinct_map h hlabels, List.length_map]
  split
  · rfl
  · cases hfind : (Labels.distinct labels).find? fun label => labels.count label < 2 with
    | none => rfl
    | some label =>
        have hlabel := hdistinct (List.mem_of_find?_eq_some hfind)
        rw [Option.map_some]
        dsimp only
        rw [Labels.count_map h hlabel hlabels]
        rfl

end Renaming

/-!
## Forests
-/

def Forest.rename (f : String → String) (forest : Forest) : Forest :=
  { forest with classes := forest.classes.map f }

namespace Forest

section Renaming

variable {f : String → String} {known : List String} (h : KeepsOrder f known)

include h

theorem classNumber_rename {label : String} (hlabel : label ∈ known) {classes : List String}
    (hclasses : classes ⊆ known) : classNumber (classes.map f) (f label) =
      reword (ClassifierError.rename f) id (classNumber classes label) := by
  unfold classNumber
  rw [Labels.position?_map h hlabel hclasses]
  cases Labels.position? classes label with
  | none => rfl
  | some number => rfl

theorem fitClasses_rename (s : ForestSettings) (width : Nat) (features : Array (Array Float32))
    {classes labels : List String} (hclasses : classes ⊆ known) (hlabels : labels ⊆ known) :
    fitClasses s width features (classes.map f) (labels.map f) =
      reword (Failure.rename f) (rename f) (fitClasses s width features classes labels) := by
  have htargets : (labels.map f).mapM (classNumber (classes.map f)) =
      reword (ClassifierError.rename f) id (labels.mapM (classNumber classes)) := by
    have hmapM := mapM_reword f labels fun label hlabel =>
      classNumber_rename h (hlabels hlabel) hclasses
    rwa [List.map_id_fun] at hmapM
  unfold fitClasses
  rw [htargets, List.length_map]
  cases labels.mapM (classNumber classes) with
  | error e => rfl
  | ok targets =>
      dsimp only [reword, id_eq]
      split
      · rfl
      · split
        · rfl
        · rfl

theorem fit_rename (s : ForestSettings) (width : Nat) (features : Array (Array Float32))
    {labels : List String} (hlabels : labels ⊆ known) : fit s width features (labels.map f) =
      reword (Failure.rename f) (rename f) (fit s width features labels) := by
  unfold fit
  rw [List.length_map]
  split
  · rfl
  · split
    · rfl
    · dsimp only
      rw [Labels.distinct_map h hlabels, List.length_map]
      split
      · rfl
      · exact fitClasses_rename h s width features
          (fun x hx => hlabels (Labels.mem_distinct.mp hx)) hlabels

end Renaming

theorem check_rename (f : String → String) (forest : Forest) (sample : Array Float32) :
    (forest.rename f).check sample = forest.check sample := by
  unfold check rename
  dsimp only
  rw [List.length_map]

theorem rename_of_check {f : String → String} {forest : Forest} {sample : Array Float32}
    {e : ClassifierError} (h : forest.check sample = .error e) : e.rename f = e := by
  unfold check at h
  split at h
  · cases h
    rfl
  · split at h
    · cases h
      rfl
    · split at h
      · cases h
        rfl
      · cases h

theorem probabilities_rename (f : String → String) (forest : Forest) (sample : Array Float32) :
    (forest.rename f).probabilities sample =
      reword (Failure.rename f) id (forest.probabilities sample) := by
  unfold probabilities
  rw [check_rename]
  cases hcheck : forest.check sample with
  | error e => exact congrArg (Except.error ∘ Failure.error) (rename_of_check hcheck).symm
  | ok =>
      unfold rename
      dsimp only
      rw [List.length_map]
      cases forest.estimators.mapM fun e => e.vote sample with
      | error fault => rfl
      | ok votes => rfl

theorem getElem?_classes_rename (f : String → String) (forest : Forest) (i? : Option Nat) :
    (i?.bind fun i => (forest.rename f).classes[i]?) =
      (i?.bind fun i => forest.classes[i]?).map f := by
  rw [Option.map_bind]
  congr 1
  funext i
  exact List.getElem?_map

theorem predict_rename (f : String → String) (forest : Forest) (sample : Array Float32) :
    (forest.rename f).predict sample =
      reword (Failure.rename f) f (forest.predict sample) := by
  unfold predict
  apply bind_reword (probabilities_rename f forest sample)
  intro p _
  rw [getElem?_classes_rename, id_eq]
  cases (Vote.argmax p).bind fun i => forest.classes[i]? with
  | none => rfl
  | some label => rfl

end Forest

/-!
## Predictions
-/

def Prediction.rename (f : String → String) (p : Prediction) : Prediction where
  label := f p.label
  scores := p.scores.map (Prod.map f id)

def Classifier.rename (f : String → String) (c : Classifier) : Classifier :=
  { c with forest := c.forest.rename f }

section Renaming

variable {f : String → String} {known : List String} (h : KeepsOrder f known)

include h

theorem lookup_map {label : String} (hlabel : label ∈ known) {β : Type}
    {entries : List (String × β)} (hentries : forall e, e ∈ entries -> e.1 ∈ known) :
    (entries.map (Prod.map f id)).lookup (f label) = entries.lookup label := by
  induction entries with
  | nil => rfl
  | cons e entries ih =>
      rw [List.map_cons, List.lookup_cons, List.lookup_cons, Prod.map_fst,
        h.beq_eq hlabel (hentries e List.mem_cons_self),
        ih fun other hother => hentries other (List.mem_cons_of_mem e hother)]
      rfl

namespace Classifier

theorem scores_map {classes : List String} (hclasses : classes ⊆ known)
    (probabilities : List Float) : scores (classes.map f) probabilities =
      (scores classes probabilities).map (Prod.map f id) := by
  unfold scores
  dsimp only
  rw [Labels.distinct_map h hclasses, List.filterMap_map, List.map_filterMap, List.zip_map_left,
    ← List.map_reverse]
  apply List.filterMap_congr
  intro label hlabel
  rw [Function.comp_apply, lookup_map h (hclasses (Labels.mem_distinct.mp hlabel))]
  · rw [Option.map_map]
    rfl
  · intro e he
    exact hclasses (List.of_mem_zip (List.mem_reverse.mp he)).1

theorem predict_rename {c : Classifier} (hclasses : c.forest.classes ⊆ known) (code : String) :
    (c.rename f).predict code =
      reword (Failure.rename f) (Prediction.rename f) (c.predict code) := by
  unfold predict
  split
  · rfl
  · have hassemble : (c.rename f).vectorizer.assemble code = c.vectorizer.assemble code := rfl
    rw [hassemble]
    cases c.vectorizer.assemble code with
    | error fault => rfl
    | ok sample =>
        apply bind_reword (Forest.probabilities_rename f c.forest sample)
        intro p _
        have hclass : ((Vote.argmax p).bind fun i => (c.rename f).forest.classes[i]?) =
            ((Vote.argmax p).bind fun i => c.forest.classes[i]?).map f :=
          Forest.getElem?_classes_rename f c.forest _
        have hscores : scores (c.rename f).forest.classes p =
            (scores c.forest.classes p).map (Prod.map f id) := scores_map h hclasses p
        rw [id_eq, hclass, hscores]
        cases (Vote.argmax p).bind fun i => c.forest.classes[i]? with
        | none => rfl
        | some label => rfl

end Classifier

end Renaming

/-!
## Reports
-/

def LabelMetrics.rename (f : String → String) (m : LabelMetrics) : LabelMetrics :=
  { m with label := f m.label }

def Report.rename (f : String → String) (r : Report) : Report :=
  { r with
    perLabel := r.perLabel.map (LabelMetrics.rename f)
    labels := r.labels.map f }

namespace Report

section Renaming

variable {f : String → String} {known : List String} (h : KeepsOrder f known)

include h

theorem index?_map {label : String} (hlabel : label ∈ known) {labels : List String}
    (hlabels : labels ⊆ known) : index? (labels.map f) (f label) =
      reword (ClassifierError.rename f) id (index? labels label) := by
  have hfind : (labels.map f).findIdx? (· == f label) = labels.findIdx? (· == label) := by
    rw [List.findIdx?_map]
    induction labels with
    | nil => rfl
    | cons x xs ih =>
        rcases List.cons_subset.mp hlabels with ⟨hx, hxs⟩
        rw [List.findIdx?_cons, List.findIdx?_cons, Function.comp_apply, h.beq_eq hx hlabel, ih hxs]
  unfold index?
  rw [hfind]
  cases labels.findIdx? (· == label) with
  | none => rfl
  | some i => rfl

theorem indexPair_map {pair : String × String} (hfirst : pair.1 ∈ known) (hsecond : pair.2 ∈ known)
    {labels : List String} (hlabels : labels ⊆ known) :
    indexPair (labels.map f) (Prod.map f f pair) =
      reword (ClassifierError.rename f) id (indexPair labels pair) := by
  unfold indexPair
  apply bind_reword (index?_map h hfirst hlabels)
  intro i _
  apply bind_reword (index?_map h hsecond hlabels)
  intro j _
  rfl

theorem ofPredictions_map {labels expected predicted : List String} (hlabels : labels ⊆ known)
    (hexpected : expected ⊆ known) (hpredicted : predicted ⊆ known) (trainSize : Nat) :
    ofPredictions (labels.map f) (expected.map f) (predicted.map f) trainSize =
      reword (ClassifierError.rename f) (rename f)
        (ofPredictions labels expected predicted trainSize) := by
  have hpairs : forall pair, pair ∈ expected.zip predicted ->
      pair.1 ∈ known ∧ pair.2 ∈ known := fun pair hpair =>
    ⟨hexpected (List.of_mem_zip hpair).1, hpredicted (List.of_mem_zip hpair).2⟩
  have hindices : ((expected.zip predicted).map (Prod.map f f)).mapM (indexPair (labels.map f)) =
      reword (ClassifierError.rename f) id
        ((expected.zip predicted).mapM (indexPair labels)) := by
    have hmapM := mapM_reword (Prod.map f f) (expected.zip predicted) fun pair hpair =>
      indexPair_map h (hpairs pair hpair).1 (hpairs pair hpair).2 hlabels
    rwa [List.map_id_fun] at hmapM
  have hcorrect : ((expected.zip predicted).map (Prod.map f f)).countP (fun p => p.1 == p.2) =
      (expected.zip predicted).countP fun p => p.1 == p.2 := by
    rw [List.countP_map]
    apply List.countP_congr
    intro pair hpair
    rw [Function.comp_apply, Prod.map_fst, Prod.map_snd,
      h.beq_eq (hpairs pair hpair).1 (hpairs pair hpair).2]
  unfold ofPredictions
  simp only [List.length_map]
  split
  · rfl
  · rw [List.zip_map, hcorrect]
    apply bind_reword hindices
    intro indices _
    have hmetrics : ((labels.map f).zipIdx.map fun p =>
        metrics (matrix labels.length indices) p.1 p.2) =
          (labels.zipIdx.map fun p => metrics (matrix labels.length indices) p.1 p.2).map
            (LabelMetrics.rename f) := by
      rw [List.zipIdx_map, List.map_map, List.map_map]
      rfl
    show Except.ok _ = Except.ok _
    rw [id_eq, hmetrics]
    rfl

end Renaming

end Report
end Polyglot
