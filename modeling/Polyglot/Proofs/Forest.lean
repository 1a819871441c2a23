import Polyglot.Forest.Basic
import Polyglot.Proofs.Attempts
import Polyglot.Proofs.Labels
import Polyglot.Proofs.Samples

/-!
# Forests

Training only stops at a feature that is no number.  A trained forest has the
estimators it was asked for, each with one model for every class, and answers
every sample of its width with a probability for every class.
-/

namespace Polyglot

namespace ClassModel

def IsTrained (settings : ModelSettings) (model : ClassModel) : Prop :=
  ∃ bias tree, model = ofTree settings bias tree ∧ tree.FeaturesBelow settings.featureSize

theorem predict_ofTree (width : Nat) (s : ForestSettings) (bias : Float32) {tree : GrownTree}
    {sample : Array Float32} (h : tree.FeaturesBelow sample.size) :
    (ofTree (trainedSettings width s) bias tree).predict sample =
      .ok (bias + 1 * tree.answer sample) := by
  simp only [predict, ofTree, trainedSettings, List.length_cons, List.length_nil, ne_eq,
    not_true_eq_false, ↓reduceIte, List.isEmpty_cons, Bool.false_eq_true, List.foldlM_cons,
    List.foldlM_nil, addTree, GrownTree.predict_stored h]
  rfl

theorem IsTrained.predict_eq_ok {width : Nat} {s : ForestSettings} {model : ClassModel}
    (h : model.IsTrained (trainedSettings width s)) {sample : Array Float32}
    (hsize : sample.size = width) : ∃ x, model.predict sample = .ok x := by
  rcases h with ⟨bias, tree, rfl, hfeatures⟩
  change tree.FeaturesBelow width at hfeatures
  rw [← hsize] at hfeatures
  exact ⟨_, predict_ofTree width s bias hfeatures⟩

end ClassModel

/-!
## Votes
-/

namespace Vote

variable {α : Type} [VoteNumber α]

theorem length_distribution (answers : List α) :
    (distribution answers).length = answers.length := by
  unfold distribution share
  split
  · simp
  · simp

theorem length_foldl_zipWith {size : Nat} {votes : List (List α)} {total : List α}
    (htotal : total.length = size) (hvotes : forall vote, vote ∈ votes -> vote.length = size) :
    (votes.foldl (fun total vote => total.zipWith (· + ·) vote) total).length = size := by
  induction votes generalizing total with
  | nil => exact htotal
  | cons vote votes ih =>
      apply ih
      · rw [List.length_zipWith, htotal, hvotes vote List.mem_cons_self, Nat.min_self]
      · exact fun other hother => hvotes other (List.mem_cons_of_mem vote hother)

theorem length_average {size : Nat} {votes : List (List α)}
    (h : forall vote, vote ∈ votes -> vote.length = size) : (average size votes).length = size := by
  unfold average
  split
  · exact List.length_replicate
  · rw [List.length_map]
    exact length_foldl_zipWith List.length_replicate h

theorem exists_of_foldl (n : Nat) (entries : List (α × Nat)) (best : Option (α × Nat))
    (hentries : forall entry, entry ∈ entries -> entry.2 < n)
    (hbest : forall b, best = some b -> b.2 < n) (hsome : best.isSome ∨ entries ≠ []) :
    ∃ b, entries.foldl (fun (best : Option (α × Nat)) entry =>
      match best with
      | none => some entry
      | some b => if b.1 < entry.1 then some entry else best) best = some b ∧ b.2 < n := by
  induction entries generalizing best with
  | nil =>
      rcases hsome with hsome | hsome
      · rcases Option.isSome_iff_exists.mp hsome with ⟨b, hb⟩
        exact ⟨b, hb, hbest b hb⟩
      · exact absurd rfl hsome
  | cons entry entries ih =>
      have hentry := hentries entry List.mem_cons_self
      rw [List.foldl_cons]
      apply ih
      · exact fun other hother => hentries other (List.mem_cons_of_mem entry hother)
      · intro b hb
        split at hb
        · injection hb with hb
          exact hb ▸ hentry
        · rename_i c
          split at hb
          · injection hb with hb
            exact hb ▸ hentry
          · exact hbest b hb
      · left
        split
        · rfl
        · split
          · rfl
          · rfl

theorem exists_argmax {xs : List α} (h : xs ≠ []) : ∃ i, argmax xs = some i ∧ i < xs.length := by
  have hsearch := exists_of_foldl xs.length xs.zipIdx none
    (fun entry hentry => (List.mem_zipIdx' hentry).1) (fun b hb => by cases hb)
    (.inr (by simpa using h))
  rcases hsearch with ⟨b, hb, hlt⟩
  exact ⟨b.2, congrArg (Option.map Prod.snd) hb, hlt⟩

end Vote

/-!
## Training an estimator
-/

def Numeric (features : Array (Array Float32)) : Prop :=
  forall x, x ∈ features -> forall a, a ∈ x -> a.isNaN = false

theorem unordered_eq_false {features : Array (Array Float32)} (h : Numeric features)
    (rows : List Nat) : unordered features rows = false := by
  have hrow : forall row, row ∈ rows -> (features.getD row #[]).any Float32.isNaN = false := by
    intro row _
    rw [Array.getD_eq_getD_getElem?]
    cases hx : features[row]? with
    | none => exact Array.any_empty
    | some x =>
        rw [Option.getD_some, Array.any_eq_false]
        intro i hi
        rw [h x (Array.mem_of_getElem? hx) _ (Array.getElem_mem hi)]
        exact Bool.false_ne_true
  unfold unordered
  have hany : (rows.any fun row => (features.getD row #[]).any Float32.isNaN) = false := by
    rw [List.any_eq_false]
    intro row hmem
    rw [hrow row hmem]
    exact Bool.false_ne_true
  rw [hany, Bool.and_false]

namespace Estimator

def IsTrained (settings : ModelSettings) (classes : Nat) (e : Estimator) : Prop :=
  e.models.length = classes ∧ forall model, model ∈ e.models -> model.IsTrained settings

theorem isTrained_classModel (settings : ModelSettings) (features : Array (Array Float32))
    (targets : Array Nat) (rows : List DrawnRow) {columns : List (List Nat)} (cls : Nat)
    (hcolumns : columns.length = settings.featureSize) :
    (classModel settings features targets rows columns cls).IsTrained settings := by
  refine ⟨_, _, rfl, ?_⟩
  rw [← hcolumns]
  exact TrainingRows.featuresBelow_grow _ _ _ _ _

theorem isTrained_of_train {settings : ModelSettings} {features : Array (Array Float32)}
    {targets : Array Nat} {classes : Nat} {rows : List DrawnRow} {e : Estimator}
    (h : train settings features targets classes rows = .ok e) :
    e.IsTrained settings classes := by
  rw [eq_of_train h]
  constructor
  · simp
  · intro model hmodel
    rcases List.mem_map.mp hmodel with ⟨cls, _, rfl⟩
    apply isTrained_classModel
    simp [sortedColumns]

theorem exists_train {features : Array (Array Float32)} (h : Numeric features)
    (settings : ModelSettings) (targets : Array Nat) (classes : Nat) (rows : List DrawnRow) :
    ∃ e, train settings features targets classes rows = .ok e := by
  unfold train
  dsimp only
  rw [if_neg (by rw [unordered_eq_false h]; exact Bool.false_ne_true)]
  exact ⟨_, rfl⟩

theorem IsTrained.vote_eq_ok {width classes : Nat} {s : ForestSettings} {e : Estimator}
    (h : e.IsTrained (ClassModel.trainedSettings width s) classes) {sample : Array Float32}
    (hsize : sample.size = width) : ∃ v, e.vote sample = .ok v ∧ v.length = classes := by
  have hanswers : ∃ answers, (e.models.mapM fun model => model.predict sample) = .ok answers ∧
      List.Forall₂ (fun _ _ => True) e.models answers :=
    Attempts.exists_mapM_eq_ok fun model hmodel => by
      rcases (h.2 model hmodel).predict_eq_ok hsize with ⟨x, hx⟩
      exact ⟨x, hx, trivial⟩
  rcases hanswers with ⟨answers, hanswers, hrelated⟩
  refine ⟨Vote.distribution (answers.map toDouble), ?_, ?_⟩
  · rw [vote, hanswers]
    rfl
  · rw [Vote.length_distribution, List.length_map, ← hrelated.length_eq, h.1]

end Estimator

/-!
## Training a forest
-/

namespace Forest

/-- What training promises of a forest: every estimator comes from a sample of the rows. -/
structure IsTrained (s : ForestSettings) (width : Nat) (features : Array (Array Float32))
    (labels : List String) (f : Forest) : Prop where
  classes_eq : f.classes = Labels.distinct labels
  width_eq : f.width = width
  count_eq : f.estimators.length = s.estimators.toNat
  sampled : forall e, e ∈ f.estimators -> ∃ targets g,
    Estimator.train (ClassModel.trainedSettings width s) features targets f.classes.length
      (bootstrap features.size g).1 = .ok e

theorem IsTrained.estimators {s : ForestSettings} {width : Nat}
    {features : Array (Array Float32)} {labels : List String} {f : Forest}
    (h : f.IsTrained s width features labels) {e : Estimator} (he : e ∈ f.estimators) :
    e.IsTrained (ClassModel.trainedSettings width s) f.classes.length := by
  rcases h.sampled e he with ⟨targets, g, heq⟩
  exact Estimator.isTrained_of_train heq

theorem IsTrained.withFingerprint {s : ForestSettings} {width : Nat}
    {features : Array (Array Float32)} {labels : List String} {f : Forest}
    (h : f.IsTrained s width features labels) (fingerprint : String) :
    (f.withFingerprint fingerprint).IsTrained s width features labels :=
  ⟨h.classes_eq, h.width_eq, h.count_eq, h.sampled⟩

theorem exists_classNumber {classes : List String} (h : classes.Pairwise (· < ·))
    {label : String} (hlabel : label ∈ classes) :
    ∃ number, classNumber classes label = .ok number := by
  rcases Labels.position?_of_mem h hlabel with ⟨number, hnumber, _⟩
  refine ⟨number, ?_⟩
  rw [classNumber, hnumber]

theorem exists_trainEstimators {features : Array (Array Float32)} (h : Numeric features)
    (settings : ModelSettings) (targets : Array Nat) (classes count : Nat)
    (g : Chance.Generator) :
    ∃ es, trainEstimators settings features targets classes count g = .ok es := by
  rw [trainEstimators_eq_mapM, Attempts.exists_mapM_eq_ok_iff]
  exact fun sample _ => Estimator.exists_train h settings targets classes sample

theorem isTrained_of_fit {s : ForestSettings} {width : Nat}
    {features : Array (Array Float32)} {labels : List String} {f : Forest}
    (h : fit s width features labels = .ok f) : f.IsTrained s width features labels := by
  rcases of_fit h with ⟨targets, estimators, _, _, hestimators, rfl⟩
  constructor
  · rfl
  · rfl
  · rw [Attempts.length_of_mapM_eq_ok hestimators, length_samples]
  · intro e he
    rcases Attempts.exists_of_mem_mapM hestimators he with ⟨sample, hsample, heq⟩
    rcases exists_generator_of_mem_samples hsample with ⟨g, rfl⟩
    exact ⟨targets.toArray, g, heq⟩

theorem exists_targets (labels : List String) :
    ∃ targets, labels.mapM (classNumber (Labels.distinct labels)) = .ok targets :=
  Attempts.exists_mapM_eq_ok_iff.mpr fun _ hlabel =>
    exists_classNumber (Labels.ascending_distinct labels) (Labels.mem_distinct.mpr hlabel)

theorem size_ne_zero {features : Array (Array Float32)} {labels : List String}
    (hsize : features.size = labels.length) (htwo : 2 ≤ (Labels.distinct labels).length) :
    features.size ≠ 0 := by
  intro hzero
  rw [hsize] at hzero
  rw [List.length_eq_zero_iff.mp hzero] at htwo
  exact absurd htwo (by decide)

/-- As many numeric rows as labels, two labels and room are all that training asks for. -/
theorem exists_fit {features : Array (Array Float32)} (labels : List String)
    (hnumeric : Numeric features) (hsize : features.size = labels.length)
    (htwo : 2 ≤ (Labels.distinct labels).length) {s : ForestSettings}
    (hroom : s.estimators.toNat ≤ capacity) (width : Nat) :
    ∃ f, fit s width features labels = .ok f := by
  rcases exists_targets labels with ⟨targets, htargets⟩
  rcases exists_trainEstimators hnumeric (ClassModel.trainedSettings width s) targets.toArray
    (Labels.distinct labels).length s.estimators.toNat (.ofSeed s.seed) with
      ⟨estimators, hestimators⟩
  rw [trainEstimators_eq_mapM] at hestimators
  exact ⟨_, fit_eq_ok_iff.mpr ⟨hsize, size_ne_zero hsize htwo, htwo, hroom, targets, estimators,
    htargets, hestimators, rfl⟩⟩

theorem fit_eq_capacityOverflow {s : ForestSettings} (hroom : capacity < s.estimators.toNat)
    (width : Nat) {features : Array (Array Float32)} {labels : List String}
    (hsize : features.size = labels.length) (htwo : 2 ≤ (Labels.distinct labels).length) :
    fit s width features labels = .error (.fault .capacityOverflow) := by
  rcases exists_targets labels with ⟨targets, htargets⟩
  unfold fit
  rw [if_neg (not_not_intro hsize), if_neg (size_ne_zero hsize htwo)]
  dsimp only
  rw [if_neg (Nat.not_lt.mpr htwo), fitClasses, htargets]
  dsimp only
  rw [if_pos hroom]

/-!
## Larger forests
-/

/--
A forest with fewer estimators is the beginning of the one with more of them.  It draws the
first of the same samples and has the first of the same estimators, each trained on its
sample, for the same classes and of the same width.
-/
theorem fit_of_larger {s : ForestSettings} {fewer more : UInt64} (hle : fewer ≤ more)
    {width : Nat} {features : Array (Array Float32)} {labels : List String} {f : Forest}
    (h : fit { s with estimators := more } width features labels = .ok f) :
    fit { s with estimators := fewer } width features labels =
      .ok { f with estimators := f.estimators.take fewer.toNat } ∧
    f.estimators.length = more.toNat ∧
    samples features.size fewer.toNat (.ofSeed s.seed) =
      (samples features.size more.toNat (.ofSeed s.seed)).take fewer.toNat ∧
    ∃ targets, List.Forall₂ (fun sample e =>
        Estimator.train (ClassModel.trainedSettings width s) features targets f.classes.length
          sample = .ok e)
      (samples features.size more.toNat (.ofSeed s.seed)) f.estimators := by
  have hsamples := samples_of_le (UInt64.le_iff_toNat_le.mp hle) features.size (.ofSeed s.seed)
  rcases fit_eq_ok_iff.mp h with
    ⟨hsize, hsome, htwo, hroom, targets, estimators, htargets, hestimators, rfl⟩
  refine ⟨?_, ?_, hsamples, targets.toArray, Attempts.forall₂_of_mapM_eq_ok hestimators⟩
  · have hfirst := Attempts.mapM_take_eq_ok hestimators fewer.toNat
    rw [← hsamples] at hfirst
    exact fit_eq_ok_iff.mpr
      ⟨hsize, hsome, htwo, Nat.le_trans (UInt64.le_iff_toNat_le.mp hle) hroom, targets,
        estimators.take fewer.toNat, htargets, hfirst, rfl⟩
  · exact (Attempts.length_of_mapM_eq_ok hestimators).trans (length_samples _ _ _)

/-- Of three estimators on two rows, the first two are those of the smaller forest. -/
theorem fit_of_larger_twoRows :
    (2 : UInt64) ≤ 3 ∧ ∃ f, fit { estimators := 3 } 1 #[#[0], #[1]] ["a", "b"] = .ok f ∧
      f.estimators.length = 3 ∧
      fit { estimators := 2 } 1 #[#[0], #[1]] ["a", "b"] =
        .ok { f with estimators := f.estimators.take 2 } := by
  have hnumeric : Numeric #[#[0], #[1]] := by
    unfold Numeric
    decide
  rcases exists_fit (s := { estimators := 3 }) ["a", "b"] hnumeric rfl (by decide)
    (by decide) 1 with ⟨f, hf⟩
  have hlarger := @fit_of_larger {} 2 3 (by decide) _ _ _ _ hf
  exact ⟨by decide, f, hf, hlarger.2.1, hlarger.1⟩

/-!
## Prediction
-/

theorem check_eq_ok_iff {f : Forest} {sample : Array Float32} :
    f.check sample = .ok () ↔ sample.size = f.width ∧ f.estimators ≠ [] ∧
      forall e, e ∈ f.estimators -> e.models.length = f.classes.length := by
  unfold check
  split
  · rename_i hsize
    exact ⟨fun h => (by cases h), fun h => absurd h.1 hsize⟩
  · rename_i hsize
    rw [not_not] at hsize
    split
    · rename_i hnone
      exact ⟨fun h => (by cases h), fun h => absurd (List.isEmpty_iff.mp hnone) h.2.1⟩
    · rename_i hsome
      split
      · rename_i e he
        have hmem := List.mem_of_find?_eq_some he
        have hcount := List.find?_some he
        exact ⟨fun h => (by cases h), fun h => by simp [h.2.2 e hmem] at hcount⟩
      · rename_i hagree
        refine ⟨fun _ => ⟨hsize, by simpa using hsome, fun e he => ?_⟩, fun _ => rfl⟩
        simpa using List.find?_eq_none.mp hagree e he

/-- A forest that answers: it has classes, estimators, and one model of each for a class. -/
structure Answers (width : Nat) (f : Forest) : Prop where
  width_eq : f.width = width
  some_classes : f.classes ≠ []
  some_estimators : f.estimators ≠ []
  models : forall e, e ∈ f.estimators -> e.models.length = f.classes.length
  vote : forall e, e ∈ f.estimators -> forall sample : Array Float32, sample.size = width ->
    ∃ v, e.vote sample = .ok v ∧ v.length = f.classes.length

theorem IsTrained.answers {s : ForestSettings} {width : Nat}
    {features : Array (Array Float32)} {labels : List String} {f : Forest}
    (h : f.IsTrained s width features labels) (hsome : labels ≠ [])
    (hcount : s.estimators ≠ 0) : f.Answers width := by
  constructor
  · exact h.width_eq
  · rw [h.classes_eq]
    exact Labels.distinct_ne_nil hsome
  · intro hnone
    have hlength := h.count_eq
    rw [hnone] at hlength
    exact hcount (UInt64.toNat_inj.mp hlength.symm)
  · exact fun e he => (h.estimators he).1
  · exact fun e he sample hsize => (h.estimators he).vote_eq_ok hsize

theorem Answers.withFingerprint {width : Nat} {f : Forest} (h : f.Answers width)
    (fingerprint : String) : (f.withFingerprint fingerprint).Answers width :=
  ⟨h.width_eq, h.some_classes, h.some_estimators, h.models, h.vote⟩

theorem Answers.check_eq_ok {width : Nat} {f : Forest} (h : f.Answers width)
    {sample : Array Float32} (hsize : sample.size = width) : f.check sample = .ok () :=
  check_eq_ok_iff.mpr ⟨hsize.trans h.width_eq.symm, h.some_estimators, h.models⟩

theorem Answers.probabilities_eq_ok {width : Nat} {f : Forest} (h : f.Answers width)
    {sample : Array Float32} (hsize : sample.size = width) :
    ∃ p, f.probabilities sample = .ok p ∧ p.length = f.classes.length := by
  rcases Attempts.exists_mapM_eq_ok fun e he => h.vote e he sample hsize with
    ⟨votes, hvotes, _⟩
  refine ⟨Vote.average f.classes.length votes, ?_, ?_⟩
  · rw [probabilities, h.check_eq_ok hsize]
    dsimp only
    rw [hvotes]
  · apply Vote.length_average
    intro vote hvote
    rcases Attempts.exists_of_mem_mapM hvotes hvote with ⟨e, he, heq⟩
    rcases h.vote e he sample hsize with ⟨v, hv, hlength⟩
    cases heq.symm.trans hv
    exact hlength

theorem exists_class {f : Forest} {p : List Float} (hsome : f.classes ≠ [])
    (hlength : p.length = f.classes.length) :
    ∃ label, (Vote.argmax p).bind (fun i => f.classes[i]?) = some label ∧
      label ∈ f.classes := by
  have hne : p ≠ [] := by
    intro hnil
    rw [hnil] at hlength
    exact hsome (List.length_eq_zero_iff.mp hlength.symm)
  rcases Vote.exists_argmax hne with ⟨i, hi, hlt⟩
  rw [hlength] at hlt
  refine ⟨f.classes[i], ?_, List.getElem_mem hlt⟩
  rw [hi, Option.bind_some, List.getElem?_eq_getElem hlt]

theorem predict_eq_ok_iff {f : Forest} {sample : Array Float32} {label : String} :
    f.predict sample = .ok label ↔ ∃ p, f.probabilities sample = .ok p ∧
      (Vote.argmax p).bind (fun i => f.classes[i]?) = some label := by
  constructor
  · intro h
    rcases Attempts.bind_eq_ok.mp h with ⟨p, hp, h⟩
    refine ⟨p, hp, ?_⟩
    cases hclass : (Vote.argmax p).bind fun i => f.classes[i]? with
    | none =>
        rw [hclass] at h
        cases h
    | some other =>
        rw [hclass] at h
        injection h with h
        rw [h]
  · rintro ⟨p, hp, hclass⟩
    refine Attempts.bind_eq_ok.mpr ⟨p, hp, ?_⟩
    rw [hclass]
    rfl

theorem Answers.predict_eq_ok {width : Nat} {f : Forest} (h : f.Answers width)
    {sample : Array Float32} (hsize : sample.size = width) :
    ∃ label, f.predict sample = .ok label ∧ label ∈ f.classes := by
  rcases h.probabilities_eq_ok hsize with ⟨p, hp, hlength⟩
  rcases exists_class h.some_classes hlength with ⟨label, hlabel, hmem⟩
  exact ⟨label, predict_eq_ok_iff.mpr ⟨p, hp, hlabel⟩, hmem⟩

end Forest
end Polyglot
