import Polyglot.Proofs.Bundle.Sizes
import Polyglot.Proofs.Json.Readable

/-!
# Binary numbers of classifiers

The numbers of a classifier that are written as decimals.  In the classifier that is
read from a bundle, every one of them is what its own decimal is read as, so a bundle
is read as the classifier it was written for exactly if all of them are kept.
-/

namespace Polyglot

def ClassModel.writtenSingles (m : ClassModel) : List Float32 :=
  m.settings.shrinkage :: m.singles

def ClassModel.writtenDoubles (m : ClassModel) : List Float :=
  m.settings.featureShare :: m.settings.dataShare :: m.trees.map ModelTree.featureShare

def Classifier.writtenSingles (c : Classifier) : List Float32 :=
  c.vectorizer.weights.toList ++
    c.forest.estimators.flatMap fun e => e.models.flatMap ClassModel.writtenSingles

def Classifier.writtenDoubles (c : Classifier) : List Float :=
  c.forest.estimators.flatMap fun e => e.models.flatMap ClassModel.writtenDoubles

/-- Every number is the one that its text is read as. -/
structure Classifier.Kept (c : Classifier) : Prop where
  singles : forall x, x ∈ c.writtenSingles -> Json.KeepsSingle x
  doubles : forall x, x ∈ c.writtenDoubles -> Json.KeepsDouble x

theorem ClassModel.Sized.storable {m : ClassModel} (h : m.Sized)
    (hsingles : forall x, x ∈ m.writtenSingles -> Json.KeepsSingle x)
    (hdoubles : forall x, x ∈ m.writtenDoubles -> Json.KeepsDouble x) : m.Storable := by
  rcases List.forall_mem_cons.mp hsingles with ⟨hshrinkage, hsingles⟩
  rcases List.forall_mem_cons.mp hdoubles with ⟨hfeatureShare, hdoubles⟩
  rcases List.forall_mem_cons.mp hdoubles with ⟨hdataShare, hshares⟩
  apply ClassModel.Fits.storable _ hsingles
  constructor
  · exact ⟨h.settings.featureSize, h.settings.iterations, hshrinkage, hfeatureShare, hdataShare,
      h.settings.minLeafSize⟩
  · intro t ht
    have htree := h.trees t ht
    exact ⟨htree.nodes, htree.featureSize, htree.minLeafSize, hshares _ (List.mem_map_of_mem ht)⟩

namespace Classifier

theorem Sized.storable_vectorizer {c : Classifier} (h : c.Sized) (hkept : c.Kept) :
    c.vectorizer.Storable :=
  ⟨h.columns, fun w hw =>
    hkept.singles w (List.mem_append_left _ (Array.mem_toList_iff.mpr hw))⟩

theorem Sized.storable_forest {c : Classifier} (h : c.Sized) (hkept : c.Kept) :
    c.forest.Storable := by
  constructor
  · exact h.forest.width
  · intro e he m hm
    apply (h.forest.models e he m hm).storable
    · intro x hx
      apply hkept.singles x
      apply List.mem_append_right
      exact List.mem_flatMap.mpr ⟨e, he, List.mem_flatMap.mpr ⟨m, hm, hx⟩⟩
    · intro x hx
      exact hkept.doubles x (List.mem_flatMap.mpr ⟨e, he, List.mem_flatMap.mpr ⟨m, hm, hx⟩⟩)

end Classifier

/-!
## What the numbers of a bundle are read as
-/

namespace Json

def SingleReadAs (x y : Float32) : Prop :=
  (ofFloat32 x).float32? = some y

def DoubleReadAs (x y : Float) : Prop :=
  (ofFloat x).float? = some y

theorem forall₂_of_list? {α β : Type} {json : α -> Json} {item? : Json -> Option β} {xs : List α}
    {ys : List β} (h : (ofList json xs).list? item? = some ys) :
    List.Forall₂ (fun x y => item? (json x) = some y) xs ys :=
  List.forall₂_map_left_iff.mp (forall₂_of_mapM h)

end Json

namespace Bundle

open Json

theorem weights_of_vectorizer? {v w : Vectorizer} (h : vectorizer? (vectorizerJson v) = some w) :
    List.Forall₂ SingleReadAs v.weights.toList w.weights.toList := by
  replace h := (bind_fields?_ofEntries (by rfl) (by decide)).symm.trans h
  simp only [List.map_cons, List.map_nil, Option.bind_eq_bind, Option.bind_eq_some_iff,
    Option.pure_def, Option.some.injEq] at h
  rcases h with ⟨_, _, _, _, weights, hweights, rfl⟩
  exact forall₂_of_list? hweights

theorem singles_of_node? {n n' : Node} (h : node? (nodeJson n) = some n') :
    List.Forall₂ SingleReadAs [n.threshold, n.prediction] [n'.threshold, n'.prediction] := by
  replace h := (bind_fields?_ofEntries (by rfl) (by decide)).symm.trans h
  replace h := (bind_fields?_ofEntries (by rfl) (by decide)).symm.trans h
  simp only [List.map_cons, List.map_nil, Option.bind_eq_bind, Option.bind_eq_some_iff,
    Option.pure_def, Option.some.injEq] at h
  rcases h with ⟨_, _, _, hthreshold, _, hprediction, _, _, _, _, _, _, _, _, _, _, rfl⟩
  exact .cons hthreshold (.cons hprediction .nil)

theorem numbers_of_tree? {t t' : ModelTree} (h : tree? (treeJson t) = some t') :
    List.Forall₂ SingleReadAs
        (t.nodes.toList.flatMap fun n => [n.threshold, n.prediction])
        (t'.nodes.toList.flatMap fun n => [n.threshold, n.prediction]) ∧
      DoubleReadAs t.featureShare t'.featureShare := by
  replace h := (bind_fields?_ofEntries (by rfl) (by decide)).symm.trans h
  replace h := (bind_fields?_ofEntries (by rfl) (by decide)).symm.trans h
  simp only [List.map_cons, List.map_nil, Option.bind_eq_bind, Option.bind_eq_some_iff,
    Option.pure_def, Option.some.injEq] at h
  rcases h with ⟨_, hnodes, _, _, _, _, _, _, _, _, _, hfeatureShare, rfl⟩
  exact ⟨List.rel_flatMap (forall₂_of_list? hnodes) fun _ _ => singles_of_node?, hfeatureShare⟩

theorem numbers_of_modelSettings? {s s' : ModelSettings}
    (h : modelSettings? (modelSettingsJson s) = some s') :
    SingleReadAs s.shrinkage s'.shrinkage ∧ DoubleReadAs s.featureShare s'.featureShare ∧
      DoubleReadAs s.dataShare s'.dataShare := by
  replace h := (bind_fields?_ofEntries (by rfl) (by decide)).symm.trans h
  simp only [List.map_cons, List.map_nil, Option.bind_eq_bind, Option.bind_eq_some_iff,
    Option.pure_def, Option.some.injEq] at h
  rcases h with ⟨_, _, _, _, _, _, _, hshrinkage, _, hfeatureShare, _, hdataShare, _, _, _, _, _, _,
    _, _, _, _, rfl⟩
  exact ⟨hshrinkage, hfeatureShare, hdataShare⟩

theorem numbers_of_model? {m m' : ClassModel} (h : model? (modelJson m) = some m') :
    List.Forall₂ SingleReadAs m.writtenSingles m'.writtenSingles ∧
      List.Forall₂ DoubleReadAs m.writtenDoubles m'.writtenDoubles := by
  replace h := (bind_fields?_ofEntries (by rfl) (by decide)).symm.trans h
  simp only [List.map_cons, List.map_nil, Option.bind_eq_bind, Option.bind_eq_some_iff,
    Option.pure_def, Option.some.injEq] at h
  rcases h with ⟨_, hsettings, _, htrees, _, hbias, rfl⟩
  rcases numbers_of_modelSettings? hsettings with ⟨hshrinkage, hfeatureShare, hdataShare⟩
  have htree := forall₂_of_list? htrees
  constructor
  · refine .cons hshrinkage (.cons hbias ?_)
    exact List.rel_flatMap htree fun _ _ ht => (numbers_of_tree? ht).1
  · refine .cons hfeatureShare (.cons hdataShare ?_)
    apply List.forall₂_map_left_iff.mpr
    apply List.forall₂_map_right_iff.mpr
    exact htree.imp fun _ _ ht => (numbers_of_tree? ht).2

theorem models_of_estimator? {e e' : Estimator} (h : estimator? (estimatorJson e) = some e') :
    List.Forall₂ (fun m m' => model? (modelJson m) = some m') e.models e'.models := by
  replace h := (bind_fields?_ofEntries (by rfl) (by decide)).symm.trans h
  simp only [List.map_cons, List.map_nil, Option.bind_eq_bind, Option.bind_eq_some_iff,
    Option.pure_def, Option.some.injEq] at h
  rcases h with ⟨_, hmodels, rfl⟩
  exact forall₂_of_list? hmodels

theorem estimators_of_forest? {f f' : Forest} (h : forest? (forestJson f) = some f') :
    List.Forall₂ (fun e e' => estimator? (estimatorJson e) = some e') f.estimators
      f'.estimators := by
  replace h := (bind_fields?_ofEntries (by rfl) (by decide)).symm.trans h
  simp only [List.map_cons, List.map_nil, Option.bind_eq_bind, Option.bind_eq_some_iff,
    Option.pure_def, Option.some.injEq] at h
  rcases h with ⟨_, _, _, _, _, _, _, hestimators, rfl⟩
  exact forall₂_of_list? hestimators

theorem numbers_of_parts? {c : Classifier} {p : Parts}
    (h : (parse (write c)).bind parts? = some p) :
    List.Forall₂ SingleReadAs c.writtenSingles
        (Classifier.writtenSingles ⟨p.vectorizer, p.forest⟩) ∧
      List.Forall₂ DoubleReadAs c.writtenDoubles
        (Classifier.writtenDoubles ⟨p.vectorizer, p.forest⟩) := by
  rw [write, parse_print (spelled_json _ _ _), Option.bind_some] at h
  replace h := (bind_fields?_ofEntries (by rfl) (by decide)).symm.trans h
  simp only [List.map_cons, List.map_nil, Option.bind_eq_bind, Option.bind_eq_some_iff,
    Option.pure_def, Option.some.injEq] at h
  rcases h with ⟨_, _, _, hvectorizer, _, hforest, rfl⟩
  have hestimator := estimators_of_forest? hforest
  constructor
  · refine List.rel_append (weights_of_vectorizer? hvectorizer) ?_
    exact List.rel_flatMap hestimator fun _ _ he =>
      List.rel_flatMap (models_of_estimator? he) fun _ _ hm => (numbers_of_model? hm).1
  · exact List.rel_flatMap hestimator fun _ _ he =>
      List.rel_flatMap (models_of_estimator? he) fun _ _ hm => (numbers_of_model? hm).2

/-!
## Round trips
-/

/-- A classifier is read from its own bundle exactly if its numbers are kept. -/
theorem read_write_iff {c : Classifier} (hsized : c.Sized)
    (hfingerprint : c.forest.fingerprint = c.fingerprint)
    (hwidth : c.forest.width = c.vectorizer.width) : read (write c) = .ok c ↔ c.Kept := by
  constructor
  · intro h
    rcases parts_of_read h with ⟨⟨j, hparse, hparts⟩, _, _⟩
    rcases numbers_of_parts? (Option.bind_eq_some_iff.mpr ⟨j, hparse, hparts⟩) with
      ⟨hsingles, hdoubles⟩
    constructor
    · exact fun x hx => keepsSingle_iff.mpr (List.forall₂_same.mp hsingles x hx)
    · exact fun x hx => keepsDouble_iff.mpr (List.forall₂_same.mp hdoubles x hx)
  · intro hkept
    exact read_write (hsized.storable_vectorizer hkept) (hsized.storable_forest hkept)
      hfingerprint hwidth

theorem kept_of_read_write {c : Classifier} (h : read (write c) = .ok c) : c.Kept :=
  (read_write_iff (sized_of_read h) (parts_of_read h).2.1 (parts_of_read h).2.2).mp h

theorem read_write_of_not_finite {c : Classifier} {x : Float32} (hx : x ∈ c.writtenSingles)
    (hfinite : x.isFinite = false) :
    read (write c) = .error (.corrupt (refusal (write c))) := by
  unfold read
  cases hparts : (parse (write c)).bind parts? with
  | none => rfl
  | some p =>
      have hread := (numbers_of_parts? hparts).1
      rcases List.forall₂_iff_get.mp hread with ⟨hlength, hget⟩
      rcases List.mem_iff_get.mp hx with ⟨i, rfl⟩
      have hsome := isFinite_of_float32? (hget i i.isLt (hlength ▸ i.isLt))
      rw [List.get_eq_getElem] at hsome hfinite
      rw [hsome] at hfinite
      cases hfinite

end Bundle
end Polyglot
