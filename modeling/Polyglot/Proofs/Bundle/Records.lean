import Polyglot.Bundle.Reader
import Polyglot.Proofs.Json.Records
import Polyglot.Proofs.Terms

/-!
# Records of a bundle

Every part of a bundle is read as the part that was written, if its numbers are
numbers that the format keeps.
-/

namespace Polyglot

namespace Json

def KeepsSingle (x : Float32) : Prop :=
  (parse (ofFloat32 x).print).bind float32? = some x

def KeepsDouble (x : Float) : Prop :=
  (parse (ofFloat x).print).bind float? = some x

theorem keepsSingle_iff {x : Float32} : KeepsSingle x ↔ (ofFloat32 x).float32? = some x := by
  rw [KeepsSingle, parse_print (spelled_ofFloat32 x), Option.bind_some]

theorem keepsDouble_iff {x : Float} : KeepsDouble x ↔ (ofFloat x).float? = some x := by
  rw [KeepsDouble, parse_print (spelled_ofFloat x), Option.bind_some]

end Json

/-!
## Parts that can be kept

Whole numbers have to be machine words, and what is written for the others has to
be read as the same numbers.  A part whose trees may be read with other numbers only
has to fit.
-/

structure Node.Fits (n : Node) : Prop where
  feature : n.feature < UInt64.size
  missing_low : -128 ≤ n.missing
  missing_high : n.missing ≤ 127
  index : n.index < UInt64.size
  left : n.left < UInt64.size
  right : n.right < UInt64.size

structure Node.Storable (n : Node) : Prop where
  feature : n.feature < UInt64.size
  threshold : Json.KeepsSingle n.threshold
  prediction : Json.KeepsSingle n.prediction
  missing_low : -128 ≤ n.missing
  missing_high : n.missing ≤ 127
  index : n.index < UInt64.size
  left : n.left < UInt64.size
  right : n.right < UInt64.size

theorem Node.Storable.fits {n : Node} (h : n.Storable) : n.Fits :=
  ⟨h.feature, h.missing_low, h.missing_high, h.index, h.left, h.right⟩

theorem Node.Fits.storable {n : Node} (h : n.Fits) (hthreshold : Json.KeepsSingle n.threshold)
    (hprediction : Json.KeepsSingle n.prediction) : n.Storable :=
  ⟨h.feature, hthreshold, hprediction, h.missing_low, h.missing_high, h.index, h.left, h.right⟩

structure ModelTree.Fits (t : ModelTree) : Prop where
  nodes : forall n, n ∈ t.nodes -> n.Fits
  featureSize : t.featureSize < UInt64.size
  minLeafSize : t.minLeafSize < UInt64.size
  featureShare : Json.KeepsDouble t.featureShare

structure ModelTree.Storable (t : ModelTree) : Prop where
  nodes : forall n, n ∈ t.nodes -> n.Storable
  featureSize : t.featureSize < UInt64.size
  minLeafSize : t.minLeafSize < UInt64.size
  featureShare : Json.KeepsDouble t.featureShare

structure ModelSettings.Storable (s : ModelSettings) : Prop where
  featureSize : s.featureSize < UInt64.size
  iterations : s.iterations < UInt64.size
  shrinkage : Json.KeepsSingle s.shrinkage
  featureShare : Json.KeepsDouble s.featureShare
  dataShare : Json.KeepsDouble s.dataShare
  minLeafSize : s.minLeafSize < UInt64.size

structure ClassModel.Fits (m : ClassModel) : Prop where
  settings : m.settings.Storable
  trees : forall t, t ∈ m.trees -> t.Fits

structure ClassModel.Storable (m : ClassModel) : Prop where
  settings : m.settings.Storable
  trees : forall t, t ∈ m.trees -> t.Storable
  bias : Json.KeepsSingle m.bias

structure Forest.Fits (f : Forest) : Prop where
  width : f.width < UInt64.size
  models : forall e, e ∈ f.estimators -> forall m, m ∈ e.models -> m.Fits

structure Forest.Storable (f : Forest) : Prop where
  width : f.width < UInt64.size
  models : forall e, e ∈ f.estimators -> forall m, m ∈ e.models -> m.Storable

structure Vectorizer.Storable (v : Vectorizer) : Prop where
  columns : forall e, e ∈ v.vocabulary.entries -> e.2 < UInt64.size
  weights : forall w, w ∈ v.weights -> Json.KeepsSingle w

namespace Bundle

open Json

/-!
## The vectorizer
-/

theorem word?_ofNat (n : UInt64) : word? (.ofNat n.toNat) = some n := by
  rw [word?, nat?_ofNat n.toNat_lt_size, Option.map_some, UInt64.ofNat_toNat]

theorem settings?_settingsJson (s : VectorizerSettings) : settings? (settingsJson s) = some s := by
  refine (bind_fields?_ofEntries (by rfl) (by decide)).trans ?_
  simp only [List.map_cons, List.map_nil, word?_ofNat, bool?, Option.bind_eq_bind,
    Option.bind_some]
  rfl

theorem vocabulary?_vocabularyJson {v : Vocabulary} (h : forall e, e ∈ v.entries -> e.2 < UInt64.size) :
    vocabulary? (vocabularyJson v) = some v := by
  have hcolumns : (v.entries.map fun e => (e.1, ofNat e.2)).mapM
      (fun e : String × Json => e.2.nat?.map fun column => (e.1, column)) =
        some (v.entries.map fun e => e) := by
    apply mapM_map_eq_some
    intro e he
    rw [nat?_ofNat (h e he)]
    rfl
  have hsame : Vocabulary.ofList v.entries = v := by
    rcases v with ⟨entries, hascending⟩
    simp only [Vocabulary.ofList, Vocabulary.foldr_insertNew_of_ascending hascending]
  rw [List.map_id'] at hcolumns
  unfold vocabulary? vocabularyJson ofEntries
  dsimp only
  rw [namedEntries?_ofEntries]
  simp only [Option.bind_eq_bind, Option.bind_some, hcolumns]
  exact congrArg some hsame

theorem vectorizer?_vectorizerJson {v : Vectorizer} (h : v.Storable) :
    vectorizer? (vectorizerJson v) = some v := by
  have hweights : (ofList ofFloat32 v.weights.toList).list? float32? = some v.weights.toList :=
    list?_ofList fun w hw => keepsSingle_iff.mp (h.weights w (Array.mem_toList_iff.mp hw))
  refine (bind_fields?_ofEntries (by rfl) (by decide)).trans ?_
  simp only [List.map_cons, List.map_nil, settings?_settingsJson,
    vocabulary?_vocabularyJson h.columns, hweights, Option.bind_eq_bind, Option.bind_some]
  rfl

/-!
## Trees
-/

theorem node?_of_numbers {n : Node} (h : n.Fits) {threshold prediction : Float32}
    (hthreshold : (ofFloat32 n.threshold).float32? = some threshold)
    (hprediction : (ofFloat32 n.prediction).float32? = some prediction) :
    node? (nodeJson n) = some { n with threshold, prediction } := by
  refine (bind_fields?_ofEntries (by rfl) (by decide)).trans ?_
  refine (bind_fields?_ofEntries (by rfl) (by decide)).trans ?_
  simp only [List.map_cons, List.map_nil, nat?_ofNat h.feature, hthreshold, hprediction,
    signedByte?_ofInt h.missing_low h.missing_high, bool?, nat?_ofNat h.index, nat?_ofNat h.left,
    nat?_ofNat h.right, Option.bind_eq_bind, Option.bind_some]
  rfl

theorem node?_nodeJson {n : Node} (h : n.Storable) : node? (nodeJson n) = some n :=
  node?_of_numbers h.fits (keepsSingle_iff.mp h.threshold) (keepsSingle_iff.mp h.prediction)

theorem loss?_lossName (loss : Loss) : loss? (lossName loss) = some loss := by
  cases loss with
  | squaredError => rfl
  | logLikelihood => rfl
  | leastAbsoluteDeviation => rfl
  | regressionLinear => rfl
  | regressionLogistic => rfl
  | binaryLogistic => rfl
  | binaryLogitRaw => rfl
  | multiProbability => rfl
  | multiMaximum => rfl
  | rankPairwise => rfl

theorem tree?_of_nodes {t : ModelTree} {nodes : List Node}
    (hnodes : (ofList nodeJson t.nodes.toList).list? node? = some nodes)
    (hfeatureSize : t.featureSize < UInt64.size) (hminLeafSize : t.minLeafSize < UInt64.size)
    (hfeatureShare : KeepsDouble t.featureShare) :
    tree? (treeJson t) = some { t with nodes := nodes.toArray } := by
  refine (bind_fields?_ofEntries (by rfl) (by decide)).trans ?_
  refine (bind_fields?_ofEntries (by rfl) (by decide)).trans ?_
  simp only [List.map_cons, List.map_nil, hnodes, nat?_ofNat hfeatureSize, word32?_ofNat,
    nat?_ofNat hminLeafSize, choice?_ofString, loss?_lossName, keepsDouble_iff.mp hfeatureShare,
    Option.bind_eq_bind, Option.bind_some]
  rfl

theorem tree?_treeJson {t : ModelTree} (h : t.Storable) : tree? (treeJson t) = some t :=
  tree?_of_nodes
    (list?_ofList fun n hn => node?_nodeJson (h.nodes n (Array.mem_toList_iff.mp hn)))
    h.featureSize h.minLeafSize h.featureShare

/-!
## The forest
-/

theorem modelSettings?_modelSettingsJson {s : ModelSettings} (h : s.Storable) :
    modelSettings? (modelSettingsJson s) = some s := by
  refine (bind_fields?_ofEntries (by rfl) (by decide)).trans ?_
  simp only [List.map_cons, List.map_nil, nat?_ofNat h.featureSize, word32?_ofNat,
    nat?_ofNat h.iterations, keepsSingle_iff.mp h.shrinkage, keepsDouble_iff.mp h.featureShare,
    keepsDouble_iff.mp h.dataShare, nat?_ofNat h.minLeafSize, choice?_ofString, loss?_lossName,
    bool?, byte?_ofNat, Option.bind_eq_bind, Option.bind_some]
  rfl

theorem model?_of_trees {m : ClassModel} {trees : List ModelTree} {bias : Float32}
    (hsettings : m.settings.Storable)
    (htrees : (ofList treeJson m.trees).list? tree? = some trees)
    (hbias : (ofFloat32 m.bias).float32? = some bias) :
    model? (modelJson m) = some { m with trees, bias } := by
  refine (bind_fields?_ofEntries (by rfl) (by decide)).trans ?_
  simp only [List.map_cons, List.map_nil, modelSettings?_modelSettingsJson hsettings, htrees,
    hbias, Option.bind_eq_bind, Option.bind_some]
  rfl

theorem model?_modelJson {m : ClassModel} (h : m.Storable) : model? (modelJson m) = some m :=
  model?_of_trees h.settings (list?_ofList fun t ht => tree?_treeJson (h.trees t ht))
    (keepsSingle_iff.mp h.bias)

theorem estimator?_of_models {e : Estimator} {models : List ClassModel}
    (h : (ofList modelJson e.models).list? model? = some models) :
    estimator? (estimatorJson e) = some ⟨models⟩ := by
  refine (bind_fields?_ofEntries (by rfl) (by decide)).trans ?_
  simp only [List.map_cons, List.map_nil, h, Option.bind_eq_bind, Option.bind_some]
  rfl

theorem estimator?_estimatorJson {e : Estimator} (h : forall m, m ∈ e.models -> m.Storable) :
    estimator? (estimatorJson e) = some e :=
  estimator?_of_models (list?_ofList fun m hm => model?_modelJson (h m hm))

theorem forest?_of_estimators {f : Forest} (hwidth : f.width < UInt64.size)
    {estimators : List Estimator}
    (h : (ofList estimatorJson f.estimators).list? estimator? = some estimators) :
    forest? (forestJson f) = some { f with estimators } := by
  have hclasses : (ofList ofString f.classes).list? string? = some f.classes :=
    list?_ofList fun label _ => string?_ofString label
  refine (bind_fields?_ofEntries (by rfl) (by decide)).trans ?_
  simp only [List.map_cons, List.map_nil, hclasses, nat?_ofNat hwidth, string?_ofString, h,
    Option.bind_eq_bind, Option.bind_some]
  rfl

theorem forest?_forestJson {f : Forest} (h : f.Storable) : forest? (forestJson f) = some f :=
  forest?_of_estimators h.width
    (list?_ofList fun e he => estimator?_estimatorJson (h.models e he))

/-!
## The bundle
-/

theorem parts?_of_fields (fingerprint : String) {vectorizer forest : Json} {v : Vectorizer}
    {f : Forest} (hv : vectorizer? vectorizer = some v) (hf : forest? forest = some f) :
    parts? (.ofEntries [("fingerprint", .ofString fingerprint), ("vectorizer", vectorizer),
      ("forest", forest)]) = some ⟨fingerprint, v, f⟩ := by
  refine (bind_fields?_ofEntries (by rfl) (by decide)).trans ?_
  simp only [List.map_cons, List.map_nil, string?_ofString, hv, hf, Option.bind_eq_bind,
    Option.bind_some]
  rfl

theorem parts?_of_forest (fingerprint : String) {v : Vectorizer} {f read : Forest}
    (hv : v.Storable) (hf : forest? (forestJson f) = some read) :
    parts? (json fingerprint v f) = some ⟨fingerprint, v, read⟩ :=
  parts?_of_fields fingerprint (vectorizer?_vectorizerJson hv) hf

theorem parts?_json (fingerprint : String) {v : Vectorizer} {f : Forest} (hv : v.Storable)
    (hf : f.Storable) : parts? (json fingerprint v f) = some ⟨fingerprint, v, f⟩ :=
  parts?_of_forest fingerprint hv (forest?_forestJson hf)

end Bundle
end Polyglot
