import Polyglot.Features.Vectorizer
import Polyglot.Proofs.Single.Arithmetic
import Polyglot.Proofs.Terms

/-!
# Vectorizers

A fitted vectorizer has a weight for every term and no column without a weight,
so it gives every text as many features as its width says.  All of them are finite
and bounded, since counts and weights are.
-/

namespace Polyglot

/-- What is known of logarithms: those of positive finite numbers are finite and moderate. -/
class LawfulLogarithm [Logarithm] : Prop where
  moderate : forall (x : Float32) (v : ℚ), Single.value? x = some v -> 0 < v ->
    ∃ w, Single.value? (Logarithm.ln x) = some w ∧ -104 ≤ w ∧ w ≤ 89

namespace Vectorizer

/-!
## Fitting
-/

structure Fitted (v : Vectorizer) : Prop where
  size_weights : v.weights.size = v.vocabulary.size
  column_lt : forall term column, v.vocabulary.column? term = some column ->
    column < v.weights.size

def Moderate (v : Vectorizer) : Prop :=
  forall w, w ∈ v.weights -> Single.Within 7 w

section Fitting

variable [Logarithm]

theorem fitted_ofTerms (s : VectorizerSettings) (total : Nat) {terms : List TermStatistics}
    (h : TermStatistics.Ascending terms) : Fitted (ofTerms s total terms) := by
  have hnames : (terms.map TermStatistics.term).Pairwise (· < ·) := List.pairwise_map.mpr h
  have hentries : (ofTerms s total terms).vocabulary.entries =
      (terms.map TermStatistics.term).zipIdx := Vocabulary.entries_ofList_zipIdx hnames
  have hsize : (ofTerms s total terms).weights.size = terms.length := by
    simp [ofTerms]
  constructor
  · rw [Vocabulary.size, hentries, hsize]
    simp
  · intro term column hcolumn
    have hmem := Vocabulary.mem_of_lookup hcolumn
    rw [hentries] at hmem
    have hlt := (List.mem_zipIdx' hmem).1
    rw [hsize]
    simpa using hlt

theorem within_weight [LawfulLogarithm] (total documents : Nat) :
    Single.Within 7 (weight total documents) := by
  rcases Single.value?_one_add_toSingle total with ⟨a, ha, hlow, hhigh⟩
  rcases Single.value?_one_add_toSingle documents with ⟨b, hb, hlow', hhigh'⟩
  rw [zpow_zero] at hlow hlow'
  have hpositive : 0 < a / b := by positivity
  have hsmall : (2 : ℚ) ^ (-65 : ℤ) ≤ a / b := by
    rw [le_div_iff₀ (by linarith), zpow_neg]
    calc ((2 : ℚ) ^ (65 : ℤ))⁻¹ * b
      _ ≤ (2 ^ (65 : ℤ))⁻¹ * 2 ^ (65 : ℤ) := by gcongr
      _ = 1 := inv_mul_cancel₀ (by positivity)
      _ ≤ a := hlow
  have hlarge : |a / b| ≤ (2 : ℚ) ^ (127 : ℤ) := by
    rw [abs_of_pos hpositive]
    calc a / b
      _ ≤ a := div_le_self (by linarith) hlow'
      _ ≤ 2 ^ (65 : ℤ) := hhigh
      _ ≤ 2 ^ (127 : ℤ) := zpow_le_zpow_right₀ one_le_two (by norm_num)
  rcases Single.value?_div ha hb (by linarith) hlarge with ⟨r, hr, hrounded⟩
  have hratio : 0 < r := lt_of_lt_of_le (by positivity) (hrounded.pow_le (by decide) hsmall)
  rcases LawfulLogarithm.moderate _ r hr hratio with ⟨w, hw, hleast, hmost⟩
  have hsum : |w + 1| ≤ (2 : ℚ) ^ (7 : ℤ) := by
    rw [abs_le]
    norm_num
    constructor <;> linarith
  rcases Single.value?_add hw Single.value?_one
    (hsum.trans (zpow_le_zpow_right₀ one_le_two (by norm_num))) with ⟨c, hc, hrounded'⟩
  exact ⟨c, hc, hrounded'.abs_le_pow 7 (by decide) hsum⟩

theorem moderate_ofTerms [LawfulLogarithm] (s : VectorizerSettings) (total : Nat)
    (terms : List TermStatistics) : Moderate (ofTerms s total terms) := by
  intro w hw
  simp only [ofTerms, List.mem_toArray, List.mem_map] at hw
  rcases hw with ⟨t, _, rfl⟩
  exact within_weight total t.documents

theorem fit_eq_ok {s : VectorizerSettings} {documents : List String}
    (hrange : s.rangeUsable = true) (hsome : documents ≠ []) :
    fit s documents = .ok (ofTerms s documents.length
      (TermStatistics.best s.maxFeatures.toNat (TermStatistics.ofDocuments s documents))) := by
  unfold fit
  rw [if_neg (by simpa using hsome), if_neg (by simp [hrange])]

theorem eq_ofTerms_of_fit {s : VectorizerSettings} {documents : List String} {v : Vectorizer}
    (h : fit s documents = .ok v) :
    v = ofTerms s documents.length
      (TermStatistics.best s.maxFeatures.toNat (TermStatistics.ofDocuments s documents)) := by
  unfold fit at h
  split at h
  · cases h
  · split at h
    · cases h
    · injection h with h
      exact h.symm

theorem fitted_of_fit {s : VectorizerSettings} {documents : List String} {v : Vectorizer}
    (h : fit s documents = .ok v) : Fitted v := by
  rw [eq_ofTerms_of_fit h]
  exact fitted_ofTerms _ _
    (TermStatistics.ascending_best _ (TermStatistics.ascending_ofDocuments s documents))

theorem moderate_of_fit [LawfulLogarithm] {s : VectorizerSettings} {documents : List String}
    {v : Vectorizer} (h : fit s documents = .ok v) : Moderate v := by
  rw [eq_ofTerms_of_fit h]
  exact moderate_ofTerms _ _ _

end Fitting

/-!
## Counting
-/

/-- Whatever holds of zero and survives one more hit holds of all counts. -/
theorem foldlM_countHit {p : Float32 -> Prop} (hstep : forall x, p x -> p (x + 1))
    (columns : List Nat) {counts : Array Float32} (hcounts : forall x, x ∈ counts -> p x)
    (hcolumns : forall column, column ∈ columns -> column < counts.size) :
    ∃ result, columns.foldlM countHit counts = .ok result ∧ result.size = counts.size ∧
      forall x, x ∈ result -> p x := by
  induction columns generalizing counts with
  | nil => exact ⟨counts, rfl, rfl, hcounts⟩
  | cons column columns ih =>
      have hcolumn := hcolumns column List.mem_cons_self
      have hmodified : forall x, x ∈ counts.modify column (· + 1) -> p x := by
        intro x hx
        rcases Array.mem_iff_getElem.mp hx with ⟨i, hi, rfl⟩
        rw [Array.getElem_modify]
        split
        · exact hstep _ (hcounts _ (Array.getElem_mem _))
        · exact hcounts _ (Array.getElem_mem _)
      rcases ih hmodified (by
        intro other hother
        rw [Array.size_modify]
        exact hcolumns other (List.mem_cons_of_mem _ hother)) with ⟨result, hresult, hsize, hall⟩
      refine ⟨result, ?_, by rw [hsize, Array.size_modify], hall⟩
      rw [List.foldlM_cons, countHit, if_pos hcolumn]
      exact hresult

theorem column_lt_of_mem_hits {v : Vectorizer} (h : Fitted v) {text : String} {column : Nat}
    (hcolumn : column ∈ v.hits text) : column < v.weights.size := by
  rcases List.mem_filterMap.mp hcolumn with ⟨term, _, hterm⟩
  exact h.column_lt term column hterm

theorem counts_eq_ok {v : Vectorizer} (h : Fitted v) (text : String) :
    ∃ counts, v.counts text = .ok counts ∧ counts.size = v.weights.size ∧
      forall x, x ∈ counts -> Single.Within 25 x := by
  have hzero : forall x, x ∈ Array.replicate v.weights.size (0 : Float32) ->
      Single.Within 25 x := by
    intro x hx
    rw [(Array.mem_replicate.mp hx).2]
    exact Single.within_zero 25
  rcases foldlM_countHit (fun _ hx => hx.add_one) (v.hits text) hzero
    (fun column hcolumn => by
      rw [Array.size_replicate]
      exact column_lt_of_mem_hits h hcolumn) with ⟨counts, hcounts, hsize, hall⟩
  exact ⟨counts, hcounts, by rw [hsize, Array.size_replicate], hall⟩

/-!
## Scaling
-/

theorem size_normalized (x : Array Float32) : (normalized x).size = x.size := by
  unfold normalized
  simp only
  split
  · exact Array.size_map
  · exact Array.size_replicate

theorem within_normalized {x : Array Float32} {t : ℤ}
    (h : forall a, a ∈ x -> Single.Within t a) (hleast : -149 ≤ t + 34) (hmost : t + 34 ≤ 127)
    {a : Float32} (ha : a ∈ normalized x) : Single.Within (t + 34) a := by
  unfold normalized at ha
  simp only at ha
  split at ha
  · rename_i hlength
    rcases Array.mem_map.mp ha with ⟨b, hb, rfl⟩
    exact (h b hb).div_length hlength hleast hmost
  · rw [(Array.mem_replicate.mp ha).2]
    exact Single.within_zero _

theorem transform_eq_ok {v : Vectorizer} (h : Fitted v) (text : String) :
    ∃ x, v.transform text = .ok x ∧ x.size = v.weights.size ∧
      (Moderate v -> forall a, a ∈ x -> Single.Within 66 a) := by
  rcases counts_eq_ok h text with ⟨counts, hcounts, hsize, hwithin⟩
  refine ⟨normalized (counts.zipWith (· * ·) v.weights), ?_, ?_, ?_⟩
  · rw [transform, hcounts]
    rfl
  · rw [size_normalized, Array.size_zipWith, hsize, Nat.min_self]
  · intro hmoderate a ha
    apply within_normalized (t := 25 + 7) _ (by norm_num) (by norm_num) ha
    intro b hb
    rcases Array.mem_iff_getElem.mp hb with ⟨i, hi, rfl⟩
    rw [Array.getElem_zipWith]
    exact (hwithin _ (Array.getElem_mem _)).mul (hmoderate _ (Array.getElem_mem _))
      (by norm_num) (by norm_num)

/-!
## Features
-/

theorem within_structure {code : String} {a : Float32} (h : a ∈ Structure.features code) :
    Single.Within 64 a := by
  rcases List.mem_map.mp h with ⟨n, _, rfl⟩
  exact Single.within_toSingle n

theorem length_structure (code : String) :
    (Structure.features code).length = Structure.names.length := by
  rfl

theorem assemble_eq_ok {v : Vectorizer} (h : Fitted v) (code : String) :
    ∃ x, v.assemble code = .ok x ∧ x.size = v.width ∧
      (Moderate v -> forall a, a ∈ x -> Single.Within 66 a) := by
  rcases transform_eq_ok h code with ⟨x, hx, hsize, hnumbers⟩
  refine ⟨x ++ Structure.features code, ?_, ?_, ?_⟩
  · rw [assemble, hx]
    rfl
  · rw [← Array.length_toList, Array.toList_appendList, List.length_append, Array.length_toList,
      hsize, h.size_weights, length_structure, width]
  · intro hmoderate a ha
    rw [← Array.mem_toList_iff, Array.toList_appendList] at ha
    rcases List.mem_append.mp ha with hvector | hstructure
    · exact hnumbers hmoderate a (Array.mem_toList_iff.mp hvector)
    · exact (within_structure hstructure).mono (by norm_num)

end Vectorizer
end Polyglot
