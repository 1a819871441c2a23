import Polyglot.Proofs.Bundle.Numbers

/-!
# Bundles of mixed parts

A classifier that has been trained or loaded carries one fingerprint in two places:
the one that is computed from its vectorizer, and the one that its forest has kept.
A bundle stores it a third time.  So a bundle with parts of two classifiers is refused
whenever their fingerprints differ, and the first of these three that does not fit is
named.
-/

namespace Polyglot

/--
A classifier that has been trained, or loaded from any bundle that is accepted.  Sizes
are taken to be machine words: a corpus in memory has fewer than `2 ^ 63` samples.
-/
inductive Classifier.Obtained [Logarithm] : Classifier -> Prop where
  | trained {corpus : Corpus} {settings : TrainingSettings} {run : TrainingRun}
      (h : train corpus settings = .ok run) (hcorpus : corpus.size < 2 ^ 63)
      (hwidth : run.classifier.vectorizer.width < UInt64.size) : Obtained run.classifier
  | loaded {bytes : List UInt8} {c : Classifier} (h : Bundle.read bytes = .ok c) : Obtained c

namespace Classifier.Obtained

variable [Logarithm] {c : Classifier}

theorem sized (h : c.Obtained) : c.Sized := by
  cases h with
  | trained htrain hcorpus hwidth =>
      have hparts := (TrainingRun.parts_of_train htrain).2.2
      have hfits := hparts.fits_forest hcorpus hwidth
      constructor
      · exact fun e he => Vectorizer.column_lt_of_fit hparts.fit_eq he
      · exact ⟨hfits.width, fun e he m hm => (hfits.models e he m hm).sized⟩
  | loaded hread => exact Bundle.sized_of_read hread

theorem fingerprint_eq (h : c.Obtained) : c.forest.fingerprint = c.fingerprint := by
  cases h with
  | trained htrain _ _ => exact (TrainingRun.parts_of_train htrain).2.2.fingerprint_eq
  | loaded hread => exact (Bundle.parts_of_read hread).2.1

end Classifier.Obtained

namespace Bundle

open Json

/--
The bytes are a document with the fingerprint of `x`, the vectorizer of `y` and the
forest of `z`.  The order of the fields, blanks, and other fields are left open.
-/
def AssembledFrom (x y z : Classifier) (bytes : List UInt8) : Prop :=
  (parse bytes).bind (fun j => j.fields? ["fingerprint", "vectorizer", "forest"]) =
    some [ofString x.fingerprint, vectorizerJson y.vectorizer, forestJson z.forest]

theorem assembledFrom_print (x y z : Classifier) :
    AssembledFrom x y z (json x.fingerprint y.vectorizer z.forest).print := by
  rw [AssembledFrom, parse_print (spelled_json _ _ _), Option.bind_some]
  exact fields?_ofEntries (by rfl) (by decide)

theorem read_of_assembled {x y z : Classifier} {bytes : List UInt8}
    (h : AssembledFrom x y z bytes) (hy : y.vectorizer.Storable) (hz : z.forest.Storable) :
    read bytes = assemble ⟨x.fingerprint, y.vectorizer, z.forest⟩ := by
  rcases Option.bind_eq_some_iff.mp h with ⟨j, hparse, hfields⟩
  apply read_of_parts?
  rw [hparse, Option.bind_some, parts?, hfields]
  simp only [string?_ofString, vectorizer?_vectorizerJson hy, forest?_forestJson hz,
    Option.bind_eq_bind, Option.bind_some]
  rfl

/-- Two fingerprints that differ are found before the number of features matters. -/
theorem assemble_of_fingerprints {p : Parts}
    (h : ¬ (p.vectorizer.fingerprint = p.fingerprint ∧
      p.forest.fingerprint = p.vectorizer.fingerprint)) :
    assemble p = .error (if p.fingerprint = p.vectorizer.fingerprint
      then .layout p.vectorizer.fingerprint p.forest.fingerprint
      else .fingerprint p.fingerprint p.vectorizer.fingerprint) := by
  unfold assemble
  dsimp only
  split
  · rename_i hstored
    rw [if_neg (Ne.symm hstored)]
  · rename_i hstored
    rw [not_not] at hstored
    rw [if_pos hstored.symm, if_pos fun htrained => h ⟨hstored, htrained⟩]

/--
A bundle with parts of two classifiers whose fingerprints differ is refused as
incompatible, whichever of its parts comes from which of the two.  The text of every
finite number is taken to be read as that number.
-/
theorem load_of_mixed [Logarithm] {a b : Classifier} (ha : a.Obtained) (hb : b.Obtained)
    (hne : a.fingerprint ≠ b.fingerprint)
    (hfinite : forall c, c = a ∨ c = b -> forall x, x ∈ c.writtenSingles -> x.isFinite = true)
    (hsingles : forall c, c = a ∨ c = b -> forall x, x ∈ c.writtenSingles ->
      x.isFinite = true -> KeepsSingle x)
    (hdoubles : forall c, c = a ∨ c = b -> forall x, x ∈ c.writtenDoubles -> KeepsDouble x)
    {x y z : Classifier} (hparts : forall c, c ∈ [x, y, z] -> c = a ∨ c = b)
    (hfirst : a ∈ [x, y, z]) (hsecond : b ∈ [x, y, z]) {bytes : List UInt8}
    (hbytes : AssembledFrom x y z bytes) {path : Path} {w : Workspace}
    (hread : w.files.read path = .ok bytes) :
    ((load path : StateM Workspace _) w).1 =
      .error (.bundle (if x.fingerprint = y.fingerprint then .layout y.fingerprint z.fingerprint
        else .fingerprint x.fingerprint y.fingerprint)) := by
  have hobtained : forall c, c ∈ [x, y, z] -> c.Obtained ∧ c.Kept := by
    intro c hc
    have hcase := hparts c hc
    refine ⟨?_, fun s hs => hsingles c hcase s hs (hfinite c hcase s hs), hdoubles c hcase⟩
    rcases hcase with rfl | rfl
    · exact ha
    · exact hb
  rcases hobtained y (by simp) with ⟨hy, hykept⟩
  rcases hobtained z (by simp) with ⟨hz, hzkept⟩
  have hdiffer : ¬ (y.fingerprint = x.fingerprint ∧ z.forest.fingerprint = y.fingerprint) := by
    rintro ⟨hxy, hyz⟩
    rw [hz.fingerprint_eq] at hyz
    have hall : forall c, c ∈ [x, y, z] -> c.fingerprint = y.fingerprint := by
      intro c hc
      rcases List.mem_cons.mp hc with rfl | hc
      · exact hxy.symm
      · rcases List.mem_pair.mp hc with rfl | rfl
        · rfl
        · exact hyz
    exact hne ((hall a hfirst).trans (hall b hsecond).symm)
  have hrefused := assemble_of_fingerprints (p := ⟨x.fingerprint, y.vectorizer, z.forest⟩) hdiffer
  rw [load_of_read hread, read_of_assembled hbytes (hy.sized.storable_vectorizer hykept)
    (hz.sized.storable_forest hzkept), hrefused]
  show Except.error _ = _
  rw [← hz.fingerprint_eq]
  rfl

/-- Two classifiers with the same labels and widths, whose letters stand in different columns. -/
theorem load_of_mixed_letters :
    ((load ⟨"m.json"⟩ : StateM Workspace _)
      (oneFile (json stray.fingerprint agreeing.vectorizer agreeing.forest).print)).1 =
        .error (.bundle (.fingerprint stray.fingerprint agreeing.fingerprint)) ∧
    ((load ⟨"m.json"⟩ : StateM Workspace _)
      (oneFile (json agreeing.fingerprint agreeing.vectorizer stray.forest).print)).1 =
        .error (.bundle (.layout agreeing.fingerprint stray.fingerprint)) := by
  have hne : agreeing.fingerprint ≠ stray.fingerprint := by decide +kernel
  have hkept : forall c, c = agreeing ∨ c = stray -> c.Kept := by
    intro c hc
    rcases hc with rfl | rfl
    · exact kept_of_read_write read_agreeing
    · exact kept_of_read_write read_stray
  have hfinite : forall c, c = agreeing ∨ c = stray -> forall x, x ∈ c.writtenSingles ->
      x.isFinite = true :=
    fun c hc x hx => isFinite_of_float32? (keepsSingle_iff.mp ((hkept c hc).singles x hx))
  have hmixed := @load_of_mixed _ agreeing stray (.loaded read_agreeing) (.loaded read_stray) hne
    hfinite (fun c hc x hx _ => (hkept c hc).singles x hx) fun c hc => (hkept c hc).doubles
  constructor
  · have hload := hmixed (by simp) (by simp) (by simp) (assembledFrom_print stray agreeing agreeing)
      (read_oneFile _)
    rwa [if_neg (Ne.symm hne)] at hload
  · have hload := hmixed (by simp) (by simp) (by simp) (assembledFrom_print agreeing agreeing stray)
      (read_oneFile _)
    rwa [if_pos rfl] at hload

end Bundle
end Polyglot
