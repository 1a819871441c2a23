import Polyglot.Proofs.Bundle.Numbers

/-!
# Saving loaded classifiers

The reader accepts more than the writer makes: a decimal that exceeds single
precision is read as an infinite number, and the text of a number in double precision
may be read as another number.  So a loaded classifier can be saved and loaded again
exactly if its numbers are kept.
-/

namespace Polyglot
namespace Bundle

open Json

def endless : Classifier :=
  let vectorizer : Vectorizer :=
    ⟨{ maxFeatures := 1, leastWindow := 1, mostWindow := 1, lowercase := false },
      ⟨[("a", 0)], List.pairwise_singleton _ _⟩, #[.ofBits 0x7f800000]⟩
  ⟨vectorizer, ⟨["x", "y"], 9, vectorizer.fingerprint, []⟩⟩

def endlessVectorizerJson : Json :=
  .ofEntries [
    ("config", settingsJson endless.vectorizer.settings),
    ("vocabulary", vocabularyJson endless.vectorizer.vocabulary),
    ("idf", .ofList .ofNat [10 ^ 39])]

def endlessJson : Json :=
  .ofEntries [
    ("fingerprint", .ofString endless.fingerprint),
    ("vectorizer", endlessVectorizerJson),
    ("forest", forestJson endless.forest)]

theorem spelled_endlessJson : Spelled endlessJson := by
  apply spelled_cons (spelled_ofString _)
  apply spelled_cons
  · apply spelled_cons (spelled_settingsJson _)
    apply spelled_cons (spelled_vocabularyJson _)
    apply spelled_cons (spelled_ofList spelled_ofNat _)
    exact spelled_nil
  · apply spelled_cons (spelled_forestJson _)
    exact spelled_nil

theorem vectorizer?_endless : vectorizer? endlessVectorizerJson = some endless.vectorizer := by
  have hcolumns : forall e, e ∈ endless.vectorizer.vocabulary.entries -> e.2 < UInt64.size := by
    intro e he
    rw [List.mem_singleton.mp he]
    decide
  have hweights : (ofList ofNat [10 ^ 39]).list? float32? =
      some endless.vectorizer.weights.toList := by
    decide +kernel
  refine (bind_fields?_ofEntries (by rfl) (by decide)).trans ?_
  simp only [List.map_cons, List.map_nil, settings?_settingsJson,
    vocabulary?_vocabularyJson hcolumns, hweights, Option.bind_eq_bind, Option.bind_some]
  rfl

theorem read_endless : read endlessJson.print = .ok endless := by
  have hforest : endless.forest.Storable :=
    ⟨by decide, fun e he => by cases he⟩
  have hparts : (parse endlessJson.print).bind parts? =
      some ⟨endless.fingerprint, endless.vectorizer, endless.forest⟩ := by
    rw [parse_print spelled_endlessJson, Option.bind_some]
    exact parts?_of_fields _ vectorizer?_endless (forest?_forestJson hforest)
  rw [read_of_parts? hparts]
  exact assemble_eq_ok rfl rfl

theorem infinite_endless : ∃ x, x ∈ endless.writtenSingles ∧ x.isFinite = false :=
  ⟨.ofBits 0x7f800000, List.mem_cons_self, by decide +kernel⟩

/--
What is written for a loaded classifier is read as the same classifier, and written as
the same bytes once more, exactly if its numbers are kept.  If one of them is infinite,
what is written is refused.
-/
theorem read_of_resave {bytes : List UInt8} {c : Classifier} (h : read bytes = .ok c) :
    ((∃ again, read (write c) = .ok again ∧ again.vectorizer = c.vectorizer ∧
        again.forest = c.forest ∧ again.fingerprint = c.fingerprint ∧ write again = write c) ↔
      c.Kept) ∧
    ((∃ x, x ∈ c.writtenSingles ∧ x.isFinite = false) ->
      read (write c) = .error (.corrupt (refusal (write c)))) := by
  rcases parts_of_read h with ⟨_, hfingerprint, hwidth⟩
  have hkept := read_write_iff (sized_of_read h) hfingerprint hwidth
  constructor
  · constructor
    · rintro ⟨⟨vectorizer, forest⟩, hagain, rfl, rfl, _, _⟩
      exact hkept.mp hagain
    · intro hnumbers
      exact ⟨c, hkept.mpr hnumbers, rfl, rfl, rfl, rfl⟩
  · rintro ⟨x, hx, hfinite⟩
    exact read_write_of_not_finite hx hfinite

theorem read_of_resave_agreeing :
    (∃ again, read (write agreeing) = .ok again ∧ again.vectorizer = agreeing.vectorizer ∧
      again.forest = agreeing.forest ∧ again.fingerprint = agreeing.fingerprint ∧
      write again = write agreeing) ∧
    read (write endless) = .error (.corrupt (refusal (write endless))) :=
  ⟨(read_of_resave read_agreeing).1.mpr (kept_of_read_write read_agreeing),
    (read_of_resave read_endless).2 infinite_endless⟩

/-- The classifier is accepted, and what is written for it is not. -/
theorem refused_of_resave :
    read endlessJson.print = .ok endless ∧
      ¬ ∃ again, read (write endless) = .ok again ∧ again.vectorizer = endless.vectorizer ∧
        again.forest = endless.forest ∧ again.fingerprint = endless.fingerprint ∧
        write again = write endless := by
  refine ⟨read_endless, ?_⟩
  rintro ⟨again, hagain, _⟩
  rcases infinite_endless with ⟨x, hx, hfinite⟩
  rw [read_write_of_not_finite hx hfinite] at hagain
  cases hagain

end Bundle
end Polyglot
