import Polyglot.Bundle.Store
import Polyglot.Proofs.Bundle.Records
import Polyglot.Proofs.Files

/-!
# Saved classifiers

The bytes of a bundle are read as the classifier that they were written for, if
its parts belong together and its numbers are numbers that the format keeps.  A
file that has been saved holds these bytes.
-/

namespace Polyglot
namespace Bundle

open Json

theorem spelled_settingsJson (s : VectorizerSettings) : Spelled (settingsJson s) := by
  have hrange : Spelled (.array [.ofNat s.leastWindow.toNat, .ofNat s.mostWindow.toNat]) := by
    apply Spelled.array
    intro v hv
    rcases List.mem_pair.mp hv with rfl | rfl
    · exact spelled_ofNat _
    · exact spelled_ofNat _
  apply spelled_cons (spelled_ofNat _)
  apply spelled_cons hrange
  apply spelled_cons (.bool _)
  exact spelled_nil

theorem spelled_vocabularyJson (v : Vocabulary) : Spelled (vocabularyJson v) := by
  apply spelled_ofEntries
  intro e he
  rcases List.mem_map.mp he with ⟨entry, _, rfl⟩
  exact spelled_ofNat entry.2

theorem spelled_vectorizerJson (v : Vectorizer) : Spelled (vectorizerJson v) := by
  apply spelled_cons (spelled_settingsJson _)
  apply spelled_cons (spelled_vocabularyJson _)
  apply spelled_cons (spelled_ofList spelled_ofFloat32 _)
  exact spelled_nil

theorem spelled_nodeJson (n : Node) : Spelled (nodeJson n) := by
  apply spelled_cons
  · apply spelled_cons (spelled_ofNat _)
    apply spelled_cons (spelled_ofFloat32 _)
    apply spelled_cons (spelled_ofFloat32 _)
    apply spelled_cons (spelled_ofInt _)
    apply spelled_cons (.bool _)
    exact spelled_nil
  · apply spelled_cons (spelled_ofNat _)
    apply spelled_cons (spelled_ofNat _)
    apply spelled_cons (spelled_ofNat _)
    exact spelled_nil

theorem spelled_treeJson (t : ModelTree) : Spelled (treeJson t) := by
  apply spelled_cons (spelled_cons (spelled_ofList spelled_nodeJson _) spelled_nil)
  apply spelled_cons (spelled_ofNat _)
  apply spelled_cons (spelled_ofNat _)
  apply spelled_cons (spelled_ofNat _)
  apply spelled_cons (spelled_ofString _)
  apply spelled_cons (spelled_ofFloat _)
  exact spelled_nil

theorem spelled_modelSettingsJson (s : ModelSettings) : Spelled (modelSettingsJson s) := by
  apply spelled_cons (spelled_ofNat _)
  apply spelled_cons (spelled_ofNat _)
  apply spelled_cons (spelled_ofNat _)
  apply spelled_cons (spelled_ofFloat32 _)
  apply spelled_cons (spelled_ofFloat _)
  apply spelled_cons (spelled_ofFloat _)
  apply spelled_cons (spelled_ofNat _)
  apply spelled_cons (spelled_ofString _)
  apply spelled_cons (.bool _)
  apply spelled_cons (.bool _)
  apply spelled_cons (spelled_ofNat _)
  exact spelled_nil

theorem spelled_modelJson (m : ClassModel) : Spelled (modelJson m) := by
  apply spelled_cons (spelled_modelSettingsJson _)
  apply spelled_cons (spelled_ofList spelled_treeJson _)
  apply spelled_cons (spelled_ofFloat32 _)
  exact spelled_nil

theorem spelled_estimatorJson (e : Estimator) : Spelled (estimatorJson e) :=
  spelled_cons (spelled_ofList spelled_modelJson _) spelled_nil

theorem spelled_forestJson (f : Forest) : Spelled (forestJson f) := by
  apply spelled_cons (spelled_ofList spelled_ofString _)
  apply spelled_cons (spelled_ofNat _)
  apply spelled_cons (spelled_ofString _)
  apply spelled_cons (spelled_ofList spelled_estimatorJson _)
  exact spelled_nil

theorem spelled_json (fingerprint : String) (v : Vectorizer) (f : Forest) :
    Spelled (json fingerprint v f) := by
  apply spelled_cons (spelled_ofString _)
  apply spelled_cons (spelled_vectorizerJson _)
  apply spelled_cons (spelled_forestJson _)
  exact spelled_nil

/-!
## Round trips
-/

theorem assemble_eq_ok {v : Vectorizer} {f : Forest} (hfingerprint : f.fingerprint = v.fingerprint)
    (hwidth : f.width = v.width) : assemble ⟨v.fingerprint, v, f⟩ = .ok ⟨v, f⟩ := by
  unfold assemble
  dsimp only
  rw [if_neg (not_not_intro rfl), if_neg (not_not_intro hfingerprint),
    if_neg (not_not_intro hwidth)]

theorem parts_of_read {bytes : List UInt8} {c : Classifier} (h : read bytes = .ok c) :
    (∃ j, parse bytes = some j ∧ parts? j = some ⟨c.fingerprint, c.vectorizer, c.forest⟩) ∧
      c.forest.fingerprint = c.fingerprint ∧ c.forest.width = c.vectorizer.width := by
  unfold read at h
  split at h
  · cases h
  · rename_i parts hparts
    rcases Option.bind_eq_some_iff.mp hparts with ⟨j, hparse, hread⟩
    unfold assemble at h
    dsimp only at h
    split at h
    · cases h
    · rename_i hstored
      split at h
      · cases h
      · rename_i htrained
        split at h
        · cases h
        · rename_i hwidth
          rw [not_not] at hstored htrained hwidth
          injection h with h
          subst h
          refine ⟨⟨j, hparse, ?_⟩, htrained, hwidth⟩
          show parts? j = some ⟨parts.vectorizer.fingerprint, parts.vectorizer, parts.forest⟩
          rw [hread, hstored]

theorem read_of_parts? {bytes : List UInt8} {p : Parts} (h : (parse bytes).bind parts? = some p) :
    read bytes = assemble p := by
  rw [read, h]

theorem read_write {c : Classifier} (hvectorizer : c.vectorizer.Storable)
    (hforest : c.forest.Storable) (hfingerprint : c.forest.fingerprint = c.fingerprint)
    (hwidth : c.forest.width = c.vectorizer.width) : read (write c) = .ok c := by
  have hparts : (parse (write c)).bind parts? = some ⟨c.fingerprint, c.vectorizer, c.forest⟩ := by
    rw [write, parse_print (spelled_json _ _ _), Option.bind_some]
    exact parts?_json _ hvectorizer hforest
  rw [read_of_parts? hparts]
  exact assemble_eq_ok hfingerprint hwidth

/-!
## Files
-/

theorem bind_workspace {α β : Type} (x : StateM Workspace α) (next : α -> StateM Workspace β)
    (w : Workspace) : (x >>= next) w = next (x w).1 (x w).2 :=
  rfl

theorem read_of_save {c : Classifier} {path : Path} {before after : Workspace}
    (h : (save c path : StateM Workspace _) before = (.ok (), after)) :
    after.files.read path = .ok (write c) := by
  have hmake : (Host.makeDirectories path.parent : StateM Workspace _) before =
      before.makeDirectories path.parent := rfl
  unfold save at h
  rw [bind_workspace, hmake] at h
  cases hmade : before.makeDirectories path.parent with
  | mk result made =>
      rw [hmade] at h
      cases result with
      | error e => cases h
      | ok =>
          change (made.note [writingEntry (write c).length path]).change
            (made.files.write path (write c)) = _ at h
          cases hwritten : made.files.write path (write c) with
          | error e =>
              rw [hwritten] at h
              cases h
          | ok files =>
              rw [hwritten] at h
              cases h
              exact Files.Tree.read_of_write hwritten

theorem load_of_read {path : Path} {w : Workspace} {bytes : List UInt8}
    (h : w.files.read path = .ok bytes) :
    ((load path : StateM Workspace _) w).1 = (read bytes).mapError .bundle := by
  have hread : (Host.read path : StateM Workspace _) w = (.ok bytes, w) := by
    rw [← h]
    rfl
  unfold load
  rw [bind_workspace, hread]
  rfl

theorem load_of_save {c : Classifier} {path : Path} {before after : Workspace}
    (hread : read (write c) = .ok c)
    (h : (save c path : StateM Workspace _) before = (.ok (), after)) :
    ((load path : StateM Workspace _) after).1 = .ok c := by
  rw [load_of_read (read_of_save h), hread]
  rfl

def oneFile (bytes : List UInt8) : Workspace :=
  { files := ⟨[(["m.json"], .file bytes)]⟩ }

theorem read_oneFile (bytes : List UInt8) : (oneFile bytes).files.read ⟨"m.json"⟩ = .ok bytes :=
  rfl

end Bundle
end Polyglot
