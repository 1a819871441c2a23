import Polyglot.Proofs.Bundle.RoundTrip
import Polyglot.Proofs.Json.Containers

/-!
# Refused bundles

The scan that finds the reason for which a bundle is refused agrees with the reader on
every bundle that is written for a classifier: it stops exactly if the reader refuses.
-/

namespace Polyglot
namespace Bundle

open Json
open Json.Scan

theorem judges_fields {α : Type} (name : String) {names : List String}
    {kinds : List (String × Scan Unit)} {values : List (String × Json)} {good : Bool}
    {next : List Json -> Option α} (hnames : names.Nodup) (hkinds : kinds.map Prod.fst = names)
    (hvalues : values.map Prod.fst = names) (h : JudgesFields kinds values good)
    (hnext : (next (values.map Prod.snd)).isSome = good) :
    Judges (record name kinds) (.ofEntries values)
      ((ofEntries values).fields? names >>= next).isSome := by
  subst hkinds
  exact (judges_record name hnames h).congr ((isSome_bind_fields? hvalues hnames).trans hnext)

theorem judges_word (n : Nat) : Judges wordKind (.ofNat n) (ofNat n).nat?.isSome :=
  judges_nat _ (Nat.le_refl _) n

theorem judges_settingsJson (s : VectorizerSettings) :
    Judges settingsKind (settingsJson s) (settings? (settingsJson s)).isSome := by
  have hspelled : forall v, v ∈ [ofNat s.leastWindow.toNat, ofNat s.mostWindow.toNat] ->
      Spelled v := by
    intro v hv
    rcases List.mem_pair.mp hv with rfl | rfl
    · exact spelled_ofNat _
    · exact spelled_ofNat _
  have hwords : forall v, v ∈ [ofNat s.leastWindow.toNat, ofNat s.mostWindow.toNat] ->
      Judges wordKind v (word? v).isSome := by
    intro v hv
    rcases List.mem_pair.mp hv with rfl | rfl
    · exact (judges_word _).congr (Option.isSome_map ..)
    · exact (judges_word _).congr (Option.isSome_map ..)
  refine judges_fields _ (by decide) rfl rfl (.cons (judges_word _)
    (.cons (judges_pair hspelled hwords) (.cons (judges_bool _) .nil))) ?_
  simp [Option.isSome_bind, word?, bool?]

theorem judges_vocabularyJson (v : Vocabulary) :
    Judges (map wordKind) (vocabularyJson v) (vocabulary? (vocabularyJson v)).isSome := by
  have hcolumns : Judges (map wordKind) (vocabularyJson v)
      ((v.entries.map fun e => (e.1, ofNat e.2)).all fun e => e.2.nat?.isSome) := by
    apply judges_map
    intro e he
    rcases List.mem_map.mp he with ⟨entry, _, rfl⟩
    exact judges_word entry.2
  refine hcolumns.congr ?_
  unfold vocabulary? vocabularyJson ofEntries
  dsimp only
  rw [namedEntries?_ofEntries]
  simp only [Option.bind_eq_bind, Option.bind_some, Option.isSome_bind, any_const,
    Option.pure_def, Option.isSome_some, Bool.and_true, isSome_mapM, Option.isSome_map]

theorem judges_vectorizerJson (v : Vectorizer) :
    Judges vectorizerKind (vectorizerJson v) (vectorizer? (vectorizerJson v)).isSome := by
  refine judges_fields _ (by decide) rfl rfl (.cons (judges_settingsJson _)
    (.cons (judges_vocabularyJson _)
      (.cons (judges_ofList spelled_ofFloat32 (judges_ofFloat32 _) _) .nil))) ?_
  simp [Option.isSome_bind]

theorem judges_nodeJson (n : Node) :
    Judges nodeKind (nodeJson n) (node? (nodeJson n)).isSome := by
  refine judges_fields _ (by decide) rfl rfl (.cons
    (judges_record _ (by decide) (.cons (judges_word _) (.cons (judges_ofFloat32 _ _)
      (.cons (judges_ofFloat32 _ _) (.cons (judges_int _ (by decide) _)
        (.cons (judges_bool _) .nil))))))
    (.cons (judges_word _) (.cons (judges_word _) (.cons (judges_word _) .nil)))) ?_
  refine (isSome_bind_fields? (by rfl) (by decide)).trans ?_
  simp [Option.isSome_bind, bool?, signedByte?, Bool.and_assoc]

theorem mem_losses (loss : Loss) : loss ∈ losses := by
  cases loss with
  | squaredError => decide
  | logLikelihood => decide
  | leastAbsoluteDeviation => decide
  | regressionLinear => decide
  | regressionLogistic => decide
  | binaryLogistic => decide
  | binaryLogitRaw => decide
  | multiProbability => decide
  | multiMaximum => decide
  | rankPairwise => decide

theorem judges_loss (loss : Loss) : Judges lossKind (.ofString (lossName loss))
    (choice? loss? (.ofString (lossName loss))).isSome := by
  refine (judges_choice (List.mem_map_of_mem (mem_losses loss))).congr ?_
  rw [choice?_ofString, loss?_lossName]
  rfl

theorem judges_depth (n : UInt32) : Judges depthKind (.ofNat n.toNat) (ofNat n.toNat).word32?.isSome :=
  (judges_nat _ (by decide) _).congr (Option.isSome_map ..)

theorem judges_treeJson (t : ModelTree) :
    Judges treeKind (treeJson t) (tree? (treeJson t)).isSome := by
  refine judges_fields _ (by decide) rfl rfl (.cons
    (judges_record _ (by decide) (.cons (judges_ofList spelled_nodeJson judges_nodeJson _) .nil))
    (.cons (judges_word _) (.cons (judges_depth _) (.cons (judges_word _)
      (.cons (judges_loss _) (.cons (judges_ofFloat _ _) .nil)))))) ?_
  refine (isSome_bind_fields? (by rfl) (by decide)).trans ?_
  simp [Option.isSome_bind]

theorem judges_modelSettingsJson (s : ModelSettings) :
    Judges modelSettingsKind (modelSettingsJson s)
      (modelSettings? (modelSettingsJson s)).isSome := by
  have hbyte : Judges (nat "u8" (Numeral.wordLimit 8)) (.ofNat s.optimization.toNat)
      (ofNat s.optimization.toNat).byte?.isSome :=
    (judges_nat _ (by decide) _).congr (Option.isSome_map ..)
  refine judges_fields _ (by decide) rfl rfl (.cons (judges_word _) (.cons (judges_depth _)
    (.cons (judges_word _) (.cons (judges_ofFloat32 _ _) (.cons (judges_ofFloat _ _)
      (.cons (judges_ofFloat _ _) (.cons (judges_word _) (.cons (judges_loss _)
        (.cons (judges_bool _) (.cons (judges_bool _) (.cons hbyte .nil))))))))))) ?_
  simp [Option.isSome_bind, bool?]

theorem judges_modelJson (m : ClassModel) :
    Judges modelKind (modelJson m) (model? (modelJson m)).isSome := by
  refine judges_fields _ (by decide) rfl rfl (.cons (judges_modelSettingsJson _)
    (.cons (judges_ofList spelled_treeJson judges_treeJson _)
      (.cons (judges_ofFloat32 _ _) .nil))) ?_
  simp [Option.isSome_bind]

theorem judges_estimatorJson (e : Estimator) :
    Judges (record "Estimator" [("per_class", list modelKind)]) (estimatorJson e)
      (estimator? (estimatorJson e)).isSome := by
  refine (judges_record _ (by decide)
    (.cons (judges_ofList spelled_modelJson judges_modelJson _) .nil)).congr ?_
  refine (isSome_bind_fields? (by rfl) (by decide)).trans ?_
  simp [Option.isSome_bind]

theorem judges_text (s : String) : Judges string (.ofString s) (ofString s).string?.isSome := by
  rw [string?_ofString]
  exact judges_string s

theorem judges_forestJson (f : Forest) :
    Judges forestKind (forestJson f) (forest? (forestJson f)).isSome := by
  refine judges_fields _ (by decide) rfl rfl (.cons (judges_ofList spelled_ofString judges_text _)
    (.cons (judges_word _) (.cons (judges_text _)
      (.cons (judges_ofList spelled_estimatorJson judges_estimatorJson _) .nil)))) ?_
  simp [Option.isSome_bind]

/-- The scan of a written bundle stops within it exactly if the reader refuses it. -/
theorem judges_bundle (fingerprint : String) (v : Vectorizer) (f : Forest) :
    Judges bundleKind (json fingerprint v f) (parts? (json fingerprint v f)).isSome := by
  refine judges_fields _ (by decide) rfl rfl (.cons (judges_text _) (.cons (judges_vectorizerJson _)
    (.cons (judges_forestJson _) .nil))) ?_
  simp [Option.isSome_bind]

theorem refusal_write_append {c : Classifier}
    (h : parts? (json c.fingerprint c.vectorizer c.forest) = none) {tail : List UInt8}
    (htail : Ends tail) : refusal (write c ++ tail) = refusal (write c) := by
  have hjudges := judges_bundle c.fingerprint c.vectorizer c.forest
  rw [h] at hjudges
  exact refusal_print_append hjudges htail

end Bundle
end Polyglot
