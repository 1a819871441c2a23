import Polyglot.Proofs.Shape
import Polyglot.Proofs.Training.Limits

/-!
# Shape of trained trees

Whatever the corpus is, the trees that training stores are well formed.  A sample
of their width comes to the end of its descent, and that is a leaf unless the sample has
an unknown value, which vectorizers never make.
-/

namespace Polyglot

section Trained

variable [Logarithm] {corpus : Corpus} {settings : TrainingSettings} {run : TrainingRun}

/--
Every tree of a trained classifier is a well-formed tree over the features of the
vocabulary and the eight structural counts.  Every sample of that many features has a
prediction: the one of the leaf that its descent ends at, or of the split that asks for a
feature without a known value, after no more steps than the tree has nodes.
-/
theorem trees_of_train (h : train corpus settings = .ok run) {e : Estimator} {m : ClassModel}
    {t : ModelTree} (he : e ∈ run.classifier.forest.estimators) (hm : m ∈ e.models)
    (ht : t ∈ m.trees) :
    t.nodes.WellFormed (run.classifier.vectorizer.vocabulary.size + 8) ∧
    forall sample : Array Float32,
      sample.size = run.classifier.vectorizer.vocabulary.size + 8 ->
      ∃ path last node, StoredTree.Descends t.nodes sample 0 path (.ok node.prediction) ∧
        path.getLast? = some last ∧ t.nodes[last]? = some node ∧ node.IsEnd sample ∧
        path.length ≤ t.nodes.size ∧ t.nodes.predict sample = .ok node.prediction := by
  have hparts := (TrainingRun.parts_of_train h).2.2
  rcases (hparts.isTrained.estimators he).2 m hm with ⟨bias, tree, rfl, hfeatures⟩
  cases List.mem_singleton.mp ht
  have hshape : tree.stored.WellFormed (run.classifier.vectorizer.vocabulary.size + 8) :=
    GrownTree.wellFormed_stored hfeatures
  exact ⟨hshape, fun sample hsize => hshape.toSound.exists_end hsize⟩

end Trained

/-- Training on the three labels stores the tree of the first class, over eight features. -/
theorem exists_semicolonTree :
    ∃ run, @train logarithmOfFiveQuarters Corpus.threeLabels .pairs = .ok run ∧
      run.classifier.vectorizer.vocabulary.size + 8 = 8 ∧
      ∃ e m t, e ∈ run.classifier.forest.estimators ∧ m ∈ e.models ∧ t ∈ m.trees ∧
        t.nodes = semicolonTree.stored := by
  rcases @exists_run_of_checks logarithmOfFiveQuarters lawful_logarithmOfFiveQuarters _ _
    checks_threeLabels.1 checks_threeLabels.2.1 checks_threeLabels.2.2 (by decide) with ⟨run, hrun⟩
  have hparts := (@TrainingRun.parts_of_train logarithmOfFiveQuarters _ _ _ hrun).2.2
  have hmodel : Estimator.classModel (ClassModel.trainedSettings 8 TrainingSettings.pairs.forest)
      semicolonFeatures.toArray #[0, 1, 2] [⟨0, 1⟩, ⟨1, 1⟩, ⟨2, 1⟩]
      (List.replicate 8 [0, 1, 2]) 0 ∈
        (List.range 3).map (Estimator.classModel
          (ClassModel.trainedSettings 8 TrainingSettings.pairs.forest) semicolonFeatures.toArray
          #[0, 1, 2] [⟨0, 1⟩, ⟨1, 1⟩, ⟨2, 1⟩] (List.replicate 8 [0, 1, 2])) :=
    List.mem_map_of_mem (List.mem_range.mpr (Nat.succ_pos 2))
  rw [classModel_semicolonFeatures] at hmodel
  refine ⟨run, hrun, (parts_threeLabels hparts).1, ?_⟩
  rw [estimators_threeLabels hparts]
  exact ⟨_, _, _, List.mem_singleton_self _, hmodel, List.mem_singleton_self _, rfl⟩

theorem trees_of_train_threeLabels :
    ∃ run, @train logarithmOfFiveQuarters Corpus.threeLabels .pairs = .ok run ∧
      ∃ e m t, e ∈ run.classifier.forest.estimators ∧ m ∈ e.models ∧ t ∈ m.trees ∧
        t.nodes.WellFormed 8 ∧ t.nodes.size = 3 ∧
        ∃ prediction, t.nodes.predict #[0, 0, 0, 0, 2, 0, 0, 0] = .ok prediction := by
  rcases exists_semicolonTree with ⟨run, hrun, hwidth, e, m, t, he, hm, ht, hnodes⟩
  rcases @trees_of_train logarithmOfFiveQuarters _ _ _ hrun _ _ _ he hm ht with
    ⟨hshape, hsamples⟩
  rcases hsamples #[0, 0, 0, 0, 2, 0, 0, 0] hwidth.symm with
    ⟨_, _, node, _, _, _, _, _, hpredict⟩
  rw [hwidth] at hshape
  refine ⟨run, hrun, e, m, t, he, hm, ht, hshape, ?_, node.prediction, hpredict⟩
  rw [hnodes]
  rfl

theorem descends_semicolonTree :
    StoredTree.Descends semicolonTree.stored #[0, 0, 0, 0, unknownFeature, 0, 0, 0] 0 [0]
      (.ok (.ofBits 0xb2aaaaab)) := by
  apply StoredTree.Descends.stop
  · rfl
  · decide +kernel

/-- A sample with an unknown value need not come to a leaf. -/
theorem descent_without_leaf :
    ∃ run, @train logarithmOfFiveQuarters Corpus.threeLabels .pairs = .ok run ∧
      ∃ e m t, e ∈ run.classifier.forest.estimators ∧ m ∈ e.models ∧ t ∈ m.trees ∧
        ∃ sample : Array Float32,
          sample.size = run.classifier.vectorizer.vocabulary.size + 8 ∧
          ¬ ∃ path prediction last node,
            StoredTree.Descends t.nodes sample 0 path (.ok prediction) ∧
            path.getLast? = some last ∧ t.nodes[last]? = some node ∧ node.isLeaf = true := by
  rcases exists_semicolonTree with ⟨run, hrun, hwidth, e, m, t, he, hm, ht, hnodes⟩
  refine ⟨run, hrun, e, m, t, he, hm, ht, #[0, 0, 0, 0, unknownFeature, 0, 0, 0],
    hwidth.symm, ?_⟩
  rw [hnodes]
  intro h
  rcases h with ⟨path, prediction, last, node, hpath, hlast, hnode, hleaf⟩
  rw [hpath.path_unique descends_semicolonTree] at hlast
  cases hlast
  cases hnode
  cases hleaf

end Polyglot
