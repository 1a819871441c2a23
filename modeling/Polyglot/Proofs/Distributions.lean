import Mathlib.Algebra.BigOperators.Ring.List
import Mathlib.Algebra.Order.BigOperators.Group.List
import Mathlib.Tactic.Linarith
import Polyglot.Proofs.Forest
import Polyglot.Proofs.Single.Arithmetic

/-!
# Distributions

Votes and their means are computed in double precision, which rounds.  The same
computation with exact numbers loses nothing: whatever finite numbers the models answer,
the vote of an estimator is a distribution over the classes, and so is the mean of the
votes.
-/

namespace Polyglot

instance : VoteNumber ℚ where
  ofNat := Nat.cast
  decLt := inferInstance

/-- The exact value of a finite number; there is none for the others, which count as zero. -/
def Single.exact (x : Float32) : ℚ :=
  (value? x).getD 0

/-- Shares of a whole: none is below zero, and together they are one. -/
structure IsDistribution (size : Nat) (shares : List ℚ) : Prop where
  length_eq : shares.length = size
  nonneg : forall x, x ∈ shares -> 0 ≤ x
  sum_eq : shares.sum = 1

theorem IsDistribution.le_one {size : Nat} {shares : List ℚ} (h : IsDistribution size shares)
    {x : ℚ} (hx : x ∈ shares) : x ≤ 1 := by
  rw [← h.sum_eq]
  exact List.single_le_sum h.nonneg x hx

/-!
## Votes
-/

namespace Vote

theorem sum_eq (xs : List ℚ) : sum xs = xs.sum := by
  rw [List.sum_eq_foldl]
  rfl

theorem clamp_eq (x : ℚ) : clamp x = if x < 0 then 0 else if 1 < x then 1 else x := by
  have hone : (VoteNumber.ofNat 1 : ℚ) = 1 := Nat.cast_one
  unfold clamp
  rw [hone]
  rfl

theorem clamp_nonneg (x : ℚ) : 0 ≤ clamp x := by
  rw [clamp_eq]
  split
  · exact le_refl 0
  · rename_i hlow
    split
    · exact zero_le_one
    · exact not_lt.mp hlow

theorem share_of_pos {scores : List ℚ} (h : 0 < scores.sum) :
    share scores = scores.map (· / scores.sum) := by
  have hpositive : (VoteNumber.ofNat 0 : ℚ) < sum scores := by rwa [sum_eq]
  rw [share, if_pos hpositive, sum_eq]

theorem share_of_not_pos {scores : List ℚ} (h : ¬ 0 < scores.sum) :
    share scores = List.replicate scores.length (1 / (scores.length : ℚ)) := by
  have hnone : ¬ (VoteNumber.ofNat 0 : ℚ) < sum scores := by rwa [sum_eq]
  have hone : (VoteNumber.ofNat 1 : ℚ) = 1 := Nat.cast_one
  rw [share, if_neg hnone, List.map_const', hone]
  rfl

theorem isDistribution_share {scores : List ℚ} (hsome : scores ≠ [])
    (h : forall x, x ∈ scores -> 0 ≤ x) : IsDistribution scores.length (share scores) := by
  by_cases hpositive : 0 < scores.sum
  · rw [share_of_pos hpositive]
    constructor
    · exact List.length_map _
    · intro x hx
      rcases List.mem_map.mp hx with ⟨score, hscore, rfl⟩
      exact div_nonneg (h score hscore) hpositive.le
    · simp only [div_eq_mul_inv]
      rw [List.sum_map_mul_right, List.map_id', mul_inv_cancel₀ hpositive.ne']
  · have hcount : (0 : ℚ) < scores.length :=
      Nat.cast_pos.mpr (List.length_pos_of_ne_nil hsome)
    rw [share_of_not_pos hpositive]
    constructor
    · exact List.length_replicate
    · intro x hx
      rw [List.eq_of_mem_replicate hx]
      exact div_nonneg zero_le_one hcount.le
    · rw [List.sum_replicate, nsmul_eq_mul, mul_one_div_cancel hcount.ne']

theorem isDistribution_distribution {answers : List ℚ} (hsome : answers ≠ []) :
    IsDistribution answers.length (distribution answers) := by
  have hscores : answers.map clamp ≠ [] := fun hnil => hsome (List.map_eq_nil_iff.mp hnil)
  have hnonneg : forall x, x ∈ answers.map clamp -> 0 ≤ x := by
    intro x hx
    rcases List.mem_map.mp hx with ⟨answer, _, rfl⟩
    exact clamp_nonneg answer
  have hshare := isDistribution_share hscores hnonneg
  rwa [List.length_map] at hshare

theorem distribution_of_zero {answers : List ℚ} (h : forall x, x ∈ answers -> clamp x = 0) :
    distribution answers = List.replicate answers.length (1 / (answers.length : ℚ)) := by
  have hsum : (answers.map clamp).sum = 0 := by
    apply List.sum_eq_zero
    intro x hx
    rcases List.mem_map.mp hx with ⟨answer, hanswer, rfl⟩
    exact h answer hanswer
  rw [distribution, share_of_not_pos (by rw [hsum]; exact lt_irrefl 0), List.length_map]

/-!
## Means
-/

theorem sum_zipWith {xs ys : List ℚ} (h : xs.length = ys.length) :
    (xs.zipWith (· + ·) ys).sum = xs.sum + ys.sum := by
  induction xs generalizing ys with
  | nil =>
      cases ys with
      | nil => exact (add_zero 0).symm
      | cons y ys => cases h
  | cons x xs ih =>
      cases ys with
      | nil => cases h
      | cons y ys =>
          rw [List.zipWith_cons_cons, List.sum_cons, List.sum_cons, List.sum_cons,
            ih (Nat.succ.inj h)]
          ring

theorem nonneg_zipWith {xs ys : List ℚ} (hxs : forall x, x ∈ xs -> 0 ≤ x)
    (hys : forall y, y ∈ ys -> 0 ≤ y) {z : ℚ} (hz : z ∈ xs.zipWith (· + ·) ys) : 0 ≤ z := by
  rcases List.getElem?_of_mem hz with ⟨i, hi⟩
  rcases List.getElem?_zipWith_eq_some.mp hi with ⟨x, y, hx, hy, rfl⟩
  exact add_nonneg (hxs x (List.mem_of_getElem? hx)) (hys y (List.mem_of_getElem? hy))

theorem foldl_distributions {size : Nat} {votes : List (List ℚ)} {total : List ℚ}
    (hvotes : forall vote, vote ∈ votes -> IsDistribution size vote)
    (hlength : total.length = size) (hnonneg : forall x, x ∈ total -> 0 ≤ x) :
    (votes.foldl (fun total vote => total.zipWith (· + ·) vote) total).sum =
        total.sum + votes.length ∧
      forall x, x ∈ votes.foldl (fun total vote => total.zipWith (· + ·) vote) total -> 0 ≤ x := by
  induction votes generalizing total with
  | nil =>
      constructor
      · rw [List.foldl_nil, List.length_nil, Nat.cast_zero, add_zero]
      · exact hnonneg
  | cons vote votes ih =>
      have hvote := hvotes vote List.mem_cons_self
      have hsame : total.length = vote.length := hlength.trans hvote.length_eq.symm
      have hnext : (total.zipWith (· + ·) vote).length = size := by
        rw [List.length_zipWith, ← hsame, Nat.min_self, hlength]
      rcases ih (fun other hother => hvotes other (List.mem_cons_of_mem vote hother)) hnext
        (fun x hx => nonneg_zipWith hnonneg hvote.nonneg hx) with ⟨hsum, hrest⟩
      rw [List.foldl_cons]
      constructor
      · rw [hsum, sum_zipWith hsame, hvote.sum_eq, List.length_cons]
        push_cast
        ring
      · exact hrest

theorem isDistribution_average {size : Nat} {votes : List (List ℚ)} (hsome : votes ≠ [])
    (hvotes : forall vote, vote ∈ votes -> IsDistribution size vote) :
    IsDistribution size (average size votes) := by
  have hcount : (0 : ℚ) < votes.length :=
    Nat.cast_pos.mpr (List.length_pos_of_ne_nil hsome)
  have hzeros : forall x, x ∈ List.replicate size (VoteNumber.ofNat 0 : ℚ) -> 0 ≤ x := by
    intro x hx
    rw [List.eq_of_mem_replicate hx]
    exact le_refl 0
  have hstart : (List.replicate size (VoteNumber.ofNat 0 : ℚ)).sum = 0 :=
    List.sum_eq_zero fun x hx => List.eq_of_mem_replicate hx
  rcases foldl_distributions hvotes List.length_replicate hzeros with ⟨hsum, hnonneg⟩
  rw [hstart, zero_add] at hsum
  have hlength : (average size votes).length = size :=
    length_average fun vote hvote => (hvotes vote hvote).length_eq
  unfold average at hlength ⊢
  rw [if_neg (by rwa [List.isEmpty_iff])] at hlength ⊢
  constructor
  · exact hlength
  · intro x hx
    rcases List.mem_map.mp hx with ⟨y, hy, rfl⟩
    exact div_nonneg (hnonneg y hy) hcount.le
  · show (List.map (fun x : ℚ => x / (votes.length : ℚ)) _).sum = 1
    simp only [div_eq_mul_inv]
    rw [List.sum_map_mul_right, List.map_id']
    exact (congrArg (· * _) hsum).trans (mul_inv_cancel₀ hcount.ne')

end Vote

/-!
## Votes of models
-/

section Reading

variable {α : Type} [VoteNumber α]

def Estimator.voteAs (read : Float32 → α) (e : Estimator) (sample : Array Float32) :
    Except Fault (List α) := do
  let answers ← e.models.mapM fun model => model.predict sample
  return Vote.distribution (answers.map read)

def Forest.probabilitiesAs (read : Float32 → α) (f : Forest) (sample : Array Float32) :
    Except Failure (List α) :=
  match f.check sample with
  | .error e => .error (.error e)
  | .ok () =>
      match f.estimators.mapM fun e => e.voteAs read sample with
      | .error fault => .error (.fault fault)
      | .ok votes => .ok (Vote.average f.classes.length votes)

end Reading

theorem Estimator.voteAs_toDouble (e : Estimator) (sample : Array Float32) :
    e.voteAs toDouble sample = e.vote sample :=
  rfl

theorem Forest.probabilitiesAs_toDouble (f : Forest) (sample : Array Float32) :
    f.probabilitiesAs toDouble sample = f.probabilities sample := by
  unfold probabilitiesAs probabilities
  simp only [Estimator.voteAs_toDouble]
  cases f.check sample with
  | error e => rfl
  | ok _ =>
      cases f.estimators.mapM fun e => e.vote sample with
      | error fault => rfl
      | ok votes => rfl

def ClassModel.Gives (sample : Array Float32) (model : ClassModel) (answer : ℚ) : Prop :=
  ∃ x, model.predict sample = .ok x ∧ Single.value? x = some answer

namespace Estimator

variable {e : Estimator} {sample : Array Float32}

/-- Models that give finite answers have votes, computed from the exact values of these. -/
theorem exists_voteAs (h : forall m, m ∈ e.models -> ∃ answer, m.Gives sample answer) :
    ∃ answers, List.Forall₂ (ClassModel.Gives sample) e.models answers ∧
      e.voteAs Single.exact sample = .ok (Vote.distribution answers) := by
  have hanswers : forall m, m ∈ e.models -> ∃ x, m.predict sample = .ok x ∧
      m.Gives sample (Single.exact x) := by
    intro m hm
    rcases h m hm with ⟨answer, x, hx, hvalue⟩
    refine ⟨x, hx, x, hx, ?_⟩
    rw [Single.exact, hvalue, Option.getD_some]
  rcases Attempts.exists_mapM_eq_ok hanswers with ⟨xs, hxs, hgiven⟩
  refine ⟨xs.map Single.exact, List.forall₂_map_right_iff.mpr hgiven, ?_⟩
  rw [voteAs, hxs]
  rfl

/-- The exact vote of an estimator is a distribution, and an even one if nothing is left of it. -/
theorem isDistribution_voteAs {size : Nat} (hmodels : e.models.length = size)
    (hsome : size ≠ 0) (h : forall m, m ∈ e.models -> ∃ answer, m.Gives sample answer) :
    ∃ answers, List.Forall₂ (ClassModel.Gives sample) e.models answers ∧
      e.voteAs Single.exact sample = .ok (Vote.distribution answers) ∧
      IsDistribution size (Vote.distribution answers) ∧
      ((forall answer, answer ∈ answers -> Vote.clamp answer = 0) ->
        Vote.distribution answers = List.replicate size (1 / (size : ℚ))) := by
  rcases exists_voteAs h with ⟨answers, hgiven, hvote⟩
  have hlength : answers.length = size := hgiven.length_eq.symm.trans hmodels
  have hanswers : answers ≠ [] := by
    intro hnil
    rw [hnil] at hlength
    exact hsome hlength.symm
  rw [← hlength]
  exact ⟨answers, hgiven, hvote, Vote.isDistribution_distribution hanswers,
    Vote.distribution_of_zero⟩

end Estimator

namespace Forest

variable {f : Forest} {sample : Array Float32}

theorem isDistribution_probabilitiesAs (hcheck : f.check sample = .ok ())
    (hsome : f.estimators ≠ [])
    (hvotes : forall e, e ∈ f.estimators -> ∃ vote, e.voteAs Single.exact sample = .ok vote ∧
      IsDistribution f.classes.length vote) :
    ∃ p, f.probabilitiesAs Single.exact sample = .ok p ∧ IsDistribution f.classes.length p := by
  rcases Attempts.exists_mapM_eq_ok hvotes with ⟨votes, hmapM, hrelated⟩
  refine ⟨Vote.average f.classes.length votes, ?_, ?_⟩
  · rw [probabilitiesAs, hcheck]
    dsimp only
    rw [hmapM]
  · apply Vote.isDistribution_average
    · intro hnil
      rw [hnil] at hrelated
      exact hsome (List.forall₂_nil_right_iff.mp hrelated)
    · intro vote hvote
      rcases Attempts.exists_of_mem_mapM hmapM hvote with ⟨e, he, heq⟩
      rcases hvotes e he with ⟨other, hother, hdistribution⟩
      cases heq.symm.trans hother
      exact hdistribution

/--
With exact numbers, every vote of a forest is a distribution over its classes, and so are
its probabilities, whatever finite numbers the models answer; a vote of which nothing is
left after cutting is for all classes alike.
-/
theorem exact_probabilities (hclasses : f.classes ≠ []) (hestimators : f.estimators ≠ [])
    (hmodels : forall e, e ∈ f.estimators -> e.models.length = f.classes.length)
    (hsize : sample.size = f.width)
    (hfinite : forall e, e ∈ f.estimators -> forall m, m ∈ e.models ->
      ∃ answer, m.Gives sample answer) :
    f.probabilitiesAs toDouble sample = f.probabilities sample ∧
    (forall e, e ∈ f.estimators -> ∃ answers,
      List.Forall₂ (ClassModel.Gives sample) e.models answers ∧
      e.voteAs Single.exact sample = .ok (Vote.distribution answers) ∧
      IsDistribution f.classes.length (Vote.distribution answers) ∧
      ((forall answer, answer ∈ answers -> Vote.clamp answer = 0) ->
        Vote.distribution answers =
          List.replicate f.classes.length (1 / (f.classes.length : ℚ)))) ∧
    ∃ p, f.probabilitiesAs Single.exact sample = .ok p ∧ p.length = f.classes.length ∧
      (forall x, x ∈ p -> 0 ≤ x ∧ x ≤ 1) ∧ p.sum = 1 := by
  have hsome : f.classes.length ≠ 0 := fun hnone => hclasses (List.length_eq_zero_iff.mp hnone)
  have hvotes := fun e (he : e ∈ f.estimators) =>
    Estimator.isDistribution_voteAs (hmodels e he) hsome (hfinite e he)
  have hcheck : f.check sample = .ok () := check_eq_ok_iff.mpr ⟨hsize, hestimators, hmodels⟩
  have hall : forall e, e ∈ f.estimators -> ∃ vote, e.voteAs Single.exact sample = .ok vote ∧
      IsDistribution f.classes.length vote := by
    intro e he
    rcases hvotes e he with ⟨answers, _, hvote, hdistribution, _⟩
    exact ⟨_, hvote, hdistribution⟩
  rcases isDistribution_probabilitiesAs hcheck hestimators hall with ⟨p, hp, hdistribution⟩
  exact ⟨f.probabilitiesAs_toDouble sample, hvotes, p, hp, hdistribution.length_eq,
    fun x hx => ⟨hdistribution.nonneg x hx, hdistribution.le_one hx⟩, hdistribution.sum_eq⟩

end Forest

def ClassModel.constant (answer : Float32) : ClassModel :=
  .ofTree (trainedSettings 0 {}) answer (.leaf 0)

theorem ClassModel.gives_constant {answer : Float32} {a : ℚ}
    (h : Single.value? (answer + 1 * 0) = some a) : (constant answer).Gives #[] a :=
  ⟨_, predict_ofTree 0 {} answer trivial, h⟩

def Forest.extremes : Forest where
  classes := ["x", "y"]
  width := 0
  fingerprint := ""
  estimators := [⟨[.constant 2, .constant (-1)]⟩, ⟨[.constant (-1), .constant 0]⟩]

theorem Forest.exact_probabilities_extremes :
    ∃ p, extremes.probabilitiesAs Single.exact #[] = .ok p ∧ p.length = 2 ∧
      (forall x, x ∈ p -> 0 ≤ x ∧ x ≤ 1) ∧ p.sum = 1 := by
  have hfinite : forall e, e ∈ extremes.estimators -> forall m, m ∈ e.models ->
      ∃ answer, m.Gives #[] answer := by
    have htwo : Single.value? ((2 : Float32) + 1 * 0) = some 2 := by
      have hunpack : ((2 : Float32) + 1 * 0).toModel.unpack =
          .finite .positive (2 ^ 23) (-22) (by norm_num) := by
        rfl
      unfold Single.value?
      rw [hunpack]
      norm_num [Single.finite?, Single.signFactor]
    have hminus : Single.value? ((-1 : Float32) + 1 * 0) = some (-1) := by
      have hunpack : ((-1 : Float32) + 1 * 0).toModel.unpack =
          .finite .negative (2 ^ 23) (-23) (by norm_num) := by
        rfl
      unfold Single.value?
      rw [hunpack]
      norm_num [Single.finite?, Single.signFactor]
    have hzero : Single.value? ((0 : Float32) + 1 * 0) = some 0 := by
      rfl
    intro e he m hm
    rcases List.mem_pair.mp he with rfl | rfl
    · rcases List.mem_pair.mp hm with rfl | rfl
      · exact ⟨2, ClassModel.gives_constant htwo⟩
      · exact ⟨-1, ClassModel.gives_constant hminus⟩
    · rcases List.mem_pair.mp hm with rfl | rfl
      · exact ⟨-1, ClassModel.gives_constant hminus⟩
      · exact ⟨0, ClassModel.gives_constant hzero⟩
  exact (exact_probabilities (by decide) (by decide) (by decide) rfl hfinite).2.2

end Polyglot
