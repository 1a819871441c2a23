import Polyglot.Proofs.Double.Order
import Polyglot.Proofs.Forest

/-!
# Votes

The shares of a vote are not below zero, so their means are numbers without a minus
sign, and the class that is chosen has the largest mean.
-/

namespace Polyglot

open Double (Unsigned Nonnegative)

namespace Vote

variable {α β : Type} [VoteNumber α] [LinearOrder β] {P : α -> Prop} {value : α -> β}

theorem exists_larger (hlt : forall x y, P x -> P y -> (x < y ↔ value x < value y))
    {best : Option (α × Nat)} {entry : α × Nat} (hbest : forall a, best = some a -> P a.1)
    (hentry : P entry.1) :
    ∃ c, (match best with
      | none => some entry
      | some b => if b.1 < entry.1 then some entry else best) = some c ∧
      (c = entry ∨ best = some c) ∧ value entry.1 ≤ value c.1 ∧
      forall a, best = some a -> value a.1 ≤ value c.1 := by
  cases best with
  | none => exact ⟨entry, rfl, .inl rfl, le_refl _, fun a ha => by cases ha⟩
  | some b =>
      have hless := hlt b.1 entry.1 (hbest b rfl) hentry
      by_cases h : b.1 < entry.1
      · refine ⟨entry, if_pos h, .inl rfl, le_refl _, fun a ha => ?_⟩
        cases ha
        exact (hless.mp h).le
      · refine ⟨b, if_neg h, .inr rfl, not_lt.mp (mt hless.mpr h), fun a ha => ?_⟩
        cases ha
        exact le_refl _

theorem foldl_largest (hlt : forall x y, P x -> P y -> (x < y ↔ value x < value y))
    {entries : List (α × Nat)} {best : Option (α × Nat)} {b : α × Nat}
    (hentries : forall e, e ∈ entries -> P e.1) (hbest : forall a, best = some a -> P a.1)
    (h : entries.foldl (fun (best : Option (α × Nat)) entry =>
      match best with
      | none => some entry
      | some b => if b.1 < entry.1 then some entry else best) best = some b) :
    (b ∈ entries ∨ best = some b) ∧ (forall e, e ∈ entries -> value e.1 ≤ value b.1) ∧
      forall a, best = some a -> value a.1 ≤ value b.1 := by
  induction entries generalizing best with
  | nil =>
      refine ⟨.inr h, by simp, fun a ha => ?_⟩
      cases h.symm.trans ha
      exact le_refl _
  | cons entry entries ih =>
      have hentry := hentries entry List.mem_cons_self
      rcases exists_larger hlt hbest hentry with ⟨c, hc, hfrom, hle, hall⟩
      rw [List.foldl_cons, hc] at h
      have hpc : forall a, some c = some a -> P a.1 := by
        intro a ha
        cases ha
        rcases hfrom with rfl | hfrom
        · exact hentry
        · exact hbest c hfrom
      rcases ih (fun e he => hentries e (List.mem_cons_of_mem entry he)) hpc h with
        ⟨hmem, hrest, hfirst⟩
      have hcb := hfirst c rfl
      refine ⟨?_, ?_, fun a ha => (hall a ha).trans hcb⟩
      · rcases hmem with hmem | hmem
        · exact .inl (List.mem_cons_of_mem entry hmem)
        · cases hmem
          rcases hfrom with rfl | hfrom
          · exact .inl List.mem_cons_self
          · exact .inr hfrom
      · intro e he
        rcases List.mem_cons.mp he with rfl | he
        · exact hle.trans hcb
        · exact hrest e he

theorem argmax_largest (hlt : forall x y, P x -> P y -> (x < y ↔ value x < value y))
    {xs : List α} (hxs : forall x, x ∈ xs -> P x) {i : Nat} (h : argmax xs = some i) :
    ∃ y, xs[i]? = some y ∧ forall x, x ∈ xs -> value x ≤ value y := by
  rcases Option.map_eq_some_iff.mp h with ⟨b, hb, rfl⟩
  rcases foldl_largest hlt (fun e he => hxs e.1 (List.fst_mem_of_mem_zipIdx he))
    (fun a ha => by cases ha) hb with ⟨hmem, hall, _⟩
  refine ⟨b.1, ?_, fun x hx => ?_⟩
  · rcases hmem with hmem | hmem
    · exact List.mem_zipIdx_iff_getElem?.mp hmem
    · cases hmem
  · rcases List.getElem?_of_mem hx with ⟨j, hj⟩
    exact hall (x, j) (List.mem_zipIdx_iff_getElem?.mpr hj)

/-!
## Shares
-/

/-- A score is cut to a number between zero and one, or is no number at all. -/
theorem clamp_cases (x : Float) :
    (clamp x).isNaN = true ∨ Nonnegative (clamp x) ∧ Double.size (clamp x) ≠ ⊤ := by
  unfold clamp
  split
  · exact .inr ⟨.inl (Double.unsigned_ofNat 0), WithTop.coe_ne_top⟩
  · rename_i hlow
    split
    · rcases Double.value?_ofNat one_pos (by decide) with ⟨c, hc, _⟩
      exact .inr ⟨.inl (Double.unsigned_ofNat 1), Binary.size_ne_top hc⟩
    · rename_i hhigh
      cases hnumber : x.isNaN with
      | true => exact .inl rfl
      | false => exact .inr (Double.nonnegative_of_between hnumber hlow hhigh)

theorem isNaN_foldl_add {xs : List Float} {start : Float}
    (h : start.isNaN = true ∨ ∃ x ∈ xs, x.isNaN = true) :
    (xs.foldl (· + ·) start).isNaN = true := by
  induction xs generalizing start with
  | nil =>
      rcases h with h | ⟨x, hx, _⟩
      · exact h
      · cases hx
  | cons y ys ih =>
      apply ih
      rcases h with h | ⟨x, hx, hnan⟩
      · exact .inl (Double.isNaN_add (.inl h))
      · rcases List.mem_cons.mp hx with rfl | hx
        · exact .inl (Double.isNaN_add (.inr hnan))
        · exact .inr ⟨x, hx, hnan⟩

theorem unsigned_foldl_add {xs : List Float} {start : Float} (hstart : Unsigned start)
    (h : forall x, x ∈ xs -> Nonnegative x) : Unsigned (xs.foldl (· + ·) start) := by
  induction xs generalizing start with
  | nil => exact hstart
  | cons y ys ih =>
      apply ih
      · exact hstart.add (h y List.mem_cons_self)
      · exact fun x hx => h x (List.mem_cons_of_mem y hx)

theorem nonnegative_distribution {answers : List Float} {x : Float}
    (hx : x ∈ distribution answers) : Nonnegative x := by
  unfold distribution share at hx
  split at hx
  · rename_i hpositive
    rcases List.mem_map.mp hx with ⟨y, hy, rfl⟩
    have hnumber := Double.isNaN_of_lt hpositive
    have hscores : forall z, z ∈ answers.map clamp -> Nonnegative z ∧ Double.size z ≠ ⊤ := by
      intro z hz
      rcases List.mem_map.mp hz with ⟨answer, _, rfl⟩
      apply (clamp_cases answer).resolve_left
      intro hnan
      have hsum : (sum (answers.map clamp)).isNaN = true :=
        isNaN_foldl_add (.inr ⟨_, hz, hnan⟩)
      exact Bool.false_ne_true (hnumber.symm.trans hsum)
    have hsum : Unsigned (sum (answers.map clamp)) :=
      unsigned_foldl_add (Double.unsigned_ofNat 0) fun z hz => (hscores z hz).1
    have hsize := (Double.lt_iff (Double.unsigned_ofNat 0) hsum).mp hpositive
    exact (hscores y hy).1.div hsum (ne_of_gt hsize) (hscores y hy).2
  · rcases List.mem_map.mp hx with ⟨y, _, rfl⟩
    rcases Double.value?_ofNat one_pos (by decide) with ⟨c, hc, hone⟩
    have hunit := Binary.unsigned_of_pos hc (by linarith)
    left
    apply Unsigned.div (Double.unsigned_ofNat 1) (Double.unsigned_ofNat _)
    · rintro ⟨hzero, _⟩
      have := WithTop.coe_eq_zero.mp (hunit.2.symm.trans hzero)
      linarith
    · rintro ⟨htop, _⟩
      exact Binary.size_ne_top hc htop

/-!
## Means
-/

theorem unsigned_zipWith {total vote : List Float} (htotal : forall x, x ∈ total -> Unsigned x)
    (hvote : forall x, x ∈ vote -> Nonnegative x) {x : Float}
    (hx : x ∈ total.zipWith (· + ·) vote) : Unsigned x := by
  rcases List.getElem?_of_mem hx with ⟨i, hi⟩
  rcases List.getElem?_zipWith_eq_some.mp hi with ⟨a, b, ha, hb, rfl⟩
  exact (htotal a (List.mem_of_getElem? ha)).add (hvote b (List.mem_of_getElem? hb))

theorem unsigned_total {votes : List (List Float)} {total : List Float}
    (h : forall vote, vote ∈ votes -> forall x, x ∈ vote -> Nonnegative x)
    (htotal : forall x, x ∈ total -> Unsigned x) {x : Float}
    (hx : x ∈ votes.foldl (fun total vote => total.zipWith (· + ·) vote) total) :
    Unsigned x := by
  induction votes generalizing total with
  | nil => exact htotal x hx
  | cons vote votes ih =>
      apply ih (fun other hother => h other (List.mem_cons_of_mem vote hother)) _ hx
      exact fun y hy => unsigned_zipWith htotal (h vote List.mem_cons_self) hy

theorem unsigned_average {size : Nat} {votes : List (List Float)}
    (hfew : votes.length < UInt64.size)
    (h : forall vote, vote ∈ votes -> forall x, x ∈ vote -> Nonnegative x) {x : Float}
    (hx : x ∈ average size votes) : Unsigned x := by
  have hzeros : forall y, y ∈ List.replicate size (Float.ofNat 0) -> Unsigned y := by
    intro y hy
    rw [(List.mem_replicate.mp hy).2]
    exact Double.unsigned_ofNat 0
  unfold average at hx
  split at hx
  · exact hzeros x hx
  · rename_i hsome
    have hpos : 0 < votes.length := by
      apply List.length_pos_of_ne_nil
      rintro rfl
      exact hsome rfl
    rcases Double.value?_ofNat hpos hfew with ⟨c, hc, hone⟩
    have hcount := Binary.unsigned_of_pos hc (by linarith)
    rcases List.mem_map.mp hx with ⟨y, hy, rfl⟩
    apply (unsigned_total h hzeros hy).div (Double.unsigned_ofNat _)
    · rintro ⟨_, hzero⟩
      have := WithTop.coe_eq_zero.mp (hcount.2.symm.trans hzero)
      linarith
    · rintro ⟨_, htop⟩
      exact Binary.size_ne_top hc htop

end Vote

/-!
## Probabilities
-/

namespace Estimator

theorem length_vote {e : Estimator} {sample : Array Float32} {vote : List Float}
    (h : e.vote sample = .ok vote) : vote.length = e.models.length := by
  rcases Attempts.bind_eq_ok.mp h with ⟨answers, hanswers, hvote⟩
  injection hvote with hvote
  rw [← hvote, Vote.length_distribution, List.length_map,
    Attempts.length_of_mapM_eq_ok hanswers]

theorem nonnegative_vote {e : Estimator} {sample : Array Float32} {vote : List Float}
    (h : e.vote sample = .ok vote) {x : Float} (hx : x ∈ vote) : Nonnegative x := by
  rcases Attempts.bind_eq_ok.mp h with ⟨answers, _, hvote⟩
  injection hvote with hvote
  rw [← hvote] at hx
  exact Vote.nonnegative_distribution hx

end Estimator

namespace Forest

theorem probabilities_spec {f : Forest} {sample : Array Float32} {p : List Float}
    (hfew : f.estimators.length < UInt64.size) (h : f.probabilities sample = .ok p) :
    p.length = f.classes.length ∧ forall x, x ∈ p -> Unsigned x := by
  unfold probabilities at h
  split at h
  · cases h
  · rename_i hcheck
    split at h
    · cases h
    · rename_i votes hvotes
      injection h with h
      rw [← h]
      constructor
      · apply Vote.length_average
        intro vote hvote
        rcases Attempts.exists_of_mem_mapM hvotes hvote with ⟨e, he, heq⟩
        rw [Estimator.length_vote heq, (check_eq_ok_iff.mp hcheck).2.2 e he]
      · intro x hx
        refine Vote.unsigned_average ?_ (fun vote hvote y hy => ?_) hx
        · rwa [Attempts.length_of_mapM_eq_ok hvotes]
        · rcases Attempts.exists_of_mem_mapM hvotes hvote with ⟨e, _, heq⟩
          exact Estimator.nonnegative_vote heq hy

end Forest
end Polyglot
