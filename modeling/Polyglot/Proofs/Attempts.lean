import Mathlib.Data.List.Forall2

/-!
# Attempts in a row

A list of attempts succeeds exactly when every one of them does.
-/

namespace Polyglot
namespace Attempts

variable {ε α β : Type} {f : α → Except ε β}

theorem bind_eq_ok {x : Except ε α} {z : β} :
    (x >>= f) = .ok z ↔ ∃ y, x = .ok y ∧ f y = .ok z := by
  cases x with
  | error e =>
      constructor
      · intro h
        cases h
      · rintro ⟨y, hy, _⟩
        cases hy
  | ok y =>
      constructor
      · exact fun h => ⟨y, rfl, h⟩
      · rintro ⟨z, hz, h⟩
        cases hz
        exact h

theorem bind_of_eq_ok {x : Except ε α} {y : α} (h : x = .ok y) : (x >>= f) = f y := by
  rw [h]
  rfl

theorem mapM_cons_eq_ok {x : α} {xs : List α} {y : β} {ys : List β} (hx : f x = .ok y)
    (hxs : xs.mapM f = .ok ys) : (x :: xs).mapM f = .ok (y :: ys) := by
  rw [List.mapM_cons, hx]
  show (xs.mapM f >>= fun ys => pure (y :: ys)) = _
  rw [hxs]
  rfl

theorem exists_of_mapM_cons_eq_ok {x : α} {xs : List α} {zs : List β}
    (h : (x :: xs).mapM f = .ok zs) :
    ∃ y ys, zs = y :: ys ∧ f x = .ok y ∧ xs.mapM f = .ok ys := by
  rw [List.mapM_cons] at h
  cases hx : f x with
  | error e =>
      rw [hx] at h
      cases h
  | ok y =>
      rw [hx] at h
      change (xs.mapM f >>= fun ys => pure (y :: ys)) = _ at h
      cases hxs : xs.mapM f with
      | error e =>
          rw [hxs] at h
          cases h
      | ok ys =>
          rw [hxs] at h
          injection h with h
          exact ⟨y, ys, h.symm, rfl, rfl⟩

theorem exists_of_mapM_eq_error {xs : List α} {e : ε} (h : xs.mapM f = .error e) :
    ∃ x, x ∈ xs ∧ f x = .error e := by
  induction xs with
  | nil => cases h
  | cons x xs ih =>
      rw [List.mapM_cons] at h
      cases hx : f x with
      | error e' =>
          rw [hx] at h
          injection h with h
          exact ⟨x, List.mem_cons_self, by rw [hx, h]⟩
      | ok y =>
          rw [hx] at h
          change (xs.mapM f >>= fun ys => pure (y :: ys)) = _ at h
          cases hxs : xs.mapM f with
          | error e' =>
              rw [hxs] at h
              injection h with h
              rcases ih (by rw [hxs, h]) with ⟨z, hz, herror⟩
              exact ⟨z, List.mem_cons_of_mem x hz, herror⟩
          | ok ys =>
              rw [hxs] at h
              cases h

theorem exists_mapM_eq_ok {p : α → β → Prop} {xs : List α}
    (h : forall x, x ∈ xs -> ∃ y, f x = .ok y ∧ p x y) :
    ∃ ys, xs.mapM f = .ok ys ∧ List.Forall₂ p xs ys := by
  induction xs with
  | nil => exact ⟨[], rfl, .nil⟩
  | cons x xs ih =>
      rcases h x List.mem_cons_self with ⟨y, hy, hp⟩
      rcases ih fun z hz => h z (List.mem_cons_of_mem x hz) with ⟨ys, hys, hps⟩
      exact ⟨y :: ys, mapM_cons_eq_ok hy hys, .cons hp hps⟩

theorem forall₂_of_mapM_eq_ok {xs : List α} {ys : List β} (h : xs.mapM f = .ok ys) :
    List.Forall₂ (fun x y => f x = .ok y) xs ys := by
  induction xs generalizing ys with
  | nil =>
      injection h with h
      subst h
      exact .nil
  | cons x xs ih =>
      rcases exists_of_mapM_cons_eq_ok h with ⟨y, ys, rfl, hx, hxs⟩
      exact .cons hx (ih hxs)

theorem mapM_eq_ok_of_forall₂ {xs : List α} {ys : List β}
    (h : List.Forall₂ (fun x y => f x = .ok y) xs ys) : xs.mapM f = .ok ys := by
  induction h with
  | nil => rfl
  | cons hx _ ih => exact mapM_cons_eq_ok hx ih

theorem exists_mapM_eq_ok_iff {xs : List α} :
    (∃ ys, xs.mapM f = .ok ys) ↔ forall x, x ∈ xs -> ∃ y, f x = .ok y := by
  constructor
  · rintro ⟨ys, h⟩ x hx
    rcases List.getElem_of_mem hx with ⟨i, hi, rfl⟩
    have hys := forall₂_of_mapM_eq_ok h
    exact ⟨_, hys.get hi (hys.length_eq ▸ hi)⟩
  · intro h
    rcases exists_mapM_eq_ok (p := fun _ _ => True) fun x hx => (h x hx).imp fun _ hy =>
      ⟨hy, trivial⟩ with ⟨ys, hys, _⟩
    exact ⟨ys, hys⟩

theorem mapM_take_eq_ok {xs : List α} {ys : List β} (h : xs.mapM f = .ok ys) (n : Nat) :
    (xs.take n).mapM f = .ok (ys.take n) :=
  mapM_eq_ok_of_forall₂ (List.forall₂_take n (forall₂_of_mapM_eq_ok h))

theorem length_of_mapM_eq_ok {xs : List α} {ys : List β} (h : xs.mapM f = .ok ys) :
    ys.length = xs.length := by
  induction xs generalizing ys with
  | nil =>
      injection h with h
      subst h
      rfl
  | cons x xs ih =>
      rcases exists_of_mapM_cons_eq_ok h with ⟨y, ys, rfl, _, hxs⟩
      rw [List.length_cons, List.length_cons, ih hxs]

theorem exists_of_mem_mapM {xs : List α} {ys : List β} (h : xs.mapM f = .ok ys) {y : β}
    (hy : y ∈ ys) : ∃ x, x ∈ xs ∧ f x = .ok y := by
  induction xs generalizing ys with
  | nil =>
      injection h with h
      subst h
      cases hy
  | cons x xs ih =>
      rcases exists_of_mapM_cons_eq_ok h with ⟨z, zs, rfl, hx, hxs⟩
      rcases List.mem_cons.mp hy with rfl | hy
      · exact ⟨x, List.mem_cons_self, hx⟩
      · rcases ih hxs hy with ⟨w, hw, heq⟩
        exact ⟨w, List.mem_cons_of_mem x hw, heq⟩

end Attempts
end Polyglot
