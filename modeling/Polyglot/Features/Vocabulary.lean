import Polyglot.Settings

/-!
# Vocabularies

The terms that a vectorizer knows, each with the column that it counts for.  The
terms are in ascending order, so a vocabulary has one form.
-/

namespace Polyglot

/-- Terms in strictly ascending order, each with its column. -/
structure Vocabulary where
  entries : List (String × Nat)
  ascending : entries.Pairwise (fun a b => a.1 < b.1)

namespace Vocabulary

def size (v : Vocabulary) : Nat :=
  v.entries.length

def terms (v : Vocabulary) : List String :=
  v.entries.map Prod.fst

def column? (v : Vocabulary) (term : String) : Option Nat :=
  v.entries.lookup term

/-- Puts an entry into an ascending list, unless its term is already there. -/
def insertNew (e : String × Nat) : List (String × Nat) → List (String × Nat)
  | [] => [e]
  | x :: xs =>
      if e.1 < x.1 then e :: x :: xs
      else if e.1 = x.1 then x :: xs
      else x :: insertNew e xs

theorem forall_insertNew {p : String × Nat → Prop} {e : String × Nat}
    {xs : List (String × Nat)} (he : p e) (hxs : ∀ x ∈ xs, p x) :
    ∀ x ∈ insertNew e xs, p x := by
  induction xs with
  | nil => simpa [insertNew] using he
  | cons x xs ih =>
      have hx := hxs x List.mem_cons_self
      have hrest := fun y hy => hxs y (List.mem_cons_of_mem x hy)
      unfold insertNew
      split
      · simpa using ⟨he, hx, fun a b h => hrest (a, b) h⟩
      · split
        · exact hxs
        · intro y hy
          rcases List.mem_cons.mp hy with rfl | hy
          · exact hx
          · exact ih hrest y hy

theorem pairwise_insertNew {e : String × Nat} {xs : List (String × Nat)}
    (h : xs.Pairwise (fun a b => a.1 < b.1)) :
    (insertNew e xs).Pairwise (fun a b => a.1 < b.1) := by
  induction xs with
  | nil => simp [insertNew]
  | cons x xs ih =>
      have hx := (List.pairwise_cons.mp h).1
      unfold insertNew
      split
      · rename_i hlt
        refine List.pairwise_cons.mpr ⟨?_, h⟩
        intro y hy
        rcases List.mem_cons.mp hy with rfl | hy
        · exact hlt
        · exact String.lt_trans hlt (hx y hy)
      · split
        · exact h
        · rename_i hlt hne
          refine List.pairwise_cons.mpr ⟨?_, ih (List.pairwise_cons.mp h).2⟩
          have hgt : x.1 < e.1 := by
            apply Decidable.byContradiction
            intro hnot
            exact hne (String.le_antisymm (String.not_lt.mp hnot) (String.not_lt.mp hlt))
          exact forall_insertNew (p := fun y => x.1 < y.1) hgt hx

/-- The vocabulary of a list of entries; of several for one term, the last one counts. -/
def ofList (entries : List (String × Nat)) : Vocabulary where
  entries := entries.foldr insertNew []
  ascending := by
    induction entries with
    | nil => exact List.Pairwise.nil
    | cons e es ih => exact pairwise_insertNew ih

end Vocabulary
end Polyglot
