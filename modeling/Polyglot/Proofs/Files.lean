import Polyglot.Host
import Polyglot.Proofs.Attempts

/-!
# Files

What has been written to a path is read from that path.
-/

namespace Polyglot
namespace Files
namespace Tree

theorem item?_put_self (t : Tree) {l : Location} (hl : l ≠ []) (item : Item) :
    (t.put l item).item? l = some item := by
  rw [item?, if_neg hl, put, List.lookup_cons, beq_self_eq_true]

theorem lookup_filter_ne {l other : Location} (h : other ≠ l) (items : List (Location × Item)) :
    (items.filter fun e => e.1 != l).lookup other = items.lookup other := by
  induction items with
  | nil => rfl
  | cons entry items ih =>
      by_cases heq : entry.1 = l
      · have hkept : ¬(entry.1 != l) = true := by simp [heq]
        rw [List.filter_cons, if_neg hkept, ih, List.lookup_cons]
        have hother : (other == entry.1) = false := by simp [heq, h]
        rw [hother]
      · have hkept : (entry.1 != l) = true := by simp [heq]
        rw [List.filter_cons, if_pos hkept, List.lookup_cons, List.lookup_cons, ih]

theorem item?_put_of_ne (t : Tree) {l other : Location} (h : other ≠ l) (item : Item) :
    (t.put l item).item? other = t.item? other := by
  have hne : (other == l) = false := by simpa using h
  unfold item?
  split
  · rfl
  · rw [put, List.lookup_cons, hne]
    exact lookup_filter_ne h t.items

theorem follow_put {t : Tree} {l place next : Location} {step : String} {item : Item}
    (hplace : place ≠ []) (hfile : t.item? place ≠ some .directory)
    (h : t.follow l step = .ok next) : (t.put place item).follow l step = .ok next := by
  -- Writing removes nothing, so no step can fail that did not fail before.
  have hkept : (t.put place item).item? (l ++ [step]) = none -> t.item? (l ++ [step]) = none := by
    intro hnone
    by_cases heq : l ++ [step] = place
    · rw [heq, item?_put_self t hplace] at hnone
      cases hnone
    · rwa [item?_put_of_ne t heq] at hnone
  unfold follow at h ⊢
  split at h
  · cases h
  · rename_i hdirectory
    have hl : l ≠ place := by
      rintro rfl
      exact hdirectory hfile
    rw [item?_put_of_ne t hl, if_neg hdirectory]
    split at h
    · rename_i hdot
      rwa [if_pos hdot]
    · rename_i hdot
      rw [if_neg hdot]
      split at h
      · rename_i hdots
        rwa [if_pos hdots]
      · rename_i hdots
        rw [if_neg hdots]
        split at h
        · cases h
        · rename_i hlong
          rw [if_neg hlong]
          split at h
          · cases h
          · rename_i hsome
            rwa [if_neg fun hnone => hsome (hkept hnone)]

theorem locate_put {t : Tree} {place : Location} {item : Item} (hplace : place ≠ [])
    (hfile : t.item? place ≠ some .directory) {steps : List String} {l : Location}
    (h : t.locate steps = .ok l) : (t.put place item).locate steps = .ok l := by
  unfold locate at h ⊢
  generalize ([] : Location) = start at h ⊢
  induction steps generalizing start with
  | nil => exact h
  | cons step steps ih =>
      rw [List.foldlM_cons] at h ⊢
      rcases Attempts.bind_eq_ok.mp h with ⟨next, hnext, hrest⟩
      exact Attempts.bind_eq_ok.mpr ⟨next, follow_put hplace hfile hnext, ih _ hrest⟩

theorem parts_of_target {t : Tree} {steps : List String} {directory : Location} {name : String}
    (h : t.target steps = .ok (.named directory name)) :
    steps = steps.dropLast ++ [name] ∧ t.locate steps.dropLast = .ok directory ∧
      t.item? directory = some .directory ∧ name ≠ "." ∧ name ≠ ".." := by
  unfold target at h
  split at h
  · cases h
  · rename_i last hlast
    rcases Attempts.bind_eq_ok.mp h with ⟨l, hl, h⟩
    split at h
    · cases h
    · rename_i hdirectory
      split at h
      · cases h
      · rename_i hdot
        split at h
        · cases h
        · rename_i hdots
          cases h
          refine ⟨?_, hl, Decidable.not_not.mp hdirectory, hdot, hdots⟩
          exact (List.dropLast_append_getLast? name hlast).symm

theorem checkName_eq_ok {name : String} (h : checkName name = .ok ()) :
    ¬maxName < (Text.bytes name).length := by
  unfold checkName at h
  split at h
  · cases h
  · rename_i hlong
    exact hlong

theorem locate_put_self {t : Tree} {steps : List String} {directory : Location} {name : String}
    (h : t.target steps = .ok (.named directory name)) (hname : checkName name = .ok ())
    (hfile : t.item? (directory ++ [name]) ≠ some .directory) (item : Item) :
    (t.put (directory ++ [name]) item).locate steps = .ok (directory ++ [name]) := by
  rcases parts_of_target h with ⟨hsteps, hlocate, hdirectory, hdot, hdots⟩
  have hsome : directory ++ [name] ≠ [] := by simp
  have hne : directory ≠ directory ++ [name] := by simp
  rw [hsteps, locate, List.foldlM_append]
  refine Attempts.bind_eq_ok.mpr ⟨directory, locate_put hsome hfile hlocate, ?_⟩
  rw [List.foldlM_cons]
  refine Attempts.bind_eq_ok.mpr ⟨directory ++ [name], ?_, rfl⟩
  unfold follow
  rw [item?_put_of_ne t hne, if_neg (not_not_intro hdirectory), if_neg hdot, if_neg hdots,
    if_neg (checkName_eq_ok hname), item?_put_self t hsome, if_neg (Option.some_ne_none item)]

theorem read_of_write {t after : Tree} {p : Path} {bytes : List UInt8}
    (h : t.write p bytes = .ok after) : after.read p = .ok bytes := by
  unfold write at h
  rcases Attempts.bind_eq_ok.mp h with ⟨_, hpath, h⟩
  rcases Attempts.bind_eq_ok.mp h with ⟨place, htarget, h⟩
  cases place with
  | known l => cases h
  | named directory name =>
      dsimp only at h
      split at h
      · cases h
      · rename_i hopen
        rcases Attempts.bind_eq_ok.mp h with ⟨_, hname, h⟩
        split at h
        · cases h
        · rename_i hfile
          injection h with h
          subst h
          have hlocated := locate_put_self htarget hname hfile (.file bytes)
          have hitem := item?_put_self t (by simp : directory ++ [name] ≠ []) (.file bytes)
          refine Attempts.bind_eq_ok.mpr ⟨.file bytes, ?_, rfl⟩
          refine Attempts.bind_eq_ok.mpr ⟨(), hpath, ?_⟩
          refine Attempts.bind_eq_ok.mpr ⟨_, hlocated, ?_⟩
          rw [hitem]
          dsimp only
          rw [if_neg hopen]
          rfl

end Tree
end Files
end Polyglot
