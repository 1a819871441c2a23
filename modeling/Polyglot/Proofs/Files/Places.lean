import Polyglot.Proofs.Files.Directories

/-!
# Places for files

A path to which a file can be written names one place.  What is written there is
read from it, what is removed is gone, and either leaves the place as usable as
it was.
-/

namespace Polyglot
namespace Files
namespace Tree

variable {t : Tree} {p : Path} {place : Location}

/-- A file can be written to the path, and it would stand at the place. -/
structure Offers (t : Tree) (p : Path) (place : Location) : Prop where
  path : checkPath p = .ok ()
  closed : p.endsOpen = false
  free : t.item? place ≠ some .directory
  named : ∃ directory name, place = directory ++ [name] ∧
    t.target p.steps = .ok (.named directory name) ∧ checkName name = .ok ()

theorem offers_of_write {after : Tree} {bytes : List UInt8} (h : t.write p bytes = .ok after) :
    ∃ place, t.Offers p place := by
  unfold write at h
  rcases Attempts.bind_eq_ok.mp h with ⟨_, hpath, h⟩
  rcases Attempts.bind_eq_ok.mp h with ⟨target, htarget, h⟩
  cases target with
  | known l => cases h
  | named directory name =>
      dsimp only at h
      split at h
      · cases h
      · rename_i hopen
        rcases Attempts.bind_eq_ok.mp h with ⟨_, hname, h⟩
        split at h
        · cases h
        · rename_i hfree
          exact ⟨directory ++ [name], hpath, Bool.eq_false_iff.mpr hopen, hfree,
            directory, name, rfl, htarget, hname⟩

namespace Offers

theorem ne_nil (h : t.Offers p place) : place ≠ [] := by
  rcases h.named with ⟨directory, name, rfl, _⟩
  simp

theorem of_keepsDirectories {after : Tree} (h : t.Offers p place)
    (hkept : t.KeepsDirectories after) (hfree : after.item? place ≠ some .directory) :
    after.Offers p place := by
  rcases h.named with ⟨directory, name, heq, htarget, hname⟩
  exact ⟨h.path, h.closed, hfree, directory, name, heq, target_of_keepsDirectories hkept htarget,
    hname⟩

theorem write_eq (h : t.Offers p place) (bytes : List UInt8) :
    t.write p bytes = .ok (t.put place (.file bytes)) := by
  rcases h.named with ⟨directory, name, rfl, htarget, hname⟩
  unfold write
  refine Attempts.bind_eq_ok.mpr ⟨(), h.path, ?_⟩
  refine Attempts.bind_eq_ok.mpr ⟨_, htarget, ?_⟩
  dsimp only
  rw [h.closed, if_neg Bool.false_ne_true]
  refine Attempts.bind_eq_ok.mpr ⟨(), hname, ?_⟩
  split
  · rename_i hdirectory
    exact absurd hdirectory h.free
  · rfl

theorem after_write (h : t.Offers p place) (bytes : List UInt8) :
    (t.put place (.file bytes)).Offers p place := by
  apply h.of_keepsDirectories (.put t h.ne_nil h.free _)
  rw [item?_put_self t h.ne_nil]
  exact fun heq => Item.noConfusion (Option.some.inj heq)

theorem after_remove (h : t.Offers p place) : (t.clear place).Offers p place := by
  apply h.of_keepsDirectories (.clear t h.free)
  rw [item?_clear_self t h.ne_nil]
  exact (Option.some_ne_none _).symm

theorem remove_eq (h : t.Offers p place) {bytes : List UInt8}
    (hfile : t.item? place = some (.file bytes)) : t.remove p = .ok (t.clear place) := by
  rcases h.named with ⟨directory, name, rfl, htarget, hname⟩
  unfold remove
  refine Attempts.bind_eq_ok.mpr ⟨(), h.path, ?_⟩
  refine Attempts.bind_eq_ok.mpr ⟨_, htarget, ?_⟩
  refine Attempts.bind_eq_ok.mpr ⟨(), hname, ?_⟩
  rw [hfile]
  dsimp only
  rw [h.closed, if_neg Bool.false_ne_true]
  rfl

theorem locate_eq (h : t.Offers p place) : t.locate p.steps =
    if t.item? place = none then .error .notFound else .ok place := by
  rcases h.named with ⟨directory, name, rfl, htarget, hname⟩
  rcases parts_of_target htarget with ⟨hsteps, hlocate, hdirectory, hdot, hdots⟩
  rw [hsteps, locate, List.foldlM_append]
  have hlead : p.steps.dropLast.foldlM t.follow [] = .ok directory := hlocate
  rw [hlead]
  show (t.follow directory name >>= fun l => ([] : List String).foldlM t.follow l) = _
  unfold follow
  rw [if_neg (not_not_intro hdirectory), if_neg hdot, if_neg hdots,
    if_neg (checkName_eq_ok hname)]
  split
  · rfl
  · rfl

theorem find_eq (h : t.Offers p place) : t.find p =
    match t.item? place with
    | none => .error .notFound
    | some item => .ok item := by
  unfold find
  rw [h.path]
  show (t.locate p.steps >>= _) = _
  rw [h.locate_eq]
  cases hitem : t.item? place with
  | none => rfl
  | some item =>
      refine Attempts.bind_eq_ok.mpr ⟨place, if_neg (Option.some_ne_none _), ?_⟩
      rw [hitem]
      cases item with
      | directory => rfl
      | file bytes => rw [h.closed]; rfl

end Offers

/-!
## Ways to places
-/

/-- A way to a directory that is only partly there breaks off where something is not there. -/
theorem foldlM_of_extends {after : Tree} (h : t.Extends after) {steps : List String}
    {start l : Location} (hstart : forall other, other <+: start -> t.item? other = some .directory)
    (hlocate : steps.foldlM after.follow start = .ok l) (hl : after.item? l = some .directory) :
    steps.foldlM t.follow start = .error .notFound ∨
      steps.foldlM t.follow start = .ok l ∧ t.item? l = some .directory := by
  induction steps generalizing start with
  | nil =>
      cases hlocate
      exact .inr ⟨rfl, hstart l (List.prefix_refl l)⟩
  | cons step steps ih =>
      rw [List.foldlM_cons] at hlocate ⊢
      rcases Attempts.bind_eq_ok.mp hlocate with ⟨next, hnext, hrest⟩
      have hdirectory := hstart start (List.prefix_refl start)
      have hafter := directory_of_foldlM hrest hl
      rcases follow_cases hnext with ⟨rfl, rfl⟩ | ⟨rfl, rfl⟩ | ⟨hdot, hdots, hname, _, rfl⟩
      · have hfollow : t.follow next "." = .ok next := by
          rw [follow, if_neg (not_not_intro hdirectory), if_pos rfl]
        rw [hfollow]
        exact ih hstart hrest
      · have hfollow : t.follow start ".." = .ok start.dropLast := by
          rw [follow, if_neg (not_not_intro hdirectory), if_neg (by decide), if_pos rfl]
        rw [hfollow]
        exact ih (fun other hother => hstart other (hother.trans (List.dropLast_prefix start)))
          hrest
      · have hfollow : t.follow start step =
            if t.item? (start ++ [step]) = none then .error .notFound else .ok (start ++ [step]) := by
          rw [follow, if_neg (not_not_intro hdirectory), if_neg hdot, if_neg hdots, if_neg hname]
        rw [hfollow]
        cases hitem : t.item? (start ++ [step]) with
        | none => exact .inl rfl
        | some item =>
            rw [h.kept _ item hitem] at hafter
            cases hafter
            refine ih (fun other hother => ?_) hrest
            rcases List.prefix_concat_iff.mp hother with rfl | hother
            · exact hitem
            · exact hstart other hother

def Admits (t : Tree) (p : Path) : Prop :=
  ∃ made after, t.makeDirectories p.parent = (.ok (), made) ∧ made.write p [] = .ok after

theorem admits_of_write {after : Tree} (hparent : p.parent.steps = [])
    (hwritten : t.write p [] = .ok after) : t.Admits p :=
  ⟨t, after, if_pos hparent, hwritten⟩

theorem read_of_find {e : FileError} (h : t.find p = .error e) : t.read p = .error e := by
  rw [read, h]
  rfl

theorem read_of_admits (hadmits : t.Admits p) (habsent : t.isPresent p = false) :
    t.read p = .error .notFound := by
  rcases hadmits with ⟨made, after, hmade, hwritten⟩
  rcases offers_of_write hwritten with ⟨place, hoffers⟩
  have hextends : t.Extends made := by
    have hboth := extends_makeDirectories t p.parent
    rwa [hmade] at hboth
  have hroot : forall other, other <+: [] -> t.item? other = some .directory := by
    intro other hother
    rw [List.prefix_nil.mp hother]
    rfl
  apply read_of_find
  rcases hoffers.named with ⟨directory, name, rfl, htarget, hname⟩
  rcases parts_of_target htarget with ⟨hsteps, hlocate, hdirectory, hdot, hdots⟩
  rcases foldlM_of_extends hextends hroot hlocate hdirectory with hlead | ⟨hlead, hthere⟩
  · have hlost : t.locate p.steps = .error .notFound := by
      rw [hsteps, locate, List.foldlM_append, hlead]
      rfl
    rw [find, hoffers.path]
    show (t.locate p.steps >>= _) = _
    rw [hlost]
    rfl
  · have hhere : t.Offers p (directory ++ [name]) := by
      refine ⟨hoffers.path, hoffers.closed, fun hitem => ?_, directory, name, rfl, ?_, hname⟩
      · exact hoffers.free (hextends.kept _ _ hitem)
      · have hlast : p.steps.getLast? = some name := by
          rw [hsteps, List.getLast?_concat]
        unfold target
        rw [hlast]
        refine Attempts.bind_eq_ok.mpr ⟨directory, hlead, ?_⟩
        rw [if_neg (not_not_intro hthere), if_neg hdot, if_neg hdots]
        rfl
    rw [isPresent, hhere.find_eq] at habsent
    rw [hhere.find_eq]
    split at habsent
    · rfl
    · cases habsent

/-!
## Kept files
-/

/--
What a path keeps: nothing, while its directories may still have to be made, or
what stands at its place.
-/
def Keeps (t : Tree) (p : Path) (content : Option (List UInt8)) : Prop :=
  (content = none ∧ t.isPresent p = false ∧ t.Admits p) ∨
    ∃ place, t.Offers p place ∧ t.HasDirectory p.parent ∧
      t.item? place = content.map Item.file

namespace Keeps

theorem of_absent (habsent : t.isPresent p = false) (hadmits : t.Admits p) : t.Keeps p none :=
  .inl ⟨rfl, habsent, hadmits⟩

theorem read_eq {content : Option (List UInt8)} (h : t.Keeps p content) : t.read p =
    match content with
    | none => .error .notFound
    | some bytes => .ok bytes := by
  rcases h with ⟨rfl, habsent, hadmits⟩ | ⟨place, hoffers, _, hitem⟩
  · exact read_of_admits hadmits habsent
  · have hfind := hoffers.find_eq
    rw [hitem] at hfind
    unfold read
    rw [hfind]
    cases content with
    | none => rfl
    | some bytes => rfl

theorem isPresent_eq {content : Option (List UInt8)} (h : t.Keeps p content) :
    t.isPresent p = content.isSome := by
  rcases h with ⟨rfl, habsent, _⟩ | ⟨place, hoffers, _, hitem⟩
  · exact habsent
  · have hfind := hoffers.find_eq
    rw [hitem] at hfind
    unfold isPresent
    rw [hfind]
    cases content with
    | none => rfl
    | some bytes => rfl

theorem admits {content : Option (List UInt8)} (h : t.Keeps p content) : t.Admits p := by
  rcases h with ⟨_, _, hadmits⟩ | ⟨place, hoffers, hdirectory, _⟩
  · exact hadmits
  · exact ⟨t, _, makeDirectories_of_hasDirectory hdirectory, hoffers.write_eq []⟩

theorem exists_remove {bytes : List UInt8} (h : t.Keeps p (some bytes)) :
    ∃ after, t.remove p = .ok after ∧ after.Keeps p none := by
  rcases h with ⟨hnone, _⟩ | ⟨place, hoffers, hdirectory, hitem⟩
  · cases hnone
  · refine ⟨_, hoffers.remove_eq hitem, .inr ⟨place, hoffers.after_remove, ?_, ?_⟩⟩
    · exact hdirectory.of_keepsDirectories (.clear t hoffers.free)
    · exact item?_clear_self t hoffers.ne_nil

end Keeps

theorem Admits.exists_write (h : t.Admits p) (bytes : List UInt8) :
    ∃ made after, t.makeDirectories p.parent = (.ok (), made) ∧
      made.write p bytes = .ok after ∧ after.Keeps p (some bytes) := by
  rcases h with ⟨made, written, hmade, hwritten⟩
  rcases offers_of_write hwritten with ⟨place, hoffers⟩
  have hdirectory := hasDirectory_of_makeDirectories hmade
  refine ⟨made, _, hmade, hoffers.write_eq bytes, .inr ⟨place, hoffers.after_write bytes, ?_, ?_⟩⟩
  · exact hdirectory.of_keepsDirectories (.put made hoffers.ne_nil hoffers.free _)
  · exact item?_put_self made hoffers.ne_nil _

end Tree
end Files
end Polyglot
