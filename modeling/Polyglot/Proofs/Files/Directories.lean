import Polyglot.Proofs.Files

/-!
# Directories

Steps that lead to a directory lead there as long as no directory disappears.
Making directories adds directories where nothing stood and changes nothing else;
once it has succeeded, doing it again changes nothing at all.
-/

namespace Polyglot
namespace Files
namespace Tree

variable {t after : Tree}

def KeepsDirectories (t after : Tree) : Prop :=
  forall l, t.item? l = some .directory -> after.item? l = some .directory

theorem KeepsDirectories.put (t : Tree) {place : Location} (hplace : place ≠ [])
    (hfile : t.item? place ≠ some .directory) (item : Item) :
    t.KeepsDirectories (t.put place item) := by
  intro l hl
  have hne : l ≠ place := by
    rintro rfl
    exact hfile hl
  rwa [item?_put_of_ne t hne]

theorem item?_clear_self (t : Tree) {l : Location} (hl : l ≠ []) : (t.clear l).item? l = none := by
  rw [item?, if_neg hl, clear, List.lookup_eq_none_iff]
  intro entry hentry
  have hne : entry.1 ≠ l := by simpa using (List.mem_filter.mp hentry).2
  simpa using hne.symm

theorem item?_clear_of_ne (t : Tree) {l other : Location} (h : other ≠ l) :
    (t.clear l).item? other = t.item? other := by
  unfold item?
  split
  · rfl
  · exact lookup_filter_ne h t.items

theorem KeepsDirectories.clear (t : Tree) {place : Location}
    (hfile : t.item? place ≠ some .directory) : t.KeepsDirectories (t.clear place) := by
  intro l hl
  have hne : l ≠ place := by
    rintro rfl
    exact hfile hl
  rwa [item?_clear_of_ne t hne]

/-!
## Finding the way
-/

theorem directory_of_follow {l next : Location} {step : String} (h : t.follow l step = .ok next) :
    t.item? l = some .directory := by
  unfold follow at h
  split at h
  · cases h
  · rename_i hdirectory
    exact Decidable.not_not.mp hdirectory

theorem follow_cases {l next : Location} {step : String} (h : t.follow l step = .ok next) :
    (step = "." ∧ next = l) ∨ (step = ".." ∧ next = l.dropLast) ∨
      (step ≠ "." ∧ step ≠ ".." ∧ ¬maxName < (Text.bytes step).length ∧
        t.item? (l ++ [step]) ≠ none ∧ next = l ++ [step]) := by
  unfold follow at h
  rw [if_neg (not_not_intro (directory_of_follow h))] at h
  split at h
  · rename_i hdot
    cases h
    exact .inl ⟨hdot, rfl⟩
  · rename_i hdot
    split at h
    · rename_i hdots
      cases h
      exact .inr (.inl ⟨hdots, rfl⟩)
    · rename_i hdots
      split at h
      · cases h
      · rename_i hname
        split at h
        · cases h
        · rename_i hsome
          cases h
          exact .inr (.inr ⟨hdot, hdots, hname, hsome, rfl⟩)

theorem follow_of_keepsDirectories (hkept : t.KeepsDirectories after) {l next : Location}
    {step : String} (h : t.follow l step = .ok next) (hnext : t.item? next = some .directory) :
    after.follow l step = .ok next := by
  have hl := hkept l (directory_of_follow h)
  unfold follow
  rw [if_neg (not_not_intro hl)]
  rcases follow_cases h with ⟨rfl, rfl⟩ | ⟨rfl, rfl⟩ | ⟨hdot, hdots, hname, _, rfl⟩
  · rfl
  · rfl
  · rw [if_neg hdot, if_neg hdots, if_neg hname, if_neg]
    rw [hkept _ hnext]
    exact Option.some_ne_none _

theorem directory_of_foldlM {steps : List String} {start l : Location}
    (h : steps.foldlM t.follow start = .ok l) (hl : t.item? l = some .directory) :
    t.item? start = some .directory := by
  cases steps with
  | nil =>
      cases h
      exact hl
  | cons step steps =>
      rw [List.foldlM_cons] at h
      rcases Attempts.bind_eq_ok.mp h with ⟨next, hnext, _⟩
      exact directory_of_follow hnext

theorem locate_of_keepsDirectories (hkept : t.KeepsDirectories after) {steps : List String}
    {l : Location} (h : t.locate steps = .ok l) (hl : t.item? l = some .directory) :
    after.locate steps = .ok l := by
  unfold locate at h ⊢
  generalize ([] : Location) = start at h ⊢
  induction steps generalizing start with
  | nil => exact h
  | cons step steps ih =>
      rw [List.foldlM_cons] at h ⊢
      rcases Attempts.bind_eq_ok.mp h with ⟨next, hnext, hrest⟩
      exact Attempts.bind_eq_ok.mpr ⟨next,
        follow_of_keepsDirectories hkept hnext (directory_of_foldlM hrest hl), ih _ hrest⟩

theorem target_of_keepsDirectories (hkept : t.KeepsDirectories after) {steps : List String}
    {directory : Location} {name : String} (h : t.target steps = .ok (.named directory name)) :
    after.target steps = .ok (.named directory name) := by
  rcases parts_of_target h with ⟨hsteps, hlocate, hdirectory, hdot, hdots⟩
  have hlast : steps.getLast? = some name := by
    rw [hsteps, List.getLast?_concat]
  unfold target
  rw [hlast]
  refine Attempts.bind_eq_ok.mpr
    ⟨directory, locate_of_keepsDirectories hkept hlocate hdirectory, ?_⟩
  rw [if_neg (not_not_intro (hkept directory hdirectory)), if_neg hdot, if_neg hdots]
  rfl

theorem isDirectory_iff {steps : List String} : t.isDirectory steps = true ↔
    ∃ l, t.locate steps = .ok l ∧ t.item? l = some .directory := by
  unfold isDirectory
  cases hlocate : t.locate steps with
  | error e => simp
  | ok l => simp

theorem isDirectory_of_keepsDirectories (hkept : t.KeepsDirectories after) {steps : List String}
    (h : t.isDirectory steps = true) : after.isDirectory steps = true := by
  rcases isDirectory_iff.mp h with ⟨l, hlocate, hl⟩
  exact isDirectory_iff.mpr ⟨l, locate_of_keepsDirectories hkept hlocate hl, hkept l hl⟩

/-!
## Making directories
-/

/-- Everything stands where it stood, and only directories are new. -/
structure Extends (t after : Tree) : Prop where
  kept : forall l item, t.item? l = some item -> after.item? l = some item
  added : forall l item, t.item? l = none -> after.item? l = some item -> item = .directory

namespace Extends

theorem refl (t : Tree) : t.Extends t := by
  constructor
  · exact fun _ _ h => h
  · intro l item hnone hsome
    rw [hnone] at hsome
    cases hsome

theorem trans {last : Tree} (h : t.Extends after) (h' : after.Extends last) : t.Extends last := by
  constructor
  · exact fun l item hl => h'.kept l item (h.kept l item hl)
  · intro l item hnone hsome
    cases hmiddle : after.item? l with
    | none => exact h'.added l item hmiddle hsome
    | some other =>
        rw [h'.kept l other hmiddle] at hsome
        cases hsome
        exact h.added l _ hnone hmiddle

theorem put {place : Location} (hplace : place ≠ []) (h : t.item? place = none) :
    t.Extends (t.put place .directory) := by
  constructor
  · intro l item hl
    have hne : l ≠ place := by
      rintro rfl
      rw [h] at hl
      cases hl
    rwa [item?_put_of_ne t hne]
  · intro l item hnone hsome
    by_cases heq : l = place
    · subst heq
      rw [item?_put_self t hplace] at hsome
      cases hsome
      rfl
    · rw [item?_put_of_ne t heq, hnone] at hsome
      cases hsome

theorem file_iff (h : t.Extends after) (l : Location) (bytes : List UInt8) :
    after.item? l = some (.file bytes) ↔ t.item? l = some (.file bytes) := by
  constructor
  · intro hafter
    cases hl : t.item? l with
    | none => cases h.added l _ hl hafter
    | some item => exact (h.kept l item hl).symm.trans hafter
  · exact h.kept l _

end Extends

theorem of_makeDirectory {steps : List String} (h : t.makeDirectory steps = .ok after) :
    ∃ directory name, t.target steps = .ok (.named directory name) ∧ checkName name = .ok () ∧
      t.item? (directory ++ [name]) = none ∧ after = t.put (directory ++ [name]) .directory := by
  unfold makeDirectory at h
  rcases Attempts.bind_eq_ok.mp h with ⟨place, htarget, h⟩
  cases place with
  | known l => cases h
  | named directory name =>
      rcases Attempts.bind_eq_ok.mp h with ⟨_, hname, h⟩
      split at h
      · cases h
      · rename_i hnone
        cases h
        exact ⟨directory, name, htarget, hname, hnone, rfl⟩

theorem of_ensureDirectory {steps : List String} (h : t.ensureDirectory steps = .ok after) :
    t.makeDirectory steps = .ok after ∨ t.isDirectory steps = true ∧ after = t := by
  unfold ensureDirectory at h
  split at h
  · split at h
    · rename_i hdirectory
      cases h
      exact .inr ⟨hdirectory, rfl⟩
    · cases h
  · exact .inl h

theorem extends_of_ensureDirectory {steps : List String} (h : t.ensureDirectory steps = .ok after) :
    t.Extends after := by
  rcases of_ensureDirectory h with hmade | ⟨_, rfl⟩
  · rcases of_makeDirectory hmade with ⟨directory, name, _, _, hnone, rfl⟩
    exact .put (by simp) hnone
  · exact .refl _

theorem isDirectory_of_ensureDirectory {steps : List String}
    (h : t.ensureDirectory steps = .ok after) : after.isDirectory steps = true := by
  rcases of_ensureDirectory h with hmade | ⟨hdirectory, rfl⟩
  · rcases of_makeDirectory hmade with ⟨directory, name, htarget, hname, hnone, rfl⟩
    have hfile : t.item? (directory ++ [name]) ≠ some .directory := by
      rw [hnone]
      exact (Option.some_ne_none _).symm
    exact isDirectory_iff.mpr ⟨_, locate_put_self htarget hname hfile .directory,
      item?_put_self t (by simp) .directory⟩
  · exact hdirectory

theorem ensureDirectory_of_isDirectory {steps : List String} (h : t.isDirectory steps = true) :
    t.ensureDirectory steps = .ok t := by
  have hexists : t.makeDirectory steps = .error .alreadyExists := by
    rcases isDirectory_iff.mp h with ⟨l, hlocate, hl⟩
    unfold makeDirectory target
    cases hlast : steps.getLast? with
    | none => rfl
    | some last =>
        have hsteps : steps = steps.dropLast ++ [last] :=
          (List.dropLast_append_getLast? last hlast).symm
        rw [hsteps, locate, List.foldlM_append] at hlocate
        rcases Attempts.bind_eq_ok.mp hlocate with ⟨directory, hdirectory, hlocate⟩
        rw [List.foldlM_cons] at hlocate
        rcases Attempts.bind_eq_ok.mp hlocate with ⟨next, hnext, hlocate⟩
        cases hlocate
        have hlead : t.locate steps.dropLast = .ok directory := hdirectory
        dsimp only
        rw [hlead]
        show ((if _ then _ else _ : Except FileError Target) >>= _) = _
        rw [if_neg (not_not_intro (directory_of_follow hnext))]
        rcases follow_cases hnext with ⟨rfl, _⟩ | ⟨rfl, _⟩ | ⟨hdot, hdots, hname, _, rfl⟩
        · rfl
        · rfl
        · rw [if_neg hdot, if_neg hdots]
          show (checkName last >>= _) = _
          rw [checkName, if_neg hname, hl]
          rfl
  unfold ensureDirectory
  rw [hexists]
  dsimp only
  rw [if_pos h]

theorem extends_makeWay (t : Tree) (ways : List (List String)) : t.Extends (t.makeWay ways).2 := by
  induction ways generalizing t with
  | nil => exact .refl t
  | cons steps shorter ih =>
      unfold makeWay
      cases hfirst : t.ensureDirectory steps with
      | ok made => exact extends_of_ensureDirectory hfirst
      | error e =>
          cases e with
          | notFound =>
              have hshorter := ih t
              dsimp only
              generalize t.makeWay shorter = made at hshorter ⊢
              rcases made with ⟨result, between⟩
              cases result with
              | error e => exact hshorter
              | ok =>
                  dsimp only
                  cases hlast : between.ensureDirectory steps with
                  | ok made => exact hshorter.trans (extends_of_ensureDirectory hlast)
                  | error e => exact hshorter
          | _ => exact .refl t

theorem isDirectory_of_makeWay {steps : List String} {shorter : List (List String)}
    (h : t.makeWay (steps :: shorter) = (.ok (), after)) : after.isDirectory steps = true := by
  unfold makeWay at h
  split at h
  · rename_i hfirst
    cases h
    exact isDirectory_of_ensureDirectory hfirst
  · split at h
    · cases h
    · split at h
      · rename_i hlast
        cases h
        exact isDirectory_of_ensureDirectory hlast
      · cases h
  · cases h

theorem extends_makeDirectories (t : Tree) (p : Path) : t.Extends (t.makeDirectories p).2 := by
  unfold makeDirectories
  split
  · exact .refl t
  · split
    · exact .refl t
    · exact extends_makeWay t _

def HasDirectory (t : Tree) (p : Path) : Prop :=
  p.steps = [] ∨ checkPath p = .ok () ∧ t.isDirectory p.steps = true

theorem HasDirectory.of_keepsDirectories (hkept : t.KeepsDirectories after) {p : Path}
    (h : t.HasDirectory p) : after.HasDirectory p :=
  h.imp id fun h => ⟨h.1, isDirectory_of_keepsDirectories hkept h.2⟩

theorem hasDirectory_of_makeDirectories {p : Path} (h : t.makeDirectories p = (.ok (), after)) :
    after.HasDirectory p := by
  unfold makeDirectories at h
  split at h
  · rename_i hnone
    exact .inl hnone
  · split at h
    · cases h
    · rename_i hpath
      exact .inr ⟨hpath, isDirectory_of_makeWay h⟩

theorem makeDirectories_of_hasDirectory {p : Path} (h : t.HasDirectory p) :
    t.makeDirectories p = (.ok (), t) := by
  unfold makeDirectories
  rcases h with hnone | ⟨hpath, hdirectory⟩
  · rw [if_pos hnone]
  · split
    · rfl
    · rw [hpath]
      dsimp only
      unfold makeWay
      rw [ensureDirectory_of_isDirectory hdirectory]

end Tree
end Files
end Polyglot
