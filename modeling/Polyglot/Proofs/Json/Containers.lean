import Mathlib.Data.List.Forall2
import Polyglot.Proofs.Json.Decisions

/-!
# Scanned containers

A loop over the parts of a list or an object takes them as long as they are taken on
their own, and stops in the first one that is not.  The number of rounds is no bound: a
document has at least as many bytes as parts.
-/

namespace Polyglot
namespace Json

theorem isSome_mapM {α β : Type} (f : α -> Option β) (xs : List α) :
    (xs.mapM f).isSome = xs.all fun x => (f x).isSome := by
  induction xs with
  | nil => rfl
  | cons x xs ih =>
      rw [List.mapM_cons, List.all_cons, ← ih]
      cases f x with
      | none => rfl
      | some y =>
          cases xs.mapM f with
          | none => rfl
          | some ys => rfl

theorem isSome_bind_fields? {α : Type} {names : List String} {entries : List (String × Json)}
    {next : List Json -> Option α} (hnames : entries.map Prod.fst = names) (h : names.Nodup) :
    ((ofEntries entries).fields? names >>= next).isSome = (next (entries.map Prod.snd)).isSome :=
  congrArg Option.isSome (bind_fields?_ofEntries hnames h)

@[simp] theorem any_const {α : Type} (o : Option α) (b : Bool) : (o.any fun _ => b) = (o.isSome && b) := by
  cases o with
  | none => rfl
  | some a => rfl

namespace Scan

/-!
## Lists
-/

def separator (first : Bool) : List UInt8 :=
  if first then [] else [0x2c]

def joined : Bool -> List (List UInt8) -> List UInt8
  | _, [] => []
  | first, text :: texts => separator first ++ (text ++ joined false texts)

theorem ends_cons {b : UInt8} (h : State.Closing b) (tail : List UInt8) : Ends (b :: tail) := by
  intro a ha
  cases ha
  rcases h with rfl | rfl | rfl
  · rfl
  · rfl
  · rfl

theorem ends_joined {b : UInt8} (h : State.Closing b) (texts : List (List UInt8))
    {tail : List UInt8} (htail : tail.head? = some b) : Ends (joined false texts ++ tail) := by
  cases texts with
  | cons text texts => exact ends_cons (.inl rfl) _
  | nil =>
      cases tail with
      | nil => cases htail
      | cons a tail =>
          cases htail
          exact ends_cons h tail

theorem forall_print_ne_nil {values : List Json} (h : forall v, v ∈ values -> Spelled v) :
    forall text, text ∈ values.map print -> text ≠ [] := by
  intro text htext
  rcases List.mem_map.mp htext with ⟨v, hv, rfl⟩
  rcases State.exists_print_cons (h v hv) with ⟨b, bs, hprint, _⟩
  rw [hprint]
  exact List.cons_ne_nil _ _

theorem length_le_joined (first : Bool) {texts : List (List UInt8)}
    (h : forall text, text ∈ texts -> text ≠ []) : texts.length ≤ (joined first texts).length := by
  induction texts generalizing first with
  | nil => exact Nat.zero_le _
  | cons text texts ih =>
      have htext := List.length_pos_iff.mpr (h text List.mem_cons_self)
      have hrest := ih false fun other hother => h other (List.mem_cons_of_mem text hother)
      rw [joined, List.length_append, List.length_append, List.length_cons]
      omega

theorem print_array (items : List Json) :
    (array items).print = 0x5b :: (joined true (items.map print) ++ [0x5d]) := by
  have hrest : forall items : List Json,
      printItems items = joined false (items.map print) ++ [0x5d] := by
    intro items
    induction items with
    | nil => rfl
    | cons item items ih =>
        rw [printItems, ih, List.map_cons, joined, separator, if_neg (by exact Bool.false_ne_true)]
        simp only [List.cons_append, List.nil_append, List.append_assoc]
  cases items with
  | nil => rfl
  | cons item items =>
      rw [print, hrest, List.map_cons, joined, separator, if_pos rfl]
      simp only [List.cons_append, List.nil_append, List.append_assoc]

theorem nextItem_closing (first : Bool) (o : Nat) (tail : List UInt8) :
    nextItem first ⟨o, 0x5d :: tail⟩ = (.ok false, ⟨o, 0x5d :: tail⟩) :=
  bind_of_ok (peekVisible_cons rfl o tail)

theorem nextItem_separator (first : Bool) {b : UInt8} (hblank : isBlankByte b = false)
    (hne : b ≠ 0x5d) (o : Nat) (tail : List UInt8) :
    nextItem first ⟨o, separator first ++ b :: tail⟩ =
      (.ok true, ⟨o + (separator first).length, b :: tail⟩) := by
  cases first with
  | true =>
      refine (bind_of_ok (peekVisible_cons hblank o tail)).trans ?_
      simp only [↓reduceIte]
      rfl
  | false =>
      refine (bind_of_ok (peekVisible_cons rfl o (b :: tail))).trans ?_
      refine (bind_of_ok (skip_cons 0x2c o _)).trans ?_
      refine (bind_of_ok (peekVisible_cons hblank (o + 1) tail)).trans ?_
      simp only [pure_apply]
      rfl

theorem decides_items {item : Scan Unit} {values : List Json} {good : Json -> Bool}
    (hspelled : forall v, v ∈ values -> Spelled v)
    (h : forall v, v ∈ values -> Judges item v (good v)) (first : Bool) :
    Decides (fun tail => tail.head? = some 0x5d) (values.length + 1)
      (fun n => items item n first) (joined first (values.map print)) (values.all good) := by
  induction values generalizing first with
  | nil => exact .nothing fun _ o tail => bind_of_ok (nextItem_closing first o tail)
  | cons v values ih =>
      rcases State.exists_print_cons (hspelled v List.mem_cons_self) with
        ⟨b, bs, hprint, hblank, hne⟩
      have hrest := ih (fun w hw => hspelled w (List.mem_cons_of_mem v hw))
        (fun w hw => h w (List.mem_cons_of_mem v hw)) false
      have hboth := (h v List.mem_cons_self).seq hrest fun tail htail =>
        ends_joined (.inr (.inl rfl)) _ htail
      refine hboth.round fun n o tail _ => ?_
      rw [hprint]
      exact bind_of_ok (nextItem_separator first hblank hne o _)

theorem decides_itemsOf (expected : String) {kinds : List (Scan Unit)} {values : List Json}
    {good : Json -> Bool} (hspelled : forall v, v ∈ values -> Spelled v)
    (h : List.Forall₂ (fun kind v => Judges kind v (good v)) kinds values) (found : Nat) :
    Decides (fun tail => tail.head? = some 0x5d) 0 (fun _ => itemsOf expected found kinds)
      (joined (found == 0) (values.map print)) (values.all good) := by
  induction h generalizing found with
  | nil => exact .takes fun _ _ _ _ _ => rfl
  | @cons kind v kinds values hkind _ ih =>
      rcases State.exists_print_cons (hspelled v List.mem_cons_self) with
        ⟨b, bs, hprint, hblank, hne⟩
      have hrest := ih (fun w hw => hspelled w (List.mem_cons_of_mem v hw)) (found + 1)
      have hboth := hkind.seq hrest fun tail htail => ends_joined (.inr (.inl rfl)) _ htail
      refine hboth.after fun n o tail hn _ => ⟨n, hn, ?_⟩
      rw [hprint]
      exact bind_of_ok (nextItem_separator (found == 0) hblank hne o _)

theorem decides_listWith {least : Nat} {contents : Scan Unit} {bytes : List UInt8} {good : Bool}
    (h : Decides (fun tail => tail.head? = some 0x5d) least (fun _ => contents) bytes good) :
    Decides Ends least (fun _ => listWith contents) (0x5b :: (bytes ++ [0x5d])) good := by
  have hend : forall o tail, endList ⟨o, 0x5d :: tail⟩ = (.ok (), ⟨o + 1, tail⟩) :=
    fun o tail => bind_of_ok (peekVisible_cons rfl o tail)
  exact @Decides.after _ _ _ _ _ [0x5b] _ _ (h.closed hend) fun n o tail hn _ =>
    ⟨n, hn, bind_of_ok (skip_cons 0x5b o _)⟩

theorem judges_list {item : Scan Unit} {values : List Json} {good : Json -> Bool}
    (hspelled : forall v, v ∈ values -> Spelled v)
    (h : forall v, v ∈ values -> Judges item v (good v)) :
    Judges (list item) (.array values) (values.all good) := by
  have hlength := length_le_joined true (forall_print_ne_nil hspelled)
  rw [List.length_map] at hlength
  have hcontents := (decides_items hspelled h true).rounds (Nat.succ_le_succ hlength)
  apply value_judges (print_array values) rfl
  rw [print_array]
  exact (decides_listWith hcontents).placed

theorem judges_ofList {α β : Type} {item : Scan Unit} {json : α -> Json} {item? : Json -> Option β}
    (hspelled : forall x, Spelled (json x))
    (h : forall x, Judges item (json x) (item? (json x)).isSome) (xs : List α) :
    Judges (list item) (.ofList json xs) ((ofList json xs).list? item?).isSome := by
  have hitems : Judges (list item) (.array (xs.map json))
      ((xs.map json).all fun v => (item? v).isSome) := by
    apply judges_list
    · intro v hv
      rcases List.mem_map.mp hv with ⟨x, _, rfl⟩
      exact hspelled x
    · intro v hv
      rcases List.mem_map.mp hv with ⟨x, _, rfl⟩
      exact h x
  exact hitems.congr (isSome_mapM item? _)

theorem judges_pair {item : Scan Unit} {first second : Json} {good : Json -> Bool}
    (hspelled : forall v, v ∈ [first, second] -> Spelled v)
    (h : forall v, v ∈ [first, second] -> Judges item v (good v)) :
    Judges (pair item) (.array [first, second]) ([first, second].all good) := by
  have hitems : List.Forall₂ (fun kind v => Judges kind v (good v)) [item, item]
      [first, second] :=
    .cons (h first List.mem_cons_self) (.cons (h second (by simp)) .nil)
  apply value_judges (print_array _) rfl
  rw [print_array]
  exact (decides_listWith (decides_itemsOf _ hspelled hitems 0)).placed

/-!
## Objects
-/

def opening (name : String) : List UInt8 :=
  printText (Json.escape name.toList) ++ [0x3a]

def entryText (e : String × Json) : List UInt8 :=
  opening e.1 ++ e.2.print

theorem print_ofEntries (entries : List (String × Json)) :
    (ofEntries entries).print = 0x7b :: (joined true (entries.map entryText) ++ [0x7d]) := by
  have hrest : forall entries : List (String × Json),
      printEntries (entries.map fun e => (Json.escape e.1.toList, e.2)) =
        joined false (entries.map entryText) ++ [0x7d] := by
    intro entries
    induction entries with
    | nil => rfl
    | cons e entries ih =>
        rw [List.map_cons, printEntries, ih, List.map_cons, joined, separator,
          if_neg (by exact Bool.false_ne_true), entryText, opening]
        simp only [List.cons_append, List.nil_append, List.append_assoc]
  cases entries with
  | nil => rfl
  | cons e entries =>
      rw [ofEntries, List.map_cons, print, hrest, List.map_cons, joined, separator, if_pos rfl,
        entryText, opening]
      simp only [List.cons_append, List.nil_append, List.append_assoc]

theorem nextKey_closing (first : Bool) (o : Nat) (tail : List UInt8) :
    nextKey first ⟨o, 0x7d :: tail⟩ = (.ok false, ⟨o, 0x7d :: tail⟩) :=
  bind_of_ok (peekVisible_cons rfl o tail)

theorem nextKey_separator (first : Bool) (o : Nat) (tail : List UInt8) :
    nextKey first ⟨o, separator first ++ 0x22 :: tail⟩ =
      (.ok true, ⟨o + (separator first).length, 0x22 :: tail⟩) := by
  cases first with
  | true => exact bind_of_ok (peekVisible_cons rfl o tail)
  | false =>
      refine (bind_of_ok (peekVisible_cons rfl o (0x22 :: tail))).trans ?_
      refine (bind_of_ok (skip_cons 0x2c o _)).trans ?_
      exact bind_of_ok (peekVisible_cons rfl (o + 1) tail)

theorem bind_opening {name : String} {f : String -> Scan Unit} {kind rest : Scan Unit}
    (hf : f name = colon >>= fun _ => kind) (first : Bool) (o : Nat) (tail : List UInt8) :
    (nextKey first >>= fun more => if more then skip 1 >>= fun _ => text >>= f else rest)
        ⟨o, separator first ++ opening name ++ tail⟩ =
      kind ⟨o + (separator first ++ opening name).length, tail⟩ := by
  have hquoted : separator first ++ opening name ++ tail =
      separator first ++ 0x22 :: (Json.escape name.toList ++ 0x22 :: (0x3a :: tail)) := by
    simp only [opening, printText, List.cons_append, List.nil_append, List.append_assoc]
  have hcolon : forall o, colon ⟨o, 0x3a :: tail⟩ = (.ok (), ⟨o + 1, tail⟩) :=
    fun o => bind_of_ok (peekVisible_cons rfl o tail)
  rw [hquoted]
  refine (bind_of_ok (nextKey_separator first o _)).trans ?_
  rw [if_pos rfl]
  refine (bind_of_ok (skip_cons 0x22 _ _)).trans ?_
  rw [bind_text, hf, bind_of_ok (hcolon _), opening, List.length_append, List.length_append,
    Nat.add_assoc, Nat.add_assoc]
  rfl

theorem joined_entry (first : Bool) (name : String) (v : Json) (texts : List (List UInt8)) :
    joined first (entryText (name, v) :: texts) =
      separator first ++ opening name ++ (v.print ++ joined false texts) := by
  simp only [joined, entryText, List.append_assoc]

theorem decides_entries {item : Scan Unit} {values : List (String × Json)}
    {good : String × Json -> Bool} (h : forall e, e ∈ values -> Judges item e.2 (good e))
    (first : Bool) :
    Decides (fun tail => tail.head? = some 0x7d) (values.length + 1)
      (fun n => entries item n first) (joined first (values.map entryText))
      (values.all good) := by
  induction values generalizing first with
  | nil => exact .nothing fun _ o tail => bind_of_ok (nextKey_closing first o tail)
  | cons e values ih =>
      have hrest := ih (fun other hother => h other (List.mem_cons_of_mem e hother)) false
      have hboth := (h e List.mem_cons_self).seq hrest fun tail htail =>
        ends_joined (.inr (.inr rfl)) _ htail
      rw [List.map_cons, joined_entry, List.all_cons]
      exact hboth.round fun n o tail _ => bind_opening rfl first o _

theorem decides_objectWith {least : Nat} {contents : Scan Unit} {bytes : List UInt8} {good : Bool}
    (h : Decides (fun tail => tail.head? = some 0x7d) least (fun _ => contents) bytes good) :
    Decides Ends least (fun _ => objectWith contents) (0x7b :: (bytes ++ [0x7d])) good := by
  have hend : forall o tail, endObject ⟨o, 0x7d :: tail⟩ = (.ok (), ⟨o + 1, tail⟩) :=
    fun o tail => bind_of_ok (peekVisible_cons rfl o tail)
  exact @Decides.after _ _ _ _ _ [0x7b] _ _ (h.closed hend) fun n o tail hn _ =>
    ⟨n, hn, bind_of_ok (skip_cons 0x7b o _)⟩

theorem entryText_ne_nil {values : List (String × Json)} :
    forall text, text ∈ values.map entryText -> text ≠ [] := by
  intro text htext
  rcases List.mem_map.mp htext with ⟨e, _, rfl⟩
  exact List.cons_ne_nil _ _

theorem judges_map {item : Scan Unit} {values : List (String × Json)}
    {good : String × Json -> Bool} (h : forall e, e ∈ values -> Judges item e.2 (good e)) :
    Judges (map item) (.ofEntries values) (values.all good) := by
  have hlength := length_le_joined true (@entryText_ne_nil values)
  rw [List.length_map] at hlength
  have hcontents := (decides_entries h true).rounds (Nat.succ_le_succ hlength)
  apply value_judges (print_ofEntries values) rfl
  rw [print_ofEntries]
  exact (decides_objectWith hcontents).placed

/-!
## Records
-/

/-- The fields of a record, each judged by the kind of its name. -/
inductive JudgesFields : List (String × Scan Unit) -> List (String × Json) -> Bool -> Prop where
  | nil : JudgesFields [] [] true
  | cons {name : String} {kind : Scan Unit} {v : Json} {kinds : List (String × Scan Unit)}
      {values : List (String × Json)} {good good' : Bool} (h : Judges kind v good)
      (hs : JudgesFields kinds values good') :
      JudgesFields ((name, kind) :: kinds) ((name, v) :: values) (good && good')

theorem lookup_append_cons {name : String} {kind : Scan Unit}
    {done kinds : List (String × Scan Unit)} (h : name ∉ done.map Prod.fst) :
    (done ++ (name, kind) :: kinds).lookup name = some kind := by
  induction done with
  | nil => rw [List.nil_append, List.lookup_cons_self]
  | cons first done ih =>
      rw [List.map_cons, List.mem_cons, not_or] at h
      rw [List.cons_append, List.lookup_cons, beq_false_of_ne h.1]
      exact ih h.2

theorem decides_fields {all kinds : List (String × Scan Unit)} {values : List (String × Json)}
    {good : Bool} (hnames : (all.map Prod.fst).Nodup) (h : JudgesFields kinds values good)
    {done : List (String × Scan Unit)} (hall : all = done ++ kinds) (first : Bool)
    {seen : List String} (hseen : forall name, name ∈ seen ↔ name ∈ done.map Prod.fst) :
    Decides (fun tail => tail.head? = some 0x7d) (values.length + 1)
      (fun n => fields all n first seen) (joined first (values.map entryText)) good := by
  induction h generalizing done first seen with
  | nil =>
      have hnone : ((all.map Prod.fst).find? fun name => !seen.contains name) = none := by
        apply List.find?_eq_none.mpr
        intro name hname
        rw [hall, List.append_nil] at hname
        rw [List.contains_iff_mem.mpr ((hseen name).mpr hname)]
        exact Bool.false_ne_true
      refine .nothing fun n o tail => (bind_of_ok (nextKey_closing first o tail)).trans ?_
      rw [if_neg (by exact Bool.false_ne_true), hnone]
      rfl
  | @cons name kind v kinds values good good' hkind _ ih =>
      have hnew : name ∉ done.map Prod.fst := by
        rw [hall, List.map_append, List.map_cons] at hnames
        exact fun hdone => (List.nodup_append.mp hnames).2.2 name hdone name List.mem_cons_self rfl
      have hlookup : all.lookup name = some kind := by
        rw [hall]
        exact lookup_append_cons hnew
      have hunseen : seen.contains name = false := by
        rw [Bool.eq_false_iff]
        exact fun hmem => hnew ((hseen name).mp (List.contains_iff_mem.mp hmem))
      have hrest := @ih (done ++ [(name, kind)]) (by rw [hall, List.append_assoc]; rfl) false
        (name :: seen) ?_
      · have hboth := hkind.seq hrest fun tail htail => ends_joined (.inr (.inr rfl)) _ htail
        rw [List.map_cons, joined_entry]
        refine hboth.round fun n o tail _ => bind_opening ?_ first o _
        simp only [hlookup, hunseen, Bool.false_eq_true, ↓reduceIte]
      · intro other
        rw [List.mem_cons, hseen, List.map_append, List.mem_append, List.map_singleton,
          List.mem_singleton, or_comm]

/-- A written record is taken if all its fields are. -/
theorem judges_record (name : String) {kinds : List (String × Scan Unit)}
    {values : List (String × Json)} {good : Bool} (hnames : (kinds.map Prod.fst).Nodup)
    (h : JudgesFields kinds values good) : Judges (record name kinds) (.ofEntries values) good := by
  have hlength := length_le_joined true (@entryText_ne_nil values)
  rw [List.length_map] at hlength
  have hfields := decides_fields hnames h (List.nil_append kinds).symm true
    (fun name => (Iff.rfl : name ∈ [] ↔ name ∈ []))
  have hcontents := hfields.rounds (Nat.succ_le_succ hlength)
  apply value_judges (print_ofEntries values) rfl
  rw [print_ofEntries]
  exact (decides_objectWith hcontents).placed

end Scan
end Json
end Polyglot
