import Polyglot.Json.Record
import Polyglot.Proofs.Json.Documents

/-!
# Written records

What is written of a record may stand in a document, and reading it gives the
values of its fields back.
-/

namespace Polyglot
namespace Json

theorem spelled_ofNat (n : Nat) : Spelled (.ofNat n) :=
  .number (Numeral.wellFormed_ofNat n)

theorem spelled_ofInt (n : Int) : Spelled (.number (.ofInt n)) :=
  .number (Numeral.wellFormed_ofInt n)

theorem spelled_json (layout : NumberLayout) (x : BinaryNumber) : Spelled (layout.json x) := by
  rcases layout.json_cases x with h | ⟨n, h, hn⟩
  · rw [h]
    exact .null
  · rw [h]
    exact .number hn

theorem spelled_ofFloat32 (x : Float32) : Spelled (.ofFloat32 x) :=
  spelled_json _ _

theorem spelled_ofFloat (x : Float) : Spelled (.ofFloat x) :=
  spelled_json _ _

theorem spelled_ofString (s : String) : Spelled (.ofString s) :=
  .text (quotable_escape s.toList)

theorem spelled_ofList {α : Type} {json : α -> Json} (h : forall x, Spelled (json x))
    (xs : List α) : Spelled (.ofList json xs) := by
  apply Spelled.array
  intro v hv
  rcases List.mem_map.mp hv with ⟨x, _, rfl⟩
  exact h x

theorem spelled_ofEntries {entries : List (String × Json)}
    (h : forall e, e ∈ entries -> Spelled e.2) : Spelled (.ofEntries entries) := by
  apply Spelled.object
  · intro e he
    rcases List.mem_map.mp he with ⟨entry, _, rfl⟩
    exact quotable_escape entry.1.toList
  · intro e he
    rcases List.mem_map.mp he with ⟨entry, hentry, rfl⟩
    exact h entry hentry

theorem spelled_nil : Spelled (.ofEntries []) :=
  spelled_ofEntries fun _ he => absurd he List.not_mem_nil

theorem spelled_cons {name : String} {v : Json} {entries : List (String × Json)}
    (hv : Spelled v) (h : Spelled (.ofEntries entries)) :
    Spelled (.ofEntries ((name, v) :: entries)) := by
  cases h with
  | object hkeys hvalues =>
      apply Spelled.object
      · intro e he
        rcases List.mem_cons.mp he with rfl | he
        · exact quotable_escape name.toList
        · exact hkeys e he
      · intro e he
        rcases List.mem_cons.mp he with rfl | he
        · exact hv
        · exact hvalues e he

theorem nat?_ofNat {n : Nat} (h : n < UInt64.size) : (ofNat n).nat? = some n :=
  Numeral.nat?_ofNat (Nat.le_sub_one_of_lt h)

theorem word32?_ofNat (n : UInt32) : (ofNat n.toNat).word32? = some n := by
  have hlimit : n.toNat ≤ Numeral.wordLimit 32 := Nat.le_sub_one_of_lt n.toNat_lt
  rw [ofNat, word32?, Numeral.nat?_ofNat hlimit, Option.map_some, UInt32.ofNat_toNat]

theorem byte?_ofNat (n : UInt8) : (ofNat n.toNat).byte? = some n := by
  have hlimit : n.toNat ≤ Numeral.wordLimit 8 := Nat.le_sub_one_of_lt n.toNat_lt
  rw [ofNat, byte?, Numeral.nat?_ofNat hlimit, Option.map_some, UInt8.ofNat_toNat]

theorem signedByte?_ofInt {n : Int} (hlow : -128 ≤ n) (hhigh : n ≤ 127) :
    signedByte? (.number (.ofInt n)) = some n :=
  Numeral.int?_ofInt (by change -(127 : Int) - 1 ≤ n; omega) hhigh

theorem string?_ofString (s : String) : (ofString s).string? = some s := by
  rw [ofString, string?, unescape?_escape, Option.map_some, String.ofList_toList]

theorem choice?_ofString {α : Type} (named? : String -> Option α) (s : String) :
    (ofString s).choice? named? = named? s := by
  rw [ofString, choice?, unescape?_escape, Option.map_some, String.ofList_toList,
    Option.bind_some]

theorem mapM_map_eq_some {α β γ : Type} {f : α -> β} {g : β -> Option γ} {h : α -> γ}
    {xs : List α} (hg : forall x, x ∈ xs -> g (f x) = some (h x)) :
    (xs.map f).mapM g = some (xs.map h) := by
  induction xs with
  | nil => rfl
  | cons x xs ih =>
      rw [List.map_cons, List.mapM_cons, hg x List.mem_cons_self,
        ih fun y hy => hg y (List.mem_cons_of_mem x hy)]
      rfl

theorem list?_ofList {α : Type} {json : α -> Json} {item? : Json -> Option α} {xs : List α}
    (h : forall x, x ∈ xs -> item? (json x) = some x) :
    (ofList json xs).list? item? = some xs := by
  rw [ofList, list?, mapM_map_eq_some h, List.map_id']

theorem exists_list?_ofList {α β : Type} {json : α -> Json} {item? : Json -> Option β} {xs : List α}
    (h : forall x, x ∈ xs -> ∃ y, item? (json x) = some y) :
    ∃ ys, (ofList json xs).list? item? = some ys := by
  show ∃ ys, (xs.map json).mapM item? = some ys
  induction xs with
  | nil => exact ⟨[], rfl⟩
  | cons x xs ih =>
      rcases h x List.mem_cons_self with ⟨y, hy⟩
      rcases ih fun other hother => h other (List.mem_cons_of_mem x hother) with ⟨ys, hys⟩
      refine ⟨y :: ys, ?_⟩
      rw [List.map_cons, List.mapM_cons, hy, hys]
      rfl

theorem namedEntries?_ofEntries (entries : List (String × Json)) :
    namedEntries? (entries.map fun e => (escape e.1.toList, e.2)) = some entries := by
  have hentry : forall e, e ∈ entries ->
      (unescape? (escape e.1.toList)).map (fun name => (String.ofList name, e.2)) = some e := by
    intro e _
    rw [unescape?_escape, Option.map_some, String.ofList_toList]
  rw [namedEntries?, mapM_map_eq_some (h := fun e => e) hentry, List.map_id']

theorem only?_of_mem {entries : List (String × Json)} (h : (entries.map Prod.fst).Nodup)
    {e : String × Json} (he : e ∈ entries) : only? e.1 entries = some e.2 := by
  have hfilter : (entries.filter fun other => other.1 == e.1) = [e] := by
    induction entries with
    | nil => cases he
    | cons first entries ih =>
        rw [List.map_cons, List.nodup_cons] at h
        rcases List.mem_cons.mp he with rfl | he
        · rw [List.filter_cons, if_pos (beq_self_eq_true e.1)]
          congr 1
          apply List.filter_eq_nil_iff.mpr
          intro other hother heq
          exact h.1 (eq_of_beq heq ▸ List.mem_map_of_mem hother)
        · have hne : ¬(first.1 == e.1) = true := by
            intro heq
            exact h.1 (eq_of_beq heq ▸ List.mem_map_of_mem he)
          rw [List.filter_cons, if_neg hne]
          exact ih h.2 he
  rw [only?, hfilter]

theorem fields?_ofEntries {names : List String} {entries : List (String × Json)}
    (hnames : entries.map Prod.fst = names) (h : names.Nodup) :
    (ofEntries entries).fields? names = some (entries.map Prod.snd) := by
  subst hnames
  rw [ofEntries, fields?, namedEntries?_ofEntries]
  show (entries.map Prod.fst).mapM (fun name => only? name entries) = _
  exact mapM_map_eq_some fun e he => only?_of_mem h he

theorem bind_fields?_ofEntries {α : Type} {names : List String} {entries : List (String × Json)}
    {next : List Json -> Option α} (hnames : entries.map Prod.fst = names) (h : names.Nodup) :
    ((ofEntries entries).fields? names >>= next) = next (entries.map Prod.snd) := by
  rw [fields?_ofEntries hnames h]
  rfl

end Json
end Polyglot
