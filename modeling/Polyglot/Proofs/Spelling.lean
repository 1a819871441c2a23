import Polyglot.Proofs.Json.Numbers
import Polyglot.Proofs.Utf8

/-!
# Spelled texts

The bytes of a text and what follows them can be told apart as far as the text
goes: of two texts with the same bytes one begins with the other.  Digits end
where the first character follows that is none.
-/

namespace Polyglot
namespace Text

theorem utf8EncodeChar_append_inj {c d : Char} {xs ys : List UInt8}
    (h : String.utf8EncodeChar c ++ xs = String.utf8EncodeChar d ++ ys) : c = d ∧ xs = ys := by
  have hdecode : forall (c : Char) (xs : List UInt8),
      (String.utf8EncodeChar c ++ xs).toByteArray.utf8DecodeChar? 0 = some c := by
    intro c xs
    rw [List.toByteArray_append]
    exact ByteArray.utf8DecodeChar?_utf8EncodeChar_append
  have hsame := hdecode c xs
  rw [h, hdecode d ys] at hsame
  injection hsame with hsame
  subst hsame
  exact ⟨rfl, List.append_cancel_left h⟩

/-- Of two texts whose bytes go on to the same whole, one begins with the other. -/
theorem comparable_of_utf8 {cs ds : List Char} {xs ys : List UInt8}
    (h : utf8 cs ++ xs = utf8 ds ++ ys) :
    (∃ rest, ds = cs ++ rest ∧ xs = utf8 rest ++ ys) ∨
      ∃ rest, cs = ds ++ rest ∧ ys = utf8 rest ++ xs := by
  induction cs generalizing ds with
  | nil => exact .inl ⟨ds, rfl, h⟩
  | cons c cs ih =>
      cases ds with
      | nil => exact .inr ⟨c :: cs, rfl, h.symm⟩
      | cons d ds =>
          rw [utf8_cons, utf8_cons, List.append_assoc, List.append_assoc] at h
          rcases utf8EncodeChar_append_inj h with ⟨rfl, htail⟩
          rcases ih htail with ⟨rest, rfl, hxs⟩ | ⟨rest, rfl, hys⟩
          · exact .inl ⟨rest, rfl, hxs⟩
          · exact .inr ⟨rest, rfl, hys⟩

/-- A text that goes on beyond another one up to a mark goes on with the mark. -/
theorem eq_or_continues {mark : Char} {b : UInt8} (hmark : String.utf8EncodeChar mark = [b])
    {rest : List Char} {xs ys : List UInt8} (h : b :: xs = utf8 rest ++ b :: ys) :
    rest = [] ∧ xs = ys ∨ ∃ more, rest = mark :: more := by
  cases rest with
  | nil =>
      injection h with _ htail
      exact .inl ⟨rfl, htail⟩
  | cons r more =>
      have hspelled : String.utf8EncodeChar mark ++ xs =
          String.utf8EncodeChar r ++ (utf8 more ++ b :: ys) := by
        rw [hmark, ← List.append_assoc, ← utf8_cons]
        exact h
      rcases utf8EncodeChar_append_inj hspelled with ⟨rfl, _⟩
      exact .inr ⟨more, rfl⟩

/--
Two texts that are followed by a mark and go on to the same whole are equal,
unless one of them goes on with the mark where the other one ends.
-/
theorem marked_cases {mark : Char} {b : UInt8} (hmark : String.utf8EncodeChar mark = [b])
    {cs ds : List Char} {xs ys : List UInt8} (h : utf8 cs ++ b :: xs = utf8 ds ++ b :: ys) :
    cs = ds ∧ xs = ys ∨ (∃ more, ds = cs ++ mark :: more) ∨ ∃ more, cs = ds ++ mark :: more := by
  rcases comparable_of_utf8 h with ⟨rest, rfl, hrest⟩ | ⟨rest, rfl, hrest⟩
  · rcases eq_or_continues hmark hrest with ⟨rfl, htail⟩ | ⟨more, rfl⟩
    · exact .inl ⟨(List.append_nil _).symm, htail⟩
    · exact .inr (.inl ⟨more, rfl⟩)
  · rcases eq_or_continues hmark hrest with ⟨rfl, htail⟩ | ⟨more, rfl⟩
    · exact .inl ⟨List.append_nil _, htail.symm⟩
    · exact .inr (.inr ⟨more, rfl⟩)

theorem runs_inj {α : Type} {p : α -> Bool} {xs ys rest rest' : List α} {c d : α}
    (hxs : forall x, x ∈ xs -> p x = true) (hys : forall y, y ∈ ys -> p y = true)
    (hc : p c = false) (hd : p d = false) (h : xs ++ c :: rest = ys ++ d :: rest') :
    xs = ys ∧ c :: rest = d :: rest' := by
  induction xs generalizing ys with
  | nil =>
      cases ys with
      | nil => exact ⟨rfl, h⟩
      | cons y ys =>
          injection h with hhead _
          rw [hhead, hys y List.mem_cons_self] at hc
          cases hc
  | cons x xs ih =>
      cases ys with
      | nil =>
          injection h with hhead _
          rw [← hhead, hxs x List.mem_cons_self] at hd
          cases hd
      | cons y ys =>
          injection h with hhead htail
          rcases ih (fun z hz => hxs z (List.mem_cons_of_mem x hz))
            (fun z hz => hys z (List.mem_cons_of_mem y hz)) htail with ⟨hsame, hrest⟩
          exact ⟨by rw [hhead, hsame], hrest⟩

theorem toDigits_inj {m n : Nat} (h : Nat.toDigits 10 m = Nat.toDigits 10 n) : m = n := by
  rw [← Numeral.ofDigits_natDigits m, Numeral.natDigits, h]
  exact Numeral.ofDigits_natDigits n

theorem repr_append_inj {m n : Nat} {c d : Char} {rest rest' : List Char}
    (hc : c.isDigit = false) (hd : d.isDigit = false)
    (h : m.repr.toList ++ c :: rest = n.repr.toList ++ d :: rest') :
    m = n ∧ c :: rest = d :: rest' := by
  have hdigits : forall (k : Nat) (x : Char), x ∈ Nat.toDigits 10 k -> x.isDigit = true :=
    fun k x hx => Nat.isDigit_of_mem_toDigits (by decide) (by decide) hx
  simp only [Nat.repr, String.toList_ofList] at h
  rcases runs_inj (hdigits m) (hdigits n) hc hd h with ⟨hsame, hrest⟩
  exact ⟨toDigits_inj hsame, hrest⟩

end Text
end Polyglot
