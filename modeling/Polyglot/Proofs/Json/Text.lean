import Polyglot.Json.Reader
import Polyglot.Json.Text
import Polyglot.Proofs.Utf8

/-!
# Written strings

Reading undoes escaping, and the reader takes an escaped text without leaving
the string that it is in, whatever characters the text has.
-/

namespace Polyglot

namespace Json

theorem unit?_hexByte {n : Nat} (h : n < 0x20) :
    unit? 0x30 0x30 (hexByte (n / 16)) (hexByte (n % 16)) = some n := by
  have hall : forall m, m < 0x20 ->
      unit? 0x30 0x30 (hexByte (m / 16)) (hexByte (m % 16)) = some m := by decide
  exact hall n h

theorem unescape?_short {e : UInt8} {c : Char} (hne : e ≠ 0x75) (hc : shortEscape? e = some c)
    (rest : List UInt8) :
    unescape? (0x5c :: e :: rest) = (unescape? rest).map (c :: ·) := by
  rw [unescape?.eq_def]
  simp only [↓reduceIte, hne, hc]

theorem unescape?_unit {x y z w : UInt8} {n : Nat} {c : Char} (hn : unit? x y z w = some n)
    (hc : Text.charOf? 0 n = some c) (rest : List UInt8) :
    unescape? (0x5c :: 0x75 :: x :: y :: z :: w :: rest) = (unescape? rest).map (c :: ·) := by
  rw [unescape?.eq_def]
  simp only [↓reduceIte, hn, hc]

theorem unescape?_spells {c : Char} {bs : List UInt8} (h : Text.Spells c bs)
    (hslash : c.toNat ≠ 0x5c) (rest : List UInt8) :
    unescape? (bs ++ rest) = (unescape? rest).map (c :: ·) := by
  have hplain : forall {a : UInt8}, 0x80 ≤ a -> a ≠ 0x5c := by
    intro a ha heq
    rw [heq] at ha
    exact absurd ha (by decide)
  cases h with
  | @one a hlow hc =>
      have hne : a ≠ 0x5c := by
        intro heq
        rw [heq] at hc
        exact hslash hc.symm
      rw [List.singleton_append, unescape?.eq_def]
      simp only [hne, hlow, ↓reduceIte]
      rw [hc, Char.ofNat_toNat]
  | @two a b hlead hb hc =>
      show unescape? (a :: b :: rest) = _
      rw [unescape?.eq_def]
      simp only [hplain hlead, UInt8.not_lt.mpr hlead, ↓reduceIte, hc]
  | @three a b d hlead hb hd hc =>
      have hhigh : 0x80 ≤ a := UInt8.le_trans (by decide) (UInt8.le_of_lt hlead)
      show unescape? (a :: b :: d :: rest) = _
      rw [unescape?.eq_def]
      simp only [hplain hhigh, UInt8.not_lt.mpr hhigh, ↓reduceIte, Text.char2?_eq_none hlead, hc]
  | @four a b d e hlead hb hd he hc =>
      have hmiddle : 0xdf < a := UInt8.lt_of_le_of_lt (by decide) hlead
      have hhigh : 0x80 ≤ a := UInt8.le_trans (by decide) (UInt8.le_of_lt hlead)
      show unescape? (a :: b :: d :: e :: rest) = _
      rw [unescape?.eq_def]
      simp only [hplain hhigh, UInt8.not_lt.mpr hhigh, ↓reduceIte, Text.char2?_eq_none hmiddle,
        Text.char3?_eq_none hlead, hc]

theorem eq_of_toNat_eq {c d : Char} (h : c.toNat = d.toNat) : c = d :=
  Char.ext (UInt32.toNat_inj.mp h)

/-- A byte that neither ends a string nor begins an escape nor is refused in one. -/
structure PlainByte (b : UInt8) : Prop where
  low : 0x20 ≤ b
  quote : b ≠ 0x22
  slash : b ≠ 0x5c

theorem plainByte_of_high {b : UInt8} (h : 0x80 ≤ b) : PlainByte b := by
  constructor
  · exact UInt8.le_trans (by decide) h
  · rintro rfl
    exact absurd h (by decide)
  · rintro rfl
    exact absurd h (by decide)

theorem plainByte_of_spells {c : Char} {bs : List UInt8} (h : Text.Spells c bs)
    (hlow : 0x20 ≤ c.toNat) (hquote : c.toNat ≠ 0x22) (hslash : c.toNat ≠ 0x5c) :
    forall b, b ∈ bs -> PlainByte b := by
  intro b hb
  cases h.low_or_high with
  | inl hone =>
      rcases hone with ⟨a, rfl, _, hc⟩
      rw [List.mem_singleton.mp hb]
      constructor
      · rw [UInt8.le_iff_toNat_le, hc]
        exact hlow
      · intro heq
        rw [heq] at hc
        exact hquote hc.symm
      · intro heq
        rw [heq] at hc
        exact hslash hc.symm
  | inr hhigh => exact plainByte_of_high (hhigh b hb)

inductive Escaped (c : Char) : List UInt8 -> Prop where
  | short {e : UInt8} (hne : e ≠ 0x75) (he : isShortEscape e = true)
      (hc : shortEscape? e = some c) : Escaped c [0x5c, e]
  | control (h : c.toNat < 0x20) :
      Escaped c [0x5c, 0x75, 0x30, 0x30, hexByte (c.toNat / 16), hexByte (c.toNat % 16)]
  | plain {bs : List UInt8} (h : Text.Spells c bs) (hslash : c.toNat ≠ 0x5c)
      (hplain : forall b, b ∈ bs -> PlainByte b) : Escaped c bs

theorem escaped_escapeChar (c : Char) : Escaped c (escapeChar c) := by
  have hshort : forall (e : UInt8) (d : Char), e ≠ 0x75 -> isShortEscape e = true ->
      shortEscape? e = some d -> c.toNat = d.toNat -> Escaped c [0x5c, e] := by
    intro e d hne he hd heq
    rw [eq_of_toNat_eq heq]
    exact .short hne he hd
  unfold escapeChar
  split
  · rename_i heq
    exact hshort 0x22 '"' (by decide) rfl (by decide) heq
  · rename_i heq
    exact hshort 0x5c '\\' (by decide) rfl (by decide) heq
  · rename_i heq
    exact hshort 0x62 '\x08' (by decide) rfl (by decide) heq
  · rename_i heq
    exact hshort 0x66 '\x0c' (by decide) rfl (by decide) heq
  · rename_i heq
    exact hshort 0x6e '\n' (by decide) rfl (by decide) heq
  · rename_i heq
    exact hshort 0x72 '\r' (by decide) rfl (by decide) heq
  · rename_i heq
    exact hshort 0x74 '\t' (by decide) rfl (by decide) heq
  · rename_i hquote hslash _ _ _ _ _
    split
    · rename_i hcontrol
      exact .control hcontrol
    · rename_i hcontrol
      have hspells := Text.spells_utf8EncodeChar c
      exact .plain hspells hslash
        (plainByte_of_spells hspells (Nat.not_lt.mp hcontrol) hquote hslash)

theorem unescape?_escapeChar (c : Char) (rest : List UInt8) :
    unescape? (escapeChar c ++ rest) = (unescape? rest).map (c :: ·) := by
  have hescaped := escaped_escapeChar c
  generalize escapeChar c = bs at hescaped ⊢
  cases hescaped with
  | short hne _ hc => exact unescape?_short hne hc rest
  | control h => exact unescape?_unit (unit?_hexByte h) (Text.charOf?_toNat (Nat.zero_le _)) rest
  | plain h hslash => exact unescape?_spells h hslash rest

theorem unescape?_escape (cs : List Char) : unescape? (escape cs) = some cs := by
  induction cs with
  | nil => rfl
  | cons c cs ih =>
      rw [escape, List.flatMap_cons, unescape?_escapeChar]
      show (unescape? (escape cs)).map _ = _
      rw [ih, Option.map_some]

/-!
## Strings in a document
-/

namespace State

theorem steps_append (s : State) (as bs : List UInt8) :
    s.steps (as ++ bs) = (s.steps as).bind fun t => t.steps bs := by
  induction as generalizing s with
  | nil => rfl
  | cons a as ih =>
      rw [List.cons_append, steps, steps]
      cases s.step a with
      | none => rfl
      | some t => exact ih t

theorem steps_cons {s t : State} {b : UInt8} (h : s.step b = some t) (bs : List UInt8) :
    s.steps (b :: bs) = t.steps bs := by
  rw [steps, h]

end State

def Quotable (raw : List UInt8) : Prop :=
  forall (stack : List Frame) (before : List UInt8)
      (owner : Option (List (List UInt8 × Json))),
    State.steps ⟨stack, .text .plain before owner⟩ raw =
      some ⟨stack, .text .plain (raw.reverse ++ before) owner⟩

theorem Quotable.nil : Quotable [] :=
  fun _ _ _ => rfl

theorem Quotable.append {as bs : List UInt8} (has : Quotable as) (hbs : Quotable bs) :
    Quotable (as ++ bs) := by
  intro stack before owner
  rw [State.steps_append, has, Option.bind_some, hbs, List.reverse_append, List.append_assoc]

theorem quotable_plain {b : UInt8} (h : PlainByte b) : Quotable [b] := by
  intro stack before owner
  apply State.steps_cons
  simp only [State.step, State.insideText, h.quote, h.slash, UInt8.not_lt.mpr h.low, ↓reduceIte,
    List.reverse_singleton, List.singleton_append]

theorem quotable_short {e : UInt8} (hne : e ≠ 0x75) (h : isShortEscape e = true) :
    Quotable [0x5c, e] := by
  intro stack before owner
  refine (State.steps_cons (t := ⟨stack, .text .escape (0x5c :: before) owner⟩) ?_ [e]).trans ?_
  · rfl
  · apply State.steps_cons
    simp only [State.step, State.insideText, hne, h, ↓reduceIte]
    rfl

theorem step_unit {b : UInt8} (h : isHexByte b = true) (stack : List Frame) (missing : Nat)
    (before : List UInt8) (owner : Option (List (List UInt8 × Json))) :
    State.step ⟨stack, .text (.unit missing) before owner⟩ b =
      some ⟨stack, .text (if missing ≤ 1 then .plain else .unit (missing - 1)) (b :: before)
        owner⟩ := by
  simp only [State.step, State.insideText, h, ↓reduceIte]

theorem quotable_unit {x y z w : UInt8} (hx : isHexByte x = true) (hy : isHexByte y = true)
    (hz : isHexByte z = true) (hw : isHexByte w = true) :
    Quotable [0x5c, 0x75, x, y, z, w] := by
  intro stack before owner
  refine (State.steps_cons (t := ⟨stack, .text .escape (0x5c :: before) owner⟩) rfl _).trans ?_
  refine (State.steps_cons (t := ⟨stack, .text (.unit 4) (0x75 :: 0x5c :: before) owner⟩)
    rfl _).trans ?_
  refine (State.steps_cons (step_unit hx stack 4 _ owner) _).trans ?_
  refine (State.steps_cons (step_unit hy stack 3 _ owner) _).trans ?_
  refine (State.steps_cons (step_unit hz stack 2 _ owner) _).trans ?_
  exact State.steps_cons (step_unit hw stack 1 _ owner) _

theorem quotable_control {n : Nat} (h : n < 0x20) :
    Quotable [0x5c, 0x75, 0x30, 0x30, hexByte (n / 16), hexByte (n % 16)] := by
  have hall : forall m, m < 16 -> isHexByte (hexByte m) = true := by decide
  exact quotable_unit rfl rfl (hall _ (by omega)) (hall _ (Nat.mod_lt _ (by decide)))

theorem quotable_of_plain {bs : List UInt8} (h : forall b, b ∈ bs -> PlainByte b) :
    Quotable bs := by
  induction bs with
  | nil => exact .nil
  | cons b bs ih =>
      have hb := quotable_plain (h b List.mem_cons_self)
      exact hb.append (ih fun d hd => h d (List.mem_cons_of_mem b hd))

theorem quotable_escapeChar (c : Char) : Quotable (escapeChar c) := by
  have hescaped := escaped_escapeChar c
  generalize escapeChar c = bs at hescaped ⊢
  cases hescaped with
  | short hne he _ => exact quotable_short hne he
  | control h => exact quotable_control h
  | plain _ _ hplain => exact quotable_of_plain hplain

theorem quotable_escape (cs : List Char) : Quotable (escape cs) := by
  induction cs with
  | nil => exact .nil
  | cons c cs ih => exact (quotable_escapeChar c).append ih

end Json
end Polyglot
