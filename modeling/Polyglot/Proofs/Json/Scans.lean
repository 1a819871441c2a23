import Polyglot.Json.Scan
import Polyglot.Proofs.Json.Records

/-!
# Scanned numbers and texts

A scan takes a printed number or text and then stands behind it, provided that what comes
next does not go on with the number.
-/

namespace Polyglot
namespace Json
namespace Scan

variable {α β : Type} {x : Scan α} {f : α -> Scan β} {c d : Cursor}

theorem bind_apply (x : Scan α) (f : α -> Scan β) (c : Cursor) :
    (x >>= f) c = match x c with
      | (.ok a, d) => f a d
      | (.error e, d) => (.error e, d) := by
  show ExceptT.bindCont f _ _ = _
  rcases x c with ⟨_ | _, d⟩
  · rfl
  · rfl

theorem bind_of_ok {a : α} (h : x c = (.ok a, d)) : (x >>= f) c = f a d := by
  rw [bind_apply, h]

theorem bind_of_error {e : Stop} (h : (x c).1 = .error e) : ((x >>= f) c).1 = .error e := by
  rcases hx : x c with ⟨result, d⟩
  rw [hx] at h
  rw [bind_apply, hx]
  cases result with
  | error e' => exact congrArg Except.error (Except.error.inj h)
  | ok a => cases h

theorem pure_apply (a : α) (c : Cursor) : (pure a : Scan α) c = (.ok a, c) :=
  rfl

theorem peek_cons (b : UInt8) (o : Nat) (bs : List UInt8) :
    peek ⟨o, b :: bs⟩ = (.ok (some b), ⟨o, b :: bs⟩) :=
  rfl

theorem skip_cons (b : UInt8) (o : Nat) (bs : List UInt8) :
    skip 1 ⟨o, b :: bs⟩ = (.ok (), ⟨o + 1, bs⟩) :=
  rfl

theorem next_cons (b : UInt8) (o : Nat) (bs : List UInt8) :
    next ⟨o, b :: bs⟩ = (.ok (some b), ⟨o + 1, bs⟩) :=
  rfl

def NoneAhead (p : UInt8 -> Bool) (bs : List UInt8) : Prop :=
  forall b, bs.head? = some b -> p b = false

theorem takeAll_append {p : UInt8 -> Bool} {bs tail : List UInt8}
    (hbs : forall b, b ∈ bs -> p b = true) (htail : NoneAhead p tail) (o : Nat) :
    takeAll p ⟨o, bs ++ tail⟩ = (.ok bs, ⟨o + bs.length, tail⟩) := by
  have htake : (bs ++ tail).takeWhile p = bs := by
    rw [List.takeWhile_append_of_pos hbs]
    cases tail with
    | nil => rw [List.takeWhile_nil, List.append_nil]
    | cons b tail =>
        rw [List.takeWhile_cons_of_neg (Bool.eq_false_iff.mp (htail b rfl)), List.append_nil]
  show (Except.ok ((bs ++ tail).takeWhile p),
    Cursor.skip ⟨o, bs ++ tail⟩ ((bs ++ tail).takeWhile p).length) = _
  rw [htake, Cursor.skip, List.take_left, List.drop_left]

theorem peekVisible_cons {b : UInt8} (hb : isBlankByte b = false) (o : Nat) (bs : List UInt8) :
    peekVisible ⟨o, b :: bs⟩ = (.ok (some b), ⟨o, b :: bs⟩) := by
  have hnone : NoneAhead isBlankByte (b :: bs) := by
    intro a ha
    cases ha
    exact hb
  have hblanks := takeAll_append (fun a (ha : a ∈ []) => absurd ha List.not_mem_nil) hnone o
  exact (bind_of_ok hblanks).trans rfl

theorem word_append (letters : List UInt8) (o : Nat) (tail : List UInt8) :
    word letters ⟨o, letters ++ tail⟩ = (.ok (), ⟨o + letters.length, tail⟩) := by
  induction letters generalizing o with
  | nil => rfl
  | cons b letters ih =>
      simp only [word, List.cons_append, bind_apply, next_cons, ↓reduceIte, ih, List.length_cons,
        Nat.add_assoc, Nat.add_comm 1]

/-- What may follow a number, since it does not go on with one. -/
def Ends (tail : List UInt8) : Prop :=
  NoneAhead (fun b => isDigitByte b || b == 0x2e || b == 0x65 || b == 0x45) tail

theorem exponent_of_ends (ended : Reason) (negative : Bool) (whole fraction : List UInt8)
    {tail : List UInt8} (h : Ends tail) (o : Nat) :
    exponent ended negative whole fraction ⟨o, tail⟩ =
      (.ok ⟨negative, whole, fraction, none⟩, ⟨o, tail⟩) := by
  have hmark : (tail.head?.any fun b => b == 0x65 || b == 0x45) = false := by
    cases tail with
    | nil => rfl
    | cons b tail =>
        have hb := h b rfl
        simp only [Bool.or_eq_false_iff] at hb
        show (b == 0x65 || b == 0x45) = false
        rw [hb.1.2, hb.2]
        rfl
  refine (bind_of_ok (d := ⟨o, tail⟩) rfl).trans ?_
  rw [hmark]
  rfl

theorem exponent_print (ended : Reason) (negative : Bool) (whole fraction : List UInt8)
    (sign : Bool) {ds : List UInt8} (hsome : ds ≠ []) (hds : Numeral.Digits ds)
    {tail : List UInt8} (h : NoneAhead isDigitByte tail) (o : Nat) :
    exponent ended negative whole fraction
        ⟨o, 0x65 :: (if sign then 0x2d else 0x2b) :: (ds ++ tail)⟩ =
      (.ok ⟨negative, whole, fraction, some (sign, ds)⟩, ⟨o + (ds.length + 2), tail⟩) := by
  cases ds with
  | nil => exact absurd rfl hsome
  | cons d ds =>
      have hd := hds d List.mem_cons_self
      have hrest := takeAll_append (fun b hb => hds b (List.mem_cons_of_mem d hb)) h
      have hmark : (some (0x65 : UInt8)).any (fun b => b == 0x65 || b == 0x45) = true := rfl
      have hsign : ((some (if sign then (0x2d : UInt8) else 0x2b)).any
          fun b => b == 0x2b || b == 0x2d) = true := by
        cases sign with
        | false => rfl
        | true => rfl
      have hminus : (some (if sign then (0x2d : UInt8) else 0x2b) == some 0x2d) = sign := by
        cases sign with
        | false => rfl
        | true => rfl
      simp only [exponent, bind_apply, peek_cons, skip_cons, hmark, hsign, ↓reduceIte,
        List.cons_append, next_cons, hd, hrest, hminus, pure_apply, List.length_cons]
      simp only [Nat.add_assoc, Nat.add_comm, Nat.add_left_comm]

theorem fraction_print (ended : Reason) (negative : Bool) (whole : List UInt8) {ds : List UInt8}
    (hds : Numeral.Digits ds) {tail : List UInt8}
    (h : NoneAhead (fun b => isDigitByte b || b == 0x2e) tail) (o : Nat) :
    fraction ended negative whole ⟨o, (if ds.isEmpty then [] else 0x2e :: ds) ++ tail⟩ =
      exponent ended negative whole ds
        ⟨o + (if ds.isEmpty then [] else 0x2e :: ds : List UInt8).length, tail⟩ := by
  cases ds with
  | nil =>
      have hpoint : tail.head? ≠ some 0x2e := by
        intro heq
        cases h 0x2e heq
      refine (bind_of_ok (d := ⟨o, tail⟩) rfl).trans ?_
      exact congrFun (if_neg hpoint) _
  | cons d ds =>
      have hdigits : NoneAhead isDigitByte tail :=
        fun b hb => (Bool.or_eq_false_iff.mp (h b hb)).1
      rw [if_neg (by exact Bool.false_ne_true)]
      simp only [fraction, bind_apply, List.cons_append, peek_cons, ↓reduceIte, skip_cons]
      rw [← List.cons_append, takeAll_append hds hdigits]
      simp only [List.length_cons, Nat.add_assoc, Nat.add_comm 1]

theorem unsigned_print (ended : Reason) (negative : Bool) {ds : List UInt8}
    (hds : Numeral.WholePart ds) {tail : List UInt8} (h : NoneAhead isDigitByte tail) (o : Nat) :
    unsigned ended negative ⟨o, ds ++ tail⟩ =
      fraction ended negative ds ⟨o + ds.length, tail⟩ := by
  cases hds with
  | zero =>
      have hdigit : (tail.head?.any isDigitByte) = false := by
        cases tail with
        | nil => rfl
        | cons b tail => exact h b rfl
      refine (bind_of_ok (next_cons 0x30 o tail)).trans ?_
      dsimp only
      rw [if_pos rfl]
      refine (bind_of_ok (d := ⟨o + 1, tail⟩) rfl).trans ?_
      dsimp only
      rw [hdigit]
      rfl
  | @digits d ds hd hne hds =>
      simp only [unsigned, List.cons_append, bind_apply, next_cons, hne, hd, ↓reduceIte]
      rw [takeAll_append hds h, List.length_cons, Nat.add_assoc, Nat.add_comm 1]

theorem exponent_text (ended : Reason) (negative : Bool) (whole fraction : List UInt8)
    {mark : Option (Bool × List UInt8)}
    (hmark : forall sign ds, mark = some (sign, ds) -> ds ≠ [] ∧ Numeral.Digits ds)
    {tail : List UInt8} (h : Ends tail) :
    ∃ bs, Numeral.print ⟨negative, whole, fraction, mark⟩ =
        (if negative then [0x2d] else []) ++ whole ++
          (if fraction.isEmpty then [] else 0x2e :: fraction) ++ bs ∧
      NoneAhead (fun b => isDigitByte b || b == 0x2e) (bs ++ tail) ∧
      forall o, exponent ended negative whole fraction ⟨o, bs ++ tail⟩ =
        (.ok ⟨negative, whole, fraction, mark⟩, ⟨o + bs.length, tail⟩) := by
  cases mark with
  | none =>
      refine ⟨[], rfl, ?_, exponent_of_ends ended negative whole fraction h⟩
      intro b hb
      have hends := h b hb
      simp only [Bool.or_eq_false_iff] at hends ⊢
      exact hends.1.1
  | some mark =>
      rcases hmark mark.1 mark.2 rfl with ⟨hsome, hds⟩
      have hdigits : NoneAhead isDigitByte tail := by
        intro b hb
        have hends := h b hb
        simp only [Bool.or_eq_false_iff] at hends
        exact hends.1.1.1
      refine ⟨0x65 :: (if mark.1 then 0x2d else 0x2b) :: mark.2, rfl, ?_, ?_⟩
      · intro b hb
        cases hb
        rfl
      · exact exponent_print ended negative whole fraction mark.1 hsome hds hdigits

theorem numeral_print (ended : Reason) {n : Numeral} (hn : n.WellFormed) {tail : List UInt8}
    (h : Ends tail) (o : Nat) :
    numeral ended ⟨o, n.print ++ tail⟩ = (.ok n, ⟨o + n.print.length, tail⟩) := by
  rcases n with ⟨negative, whole, fraction, mark⟩
  have hwhole : Numeral.WholePart whole := hn.whole
  have hmark : forall sign ds, mark = some (sign, ds) -> ds ≠ [] ∧ Numeral.Digits ds :=
    hn.exponent
  rcases exponent_text ended negative whole fraction hmark h with
    ⟨bs, hprint, hahead, hexponent⟩
  have hdigits : NoneAhead isDigitByte
      ((if fraction.isEmpty then [] else 0x2e :: fraction) ++ (bs ++ tail)) := by
    cases fraction with
    | nil => exact fun b hb => (Bool.or_eq_false_iff.mp (hahead b hb)).1
    | cons d ds =>
        intro b hb
        cases hb
        rfl
  have hunsigned : forall o, unsigned ended negative ⟨o, whole ++
      ((if fraction.isEmpty then [] else 0x2e :: fraction) ++ (bs ++ tail))⟩ =
        (.ok ⟨negative, whole, fraction, mark⟩, ⟨o + (whole.length +
          ((if fraction.isEmpty then [] else 0x2e :: fraction : List UInt8).length +
            bs.length)), tail⟩) := by
    intro o
    rw [unsigned_print ended negative hwhole hdigits, fraction_print ended negative whole
      hn.fraction hahead, hexponent, Nat.add_assoc, Nat.add_assoc]
  rw [hprint]
  cases negative with
  | true =>
      simp only [↓reduceIte, List.cons_append, List.nil_append, List.append_assoc, numeral,
        bind_apply, peek_cons, skip_cons, hunsigned]
      simp only [List.length_cons, List.length_append, Nat.add_assoc, Nat.add_comm 1]
  | false =>
      have hsign : (whole ++ ((if fraction.isEmpty then [] else 0x2e :: fraction) ++
          (bs ++ tail))).head? ≠ some 0x2d := by
        cases whole with
        | nil => exact absurd rfl hwhole.ne_nil
        | cons d ds =>
            rintro heq
            cases heq
            cases hwhole.isDigits 0x2d List.mem_cons_self
      simp only [Bool.false_eq_true, ↓reduceIte, List.nil_append, List.append_assoc]
      refine (bind_of_ok rfl).trans ?_
      dsimp only
      rw [if_neg hsign, hunsigned]
      simp only [List.length_append]

theorem beyond_le (limit value : Nat) (ds : List UInt8) : beyond limit value ds ≤ ds.length := by
  induction ds generalizing value with
  | nil => exact Nat.le_refl 0
  | cons d ds ih =>
      unfold beyond
      split
      · exact Nat.le_succ ds.length
      · exact Nat.le_succ_of_le (ih _)

theorem unread_le (n : Numeral) : unread n ≤ n.print.length := by
  rcases n with ⟨negative, whole, fraction, mark⟩
  cases mark with
  | none => exact Nat.zero_le _
  | some mark =>
      refine Nat.le_trans (beyond_le _ _ mark.2) ?_
      rw [Numeral.print, List.length_append]
      exact Nat.le_add_left_of_le (Nat.le_add_right _ 2)

theorem number_print {n : Numeral} (hn : n.WellFormed) {tail : List UInt8} (h : Ends tail)
    (o : Nat) :
    number ⟨o, n.print ++ tail⟩ =
      (if n.float?.isSome then .ok n
        else .error ⟨.numberOutOfRange, some (o + (n.print.length - unread n))⟩,
        ⟨o + n.print.length, tail⟩) := by
  refine (bind_of_ok (numeral_print _ hn h o)).trans ?_
  cases hfloat : n.float?.isSome with
  | true => rfl
  | false =>
      rw [← Nat.add_sub_assoc (unread_le n)]
      rfl

/-!
## Texts
-/

theorem rawText_plain {b : UInt8} (h : PlainByte b) (n : Nat) (before : List UInt8) (o : Nat)
    (rest : List UInt8) :
    rawText true (n + 1) before ⟨o, b :: rest⟩ =
      rawText true n (b :: before) ⟨o + 1, rest⟩ := by
  have hlow : ¬b < 0x20 := UInt8.not_lt.mpr h.low
  have hquote := h.quote
  have hslash := h.slash
  refine (bind_of_ok (peek_cons b o rest)).trans ?_
  simp only [hlow, ↓reduceIte, bind_apply, skip_cons]

theorem rawText_escapes (bs : List UInt8) (n : Nat) (before : List UInt8) {o : Nat}
    {rest : List UInt8}
    (h : escape true ⟨o + 1, bs ++ rest⟩ = (.ok bs, ⟨o + 1 + bs.length, rest⟩)) :
    rawText true (n + 1) before ⟨o, 0x5c :: bs ++ rest⟩ =
      rawText true n ((0x5c :: bs).reverse ++ before) ⟨o + (0x5c :: bs).length, rest⟩ := by
  refine (bind_of_ok (peek_cons 0x5c o (bs ++ rest))).trans ?_
  refine (bind_of_ok (skip_cons 0x5c o (bs ++ rest))).trans ?_
  refine (bind_of_ok h).trans ?_
  rw [List.reverse_cons, List.append_assoc, List.length_cons, Nat.add_assoc, Nat.add_comm 1]
  rfl

theorem rawText_of_plain {bs : List UInt8} (h : forall b, b ∈ bs -> PlainByte b) (n : Nat)
    (before : List UInt8) (o : Nat) (rest : List UInt8) :
    rawText true (n + bs.length) before ⟨o, bs ++ rest⟩ =
      rawText true n (bs.reverse ++ before) ⟨o + bs.length, rest⟩ := by
  induction bs generalizing before o with
  | nil => rfl
  | cons b bs ih =>
      have hb := h b List.mem_cons_self
      rw [List.length_cons, ← Nat.add_assoc, List.cons_append, rawText_plain hb,
        ih (fun d hd => h d (List.mem_cons_of_mem b hd)), List.reverse_cons, List.append_assoc,
        Nat.add_assoc, Nat.add_comm 1]
      rfl

theorem rawText_escapeChar (c : Char) :
    ∃ rounds, rounds ≤ (escapeChar c).length ∧ forall n before o rest,
      rawText true (n + rounds) before ⟨o, escapeChar c ++ rest⟩ =
        rawText true n ((escapeChar c).reverse ++ before)
          ⟨o + (escapeChar c).length, rest⟩ := by
  have hescaped := escaped_escapeChar c
  generalize escapeChar c = bs at hescaped ⊢
  cases hescaped with
  | @short e hne he _ =>
      refine ⟨1, Nat.le_succ 1, fun n before o rest => ?_⟩
      apply rawText_escapes [e]
      simp only [escape, List.cons_append, bind_apply, next_cons, he, ↓reduceIte]
      rfl
  | control h =>
      refine ⟨1, Nat.le_add_left 1 5, fun n before o rest => ?_⟩
      have hsmall : c.toNat < 0xd800 := Nat.lt_trans h (by decide)
      have hunit : unit ⟨o + 2, 0x30 :: 0x30 :: hexByte (c.toNat / 16) ::
          hexByte (c.toNat % 16) :: rest⟩ =
            (.ok ([0x30, 0x30, hexByte (c.toNat / 16), hexByte (c.toNat % 16)], c.toNat),
              ⟨o + 6, rest⟩) := by
        refine (bind_of_ok rfl).trans ?_
        simp only [unit?_hexByte h]
        rfl
      apply rawText_escapes [0x75, 0x30, 0x30, _, _]
      refine (bind_of_ok (next_cons _ _ _)).trans ?_
      refine (bind_of_ok hunit).trans ?_
      simp only [hsmall, decide_true, Bool.or_true, Bool.true_or, ↓reduceIte]
      rfl
  | plain _ _ hplain => exact ⟨bs.length, Nat.le_refl _, rawText_of_plain hplain⟩

theorem rawText_escape (cs : List Char) {n : Nat} (hn : (Json.escape cs).length < n)
    (before : List UInt8) (o : Nat) (tail : List UInt8) :
    rawText true n before ⟨o, Json.escape cs ++ 0x22 :: tail⟩ =
      (.ok (before.reverse ++ Json.escape cs),
        ⟨o + ((Json.escape cs).length + 1), tail⟩) := by
  induction cs generalizing n before o with
  | nil =>
      cases n with
      | zero => exact absurd hn (Nat.not_lt_zero _)
      | succ n =>
          rw [Json.escape, List.flatMap_nil, List.append_nil]
          rfl
  | cons c cs ih =>
      have hcons : Json.escape (c :: cs) = escapeChar c ++ Json.escape cs := List.flatMap_cons
      rcases rawText_escapeChar c with ⟨rounds, hrounds, hchar⟩
      rw [hcons, List.length_append] at hn
      have hleft : n = (n - rounds) + rounds := by omega
      rw [hcons, List.append_assoc, hleft, hchar, ih (by omega), List.reverse_append,
        List.reverse_reverse, List.append_assoc, List.length_append, Nat.add_assoc, Nat.add_assoc]

theorem text_escape (s : String) (o : Nat) (tail : List UInt8) :
    text ⟨o, Json.escape s.toList ++ 0x22 :: tail⟩ =
      (.ok s, ⟨o + ((Json.escape s.toList).length + 1), tail⟩) := by
  refine (bind_of_ok (d := ⟨o, Json.escape s.toList ++ 0x22 :: tail⟩) rfl).trans ?_
  refine (bind_of_ok (rawText_escape s.toList ?_ [] o tail)).trans ?_
  · rw [List.length_append]
    omega
  · rw [List.reverse_nil, List.nil_append, unescape?_escape]
    simp only [String.ofList_toList]
    rfl

end Scan
end Json
end Polyglot
