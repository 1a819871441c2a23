import Polyglot.Proofs.Json.Numbers

/-!
# Written documents

Reading a printed value gives the value back.  The reader is followed from the
first byte of a value to the state in which the value is complete, except that a
number goes on until a byte ends it.
-/

namespace Polyglot
namespace Json

/-- A value whose strings and numbers may stand in a document. -/
inductive Spelled : Json -> Prop where
  | null : Spelled .null
  | bool (b : Bool) : Spelled (.bool b)
  | number {n : Numeral} (h : n.WellFormed) : Spelled (.number n)
  | text {raw : List UInt8} (h : Quotable raw) : Spelled (.text raw)
  | array {items : List Json} (h : forall v, v ∈ items -> Spelled v) : Spelled (.array items)
  | object {entries : List (List UInt8 × Json)} (hkeys : forall e, e ∈ entries -> Quotable e.1)
      (hvalues : forall e, e ∈ entries -> Spelled e.2) : Spelled (.object entries)

namespace State

/-!
## Numbers
-/

theorem step_number {n m : NumberScan} {b : UInt8} (h : n.next? b = some m)
    (stack : List Frame) : State.step ⟨stack, .number n⟩ b = some ⟨stack, .number m⟩ := by
  simp only [step, h]

theorem steps_digits {scan : List UInt8 -> NumberScan} (stack : List Frame)
    (hscan : forall read b, isDigitByte b = true -> (scan read).next? b = some (scan (b :: read)))
    {ds : List UInt8} (hds : Numeral.Digits ds) (read : List UInt8) :
    State.steps ⟨stack, .number (scan read)⟩ ds =
      some ⟨stack, .number (scan (ds.reverse ++ read))⟩ := by
  induction ds generalizing read with
  | nil => rfl
  | cons d ds ih =>
      have hd := hds d List.mem_cons_self
      rw [steps_cons (step_number (hscan read d hd) stack),
        ih (fun e he => hds e (List.mem_cons_of_mem d he)), List.reverse_cons, List.append_assoc]
      rfl

theorem beginValue_digit {d : UInt8} (hd : isDigitByte d = true) (hne : d ≠ 0x30)
    (stack : List Frame) :
    beginValue stack d = some ⟨stack, .number ⟨.whole, false, [d], [], false, []⟩⟩ := by
  have hrange : 0x30 ≤ d.toNat ∧ d.toNat ≤ 0x39 := by
    simp only [isDigitByte, Bool.and_eq_true, decide_eq_true_eq, UInt8.le_iff_toNat_le] at hd
    exact hd
  unfold beginValue
  split
  · omega
  · omega
  · omega
  · omega
  · omega
  · omega
  · omega
  · rename_i heq
    exact absurd (UInt8.toNat_inj.mp heq) hne
  · rw [if_pos hd]

theorem isBlankByte_digit {d : UInt8} (hd : isDigitByte d = true) : isBlankByte d = false := by
  cases hblank : isBlankByte d with
  | false => rfl
  | true =>
      simp only [isBlankByte, Bool.or_eq_true, beq_iff_eq] at hblank
      rcases hblank with ((rfl | rfl) | rfl) | rfl
      · cases hd
      · cases hd
      · cases hd
      · cases hd

theorem steps_wholeDigits {d : UInt8} {ds : List UInt8} (h : Numeral.Digits ds)
    (negative : Bool) (stack : List Frame) :
    State.steps ⟨stack, .number ⟨.whole, negative, [d], [], false, []⟩⟩ ds =
      some ⟨stack, .number ⟨.whole, negative, (d :: ds).reverse, [], false, []⟩⟩ := by
  rw [List.reverse_cons]
  apply @steps_digits (fun read => ⟨.whole, negative, read, [], false, []⟩) stack _ ds h [d]
  intro read b hb
  simp only [NumberScan.next?, hb, ↓reduceIte]

theorem steps_whole {ds : List UInt8} (h : Numeral.WholePart ds) (negative : Bool)
    (stack : List Frame) :
    ∃ part, (part = .zero ∨ part = .whole) ∧
      State.steps ⟨stack, .value⟩ ((if negative then [0x2d] else []) ++ ds) =
        some ⟨stack, .number ⟨part, negative, ds.reverse, [], false, []⟩⟩ := by
  cases h with
  | zero =>
      refine ⟨.zero, .inl rfl, ?_⟩
      cases negative with
      | false => rfl
      | true => rfl
  | @digits d ds hd hne hds =>
      refine ⟨.whole, .inr rfl, ?_⟩
      cases negative with
      | false =>
          have hfirst : State.step ⟨stack, .value⟩ d =
              some ⟨stack, .number ⟨.whole, false, [d], [], false, []⟩⟩ := by
            simp only [step, isBlankByte_digit hd, Bool.false_eq_true, ↓reduceIte]
            exact beginValue_digit hd hne stack
          exact (steps_cons hfirst ds).trans (steps_wholeDigits hds false stack)
      | true =>
          have hsign : State.step ⟨stack, .value⟩ 0x2d =
              some ⟨stack, .number ⟨.sign, true, [], [], false, []⟩⟩ := rfl
          have hfirst : State.step ⟨stack, .number ⟨.sign, true, [], [], false, []⟩⟩ d =
              some ⟨stack, .number ⟨.whole, true, [d], [], false, []⟩⟩ := by
            apply step_number
            simp only [NumberScan.next?, hd, hne, ↓reduceIte]
          refine (steps_cons hsign (d :: ds)).trans ?_
          exact (steps_cons hfirst ds).trans (steps_wholeDigits hds true stack)

theorem steps_fraction {ds : List UInt8} (h : Numeral.Digits ds) {part : NumberPart}
    (hpart : part = .zero ∨ part = .whole) (negative : Bool) (whole : List UInt8)
    (stack : List Frame) :
    ∃ next, (next = .zero ∨ next = .whole ∨ next = .fraction) ∧
      State.steps ⟨stack, .number ⟨part, negative, whole, [], false, []⟩⟩
        (if ds.isEmpty then [] else 0x2e :: ds) =
          some ⟨stack, .number ⟨next, negative, whole, ds.reverse, false, []⟩⟩ := by
  cases ds with
  | nil =>
      refine ⟨part, ?_, rfl⟩
      rcases hpart with rfl | rfl
      · exact .inl rfl
      · exact .inr (.inl rfl)
  | cons d ds =>
      have hd := h d List.mem_cons_self
      have hpoint : State.step ⟨stack, .number ⟨part, negative, whole, [], false, []⟩⟩ 0x2e =
          some ⟨stack, .number ⟨.point, negative, whole, [], false, []⟩⟩ := by
        rcases hpart with rfl | rfl
        · rfl
        · rfl
      have hfirst : State.step ⟨stack, .number ⟨.point, negative, whole, [], false, []⟩⟩ d =
          some ⟨stack, .number ⟨.fraction, negative, whole, [d], false, []⟩⟩ := by
        apply step_number
        simp only [NumberScan.next?, hd, ↓reduceIte]
      refine ⟨.fraction, .inr (.inr rfl), ?_⟩
      rw [if_neg (by exact Bool.false_ne_true), steps_cons hpoint, steps_cons hfirst,
        List.reverse_cons]
      apply @steps_digits (fun read => ⟨.fraction, negative, whole, read, false, []⟩) stack _ ds
        (fun e he => h e (List.mem_cons_of_mem d he)) [d]
      intro read b hb
      simp only [NumberScan.next?, hb, ↓reduceIte]

theorem steps_exponent {ds : List UInt8} (hsome : ds ≠ []) (h : Numeral.Digits ds)
    {part : NumberPart} (hpart : part = .zero ∨ part = .whole ∨ part = .fraction)
    (negative sign : Bool) (whole fraction : List UInt8) (stack : List Frame) :
    State.steps ⟨stack, .number ⟨part, negative, whole, fraction, false, []⟩⟩
      (0x65 :: (if sign then 0x2d else 0x2b) :: ds) =
        some ⟨stack, .number ⟨.exponent, negative, whole, fraction, sign, ds.reverse⟩⟩ := by
  have hmark : State.step ⟨stack, .number ⟨part, negative, whole, fraction, false, []⟩⟩ 0x65 =
      some ⟨stack, .number ⟨.mark, negative, whole, fraction, false, []⟩⟩ := by
    rcases hpart with rfl | rfl | rfl
    · rfl
    · rfl
    · rfl
  have hsign : State.step ⟨stack, .number ⟨.mark, negative, whole, fraction, false, []⟩⟩
      (if sign then 0x2d else 0x2b) =
        some ⟨stack, .number ⟨.markSign, negative, whole, fraction, sign, []⟩⟩ := by
    cases sign with
    | false => rfl
    | true => rfl
  rw [steps_cons hmark, steps_cons hsign]
  cases ds with
  | nil => exact absurd rfl hsome
  | cons d ds =>
      have hfirst :
          State.step ⟨stack, .number ⟨.markSign, negative, whole, fraction, sign, []⟩⟩ d =
            some ⟨stack, .number ⟨.exponent, negative, whole, fraction, sign, [d]⟩⟩ := by
        apply step_number
        simp only [NumberScan.next?, h d List.mem_cons_self, ↓reduceIte]
      rw [steps_cons hfirst, List.reverse_cons]
      apply @steps_digits (fun read => ⟨.exponent, negative, whole, fraction, sign, read⟩) stack
        _ ds (fun e he => h e (List.mem_cons_of_mem d he)) [d]
      intro read b hb
      simp only [NumberScan.next?, hb, ↓reduceIte]

theorem steps_print_number {n : Numeral} (h : n.WellFormed) (stack : List Frame) :
    ∃ scan, State.steps ⟨stack, .value⟩ n.print = some ⟨stack, .number scan⟩ ∧
      scan.finish? = some n := by
  rcases n with ⟨negative, whole, fraction, exponent⟩
  rcases steps_whole h.whole negative stack with ⟨part, hpart, hwhole⟩
  rcases steps_fraction h.fraction hpart negative whole.reverse stack with
    ⟨next, hnext, hfraction⟩
  unfold Numeral.print
  dsimp only at hwhole hfraction ⊢
  rw [steps_append, steps_append, hwhole, Option.bind_some, hfraction, Option.bind_some]
  cases exponent with
  | none =>
      refine ⟨_, rfl, ?_⟩
      rcases hnext with rfl | rfl | rfl
      · simp only [NumberScan.finish?, List.reverse_reverse]
      · simp only [NumberScan.finish?, List.reverse_reverse]
      · simp only [NumberScan.finish?, List.reverse_reverse]
  | some mark =>
      rcases h.exponent mark.1 mark.2 rfl with ⟨hsome, hdigits⟩
      refine ⟨_, steps_exponent hsome hdigits hnext negative mark.1 _ _ stack, ?_⟩
      simp only [NumberScan.finish?, List.reverse_reverse]

/-!
## Values
-/

/-- The value has been read: it is complete, or it is a number that may end. -/
inductive Holds (stack : List Frame) : Json -> State -> Prop where
  | complete (v : Json) : Holds stack v (State.complete stack v)
  | number {scan : NumberScan} {n : Numeral} (h : scan.finish? = some n) :
      Holds stack (.number n) ⟨stack, .number scan⟩

def Closing (b : UInt8) : Prop :=
  b = 0x2c ∨ b = 0x5d ∨ b = 0x7d

theorem next?_closing {scan : NumberScan} {n : Numeral} (h : scan.finish? = some n) {b : UInt8}
    (hb : Closing b) : scan.next? b = none := by
  rcases scan with ⟨part, negative, whole, fraction, exponentNegative, exponent⟩
  cases part with
  | zero =>
      rcases hb with rfl | rfl | rfl
      · rfl
      · rfl
      · rfl
  | whole =>
      rcases hb with rfl | rfl | rfl
      · rfl
      · rfl
      · rfl
  | fraction =>
      rcases hb with rfl | rfl | rfl
      · rfl
      · rfl
      · rfl
  | exponent =>
      rcases hb with rfl | rfl | rfl
      · rfl
      · rfl
      · rfl
  | sign => cases h
  | point => cases h
  | mark => cases h
  | markSign => cases h

theorem step_complete (stack : List Frame) (v : Json) (b : UInt8) :
    (State.complete stack v).step b = (State.complete stack v).afterValue b := by
  cases stack with
  | nil => rfl
  | cons frame stack =>
      cases frame with
      | inArray items => rfl
      | inObject entries key => rfl

theorem Holds.step_closing {stack : List Frame} {v : Json} {s : State} (h : Holds stack v s)
    {b : UInt8} (hb : Closing b) : s.step b = (State.complete stack v).step b := by
  cases h with
  | complete => rfl
  | @number scan n h =>
      -- Only this byte ends the number, and it is then handed to the complete value.
      rw [step_complete]
      simp only [step, next?_closing h hb, h]

theorem Holds.finish? {v : Json} {s : State} (h : Holds [] v s) : s.finish? = some v := by
  cases h with
  | complete => rfl
  | number h =>
      simp only [State.finish?, h]
      rfl

def Readable (v : Json) : Prop :=
  forall stack, ∃ s, State.steps ⟨stack, .value⟩ v.print = some s ∧ Holds stack v s

/-!
## Strings
-/

theorem steps_quoted {raw : List UInt8} (h : Quotable raw) (stack : List Frame)
    (owner : Option (List (List UInt8 × Json))) :
    State.steps ⟨stack, .text .plain [] owner⟩ (raw ++ [0x22]) =
      match owner with
      | none => some (State.complete stack (.text raw))
      | some entries => some ⟨stack, .colon entries raw⟩ := by
  rw [steps_append, h, Option.bind_some, List.append_nil, steps]
  cases owner with
  | none =>
      simp only [step, insideText, ↓reduceIte, List.reverse_reverse]
      rfl
  | some entries =>
      simp only [step, insideText, ↓reduceIte, List.reverse_reverse]
      rfl

theorem readable_text {raw : List UInt8} (h : Quotable raw) : Readable (.text raw) := by
  intro stack
  refine ⟨State.complete stack (.text raw), ?_, .complete _⟩
  rw [print, printText]
  refine (steps_cons (t := ⟨stack, .text .plain [] none⟩) rfl _).trans ?_
  exact steps_quoted h stack none

theorem steps_key {key : List UInt8} (h : Quotable key) (stack : List Frame)
    (entries : List (List UInt8 × Json)) :
    State.steps ⟨stack, .text .plain [] (some entries)⟩ (key ++ [0x22] ++ [0x3a]) =
      some ⟨.inObject entries key :: stack, .value⟩ := by
  rw [steps_append, steps_quoted h stack (some entries), Option.bind_some]
  rfl

/-!
## Containers
-/

theorem steps_printItems {items : List Json} (h : forall v, v ∈ items -> Readable v)
    (stack : List Frame) (before : List Json) {v : Json} {s : State}
    (hs : Holds (.inArray before :: stack) v s) :
    s.steps (printItems items) =
      some (State.complete stack (.array (before.reverse ++ v :: items))) := by
  -- The item that has just been read joins those before it in every step.
  induction items generalizing before v s with
  | nil =>
      have hstep : s.step 0x5d = some (State.complete stack (.array (v :: before).reverse)) := by
        rw [hs.step_closing (.inr (.inl rfl))]
        rfl
      rw [printItems, steps_cons hstep, List.reverse_cons]
      rfl
  | cons item items ih =>
      have hstep : s.step 0x2c = some ⟨.inArray (v :: before) :: stack, .value⟩ := by
        rw [hs.step_closing (.inl rfl)]
        rfl
      rcases h item List.mem_cons_self (.inArray (v :: before) :: stack) with ⟨t, ht, hholds⟩
      rw [printItems, List.cons_append, steps_cons hstep, steps_append, ht, Option.bind_some,
        ih (fun w hw => h w (List.mem_cons_of_mem item hw)) (v :: before) hholds,
        List.reverse_cons, List.append_assoc]
      rfl

/-- The reader takes a first item as any value: no value begins with a blank or a bracket. -/
theorem exists_print_cons {v : Json} (h : Spelled v) :
    ∃ b bs, v.print = b :: bs ∧ isBlankByte b = false ∧ b ≠ 0x5d := by
  cases h with
  | null => exact ⟨_, _, rfl, rfl, by decide⟩
  | bool b =>
      cases b with
      | false => exact ⟨_, _, rfl, rfl, by decide⟩
      | true => exact ⟨_, _, rfl, rfl, by decide⟩
  | text => exact ⟨_, _, rfl, rfl, by decide⟩
  | @array items =>
      cases items with
      | nil => exact ⟨_, _, rfl, rfl, by decide⟩
      | cons item items => exact ⟨_, _, rfl, rfl, by decide⟩
  | @object entries =>
      cases entries with
      | nil => exact ⟨_, _, rfl, rfl, by decide⟩
      | cons entry entries => exact ⟨_, _, rfl, rfl, by decide⟩
  | @number n h =>
      rcases n with ⟨negative, whole, fraction, exponent⟩
      cases negative with
      | true => exact ⟨_, _, rfl, rfl, by decide⟩
      | false =>
          have hwhole : Numeral.WholePart whole := h.whole
          cases whole with
          | nil => exact absurd rfl hwhole.ne_nil
          | cons d ds =>
              have hd := hwhole.isDigits d List.mem_cons_self
              refine ⟨d, _, rfl, isBlankByte_digit hd, ?_⟩
              rintro rfl
              cases hd

theorem steps_itemStart {v : Json} (h : Spelled v) (stack : List Frame) :
    State.steps ⟨stack, .itemStart⟩ v.print =
      State.steps ⟨.inArray [] :: stack, .value⟩ v.print := by
  rcases exists_print_cons h with ⟨b, bs, heq, hblank, hne⟩
  rw [heq, steps, steps]
  simp only [step, hblank, hne, Bool.false_eq_true, ↓reduceIte]

theorem readable_array {items : List Json} (hspelled : forall v, v ∈ items -> Spelled v)
    (h : forall v, v ∈ items -> Readable v) : Readable (.array items) := by
  intro stack
  refine ⟨State.complete stack (.array items), ?_, .complete _⟩
  cases items with
  | nil => rfl
  | cons item items =>
      rcases h item List.mem_cons_self (.inArray [] :: stack) with ⟨t, ht, hholds⟩
      have hopen : State.step ⟨stack, .value⟩ 0x5b = some ⟨stack, .itemStart⟩ := rfl
      rw [print, List.cons_append, steps_cons hopen, steps_append,
        steps_itemStart (hspelled item List.mem_cons_self), ht, Option.bind_some]
      exact steps_printItems (fun v hv => h v (List.mem_cons_of_mem item hv)) stack [] hholds

theorem steps_printEntries {entries : List (List UInt8 × Json)}
    (hkeys : forall e, e ∈ entries -> Quotable e.1)
    (h : forall e, e ∈ entries -> Readable e.2) (stack : List Frame)
    (before : List (List UInt8 × Json)) {key : List UInt8} {v : Json} {s : State}
    (hs : Holds (.inObject before key :: stack) v s) :
    s.steps (printEntries entries) =
      some (State.complete stack (.object (before.reverse ++ (key, v) :: entries))) := by
  induction entries generalizing before key v s with
  | nil =>
      have hstep : s.step 0x7d =
          some (State.complete stack (.object ((key, v) :: before).reverse)) := by
        rw [hs.step_closing (.inr (.inr rfl))]
        rfl
      rw [printEntries, steps_cons hstep, List.reverse_cons]
      rfl
  | cons entry entries ih =>
      rcases entry with ⟨name, value⟩
      have hstep : s.step 0x2c = some ⟨stack, .keyNext ((key, v) :: before)⟩ := by
        rw [hs.step_closing (.inl rfl)]
        rfl
      have hquote : State.step ⟨stack, .keyNext ((key, v) :: before)⟩ 0x22 =
          some ⟨stack, .text .plain [] (some ((key, v) :: before))⟩ := rfl
      have hname : Quotable name := hkeys _ List.mem_cons_self
      rcases h _ List.mem_cons_self (.inObject ((key, v) :: before) name :: stack) with
        ⟨t, ht, hholds⟩
      have hshape : printEntries ((name, value) :: entries) =
          0x2c :: 0x22 :: ((name ++ [0x22] ++ [0x3a]) ++ (value.print ++ printEntries entries)) := by
        simp only [printEntries, printText, List.cons_append, List.append_assoc, List.nil_append]
      rw [hshape, steps_cons hstep, steps_cons hquote, steps_append,
        steps_key hname, Option.bind_some, steps_append, ht, Option.bind_some,
        ih (fun e he => hkeys e (List.mem_cons_of_mem _ he))
          (fun e he => h e (List.mem_cons_of_mem _ he)) ((key, v) :: before) hholds,
        List.reverse_cons, List.append_assoc]
      rfl

theorem readable_object {entries : List (List UInt8 × Json)}
    (hkeys : forall e, e ∈ entries -> Quotable e.1)
    (h : forall e, e ∈ entries -> Readable e.2) : Readable (.object entries) := by
  intro stack
  refine ⟨State.complete stack (.object entries), ?_, .complete _⟩
  cases entries with
  | nil => rfl
  | cons entry entries =>
      rcases entry with ⟨name, value⟩
      have hopen : State.step ⟨stack, .value⟩ 0x7b = some ⟨stack, .keyStart⟩ := rfl
      have hquote : State.step ⟨stack, .keyStart⟩ 0x22 =
          some ⟨stack, .text .plain [] (some [])⟩ := rfl
      have hname : Quotable name := hkeys _ List.mem_cons_self
      rcases h _ List.mem_cons_self (.inObject [] name :: stack) with ⟨t, ht, hholds⟩
      have hshape : print (.object ((name, value) :: entries)) =
          0x7b :: 0x22 :: ((name ++ [0x22] ++ [0x3a]) ++ (value.print ++ printEntries entries)) := by
        simp only [print, printText, List.cons_append, List.append_assoc, List.nil_append]
      rw [hshape, steps_cons hopen, steps_cons hquote, steps_append, steps_key hname,
        Option.bind_some, steps_append, ht, Option.bind_some]
      exact steps_printEntries (fun e he => hkeys e (List.mem_cons_of_mem _ he))
        (fun e he => h e (List.mem_cons_of_mem _ he)) stack [] hholds

end State

/-!
## Round trips
-/

theorem Spelled.readable {v : Json} (h : Spelled v) : State.Readable v := by
  induction h with
  | null => exact fun stack => ⟨_, rfl, .complete _⟩
  | bool b =>
      intro stack
      cases b with
      | false => exact ⟨_, rfl, .complete _⟩
      | true => exact ⟨_, rfl, .complete _⟩
  | number h =>
      intro stack
      rcases State.steps_print_number h stack with ⟨scan, hscan, hfinish⟩
      exact ⟨_, hscan, .number hfinish⟩
  | text h => exact State.readable_text h
  | array h ih => exact State.readable_array h ih
  | object hkeys _ ih => exact State.readable_object hkeys ih

theorem parse_print {v : Json} (h : Spelled v) : parse v.print = some v := by
  rcases h.readable [] with ⟨s, hs, hholds⟩
  show ((State.steps ⟨[], .value⟩ v.print).bind State.finish?) = some v
  rw [hs, Option.bind_some]
  exact hholds.finish?

end Json
end Polyglot
