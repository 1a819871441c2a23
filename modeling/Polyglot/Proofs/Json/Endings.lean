import Polyglot.Proofs.Json.Documents

/-!
# Where documents end

A document whose last byte closes an object ends there and nowhere else: no shorter
text is a document, and behind it there may only be blanks.
-/

namespace Polyglot
namespace Json

namespace State

/-- The reader may be at the end: it waits for nothing, or a number may go on. -/
inductive Settled : State -> Prop where
  | done (stack : List Frame) (v : Json) : Settled ⟨stack, .done v⟩
  | number (scan : NumberScan) : Settled ⟨[], .number scan⟩

theorem settled_of_finish? {s : State} {v : Json} (h : s.finish? = some v) : s.Settled := by
  rcases s with ⟨stack, mode⟩
  cases mode with
  | done w => exact .done stack w
  | number scan =>
      cases stack with
      | nil => exact .number scan
      | cons frame stack => cases h
  | value => cases h
  | itemStart => cases h
  | itemEnd items => cases h
  | keyStart => cases h
  | keyNext entries => cases h
  | colon entries key => cases h
  | entryEnd entries => cases h
  | text part raw owner => cases h
  | word rest w => cases h

theorem step_done (stack : List Frame) (v : Json) (b : UInt8) :
    State.step ⟨stack, .done v⟩ b =
      if isBlankByte b then some ⟨stack, .done v⟩ else none :=
  rfl

theorem next?_brace (scan : NumberScan) : scan.next? 0x7d = none := by
  rcases scan with ⟨part, negative, whole, fraction, exponentNegative, exponent⟩
  cases part with
  | sign => rfl
  | zero => rfl
  | whole => rfl
  | point => rfl
  | fraction => rfl
  | mark => rfl
  | markSign => rfl
  | exponent => rfl

theorem Settled.step {s t : State} {b : UInt8} (h : s.Settled) (hstep : s.step b = some t) :
    t.Settled ∧ b ≠ 0x7d := by
  cases h with
  | done stack v =>
      rw [step_done] at hstep
      split at hstep
      · rename_i hblank
        cases hstep
        refine ⟨.done stack v, ?_⟩
        rintro rfl
        cases hblank
      · cases hstep
  | number scan =>
      unfold State.step at hstep
      dsimp only at hstep
      split at hstep
      · rename_i next hnext
        cases hstep
        refine ⟨.number next, ?_⟩
        rintro rfl
        rw [next?_brace] at hnext
        cases hnext
      · split at hstep
        · rename_i numeral _
          rw [← step_complete, complete, step_done] at hstep
          split at hstep
          · rename_i hblank
            cases hstep
            refine ⟨.done [] _, ?_⟩
            rintro rfl
            cases hblank
          · cases hstep
        · cases hstep

theorem Settled.steps {s t : State} {bs : List UInt8} (h : s.Settled)
    (hsteps : s.steps bs = some t) : (0x7d : UInt8) ∉ bs := by
  induction bs generalizing s with
  | nil => exact List.not_mem_nil
  | cons b bs ih =>
      unfold State.steps at hsteps
      split at hsteps
      · cases hsteps
      · rename_i next hnext
        rcases h.step hnext with ⟨hsettled, hne⟩
        intro hmem
        rcases List.mem_cons.mp hmem with heq | hmem
        · exact hne heq.symm
        · exact ih hsettled hsteps hmem

theorem steps_done (stack : List Frame) (v : Json) (bs : List UInt8) :
    State.steps ⟨stack, .done v⟩ bs =
      if bs.all isBlankByte then some ⟨stack, .done v⟩ else none := by
  induction bs with
  | nil => rfl
  | cons b bs ih =>
      rw [State.steps, step_done, List.all_cons]
      cases isBlankByte b with
      | false => rfl
      | true => exact ih

end State

/-- A text that goes on to a closing brace and then is a document was not one before. -/
theorem parse_eq_none_of_append {first rest : List UInt8} {v : Json}
    (h : parse (first ++ rest) = some v) (hbrace : (0x7d : UInt8) ∈ rest) :
    parse first = none := by
  cases hfirst : parse first with
  | none => rfl
  | some w =>
      rcases Option.bind_eq_some_iff.mp hfirst with ⟨s, hs, hfinish⟩
      rcases Option.bind_eq_some_iff.mp h with ⟨t, ht, _⟩
      rw [State.steps_append, hs, Option.bind_some] at ht
      exact absurd hbrace ((State.settled_of_finish? hfinish).steps ht)

theorem exists_printEntries (entries : List (List UInt8 × Json)) :
    ∃ bs, printEntries entries = bs ++ [0x7d] := by
  induction entries with
  | nil => exact ⟨[], rfl⟩
  | cons entry entries ih =>
      rcases ih with ⟨bs, hbs⟩
      refine ⟨0x2c :: printText entry.1 ++ 0x3a :: entry.2.print ++ bs, ?_⟩
      rw [printEntries, hbs]
      simp only [List.cons_append, List.append_assoc]

theorem exists_print_object (entries : List (List UInt8 × Json)) :
    ∃ bs, print (.object entries) = bs ++ [0x7d] := by
  cases entries with
  | nil => exact ⟨[0x7b], rfl⟩
  | cons entry entries =>
      rcases exists_printEntries entries with ⟨bs, hbs⟩
      refine ⟨0x7b :: printText entry.1 ++ 0x3a :: entry.2.print ++ bs, ?_⟩
      rw [print, hbs]
      simp only [List.cons_append, List.append_assoc]

theorem parse_take_print {entries : List (List UInt8 × Json)} (h : Spelled (.object entries))
    {n : Nat} (hn : n < (print (.object entries)).length) :
    parse ((print (.object entries)).take n) = none := by
  rcases exists_print_object entries with ⟨bs, hbs⟩
  apply @parse_eq_none_of_append _ ((print (.object entries)).drop n) (.object entries)
  · rw [List.take_append_drop]
    exact parse_print h
  · rw [hbs, List.length_append, List.length_singleton] at hn
    rw [hbs, List.drop_append_of_le_length (Nat.le_of_lt_succ hn)]
    exact List.mem_append_right _ List.mem_cons_self

theorem parse_print_append {entries : List (List UInt8 × Json)} (h : Spelled (.object entries))
    (bs : List UInt8) :
    parse (print (.object entries) ++ bs) =
      if bs.all isBlankByte then some (.object entries) else none := by
  have hread : State.start.steps (print (.object entries)) =
      some ⟨[], .done (.object entries)⟩ := by
    rcases h.readable [] with ⟨s, hs, hholds⟩
    cases hholds with
    | complete => exact hs
  rw [parse, State.steps_append, hread, Option.bind_some, State.steps_done]
  split
  · rfl
  · rfl

end Json
end Polyglot
