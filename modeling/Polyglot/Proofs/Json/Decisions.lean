import Polyglot.Proofs.Json.Scans

/-!
# Scanned values

A scan that is meant for a printed value takes the value, or it stops within it, and it
does so whatever follows.  It takes exactly those values that are read as values of its
kind, so the place at which a document is refused can be traced from part to part.
-/

namespace Polyglot

namespace Numeral

theorem isSome_float?_of_fitsWord {n : Numeral} (h : n.fitsWord = true) : n.float?.isSome = true := by
  rw [float?, if_pos h]
  rfl

theorem fitsWord_of_nat? {limit : Nat} {n : Numeral} (hlimit : limit ≤ wordLimit 64)
    (h : (n.nat? limit).isSome = true) : n.fitsWord = true := by
  unfold nat? at h
  dsimp only at h
  split at h
  · rename_i hvalue
    simp only [Bool.and_eq_true, Bool.not_eq_true', decide_eq_true_eq] at hvalue
    simp only [fitsWord, hvalue.1.1, hvalue.1.2, Bool.false_eq_true, ↓reduceIte, Bool.true_and,
      decide_eq_true_eq]
    exact Nat.le_trans hvalue.2 hlimit
  · cases h

theorem fitsWord_of_int? {limit : Nat} {n : Numeral} (hlimit : limit ≤ wordLimit 63)
    (h : (n.int? limit).isSome = true) : n.fitsWord = true := by
  have hhalf : wordLimit 63 ≤ wordLimit 64 := by decide
  unfold int? at h
  unfold fitsWord
  dsimp only at h
  split at h
  · cases h
  · rename_i hwhole
    rw [Bool.not_eq_true, Bool.not_eq_false'] at hwhole
    rw [hwhole, Bool.true_and]
    split at h
    · rename_i hnegative
      split at h
      · rename_i hvalue
        rw [if_pos hnegative, Bool.and_eq_true, decide_eq_true_eq, decide_eq_true_eq]
        omega
      · cases h
    · rename_i hnegative
      split at h
      · rename_i hvalue
        rw [if_neg hnegative, decide_eq_true_eq]
        omega
      · cases h

end Numeral

namespace Json

theorem isSome_float32? (j : Json) : j.float32?.isSome = j.float?.isSome := by
  cases j with
  | number n =>
      simp only [float32?, float?, Numeral.float32?, Numeral.float?]
      split
      · rfl
      · rw [Option.isSome_map, Option.isSome_map]
  | null => rfl
  | bool b => rfl
  | text raw => rfl
  | array items => rfl
  | object entries => rfl

namespace Scan

/-!
## Decisions
-/

/--
What a scan makes of bytes that it is meant for, given enough rounds and whatever follows
them: it takes them all, or it stops within them.
-/
inductive Decides (next : List UInt8 -> Prop) (least : Nat) (x : Nat -> Scan Unit)
    (bytes : List UInt8) : Bool -> Prop where
  | takes (h : forall n o tail, least ≤ n -> next tail ->
      x n ⟨o, bytes ++ tail⟩ = (.ok (), ⟨o + bytes.length, tail⟩)) :
      Decides next least x bytes true
  | stops (reason : Reason) (read : Nat) (hread : read ≤ bytes.length)
      (h : forall n o tail, least ≤ n -> next tail ->
        (x n ⟨o, bytes ++ tail⟩).1 = .error ⟨reason, some (o + read)⟩) :
      Decides next least x bytes false

namespace Decides

variable {next mid : List UInt8 -> Prop} {least least' : Nat} {x y : Nat -> Scan Unit}
  {as bs : List UInt8} {good good' : Bool}

theorem after (hy : Decides next least' y bs good)
    (h : forall n o tail, least ≤ n -> next tail -> ∃ m, least' ≤ m ∧
      x n ⟨o, as ++ (bs ++ tail)⟩ = y m ⟨o + as.length, bs ++ tail⟩) :
    Decides next least x (as ++ bs) good := by
  cases hy with
  | takes htake =>
      refine .takes fun n o tail hn htail => ?_
      rcases h n o tail hn htail with ⟨m, hm, heq⟩
      rw [List.append_assoc, heq, htake m _ tail hm htail, List.length_append, Nat.add_assoc]
  | stops reason read hread hstop =>
      refine .stops reason (as.length + read) ?_ fun n o tail hn htail => ?_
      · rw [List.length_append]
        exact Nat.add_le_add_left hread _
      · rcases h n o tail hn htail with ⟨m, hm, heq⟩
        rw [List.append_assoc, heq, hstop m _ tail hm htail, Nat.add_assoc]

theorem of_eq (hy : Decides next least' y bs good)
    (h : forall n o tail, least ≤ n -> next tail -> ∃ m, least' ≤ m ∧
      x n ⟨o, bs ++ tail⟩ = y m ⟨o, bs ++ tail⟩) :
    Decides next least x bs good :=
  @after _ _ _ _ _ [] _ _ hy h

theorem seq {x : Scan Unit} (hx : Decides mid 0 (fun _ => x) as good)
    (hy : Decides next least y bs good') (hmid : forall tail, next tail -> mid (bs ++ tail)) :
    Decides next least (fun n => x >>= fun _ => y n) (as ++ bs) (good && good') := by
  cases hx with
  | takes htake =>
      refine hy.after fun n o tail hn htail => ⟨n, hn, ?_⟩
      exact bind_of_ok (htake 0 o _ (Nat.le_refl 0) (hmid tail htail))
  | stops reason read hread hstop =>
      refine .stops reason read ?_ fun n o tail hn htail => ?_
      · rw [List.length_append]
        exact Nat.le_add_right_of_le hread
      · rw [List.append_assoc]
        exact bind_of_error (hstop 0 o _ (Nat.le_refl 0) (hmid tail htail))

theorem rounds (h : Decides next least x bs good) (hleast : least ≤ bs.length + 1) :
    Decides next 0 (fun _ => do x ((← left) + 1)) bs good := by
  refine h.of_eq fun _ o tail _ _ => ⟨(bs ++ tail).length + 1, ?_, bind_of_ok rfl⟩
  rw [List.length_append]
  omega

theorem round (hy : Decides next least' y bs good)
    (h : forall n o tail, next tail ->
      x (n + 1) ⟨o, as ++ (bs ++ tail)⟩ = y n ⟨o + as.length, bs ++ tail⟩) :
    Decides next (least' + 1) x (as ++ bs) good := by
  refine hy.after fun n o tail hn htail => ?_
  cases n with
  | zero => cases hn
  | succ n => exact ⟨n, Nat.le_of_succ_le_succ hn, h n o tail htail⟩

theorem nothing {b : UInt8}
    (h : forall n o tail, x (n + 1) ⟨o, b :: tail⟩ = (.ok (), ⟨o, b :: tail⟩)) :
    Decides (fun tail => tail.head? = some b) 1 x [] true := by
  refine .takes fun n o tail hn htail => ?_
  cases n with
  | zero => cases hn
  | succ n =>
      cases tail with
      | nil => cases htail
      | cons a tail =>
          cases htail
          exact h n o tail

theorem closed {b : UInt8} {close : Scan Unit}
    (h : Decides (fun tail => tail.head? = some b) least x bs good)
    (hclose : forall o tail, close ⟨o, b :: tail⟩ = (.ok (), ⟨o + 1, tail⟩)) :
    Decides next least (fun n => (x n).closedBy close) (bs ++ [b]) good := by
  cases h with
  | takes htake =>
      refine .takes fun n o tail hn _ => ?_
      have htaken := htake n o (b :: tail) hn rfl
      rw [List.append_assoc, List.length_append]
      refine (?_ : _ = (close *> pure () : Scan Unit) ⟨o + bs.length, b :: tail⟩).trans ?_
      · show closedBy _ _ ⟨o, bs ++ b :: tail⟩ = _
        unfold closedBy
        rw [htaken]
      · exact bind_of_ok (hclose _ tail)
  | stops reason read hread hstop =>
      refine .stops reason read ?_ fun n o tail hn _ => ?_
      · rw [List.length_append]
        exact Nat.le_add_right_of_le hread
      · have hstopped := hstop n o (b :: tail) hn rfl
        rw [List.append_assoc]
        show (closedBy _ _ ⟨o, bs ++ b :: tail⟩).1 = _
        unfold closedBy
        generalize x n ⟨o, bs ++ b :: tail⟩ = outcome at hstopped ⊢
        rcases outcome with ⟨result, d⟩
        cases hstopped
        rfl

theorem placed (h : Decides next least x bs good) :
    Decides next least (fun n => (x n).placed) bs good := by
  cases h with
  | takes htake =>
      refine .takes fun n o tail hn htail => ?_
      unfold Scan.placed
      rw [htake n o tail hn htail]
  | stops reason read hread hstop =>
      refine .stops reason read hread fun n o tail hn htail => ?_
      have hstopped := hstop n o tail hn htail
      unfold Scan.placed
      generalize x n ⟨o, bs ++ tail⟩ = outcome at hstopped ⊢
      rcases outcome with ⟨result, d⟩
      cases hstopped
      rfl

theorem of_unplaced {x : Scan Unit} (reason : Reason)
    (h : forall o tail, next tail ->
      x ⟨o, bs ++ tail⟩ = (.error ⟨reason, none⟩, ⟨o + bs.length, tail⟩)) :
    Decides next least (fun _ => x.placed) bs false := by
  refine .stops reason bs.length (Nat.le_refl _) fun n o tail _ htail => ?_
  unfold Scan.placed
  rw [h o tail htail]

end Decides

/-!
## Printed values
-/

def Judges (kind : Scan Unit) (v : Json) (good : Bool) : Prop :=
  Decides Ends 0 (fun _ => kind) v.print good

variable {good good' : Bool} {v : Json} {kind : Scan Unit}

theorem Judges.congr (h : Judges kind v good) (hgood : good' = good) : Judges kind v good' :=
  hgood ▸ h

theorem value_judges {expected : String} {scan? : UInt8 -> Option (Scan Unit)} {b : UInt8}
    {bs : List UInt8} (hprint : v.print = b :: bs) (hblank : isBlankByte b = false)
    (h : Decides Ends 0 (fun _ => ((scan? b).getD (unexpected expected)).placed) v.print good) :
    Judges (value expected scan?) v good := by
  refine h.of_eq fun n o tail hn _ => ⟨n, hn, ?_⟩
  rw [hprint]
  exact bind_of_ok (peekVisible_cons hblank o (bs ++ tail))

theorem exists_print_number {n : Numeral} (h : n.WellFormed) :
    ∃ b bs, n.print = b :: bs ∧ (b = 0x2d ∨ isDigitByte b = true) := by
  rcases n with ⟨negative, whole, fraction, exponent⟩
  cases negative with
  | true => exact ⟨_, _, rfl, .inl rfl⟩
  | false =>
      have hwhole : Numeral.WholePart whole := h.whole
      cases whole with
      | nil => exact absurd rfl hwhole.ne_nil
      | cons d ds => exact ⟨_, _, rfl, .inr (hwhole.isDigits d List.mem_cons_self)⟩

theorem isBlankByte_number {b : UInt8} (h : b = 0x2d ∨ isDigitByte b = true) :
    isBlankByte b = false := by
  rcases h with rfl | h
  · rfl
  · exact State.isBlankByte_digit h

theorem judges_number {n : Numeral} (hn : n.WellFormed) (expected : String)
    (accepts : Numeral -> Bool) :
    Judges (numberOf expected accepts) (.number n) (n.float?.isSome && accepts n) := by
  rcases exists_print_number hn with ⟨b, bs, hprint, hb⟩
  apply value_judges (v := .number n) hprint (isBlankByte_number hb)
  rw [if_pos hb, Option.getD_some]
  have hnumber := @number_print n hn
  cases hfloat : n.float?.isSome with
  | false =>
      apply Decides.placed
      refine .stops .numberOutOfRange (n.print.length - unread n) (Nat.sub_le _ _) ?_
      intro _ o tail _ htail
      apply bind_of_error
      show (number ⟨o, n.print ++ tail⟩).1 = _
      rw [hnumber htail, hfloat]
      rfl
  | true =>
      have hread : forall {f : Numeral -> Scan Unit} o tail, Ends tail ->
          (number >>= f) ⟨o, n.print ++ tail⟩ = f n ⟨o + n.print.length, tail⟩ := by
        intro f o tail htail
        apply bind_of_ok
        rw [hnumber htail, hfloat]
        rfl
      cases haccepts : accepts n with
      | true =>
          apply Decides.placed
          refine .takes fun _ o tail _ htail => ?_
          refine (hread o tail htail).trans ?_
          rw [haccepts]
          rfl
      | false =>
          cases hword : n.fitsWord with
          | true =>
              refine Decides.of_unplaced (.wrongValue (.number n) expected) ?_
              intro o tail htail
              refine (hread o tail htail).trans ?_
              rw [haccepts, hword]
              rfl
          | false =>
              refine Decides.of_unplaced (.wrongType (.number n) expected) ?_
              intro o tail htail
              refine (hread o tail htail).trans ?_
              rw [haccepts, hword]
              rfl

theorem judges_null (expected : String) (accepts : Numeral -> Bool) :
    Judges (numberOf expected accepts) .null false := by
  apply value_judges rfl rfl
  rw [if_neg (by decide), Option.getD_none]
  apply Decides.placed
  refine Decides.of_unplaced (.wrongType .null expected) ?_
  intro o tail _
  refine (bind_of_ok (peek_cons 0x6e o _)).trans ?_
  refine (bind_of_ok (skip_cons 0x6e o _)).trans ?_
  exact bind_of_ok (word_append [0x75, 0x6c, 0x6c] (o + 1) tail)

theorem judges_bool (b : Bool) : Judges bool (.bool b) true := by
  cases b with
  | true =>
      apply value_judges rfl rfl
      apply Decides.placed
      refine .takes fun _ o tail _ _ => ?_
      refine (bind_of_ok (skip_cons 0x74 o _)).trans ?_
      exact word_append [0x72, 0x75, 0x65] (o + 1) tail
  | false =>
      apply value_judges rfl rfl
      apply Decides.placed
      refine .takes fun _ o tail _ _ => ?_
      refine (bind_of_ok (skip_cons 0x66 o _)).trans ?_
      exact word_append [0x61, 0x6c, 0x73, 0x65] (o + 1) tail

theorem bind_text {f : String -> Scan Unit} (s : String) (o : Nat) (tail : List UInt8) :
    (text >>= f) ⟨o + 1, Json.escape s.toList ++ 0x22 :: tail⟩ =
      f s ⟨o + (printText (Json.escape s.toList)).length, tail⟩ := by
  refine (bind_of_ok (text_escape s (o + 1) tail)).trans ?_
  rw [printText, List.length_append, List.length_cons, List.length_singleton, Nat.add_assoc,
    Nat.add_comm 1, Nat.add_assoc]

theorem judges_textOf (expected : String) (check : String -> Scan Unit) {s : String}
    (hcheck : forall c, check s c = (.ok (), c)) :
    Judges (textOf expected check) (.ofString s) true := by
  apply value_judges rfl rfl
  apply Decides.placed
  refine .takes fun _ o tail _ _ => ?_
  show (_ : Scan Unit) ⟨o, 0x22 :: Json.escape s.toList ++ [0x22] ++ tail⟩ = _
  rw [List.append_assoc]
  refine (bind_of_ok (skip_cons 0x22 o _)).trans ?_
  exact (bind_text s o tail).trans (hcheck _)

theorem judges_string (s : String) : Judges string (.ofString s) true :=
  judges_textOf _ _ fun _ => rfl

theorem judges_choice {names : List String} {name : String} (h : name ∈ names) :
    Judges (choice names) (.ofString name) true := by
  have hvariant : Judges (variant names) (.ofString name) true := by
    apply judges_textOf
    intro c
    rw [if_pos (List.contains_iff_mem.mpr h)]
    rfl
  refine hvariant.of_eq fun n o tail hn _ => ⟨n, hn, ?_⟩
  exact bind_of_ok (peekVisible_cons rfl o _)

theorem judges_of_fitsWord {n : Numeral} (hn : n.WellFormed) (expected : String)
    {accepts : Numeral -> Bool} (h : accepts n = true -> n.fitsWord = true) :
    Judges (numberOf expected accepts) (.number n) (accepts n) := by
  refine (judges_number hn expected accepts).congr ?_
  cases haccepts : accepts n with
  | false => rw [Bool.and_false]
  | true => rw [Numeral.isSome_float?_of_fitsWord (h haccepts), Bool.and_true]

theorem judges_nat (expected : String) {limit : Nat} (hlimit : limit ≤ Numeral.wordLimit 64)
    (n : Nat) : Judges (nat expected limit) (.ofNat n) ((Numeral.ofNat n).nat? limit).isSome :=
  judges_of_fitsWord (Numeral.wellFormed_ofNat n) expected (Numeral.fitsWord_of_nat? hlimit)

theorem judges_int (expected : String) {limit : Nat} (hlimit : limit ≤ Numeral.wordLimit 63)
    (n : Int) :
    Judges (int expected limit) (.number (.ofInt n)) ((Numeral.ofInt n).int? limit).isSome :=
  judges_of_fitsWord (Numeral.wellFormed_ofInt n) expected (Numeral.fitsWord_of_int? hlimit)

theorem judges_json (expected : String) (layout : NumberLayout) (x : BinaryNumber) :
    Judges (float expected) (layout.json x) (layout.json x).float?.isSome := by
  rcases layout.json_cases x with h | ⟨n, h, hn⟩
  · rw [h]
    exact judges_null expected _
  · rw [h]
    exact (judges_number hn expected _).congr (Bool.and_true _).symm

theorem judges_ofFloat (expected : String) (x : Float) :
    Judges (float expected) (.ofFloat x) (ofFloat x).float?.isSome :=
  judges_json expected _ _

theorem judges_ofFloat32 (expected : String) (x : Float32) :
    Judges (float expected) (.ofFloat32 x) (ofFloat32 x).float32?.isSome :=
  (judges_json expected _ _).congr (isSome_float32? _)

/-!
## Refusals
-/

theorem refusal_of_stop {reason : Reason} {offset : Nat} {document : List UInt8}
    (h : (kind ⟨0, document⟩).1 = .error ⟨reason, some offset⟩) :
    refusal kind document = .after document reason offset := by
  have hwhole : (whole kind ⟨0, document⟩).1 = .error ⟨reason, some offset⟩ := bind_of_error h
  unfold refusal
  generalize whole kind ⟨0, document⟩ = outcome at hwhole ⊢
  rcases outcome with ⟨result, c⟩
  cases hwhole
  rfl

/-- A printed value that is refused is refused for the same reason, whatever follows it. -/
theorem refusal_print_append (h : Judges kind v false) {tail : List UInt8} (htail : Ends tail) :
    refusal kind (v.print ++ tail) = refusal kind v.print := by
  cases h with
  | stops reason read hread hstop =>
      have hends : Ends [] := fun b hb => nomatch hb
      have hlong := hstop 0 0 tail (Nat.le_refl 0) htail
      have hshort := hstop 0 0 [] (Nat.le_refl 0) hends
      rw [List.append_nil] at hshort
      rw [refusal_of_stop hlong, refusal_of_stop hshort]
      simp only [Refusal.after, Nat.zero_add, List.take_append_of_le_length hread]

end Scan
end Json
end Polyglot
