import Mathlib.Data.List.Infix
import Polyglot.Features.Structure
import Polyglot.Proofs.Windows

/-!
# Structural counts

Indentation is found by its first character, a line break, which it has nowhere else.
So its matches never overlap, there is one for each line that is indented, and joining
two texts makes at most one more.
-/

namespace Polyglot

namespace Text

theorem contains_iff {pattern cs : List Char} : contains pattern cs = true ↔ pattern <:+: cs := by
  induction cs with
  | nil => rw [contains, List.isEmpty_iff, List.infix_nil]
  | cons c cs ih =>
      rw [contains, Bool.or_eq_true, List.isPrefixOf_iff_prefix, ih, List.infix_cons_iff]

/--
The number of matches that a search from left to right finds if it goes on behind each
match; the first `skip` characters belong to a match already.
-/
def disjointMatches (pattern : List Char) : Nat → List Char → Nat
  | _, [] => 0
  | skip + 1, _ :: cs => disjointMatches pattern skip cs
  | 0, c :: cs =>
      if pattern.isPrefixOf (c :: cs) then 1 + disjointMatches pattern (pattern.length - 1) cs
      else disjointMatches pattern 0 cs

/-!
## Joined texts
-/

theorem isPrefixOf_append {pattern a : List Char} (h : pattern.isPrefixOf a = true)
    (b : List Char) : pattern.isPrefixOf (a ++ b) = true := by
  rw [List.isPrefixOf_iff_prefix] at *
  exact h.trans (List.prefix_append a b)

theorem add_occurrences_le {pattern : List Char} (h : pattern ≠ []) (a b : List Char) :
    occurrences pattern a + occurrences pattern b ≤ occurrences pattern (a ++ b) := by
  induction a with
  | nil =>
      have hnone : occurrences pattern [] = 0 :=
        occurrences_of_length_lt (List.length_pos_of_ne_nil h)
      rw [hnone, Nat.zero_add]
      exact Nat.le_refl _
  | cons c a ih =>
      rw [List.cons_append, occurrences, occurrences]
      by_cases hprefix : pattern.isPrefixOf (c :: a) = true
      · have hjoined := isPrefixOf_append hprefix b
        rw [List.cons_append] at hjoined
        rw [if_pos hprefix, if_pos hjoined]
        omega
      · rw [if_neg hprefix]
        omega

theorem occurrences_le_of_part {pattern : List Char} (h : pattern ≠ []) {a c : List Char}
    (hpart : a <:+: c) : occurrences pattern a ≤ occurrences pattern c := by
  rcases hpart with ⟨before, after, rfl⟩
  calc occurrences pattern a
    _ ≤ occurrences pattern before + occurrences pattern a := Nat.le_add_left _ _
    _ ≤ occurrences pattern (before ++ a) := add_occurrences_le h before a
    _ ≤ occurrences pattern (before ++ a) + occurrences pattern after := Nat.le_add_right _ _
    _ ≤ occurrences pattern (before ++ a ++ after) := add_occurrences_le h _ after

/-!
## Patterns that do not overlap
-/

section Marked

variable {mark : Char} {rest : List Char}

theorem not_isPrefixOf_of_ne {c : Char} (h : c ≠ mark) (cs : List Char) :
    (mark :: rest).isPrefixOf (c :: cs) = false := by
  rw [List.isPrefixOf_cons_cons, beq_false_of_ne (Ne.symm h), Bool.false_and]

theorem occurrences_append_of_not_mem {a : List Char} (h : mark ∉ a) (b : List Char) :
    occurrences (mark :: rest) (a ++ b) = occurrences (mark :: rest) b := by
  induction a with
  | nil => rfl
  | cons c a ih =>
      rcases not_or.mp (mt List.mem_cons.mpr h) with ⟨hne, hrest⟩
      rw [List.cons_append, occurrences, not_isPrefixOf_of_ne (Ne.symm hne), ih hrest]
      exact Nat.zero_add _

/-- A match across the seam lies in the joined text from the last line break of the first text on. -/
theorem not_mem_of_seam {c : Char} {a b : List Char} (hmark : mark ∉ rest)
    (hlong : (mark :: rest).isPrefixOf (c :: a ++ b) = true)
    (hshort : ¬ (mark :: rest).isPrefixOf (c :: a) = true) : mark ∉ a := by
  rw [List.isPrefixOf_iff_prefix] at hlong hshort
  rw [List.cons_append, List.cons_prefix_cons] at hlong
  rw [List.cons_prefix_cons, not_and] at hshort
  have hseam : a <+: rest := by
    rcases List.prefix_or_prefix_of_prefix hlong.2 (List.prefix_append a b) with hrest | ha
    · exact absurd hrest (hshort hlong.1)
    · exact ha
  exact fun hmem => hmark (hseam.subset hmem)

theorem occurrences_append_le_succ (hmark : mark ∉ rest) (a b : List Char) :
    occurrences (mark :: rest) (a ++ b) ≤
      occurrences (mark :: rest) a + occurrences (mark :: rest) b + 1 := by
  induction a with
  | nil =>
      rw [List.nil_append]
      omega
  | cons c a ih =>
      have hseam : (mark :: rest).isPrefixOf (c :: (a ++ b)) = true ->
          ¬ (mark :: rest).isPrefixOf (c :: a) = true -> mark ∉ a :=
        fun hlong hshort => not_mem_of_seam hmark hlong hshort
      rw [List.cons_append, occurrences, occurrences]
      by_cases hshort : (mark :: rest).isPrefixOf (c :: a) = true
      · rw [if_pos hshort]
        split
        · omega
        · omega
      · rw [if_neg hshort]
        by_cases hlong : (mark :: rest).isPrefixOf (c :: (a ++ b)) = true
        · rw [if_pos hlong, occurrences_append_of_not_mem (hseam hlong hshort)]
          omega
        · rw [if_neg hlong]
          omega

theorem disjointMatches_eq_occurrences (hmark : mark ∉ rest) {skip : Nat} {cs : List Char}
    (hskip : mark ∉ cs.take skip) :
    disjointMatches (mark :: rest) skip cs = occurrences (mark :: rest) cs := by
  induction cs generalizing skip with
  | nil =>
      cases skip with
      | zero => rfl
      | succ skip => rfl
  | cons c cs ih =>
      cases skip with
      | succ skip =>
          rw [List.take_succ_cons, List.mem_cons, not_or] at hskip
          rw [disjointMatches, ih hskip.2, occurrences, not_isPrefixOf_of_ne (Ne.symm hskip.1)]
          exact (Nat.zero_add _).symm
      | zero =>
          rw [disjointMatches, occurrences]
          split
          · rename_i hmatch
            have hbehind : cs.take rest.length = rest := by
              rw [List.isPrefixOf_iff_prefix, List.cons_prefix_cons] at hmatch
              exact (List.prefix_iff_eq_take.mp hmatch.2).symm
            rw [List.length_cons, Nat.add_sub_cancel, ih (by rwa [hbehind])]
          · rw [ih (by simp), Nat.zero_add]

/-!
## Lines
-/

theorem isPrefixOf_head_splitOn (hmark : mark ∉ rest) {cs first : List Char}
    {lines : List (List Char)} (h : cs.splitOn mark = first :: lines) :
    rest.isPrefixOf first = rest.isPrefixOf cs := by
  induction cs generalizing rest first lines with
  | nil =>
      cases h
      rfl
  | cons c cs ih =>
      cases rest with
      | nil => rfl
      | cons r rest =>
          rcases not_or.mp (mt List.mem_cons.mpr hmark) with ⟨hne, hrest⟩
          rw [List.splitOn_cons_eq_if_modifyHead] at h
          by_cases hc : c = mark
          · rw [if_pos (beq_iff_eq.mpr hc)] at h
            cases h
            rw [hc, not_isPrefixOf_of_ne hne]
            rfl
          · rw [if_neg (by simpa using hc)] at h
            cases hsplit : cs.splitOn mark with
            | nil => exact absurd hsplit (List.splitOn_ne_nil mark cs)
            | cons line others =>
                rw [hsplit, List.modifyHead_cons] at h
                cases h
                rw [List.isPrefixOf_cons_cons, List.isPrefixOf_cons_cons, ih hrest hsplit]

/-- There is a match for each line after the first one that begins with the rest of the pattern. -/
theorem occurrences_eq_countP_lines (hmark : mark ∉ rest) (cs : List Char) :
    occurrences (mark :: rest) cs = (cs.splitOn mark).tail.countP fun line =>
      rest.isPrefixOf line := by
  induction cs with
  | nil => rfl
  | cons c cs ih =>
      rw [occurrences, ih, List.splitOn_cons_eq_if_modifyHead]
      cases hsplit : cs.splitOn mark with
      | nil => exact absurd hsplit (List.splitOn_ne_nil mark cs)
      | cons first lines =>
          by_cases hc : c = mark
          · rw [if_pos (beq_iff_eq.mpr hc), hc, List.isPrefixOf_cons_cons, beq_self_eq_true,
              Bool.true_and, ← isPrefixOf_head_splitOn hmark hsplit, List.tail_cons, List.tail_cons,
              List.countP_cons, Nat.add_comm]
          · rw [not_isPrefixOf_of_ne hc, if_neg Bool.false_ne_true, if_neg (by simpa using hc),
              List.modifyHead_cons]
            exact Nat.zero_add _

end Marked

end Text

namespace Structure

/-!
## Keywords
-/

theorem keywordHits_eq (keywords : List String) (code : List Char) :
    keywordHits keywords code = keywords.countP fun keyword => keyword.toList <:+: code := by
  apply List.countP_congr
  intro keyword _
  rw [Text.contains_iff, decide_eq_true_iff]

theorem keywordHits_le_of_part (keywords : List String) {a c : List Char} (h : a <:+: c) :
    keywordHits keywords a ≤ keywordHits keywords c := by
  rw [keywordHits_eq, keywordHits_eq]
  apply List.countP_mono_left
  intro keyword _ hkeyword
  rw [decide_eq_true_iff] at *
  exact hkeyword.trans h

namespace Counts

/-!
## All counts
-/

theorem le_of_part {a c : List Char} (h : a <:+: c) :
    List.Forall₂ (· ≤ ·) (ofCode a).toList (ofCode c).toList := by
  have hcharacter : forall x : Char, a.count x ≤ c.count x := fun x => h.sublist.count_le x
  refine .cons (keywordHits_le_of_part _ h) (.cons (keywordHits_le_of_part _ h)
    (.cons (keywordHits_le_of_part _ h) (.cons (keywordHits_le_of_part _ h) ?_)))
  refine .cons (hcharacter _) (.cons ?_ (.cons ?_ (.cons (hcharacter _) .nil)))
  · exact Nat.add_le_add (hcharacter _) (hcharacter _)
  · exact Text.occurrences_le_of_part (by decide) h

/--
The counts of punctuation add up when two texts are joined.  The count of indentation
is that of the matches of a search from left to right, and of the lines after the
first one that begin with four blanks; joining two texts adds at most one.  Each count
of keywords is the number of those that are a part of the text.  A part of a text has
none of the eight counts larger than the text.
-/
theorem counts_of_texts (a b : String) :
    ((ofCode (a ++ b).toList).semicolons =
        (ofCode a.toList).semicolons + (ofCode b.toList).semicolons ∧
      (ofCode (a ++ b).toList).braces = (ofCode a.toList).braces + (ofCode b.toList).braces ∧
      (ofCode (a ++ b).toList).hashes = (ofCode a.toList).hashes + (ofCode b.toList).hashes) ∧
    ((ofCode a.toList).indented = Text.disjointMatches "\n    ".toList 0 a.toList ∧
      (ofCode a.toList).indented = (a.toList.splitOn '\n').tail.countP fun line =>
        "    ".toList.isPrefixOf line) ∧
    ((ofCode (a ++ b).toList).indented =
        (ofCode a.toList).indented + (ofCode b.toList).indented ∨
      (ofCode (a ++ b).toList).indented =
        (ofCode a.toList).indented + (ofCode b.toList).indented + 1) ∧
    ((ofCode a.toList).python =
        pythonKeywords.countP (fun keyword => keyword.toList <:+: a.toList) ∧
      (ofCode a.toList).javascript =
        javascriptKeywords.countP (fun keyword => keyword.toList <:+: a.toList) ∧
      (ofCode a.toList).java =
        javaKeywords.countP (fun keyword => keyword.toList <:+: a.toList) ∧
      (ofCode a.toList).cpp =
        cppKeywords.countP (fun keyword => keyword.toList <:+: a.toList)) ∧
    forall whole : String, (∃ before after, whole = before ++ a ++ after) ->
      List.Forall₂ (· ≤ ·) (ofCode a.toList).toList (ofCode whole.toList).toList := by
  have hmark : '\n' ∉ [' ', ' ', ' ', ' '] := by decide
  have hjoined : (ofCode (a ++ b).toList).indented =
      Text.occurrences indentation (a.toList ++ b.toList) := by
    rw [← String.toList_append]
    rfl
  refine ⟨⟨?_, ?_, ?_⟩, ⟨?_, ?_⟩, ?_, ⟨?_, ?_, ?_, ?_⟩, ?_⟩
  · simp only [ofCode, String.toList_append, List.count_append]
  · simp only [ofCode, String.toList_append, List.count_append]
    omega
  · simp only [ofCode, String.toList_append, List.count_append]
  · exact (Text.disjointMatches_eq_occurrences hmark (by simp)).symm
  · exact Text.occurrences_eq_countP_lines hmark a.toList
  · have hleast := Text.add_occurrences_le (show indentation ≠ [] by decide) a.toList b.toList
    have hmost := Text.occurrences_append_le_succ hmark a.toList b.toList
    rw [hjoined]
    unfold ofCode indentation at *
    dsimp only
    omega
  · exact keywordHits_eq _ _
  · exact keywordHits_eq _ _
  · exact keywordHits_eq _ _
  · exact keywordHits_eq _ _
  · rintro whole ⟨before, after, rfl⟩
    apply le_of_part
    rw [String.toList_append, String.toList_append]
    exact ⟨before.toList, after.toList, rfl⟩

/-- A line break at the seam makes a line that is indented deeply. -/
theorem counts_of_texts_seam :
    (ofCode ("if a;\n" ++ "        #b;").toList).indented = 1 ∧
      (ofCode "if a;\n".toList).indented = 0 ∧ (ofCode "        #b;".toList).indented = 0 ∧
      (ofCode ("if a;\n" ++ "        #b;").toList).semicolons = 2 ∧
      List.Forall₂ (· ≤ ·) (ofCode "if a;\n".toList).toList
        (ofCode "elif a;\n    #".toList).toList := by
  refine ⟨by decide, by decide, by decide, ?_, ?_⟩
  · exact (counts_of_texts "if a;\n" "        #b;").1.1
  · exact (counts_of_texts "if a;\n" "").2.2.2.2 "elif a;\n    #" ⟨"el", "    #", rfl⟩

end Counts
end Structure
end Polyglot
