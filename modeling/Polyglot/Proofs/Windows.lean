import Mathlib.Data.List.Basic
import Polyglot.Text.Windows

/-!
# Windows and occurrences

The windows of a text list every pattern of the widths in question as often as
it occurs in the text.
-/

namespace Polyglot
namespace Text

theorem occurrences_of_length_lt {pattern cs : List Char} (h : cs.length < pattern.length) :
    occurrences pattern cs = 0 := by
  induction cs with
  | nil =>
      cases pattern with
      | nil => cases h
      | cons x pattern => rfl
  | cons c cs ih =>
      rw [List.length_cons] at h
      have hno : pattern.isPrefixOf (c :: cs) = false := by
        rw [Bool.eq_false_iff, ne_eq, List.isPrefixOf_iff_prefix]
        intro hprefix
        have := hprefix.length_le
        rw [List.length_cons] at this
        omega
      rw [occurrences, hno, ih (by omega)]
      rfl

theorem occurrences_append_le (pattern more cs : List Char) :
    occurrences (pattern ++ more) cs ≤ occurrences pattern cs := by
  induction cs with
  | nil =>
      cases pattern with
      | nil =>
          show (if more.isEmpty then 1 else 0) ≤ 1
          split
          · exact Nat.le_refl 1
          · exact Nat.zero_le 1
      | cons x pattern => exact Nat.le_refl 0
  | cons c cs ih =>
      rw [occurrences, occurrences]
      apply Nat.add_le_add _ ih
      by_cases hlong : (pattern ++ more).isPrefixOf (c :: cs) = true
      · have hshort : pattern.isPrefixOf (c :: cs) = true := by
          rw [List.isPrefixOf_iff_prefix] at hlong ⊢
          exact (List.prefix_append pattern more).trans hlong
        simp [hlong, hshort]
      · rw [if_neg hlong]
        exact Nat.zero_le _

theorem length_of_mem_windows {n : Nat} {cs window : List Char} (h : window ∈ windows n cs) :
    window.length = n := by
  induction cs with
  | nil => cases h
  | cons c cs ih =>
      rw [windows] at h
      split at h
      · rename_i hfull
        rcases List.mem_cons.mp h with rfl | h
        · exact hfull.2
        · exact ih h
      · cases h

theorem count_windows {pattern : List Char} (h : 0 < pattern.length) (cs : List Char) :
    (windows pattern.length cs).count pattern = occurrences pattern cs := by
  induction cs with
  | nil => rw [@occurrences_of_length_lt _ [] h, windows, List.count_nil]
  | cons c cs ih =>
      rw [windows]
      by_cases hfull : ((c :: cs).take pattern.length).length = pattern.length
      · rw [if_pos ⟨h, hfull⟩, List.count_cons, ih, occurrences, Nat.add_comm]
        congr 1
        have hsame : ((c :: cs).take pattern.length == pattern) = pattern.isPrefixOf (c :: cs) := by
          rw [Bool.eq_iff_iff, beq_iff_eq, List.isPrefixOf_iff_prefix, List.prefix_iff_eq_take]
          exact eq_comm
        rw [hsame]
      · have hshort : (c :: cs).length < pattern.length := by
          rw [List.length_take] at hfull
          omega
        rw [if_neg fun hboth => hfull hboth.2, occurrences_of_length_lt hshort, List.count_nil]

theorem count_windows_of_ne {pattern cs : List Char} {n : Nat} (h : pattern.length ≠ n) :
    (windows n cs).count pattern = 0 := by
  apply List.count_eq_zero_of_not_mem
  intro hmem
  exact h (length_of_mem_windows hmem)

theorem count_flatMap_windows {widths : List Nat} (hnodup : widths.Nodup) (pattern cs : List Char) :
    (widths.flatMap fun n => windows n cs).count pattern =
      if pattern.length ∈ widths then (windows pattern.length cs).count pattern else 0 := by
  induction widths with
  | nil => rfl
  | cons n widths ih =>
      rcases List.nodup_cons.mp hnodup with ⟨hnew, hrest⟩
      rw [List.flatMap_cons, List.count_append, ih hrest]
      by_cases heq : pattern.length = n
      · subst heq
        rw [if_neg hnew, if_pos List.mem_cons_self, Nat.add_zero]
      · rw [count_windows_of_ne heq, Nat.zero_add]
        simp [heq]

theorem count_windowsBetween {lo : Nat} (hlo : 0 < lo) (hi : Nat) (pattern cs : List Char) :
    (windowsBetween lo hi cs).count pattern =
      if lo ≤ pattern.length ∧ pattern.length ≤ hi then occurrences pattern cs else 0 := by
  rw [windowsBetween, count_flatMap_windows (List.nodup_range.filter _)]
  simp only [List.mem_filter, List.mem_range, Bool.and_eq_true, decide_eq_true_eq]
  by_cases hrange : lo ≤ pattern.length ∧ pattern.length ≤ hi
  · rw [if_pos hrange, count_windows (Nat.lt_of_lt_of_le hlo hrange.1)]
    by_cases hfits : pattern.length < cs.length + 1
    · rw [if_pos ⟨hfits, hrange⟩]
    · rw [if_neg fun h => hfits h.1, occurrences_of_length_lt (by omega)]
  · rw [if_neg fun h => hrange h.2, if_neg hrange]

end Text
end Polyglot
