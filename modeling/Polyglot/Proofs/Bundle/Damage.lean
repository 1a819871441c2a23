import Polyglot.Proofs.Bundle.Faults
import Polyglot.Proofs.Bundle.Refusals
import Polyglot.Proofs.Json.Endings

/-!
# Damaged files

A file that holds only the beginning of a bundle, or a bundle and something behind it,
is told from the bundle itself, wherever it is cut and whatever follows.
-/

namespace Polyglot
namespace Bundle

open Json

theorem read_of_parse_eq_none {bytes : List UInt8} (h : parse bytes = none) :
    read bytes = .error (.corrupt (refusal bytes)) := by
  rw [read, h]
  rfl

theorem read_take_write (c : Classifier) {n : Nat} (hn : n < (write c).length) :
    read ((write c).take n) = .error (.corrupt (refusal ((write c).take n))) :=
  read_of_parse_eq_none (parse_take_print (spelled_json _ _ _) hn)

theorem ends_of_blanks {rest : List UInt8} (h : forall b, b ∈ rest -> isBlankByte b = true) :
    Scan.Ends rest := by
  intro b hb
  have hblank := h b (List.mem_of_mem_head? hb)
  simp only [isBlankByte, Bool.or_eq_true, beq_iff_eq] at hblank
  rcases hblank with ((rfl | rfl) | rfl) | rfl
  · rfl
  · rfl
  · rfl
  · rfl

theorem read_write_append_blanks (c : Classifier) {rest : List UInt8}
    (h : forall b, b ∈ rest -> isBlankByte b = true) :
    read (write c ++ rest) = read (write c) := by
  have hparsed : parse (write c) = some (json c.fingerprint c.vectorizer c.forest) :=
    parse_print (spelled_json _ _ _)
  have hwhole : parse (write c ++ rest) = parse (write c) := by
    rw [hparsed]
    exact (parse_print_append (spelled_json _ _ _) rest).trans
      (if_pos (List.all_eq_true.mpr h))
  unfold read
  rw [hwhole, hparsed, Option.bind_some]
  cases hparts : parts? (json c.fingerprint c.vectorizer c.forest) with
  | none => rw [refusal_write_append hparts (ends_of_blanks h)]
  | some parts => rfl

theorem read_write_append (c : Classifier) {rest : List UInt8}
    (h : ∃ b, b ∈ rest ∧ isBlankByte b = false) :
    read (write c ++ rest) = .error (.corrupt (refusal (write c ++ rest))) := by
  apply read_of_parse_eq_none
  refine (parse_print_append (spelled_json _ _ _) rest).trans (if_neg ?_)
  intro hall
  rcases h with ⟨b, hb, hblank⟩
  rw [List.all_eq_true.mp hall b hb] at hblank
  cases hblank

/-- The name of the first field alone takes eleven bytes. -/
theorem lt_length_write (c : Classifier) : 9 < (write c).length := by
  have hname : (escape "fingerprint".toList).length = 11 := by decide
  rw [write, json, ofEntries, List.map_cons, print]
  simp only [printText, List.length_cons, List.length_append, hname]
  omega

/--
Loading refuses as corrupt every file that a saved bundle is cut short to, be it in the
middle of a character or of a number, and every file in which anything but blanks
follows the bundle.  Blanks behind it make no difference.
-/
theorem load_of_cut_or_extended (c : Classifier) (path : Path) (w : Workspace) :
    (forall n, n < (write c).length -> w.files.read path = .ok ((write c).take n) ->
      ((load path : StateM Workspace _) w).1 =
        .error (.bundle (.corrupt (refusal ((write c).take n))))) ∧
    forall rest, w.files.read path = .ok (write c ++ rest) ->
      ((∃ b, b ∈ rest ∧ isBlankByte b = false) ->
        ((load path : StateM Workspace _) w).1 =
          .error (.bundle (.corrupt (refusal (write c ++ rest))))) ∧
      ((forall b, b ∈ rest -> isBlankByte b = true) -> forall (saved : Path) (w' : Workspace),
        w'.files.read saved = .ok (write c) ->
          ((load path : StateM Workspace _) w).1 = ((load saved : StateM Workspace _) w').1) := by
  constructor
  · intro n hn hread
    rw [load_of_read hread, read_take_write c hn]
    rfl
  · intro rest hread
    constructor
    · intro hsome
      rw [load_of_read hread, read_write_append c hsome]
      rfl
    · intro hblank saved w' hsaved
      rw [load_of_read hread, read_write_append_blanks c hblank, load_of_read hsaved]

/-- A bundle cut in the name of its first field, and bundles with a bracket and a line break. -/
theorem load_of_cut_or_extended_stray :
    9 < (write stray).length ∧
      ((load ⟨"m.json"⟩ : StateM Workspace _) (oneFile ((write stray).take 9))).1 =
        .error (.bundle (.corrupt (refusal ((write stray).take 9)))) ∧
      ((load ⟨"m.json"⟩ : StateM Workspace _) (oneFile (write stray ++ [0x20, 0x5d]))).1 =
        .error (.bundle (.corrupt (refusal (write stray ++ [0x20, 0x5d])))) ∧
      ((load ⟨"m.json"⟩ : StateM Workspace _) (oneFile (write stray ++ [0x0d, 0x0a]))).1 =
        ((load ⟨"m.json"⟩ : StateM Workspace _) (oneFile (write stray))).1 := by
  have hlength := lt_length_write stray
  have hblank : forall b, b ∈ [0x0d, 0x0a] -> isBlankByte b = true := by
    intro b hb
    rcases List.mem_pair.mp hb with rfl | rfl
    · rfl
    · rfl
  have hcut := load_of_cut_or_extended stray ⟨"m.json"⟩ (oneFile ((write stray).take 9))
  have hbracket := load_of_cut_or_extended stray ⟨"m.json"⟩ (oneFile (write stray ++ [0x20, 0x5d]))
  have hbreak := load_of_cut_or_extended stray ⟨"m.json"⟩ (oneFile (write stray ++ [0x0d, 0x0a]))
  refine ⟨hlength, ?_, ?_, ?_⟩
  · exact hcut.1 9 hlength (read_oneFile _)
  · exact (hbracket.2 [0x20, 0x5d] (read_oneFile _)).1 ⟨0x5d, by simp, rfl⟩
  · exact (hbreak.2 [0x0d, 0x0a] (read_oneFile _)).2 hblank _ _ (read_oneFile _)

end Bundle
end Polyglot
