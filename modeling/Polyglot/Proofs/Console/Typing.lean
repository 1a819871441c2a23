import Mathlib.Data.List.Basic
import Polyglot.Proofs.Bundle.RoundTrip
import Polyglot.Proofs.Console.Conversation

/-!
# Typed snippets

A snippet can be typed at a prompt or kept in a file.  Its lines reach a dialogue as they
were typed, but the first one might be a command, and it is kept without the blanks around
it.  A file is taken as it stands, so the two agree exactly if there are no such blanks.
-/

namespace Polyglot

namespace Text

theorem pieces_eq_splitOn {α : Type} [DecidableEq α] (separator : α) (xs : List α) :
    pieces separator xs = xs.splitOn separator := by
  induction xs with
  | nil => rfl
  | cons x xs ih =>
      rw [pieces, ih, List.splitOn_cons_eq_if_modifyHead]
      by_cases hx : x = separator
      · rw [if_pos hx, if_pos (beq_iff_eq.mpr hx)]
      · rw [if_neg hx, if_neg fun h => hx (beq_iff_eq.mp h)]
        cases hpieces : xs.splitOn separator with
        | nil => exact absurd hpieces (List.splitOn_ne_nil separator xs)
        | cons piece rest => rfl

def Unbroken (line : String) : Prop :=
  '\n' ∉ line.toList ∧ '\r' ∉ line.toList

instance (line : String) : Decidable (Unbroken line) :=
  inferInstanceAs (Decidable (_ ∧ _))

namespace Unbroken

variable {line : String}

theorem not_mem_bytes (h : Unbroken line) : 0x0a ∉ bytes line := by
  intro hmem
  exact h.1 (mem_of_mem_utf8 (by decide) hmem)

theorem dropReturn_bytes (h : Unbroken line) : dropReturn (bytes line) = bytes line := by
  apply if_neg
  intro hlast
  exact h.2 (mem_of_mem_utf8 (by decide) (List.mem_of_getLast? hlast))

end Unbroken

def typed (texts : List String) : List UInt8 :=
  texts.flatMap fun line => bytes line ++ [0x0a]

variable {texts : List String}

theorem pieces_typed (h : forall line, line ∈ texts -> Unbroken line) :
    pieces 0x0a (typed texts) = texts.map bytes ++ [[]] := by
  induction texts with
  | nil => rfl
  | cons line texts ih =>
      have hrest := ih fun l hl => h l (List.mem_cons_of_mem line hl)
      rw [pieces_eq_splitOn] at hrest
      rw [pieces_eq_splitOn, typed, List.flatMap_cons, List.append_assoc, List.singleton_append,
        List.splitOn_append_cons_self_of_not_mem (h line List.mem_cons_self).not_mem_bytes]
      exact congrArg (bytes line :: ·) hrest

theorem lines_typed (h : forall line, line ∈ texts -> Unbroken line) :
    lines (typed texts) = texts.map bytes := by
  have hkept : texts.map (dropReturn ∘ bytes) = texts.map bytes :=
    List.map_congr_left fun line hline => (h line hline).dropReturn_bytes
  rw [lines, pieces_typed h, List.dropLast_concat, List.getLast?_concat, List.map_map, hkept]
  exact List.append_nil _

end Text

/-!
## Files
-/

section Files

open Polyglot.Bundle (bind_workspace)

variable {w : Workspace} {path : Path} {text : String}

namespace Predictor

theorem readText_of_read (h : w.files.read path = .ok (Text.bytes text)) :
    (readText path : StateM Workspace _) w = (.ok text, w) := by
  have hread : (Host.read path : StateM Workspace _) w = (.ok (Text.bytes text), w) := by
    rw [← h]
    rfl
  unfold readText
  rw [bind_workspace, hread]
  dsimp only
  rw [Text.ofUtf8?_bytes]
  dsimp only
  rw [String.ofList_toList]
  rfl

theorem predictFile_of_read (p : Predictor) (h : w.files.read path = .ok (Text.bytes text)) :
    (p.predictFile path : StateM Workspace _) w =
      (p.predict text : StateM Workspace _) (w.note [fileEntry path]) := by
  unfold predictFile
  rw [bind_workspace, readText_of_read h]
  rfl

theorem error_of_classify {p : Predictor} {e : PredictorError} (h : p.classify text = .error e) :
    e = .notTrained ∨ ∃ f, e = .classifier f := by
  unfold classify at h
  cases hclassifier : p.classifier with
  | none =>
      rw [hclassifier] at h
      cases h
      exact .inl rfl
  | some c =>
      rw [hclassifier] at h
      dsimp only at h
      cases hpredict : c.predict text with
      | ok q =>
          rw [hpredict] at h
          cases h
      | error f =>
          rw [hpredict] at h
          cases h
          exact .inr ⟨f, rfl⟩

end Predictor

theorem Console.showFile_of_read (p : Predictor) (h : w.files.read path = .ok (Text.bytes text)) :
    (Console.showFile p path : StateM Workspace _) w =
      (Console.perform p (some (.predict text)) : StateM Workspace _)
        (w.note [Predictor.fileEntry path]) := by
  have hpredict : forall before, (p.predict text : StateM Workspace _) before =
      (p.classify text, before.note (p.classifyJournal text)) := fun _ => rfl
  show (Console.showFile p path : StateM Workspace _) w =
    (p.predict text >>= Console.showPrediction : StateM Workspace _) _
  unfold Console.showFile
  rw [bind_workspace, p.predictFile_of_read h, bind_workspace, hpredict]
  dsimp only
  cases hclassify : p.classify text with
  | ok q => rfl
  | error e =>
      cases Predictor.error_of_classify hclassify with
      | inl huntrained =>
          rw [huntrained]
      | inr hfailure =>
          rcases hfailure with ⟨f, hf⟩
          rw [hf]

end Files

namespace Console
namespace Dialogue

/-!
## Snippets
-/

def Snippet.text (s : Snippet) : String :=
  "\n".intercalate s.lines

/-- A snippet is taken as it stands exactly if its first line has no blanks around it. -/
theorem Snippet.code_eq_text (s : Snippet) : s.code = s.text ↔ trimmed s.first = s.first := by
  rw [code, text, lines]
  cases s.body with
  | nil => rw [String.intercalate_singleton, String.intercalate_singleton]
  | cons next body =>
      rw [String.intercalate_cons_cons, String.intercalate_cons_cons, String.append_assoc,
        String.append_assoc, String.append_left_inj]

theorem Snippet.actions_closed (s : Snippet) (h : ¬s.Blank) {last : String} (hlast : Closes last) :
    Dialogue.actions (s.lines ++ [last]) = [.predict s.code] := by
  have hactions := actions_turns [.snippet s last hlast] .atPrompt
  rw [Ending.lines, Ending.actions, List.append_nil, List.append_nil, List.flatMap_singleton,
    List.flatMap_singleton, Turn.lines, Turn.actions, Snippet.actions, if_neg h] at hactions
  exact hactions

end Dialogue

open Dialogue

/--
A snippet that is typed line by line is predicted without the blanks around its first line,
and a file with the same lines is predicted as it stands.  Both ask for the same prediction,
and show it alike, exactly if there are no such blanks.
-/
theorem snippet_as_file {m : Type → Type} [Monad m] [LawfulMonad m] [Host m] (p : Predictor)
    (s : Snippet) (hlines : forall line, line ∈ s.lines -> Text.Unbroken line)
    (hvisible : ¬s.Blank) :
    (converse p .waiting (Text.lines (Text.typed (s.lines ++ [closing]))) : m ExitCode) =
      carryOut p (moves (s.lines ++ [closing])) (return success) ∧
    (moves (s.lines ++ [closing])).filterMap Move.action? = [.predict s.code] ∧
    (forall (path : Path) (w : Workspace), w.files.read path = .ok (Text.bytes s.text) ->
      (p.predictFile path : StateM Workspace _) w =
        (p.predict s.text : StateM Workspace _) (w.note [Predictor.fileEntry path]) ∧
      (showFile p path : StateM Workspace _) w =
        (perform p (some (.predict s.text)) : StateM Workspace _)
          (w.note [Predictor.fileEntry path])) ∧
    ((moves (s.lines ++ [closing])).filterMap Move.action? = [.predict s.text] ↔
      trimmed s.first = s.first) := by
  have hunbroken : Text.Unbroken closing := by decide
  have hcloses : Closes closing := by
    unfold Closes
    decide
  have hall : forall line, line ∈ s.lines ++ [closing] -> Text.Unbroken line := by
    intro line hline
    cases List.mem_append.mp hline with
    | inl hinside => exact hlines line hinside
    | inr hlast => exact List.mem_singleton.mp hlast ▸ hunbroken
  have hactions : (moves (s.lines ++ [closing])).filterMap Move.action? = [.predict s.code] :=
    (action?_moves _).trans (s.actions_closed hvisible hcloses)
  refine ⟨?_, hactions, ?_, ?_⟩
  · rw [Text.lines_typed hall]
    exact converse_eq p _
  · intro path w hread
    exact ⟨p.predictFile_of_read hread, showFile_of_read p hread⟩
  · rw [hactions, ← s.code_eq_text, List.singleton_inj, Action.predict.injEq]

def Dialogue.Snippet.definition : Snippet where
  first := "def f(a):"
  body := ["    return a"]
  opens := by
    unfold Opens
    decide
  inside := by
    unfold Closes
    decide

theorem snippet_as_file_definition :
    (forall line, line ∈ Snippet.definition.lines -> Text.Unbroken line) ∧
      ¬Snippet.definition.Blank ∧ trimmed Snippet.definition.first = Snippet.definition.first ∧
      (moves (Snippet.definition.lines ++ [closing])).filterMap Move.action? =
        [.predict Snippet.definition.text] := by
  have hlines : forall line, line ∈ Snippet.definition.lines -> Text.Unbroken line := by
    decide
  have hvisible : ¬Snippet.definition.Blank := by decide
  have htrimmed : trimmed Snippet.definition.first = Snippet.definition.first := by
    decide
  have hsame := @snippet_as_file (StateM Workspace) _ _ _ ⟨⟨"m.json"⟩, {}, {}, none⟩ _ hlines hvisible
  exact ⟨hlines, hvisible, htrimmed, hsame.2.2.2.mpr htrimmed⟩

def Dialogue.Snippet.indented : Snippet where
  first := "    return a"
  body := []
  opens := by
    unfold Opens
    decide
  inside := fun _ h => absurd h List.not_mem_nil

/-- The blanks at the beginning of a typed snippet are lost, those of a file are not. -/
theorem snippet_unlike_file :
    (forall line, line ∈ Snippet.indented.lines -> Text.Unbroken line ∧ trimmed line ≠ closing) ∧
      ¬Snippet.indented.Blank ∧
      Snippet.indented.text = "    return a" ∧
      Dialogue.actions (Snippet.indented.lines ++ [closing]) = [.predict "return a"] ∧
      Dialogue.actions (Snippet.indented.lines ++ [closing]) ≠ [.predict Snippet.indented.text] ∧
      forall p : Predictor,
        (p.predictFile ⟨"a.py"⟩ : StateM Workspace _)
            { files := ⟨[(["a.py"], .file (Text.bytes "    return a"))]⟩ } =
          (p.predict "    return a" : StateM Workspace _)
            { files := ⟨[(["a.py"], .file (Text.bytes "    return a"))]⟩
              journal := [Predictor.fileEntry ⟨"a.py"⟩] } := by
  refine ⟨by decide, by decide, by decide, by decide, by decide, ?_⟩
  intro p
  exact p.predictFile_of_read rfl

end Console
end Polyglot
