import Mathlib.Data.List.Basic
import Polyglot.Console.Dialogue

/-!
# Turns of a dialogue

A dialogue takes its lines in turns.  A turn goes from one prompt to the next and is a
command or a snippet with the line that closes it; the last one may be a snippet that
the input ends in, or the command to end.  The actions of a dialogue are those of its
turns, so what has been taken up to a prompt does not matter for what follows.
-/

namespace Polyglot

namespace Text

theorem all_dropWhile {α : Type} (p : α → Bool) (xs : List α) : (xs.dropWhile p).all p = xs.all p := by
  induction xs with
  | nil => rfl
  | cons x xs ih =>
      rw [List.dropWhile_cons, List.all_cons]
      cases hx : p x with
      | true => simpa using ih
      | false => simp [hx]

theorem allBlank_trim (cs : List Char) : allBlank (trim cs) = allBlank cs := by
  rw [allBlank, trim, trimRight, List.all_reverse, all_dropWhile, List.all_reverse, all_dropWhile]
  rfl

theorem allBlank_intercalate (lines : List String) :
    allBlank ("\n".intercalate lines).toList = lines.all fun line => allBlank line.toList := by
  induction lines with
  | nil => rfl
  | cons line lines ih =>
      cases lines with
      | nil => rw [String.intercalate_singleton, List.all_cons, List.all_nil, Bool.and_true]
      | cons next lines =>
          have hbreak : allBlank "\n".toList = true := by decide
          rw [String.intercalate_cons_cons, String.toList_append, String.toList_append, allBlank,
            List.all_append, List.all_append, List.all_cons, ← ih]
          show (allBlank line.toList && allBlank "\n".toList && _) = _
          rw [hbreak, Bool.and_true]
          rfl

end Text

namespace Console
namespace Dialogue

/-!
## Lines
-/

def command (line : String) : String :=
  String.ofList (Text.lower (Text.trim line.toList))

def Opens (line : String) : Prop :=
  command line ∉ quitWords ∧ command line ≠ batteryWord

def Closes (line : String) : Prop :=
  trimmed line = closing

theorem hear_quit {line : String} (h : command line ∈ quitWords) :
    State.waiting.hear line = (.over, some .farewell) :=
  if_pos h

theorem hear_battery {line : String} (h : command line = batteryWord) :
    State.waiting.hear line = (.waiting, some .battery) := by
  have hother : command line ∉ quitWords := by
    rw [h]
    decide
  exact (if_neg hother).trans (if_pos h)

theorem hear_opens {line : String} (h : Opens line) :
    State.waiting.hear line = (.collecting [trimmed line], none) :=
  (if_neg h.1).trans (if_neg h.2)

theorem hear_closes {line : String} (h : Closes line) (lines : List String) :
    (State.collecting lines).hear line = (.waiting, submit lines) :=
  if_pos h

/-- Inside a snippet only a closing line matters; a command is a line like any other. -/
theorem hear_inside {line : String} (h : ¬Closes line) (lines : List String) :
    (State.collecting lines).hear line = (.collecting (line :: lines), none) :=
  if_neg h

namespace State

theorem heard_cons (s : State) (line : String) (lines : List String) :
    s.heard (line :: lines) = (s.hear line).2.toList ++ (s.hear line).1.heard lines :=
  rfl

theorem after_cons (s : State) (line : String) (lines : List String) :
    s.after (line :: lines) = (s.hear line).1.after lines :=
  rfl

theorem after_append (s : State) (lines more : List String) :
    s.after (lines ++ more) = (s.after lines).after more :=
  List.foldl_append

theorem heard_append (s : State) (lines more : List String) :
    s.heard (lines ++ more) = s.heard lines ++ (s.after lines).heard more := by
  induction lines generalizing s with
  | nil => rfl
  | cons line lines ih =>
      rw [List.cons_append, heard_cons, heard_cons, after_cons, ih, List.append_assoc]

theorem after_over (lines : List String) : State.over.after lines = .over := by
  induction lines with
  | nil => rfl
  | cons line lines ih => exact ih

theorem heard_over (lines : List String) : State.over.heard lines = [] := by
  induction lines with
  | nil => rfl
  | cons line lines ih => exact ih

theorem after_inside {body : List String} (h : forall line, line ∈ body -> ¬Closes line)
    (lines : List String) :
    (State.collecting lines).after body = .collecting (body.reverse ++ lines) := by
  induction body generalizing lines with
  | nil => rfl
  | cons line body ih =>
      rw [after_cons, hear_inside (h line List.mem_cons_self),
        ih fun l hl => h l (List.mem_cons_of_mem line hl)]
      rw [List.reverse_cons, List.append_assoc]
      rfl

theorem heard_inside {body : List String} (h : forall line, line ∈ body -> ¬Closes line)
    (lines : List String) : (State.collecting lines).heard body = [] := by
  induction body generalizing lines with
  | nil => rfl
  | cons line body ih =>
      rw [heard_cons, hear_inside (h line List.mem_cons_self),
        ih fun l hl => h l (List.mem_cons_of_mem line hl)]
      rfl

end State

/-!
## Snippets
-/

/-- The lines of a snippet: one that begins it, and others that do not close it. -/
structure Snippet where
  first : String
  body : List String
  opens : Opens first
  inside : forall line, line ∈ body -> ¬Closes line

namespace Snippet

def lines (s : Snippet) : List String :=
  s.first :: s.body

def Blank (s : Snippet) : Prop :=
  forall line, line ∈ s.lines -> Text.allBlank line.toList = true

instance (s : Snippet) : Decidable s.Blank :=
  List.decidableBAll _ _

def code (s : Snippet) : String :=
  "\n".intercalate (trimmed s.first :: s.body)

/-- A snippet asks for one prediction, unless it is blank. -/
def actions (s : Snippet) : List Action :=
  if s.Blank then [] else [.predict s.code]

theorem allBlank_code (s : Snippet) : Text.allBlank s.code.toList = true ↔ s.Blank := by
  rw [code, Text.allBlank_intercalate, List.all_cons, trimmed, String.toList_ofList,
    Text.allBlank_trim]
  exact @List.all_eq_true _ (fun line => Text.allBlank line.toList) s.lines

theorem submit_eq (s : Snippet) :
    (submit (s.body.reverse ++ [trimmed s.first])).toList = s.actions := by
  have hlines : (s.body.reverse ++ [trimmed s.first]).reverse = trimmed s.first :: s.body := by
    rw [List.reverse_append, List.reverse_reverse]
    rfl
  rw [submit, hlines, actions]
  show Option.toList (if Text.allBlank s.code.toList = true then none else _) = _
  by_cases hblank : s.Blank
  · rw [if_pos (s.allBlank_code.mpr hblank), if_pos hblank]
    rfl
  · rw [if_neg fun h => hblank (s.allBlank_code.mp h), if_neg hblank]
    rfl

theorem after_lines (s : Snippet) :
    State.waiting.after s.lines = .collecting (s.body.reverse ++ [trimmed s.first]) := by
  rw [lines, State.after_cons, hear_opens s.opens]
  exact State.after_inside s.inside _

theorem heard_lines (s : Snippet) : State.waiting.heard s.lines = [] := by
  rw [lines, State.heard_cons, hear_opens s.opens]
  exact State.heard_inside s.inside _

end Snippet

/-!
## Turns
-/

/-- What is taken from one prompt to the next. -/
inductive Turn where
  | battery (line : String) (h : command line = batteryWord)
  | snippet (s : Snippet) (last : String) (h : Closes last)

namespace Turn

def lines : Turn → List String
  | .battery line _ => [line]
  | .snippet s last _ => s.lines ++ [last]

def actions : Turn → List Action
  | .battery _ _ => [.battery]
  | .snippet s _ _ => s.actions

theorem after_lines (t : Turn) : State.waiting.after t.lines = .waiting := by
  cases t with
  | battery line h =>
      rw [lines, State.after_cons, hear_battery h]
      rfl
  | snippet s last h =>
      rw [lines, State.after_append, s.after_lines, State.after_cons, hear_closes h]
      rfl

theorem heard_lines (t : Turn) : State.waiting.heard t.lines = t.actions := by
  cases t with
  | battery line h =>
      rw [lines, State.heard_cons, hear_battery h]
      rfl
  | snippet s last h =>
      rw [lines, State.heard_append, s.after_lines, s.heard_lines, State.heard_cons,
        hear_closes h, s.submit_eq]
      exact List.append_nil _

end Turn

theorem State.after_turns (turns : List Turn) :
    State.waiting.after (turns.flatMap Turn.lines) = .waiting := by
  induction turns with
  | nil => rfl
  | cons t turns ih => rw [List.flatMap_cons, after_append, t.after_lines, ih]

theorem State.heard_turns (turns : List Turn) :
    State.waiting.heard (turns.flatMap Turn.lines) = turns.flatMap Turn.actions := by
  induction turns with
  | nil => rfl
  | cons t turns ih =>
      rw [List.flatMap_cons, List.flatMap_cons, heard_append, t.after_lines, t.heard_lines, ih]

/-- How the lines end after the last turn that leads to another prompt. -/
inductive Ending where
  | atPrompt
  | unfinished (s : Snippet)
  | farewell (line : String) (h : command line ∈ quitWords) (unread : List String)

namespace Ending

def lines : Ending → List String
  | .atPrompt => []
  | .unfinished s => s.lines
  | .farewell line _ unread => line :: unread

def actions : Ending → List Action
  | .atPrompt => []
  | .unfinished s => s.actions
  | .farewell _ _ _ => [.farewell]

end Ending

/-- The actions of a dialogue are those of its turns, in their order. -/
theorem actions_turns (turns : List Turn) (e : Ending) :
    Dialogue.actions (turns.flatMap Turn.lines ++ e.lines) =
      turns.flatMap Turn.actions ++ e.actions := by
  rw [Dialogue.actions, State.heard_append, State.after_append, State.after_turns,
    State.heard_turns, List.append_assoc]
  congr 1
  cases e with
  | atPrompt => rfl
  | unfinished s =>
      rw [Ending.lines, s.heard_lines, s.after_lines]
      exact s.submit_eq
  | farewell line h unread =>
      rw [Ending.lines, State.heard_cons, State.after_cons, hear_quit h]
      show [Action.farewell] ++ State.over.heard unread ++ _ = _
      rw [State.heard_over, State.after_over]
      rfl

def Action.GoesOn : Action → Prop
  | .predict code => Text.allBlank code.toList = false
  | .battery => True
  | .farewell => False

theorem Snippet.goesOn {s : Snippet} {a : Action} (h : a ∈ s.actions) : a.GoesOn := by
  unfold actions at h
  split at h
  · cases h
  · rename_i hblank
    rw [List.mem_singleton] at h
    rw [h, Action.GoesOn, ← Bool.not_eq_true, s.allBlank_code]
    exact hblank

theorem Turn.goesOn {t : Turn} {a : Action} (h : a ∈ t.actions) : a.GoesOn := by
  cases t with
  | battery line hline =>
      rw [actions, List.mem_singleton] at h
      rw [h]
      exact trivial
  | snippet s last hlast => exact s.goesOn h

theorem goesOn_of_mem_turns {turns : List Turn} {a : Action}
    (h : a ∈ turns.flatMap Turn.actions) : a.GoesOn := by
  rcases List.mem_flatMap.mp h with ⟨t, _, ht⟩
  exact t.goesOn ht

theorem exists_closing (lines : List String) :
    (forall line, line ∈ lines -> ¬Closes line) ∨
      ∃ body last rest, lines = body ++ last :: rest ∧
        (forall line, line ∈ body -> ¬Closes line) ∧ Closes last := by
  induction lines with
  | nil => exact .inl fun line hline => absurd hline List.not_mem_nil
  | cons line lines ih =>
      by_cases hline : Closes line
      · exact .inr ⟨[], line, lines, rfl, fun l hl => absurd hl List.not_mem_nil, hline⟩
      · cases ih with
        | inl hnone =>
            apply Or.inl
            intro l hl
            cases List.mem_cons.mp hl with
            | inl heq => exact heq ▸ hline
            | inr hmem => exact hnone l hmem
        | inr hsome =>
            rcases hsome with ⟨body, last, rest, heq, hbody, hlast⟩
            refine .inr ⟨line :: body, last, rest, by rw [heq]; rfl, ?_, hlast⟩
            intro l hl
            cases List.mem_cons.mp hl with
            | inl heq => exact heq ▸ hline
            | inr hmem => exact hbody l hmem

theorem exists_turns (lines : List String) :
    ∃ (turns : List Turn) (e : Ending), lines = turns.flatMap Turn.lines ++ e.lines := by
  induction hlength : lines.length using Nat.strongRecOn generalizing lines with
  | ind n ih =>
      subst hlength
      cases lines with
      | nil => exact ⟨[], .atPrompt, rfl⟩
      | cons line lines =>
          by_cases hquit : command line ∈ quitWords
          · exact ⟨[], .farewell line hquit lines, rfl⟩
          by_cases hbattery : command line = batteryWord
          · rcases ih lines.length (Nat.lt_succ_self _) lines rfl with ⟨turns, e, heq⟩
            exact ⟨.battery line hbattery :: turns, e, congrArg (line :: ·) heq⟩
          cases exists_closing lines with
          | inl hinside => exact ⟨[], .unfinished ⟨line, lines, ⟨hquit, hbattery⟩, hinside⟩, rfl⟩
          | inr hclosed =>
              rcases hclosed with ⟨body, last, rest, rfl, hbody, hlast⟩
              have hshorter : rest.length < (line :: (body ++ last :: rest)).length := by
                simp only [List.length_cons, List.length_append]
                omega
              rcases ih rest.length hshorter rest rfl with ⟨turns, e, heq⟩
              refine ⟨.snippet ⟨line, body, ⟨hquit, hbattery⟩, hbody⟩ last hlast :: turns, e, ?_⟩
              rw [List.flatMap_cons, Turn.lines, Snippet.lines, heq]
              simp

/-!
## Prompts
-/

/--
Lines that lead back to a prompt: none of them is taken as the command to end, and the
last one is a command or closes a snippet.
-/
def AtPrompt (lines : List String) : Prop :=
  ∃ turns : List Turn, lines = turns.flatMap Turn.lines

theorem AtPrompt.after_eq {lines : List String} (h : AtPrompt lines) :
    State.waiting.after lines = .waiting := by
  rcases h with ⟨turns, rfl⟩
  exact State.after_turns turns

theorem atPrompt_iff (lines : List String) :
    AtPrompt lines ↔ State.waiting.after lines = .waiting := by
  constructor
  · exact AtPrompt.after_eq
  · intro h
    rcases exists_turns lines with ⟨turns, e, rfl⟩
    rw [State.after_append, State.after_turns] at h
    cases e with
    | atPrompt => exact ⟨turns, List.append_nil _⟩
    | unfinished s =>
        rw [Ending.lines, s.after_lines] at h
        cases h
    | farewell line hquit unread =>
        rw [Ending.lines, State.after_cons, hear_quit hquit] at h
        cases (State.after_over unread).symm.trans h

theorem actions_append {lines : List String} (h : AtPrompt lines) (more : List String) :
    Dialogue.actions (lines ++ more) = Dialogue.actions lines ++ Dialogue.actions more := by
  rw [Dialogue.actions, State.heard_append, State.after_append, h.after_eq, Dialogue.actions,
    Dialogue.actions, h.after_eq, List.append_assoc]
  show _ = State.waiting.heard lines ++ [] ++ _
  rw [List.append_nil]

end Dialogue
end Console
end Polyglot
