import Mathlib.Data.List.Basic
import Polyglot.Console.Session
import Polyglot.Proofs.Console.Turns
import Polyglot.Proofs.Training.Prediction
import Polyglot.Proofs.Utf8

/-!
# Conversations

A conversation carries out the moves of a dialogue on a host: it shows texts and performs
actions.  With a trained classifier no action but the farewell ends it, so all moves are
made, and what has been said before a prompt does not matter for what follows.
-/

namespace Polyglot

namespace Predictor

def Answers (p : Predictor) : Prop :=
  forall code, code ≠ "" -> ∃ q, p.classify code = .ok q

theorem classify_eq_ok_iff {p : Predictor} {c : Classifier} (hp : p.classifier = some c)
    {code : String} {q : Prediction} : p.classify code = .ok q ↔ c.predict code = .ok q := by
  rw [classify, hp]
  dsimp only
  cases c.predict code with
  | ok r => simp only [Except.mapError, Except.ok.injEq]
  | error f => simp only [Except.mapError, reduceCtorEq]

theorem answers_of_train [Logarithm] {corpus : Corpus} {settings : TrainingSettings}
    {run : TrainingRun} (h : Polyglot.train corpus settings = .ok run) {p : Predictor}
    (hp : p.classifier = some run.classifier) : p.Answers := by
  intro code hcode
  rcases TrainingRun.parts_of_train h with ⟨hsettings, _, hparts⟩
  rcases (hparts.consistent hsettings).predict_eq_ok hcode with ⟨q, hq, _⟩
  exact ⟨q, (classify_eq_ok_iff hp).mpr hq⟩

section Answers

variable {m : Type → Type} [Monad m] [Host m] {p : Predictor}

theorem Answers.predict_eq (h : p.Answers) {code : String} (hcode : code ≠ "") :
    ∃ q, p.classify code = .ok q ∧ (p.predict code : m _) = do
      Host.note (p.classifyJournal code)
      return .ok q := by
  rcases h code hcode with ⟨q, hq⟩
  exact ⟨q, hq, by rw [predict, hq]⟩

def Tried (p : Predictor) (e : Battery.Example) (o : Battery.Outcome) : Prop :=
  ∃ q, p.classify e.code = .ok q ∧ o = ⟨e.name, e.expected, q.label⟩

theorem Answers.tryExamples_eq [LawfulMonad m] (h : p.Answers) {examples : List Battery.Example}
    (hcodes : forall e, e ∈ examples -> e.code ≠ "") :
    ∃ outcomes, List.Forall₂ p.Tried examples outcomes ∧ (p.tryExamples examples : m _) = do
      examples.forM fun e => Host.note (p.classifyJournal e.code)
      return .ok outcomes := by
  induction examples with
  | nil => exact ⟨[], .nil, by simp [tryExamples]⟩
  | cons e examples ih =>
      rcases h.predict_eq (m := m) (hcodes e List.mem_cons_self) with ⟨q, hclassified, hq⟩
      rcases ih fun e' he' => hcodes e' (List.mem_cons_of_mem e he') with
        ⟨outcomes, htried, houtcomes⟩
      refine ⟨⟨e.name, e.expected, q.label⟩ :: outcomes, .cons ⟨q, hclassified, rfl⟩ htried, ?_⟩
      rw [tryExamples, hq, houtcomes]
      simp [Except.map]

end Answers

end Predictor

namespace Console

open Dialogue

/-!
## Moves
-/

namespace Dialogue

/-- What a dialogue does on a host: it shows a text of its own or performs an action. -/
inductive Move where
  | cue (text : String)
  | act (a : Action)

def Move.action? : Move → Option Action
  | .cue _ => none
  | .act a => some a

def State.moves (s : State) : List String → List Move
  | [] => []
  | line :: rest =>
      (s.hear line).2.toList.map .act ++
        match (s.hear line).1 with
        | .over => []
        | next => .cue (Dialogue.cue s next) :: next.moves rest

def State.leave : State → List Move
  | .collecting lines => (submit lines).toList.map .act ++ [.cue prompt]
  | _ => []

def moves (lines : List String) : List Move :=
  State.waiting.moves lines ++ (State.waiting.after lines).leave

theorem State.hear_cases {s : State} (hs : s ≠ .over) (line : String) :
    s.hear line = (.over, some .farewell) ∨ (s.hear line).1 ≠ .over := by
  cases s with
  | waiting =>
      by_cases hquit : command line ∈ quitWords
      · exact .inl (hear_quit hquit)
      by_cases hbattery : command line = batteryWord
      · rw [hear_battery hbattery]
        exact .inr State.noConfusion
      · rw [hear_opens ⟨hquit, hbattery⟩]
        exact .inr State.noConfusion
  | collecting lines =>
      by_cases hcloses : Closes line
      · rw [hear_closes hcloses]
        exact .inr State.noConfusion
      · rw [hear_inside hcloses]
        exact .inr State.noConfusion
  | _ => exact absurd rfl hs

theorem State.moves_cons_of_farewell {s : State} {line : String}
    (h : s.hear line = (.over, some .farewell)) (lines : List String) :
    s.moves (line :: lines) = [.act .farewell] := by
  rw [moves, h]
  rfl

theorem State.moves_cons {s : State} {line : String} (h : (s.hear line).1 ≠ .over)
    (lines : List String) :
    s.moves (line :: lines) = (s.hear line).2.toList.map .act ++
      .cue (Dialogue.cue s (s.hear line).1) :: (s.hear line).1.moves lines := by
  rw [moves]
  split
  · rename_i hover
    exact absurd hover h
  · rfl

theorem filterMap_act (actions : List Action) :
    (actions.map Move.act).filterMap Move.action? = actions := by
  rw [List.filterMap_map]
  exact List.filterMap_some

theorem State.action?_moves {s : State} (hs : s ≠ .over) (lines : List String) :
    (s.moves lines).filterMap Move.action? = s.heard lines := by
  induction lines generalizing s with
  | nil => rfl
  | cons line lines ih =>
      cases hear_cases hs line with
      | inl hfarewell =>
          rw [moves_cons_of_farewell hfarewell, heard_cons, hfarewell]
          show [Action.farewell] = [Action.farewell] ++ State.over.heard lines
          rw [heard_over, List.append_nil]
      | inr hgoes =>
          rw [moves_cons hgoes, heard_cons, List.filterMap_append, filterMap_act, ← ih hgoes]
          rfl

theorem State.action?_leave (s : State) :
    s.leave.filterMap Move.action? = s.finish.toList := by
  cases s with
  | collecting lines =>
      rw [leave, List.filterMap_append, filterMap_act]
      exact List.append_nil _
  | _ => rfl

theorem action?_moves (lines : List String) :
    (moves lines).filterMap Move.action? = Dialogue.actions lines := by
  rw [moves, List.filterMap_append, State.action?_moves State.noConfusion, State.action?_leave]
  rfl

theorem State.moves_append {s : State} {lines : List String} (hs : s ≠ .over)
    (h : s.after lines ≠ .over) (more : List String) :
    s.moves (lines ++ more) = s.moves lines ++ (s.after lines).moves more := by
  induction lines generalizing s with
  | nil => rfl
  | cons line lines ih =>
      rw [after_cons] at h
      cases hear_cases hs line with
      | inl hfarewell =>
          rw [hfarewell, after_over] at h
          exact absurd rfl h
      | inr hgoes =>
          rw [List.cons_append, moves_cons hgoes, moves_cons hgoes, ih hgoes h, after_cons,
            List.append_assoc, List.cons_append]

end Dialogue

/-!
## Carrying out moves
-/

section Conversation

variable {m : Type → Type} [Monad m] [Host m]

/-- Makes moves one after another; what comes then does so unless a move ends the session. -/
def carryOut (p : Predictor) : List Move → m ExitCode → m ExitCode
  | [], next => next
  | .cue text :: moves, next => do
      Host.print text
      carryOut p moves next
  | .act a :: moves, next => do
      match ← perform p (some a) with
      | some code => return code
      | none => carryOut p moves next

theorem hear_bytes (p : Predictor) (s : State) (line : String) :
    (hear p s (Text.bytes line) : m _) = do
      match ← perform p (s.hear line).2 with
      | some code => return .error code
      | none => do
          Host.print (cue s (s.hear line).1)
          return .ok (s.hear line).1 := by
  unfold hear
  rw [Text.ofUtf8?_bytes]
  dsimp only
  generalize htext : String.ofList line.toList = text
  rw [String.ofList_toList] at htext
  subst htext
  rfl

theorem carryOut_append (p : Predictor) (moves more : List Move) (next : m ExitCode) :
    carryOut p (moves ++ more) next = carryOut p moves (carryOut p more next) := by
  induction moves with
  | nil => rfl
  | cons move moves ih =>
      cases move with
      | cue text => rw [List.cons_append, carryOut, carryOut, ih]
      | act a => rw [List.cons_append, carryOut, carryOut, ih]

theorem carryOut_farewell [LawfulMonad m] (p : Predictor) (moves : List Move) (next : m ExitCode) :
    carryOut p (.act .farewell :: moves) next = do
      Host.print parting
      return success := by
  simp [carryOut, perform]

/-- A conversation makes the moves of its dialogue as long as its lines are texts. -/
theorem converse_append [LawfulMonad m] (p : Predictor) {s : State} (hs : s ≠ .over) (lines : List String)
    (rest : List (List UInt8)) :
    (converse p s (lines.map Text.bytes ++ rest) : m ExitCode) =
      carryOut p (s.moves lines) (converse p (s.after lines) rest) := by
  induction lines generalizing s with
  | nil => rfl
  | cons line lines ih =>
      rw [List.map_cons, List.cons_append, converse, hear_bytes]
      cases State.hear_cases hs line with
      | inl hfarewell =>
          rw [State.moves_cons_of_farewell hfarewell, carryOut_farewell, hfarewell]
          simp [perform]
      | inr hgoes =>
          rw [State.moves_cons hgoes, carryOut_append, State.after_cons]
          cases haction : (s.hear line).2 with
          | none => simp [perform, carryOut, ih hgoes]
          | some a =>
              rw [bind_assoc]
              apply bind_congr
              intro code?
              cases code? with
              | some code => simp
              | none => simp [carryOut, ih hgoes]

theorem converse_nil [LawfulMonad m] (p : Predictor) (s : State) :
    (converse p s [] : m ExitCode) = carryOut p s.leave (return success) := by
  cases s with
  | collecting lines =>
      rw [converse, finish, State.leave, State.finish]
      cases submit lines with
      | none => simp [perform, carryOut]
      | some a =>
          apply bind_congr
          intro code?
          cases code? with
          | some code => rfl
          | none => simp [carryOut]
  | _ => simp [converse, finish, State.leave, State.finish, perform, carryOut]

theorem converse_eq [LawfulMonad m] (p : Predictor) (lines : List String) :
    (converse p .waiting (lines.map Text.bytes) : m ExitCode) =
      carryOut p (moves lines) (return success) := by
  have h := converse_append (m := m) p (s := .waiting) State.noConfusion lines []
  rw [List.append_nil] at h
  rw [h, converse_nil, moves, carryOut_append]

/-!
## Answered moves
-/

/-- Makes a move and goes on, whatever comes of it. -/
def make (p : Predictor) : Move → m Unit
  | .cue text => Host.print text
  | .act a => do
      let _ ← perform p (some a)
      return ()

section Answers

variable [LawfulMonad m] {p : Predictor}

theorem perform_predict (h : p.Answers) {code : String} (hcode : code ≠ "") :
    ∃ q, p.classify code = .ok q ∧ (perform p (some (.predict code)) : m _) = do
      Host.note (p.classifyJournal code)
      Host.print (Display.prediction q)
      return none := by
  rcases h.predict_eq (m := m) hcode with ⟨q, hclassified, hq⟩
  refine ⟨q, hclassified, ?_⟩
  simp [perform, hq, showPrediction]

theorem perform_battery (h : p.Answers) :
    ∃ outcomes, List.Forall₂ p.Tried Battery.examples outcomes ∧
      (perform p (some .battery) : m _) = do
        Host.print (Display.heading "RUNNING TEST EXAMPLES")
        Battery.examples.forM fun e => Host.note (p.classifyJournal e.code)
        Host.print (Display.battery outcomes)
        return none := by
  have hcodes : forall e, e ∈ Battery.examples -> e.code ≠ "" := by decide
  rcases h.tryExamples_eq (m := m) hcodes with ⟨outcomes, htried, houtcomes⟩
  refine ⟨outcomes, htried, ?_⟩
  simp [perform, showBattery, Predictor.runBattery, houtcomes]

theorem Dialogue.Action.GoesOn.ne_empty {code : String} (h : (Action.predict code).GoesOn) :
    code ≠ "" := by
  rintro rfl
  cases h

theorem perform_eq (h : p.Answers) {a : Action} (ha : a.GoesOn) :
    (perform p (some a) : m _) = do
      let _ ← perform p (some a)
      return none := by
  cases a with
  | predict code =>
      rcases perform_predict (m := m) h ha.ne_empty with ⟨q, _, hq⟩
      simp [hq]
  | battery =>
      rcases perform_battery (m := m) h with ⟨outcomes, _, houtcomes⟩
      simp [houtcomes]
  | farewell => exact absurd ha id

theorem carryOut_eq (h : p.Answers) {moves : List Move}
    (hmoves : forall a, Move.act a ∈ moves -> a.GoesOn) (next : m ExitCode) :
    carryOut p moves next = (do
      moves.forM (make p)
      next) := by
  induction moves with
  | nil => simp [carryOut]
  | cons move moves ih =>
      have hrest := ih fun a ha => hmoves a (List.mem_cons_of_mem move ha)
      cases move with
      | cue text => simp [carryOut, make, hrest]
      | act a =>
          rw [carryOut, perform_eq h (hmoves a List.mem_cons_self)]
          simp [make, hrest]

theorem goesOn_of_turns (turns : List Turn) :
    forall a, Move.act a ∈ State.waiting.moves (turns.flatMap Turn.lines) -> a.GoesOn := by
  intro a ha
  have hmem : a ∈ State.waiting.heard (turns.flatMap Turn.lines) := by
    rw [← State.action?_moves State.noConfusion]
    exact List.mem_filterMap.mpr ⟨.act a, ha, rfl⟩
  rw [State.heard_turns] at hmem
  exact goesOn_of_mem_turns hmem

theorem goesOn_of_actions {lines : List String}
    (h : forall a, a ∈ Dialogue.actions lines -> a.GoesOn) :
    forall a, Move.act a ∈ moves lines -> a.GoesOn := by
  intro a ha
  apply h
  rw [← action?_moves]
  exact List.mem_filterMap.mpr ⟨.act a, ha, rfl⟩

theorem converse_of_turns (h : p.Answers) (turns : List Turn) (rest : List (List UInt8)) :
    (converse p .waiting ((turns.flatMap Turn.lines).map Text.bytes ++ rest) : m ExitCode) = (do
      (State.waiting.moves (turns.flatMap Turn.lines)).forM (make p)
      converse p .waiting rest) := by
  rw [converse_append p State.noConfusion, State.after_turns, carryOut_eq h (goesOn_of_turns turns)]

theorem carryOut_moves_farewell (h : p.Answers) (turns : List Turn) {line : String}
    (hquit : command line ∈ quitWords) (unread : List String) (next : m ExitCode) :
    carryOut p (State.waiting.moves (turns.flatMap Turn.lines ++ line :: unread)) next = (do
      (State.waiting.moves (turns.flatMap Turn.lines ++ line :: unread)).forM (make p)
      return success) := by
  have hturns : State.waiting.after (turns.flatMap Turn.lines) ≠ .over := by
    rw [State.after_turns]
    exact State.noConfusion
  rw [State.moves_append State.noConfusion hturns, State.after_turns,
    State.moves_cons_of_farewell (hear_quit hquit), carryOut_append, carryOut_farewell,
    carryOut_eq h (goesOn_of_turns turns)]
  simp [make, perform]

theorem converse_of_goesOn (h : p.Answers) {lines : List String}
    (hlines : forall a, a ∈ Dialogue.actions lines -> a.GoesOn) :
    (converse p .waiting (lines.map Text.bytes) : m ExitCode) = (do
      (moves lines).forM (make p)
      return success) := by
  rw [converse_eq, carryOut_eq h (goesOn_of_actions hlines)]

theorem converse_of_answers (h : p.Answers) (lines : List String) :
    (converse p .waiting (lines.map Text.bytes) : m ExitCode) = (do
      (moves lines).forM (make p)
      return success) := by
  rcases exists_turns lines with ⟨turns, e, rfl⟩
  have hactions := actions_turns turns e
  cases e with
  | atPrompt =>
      apply converse_of_goesOn h
      rw [hactions, Ending.actions, List.append_nil]
      exact fun a ha => goesOn_of_mem_turns ha
  | unfinished s =>
      apply converse_of_goesOn h
      rw [hactions]
      intro a ha
      cases List.mem_append.mp ha with
      | inl hturn => exact goesOn_of_mem_turns hturn
      | inr hlast => exact s.goesOn hlast
  | farewell line hquit unread =>
      have hmoves : moves (turns.flatMap Turn.lines ++ line :: unread) =
          State.waiting.moves (turns.flatMap Turn.lines ++ line :: unread) := by
        rw [moves, State.after_append, State.after_turns, State.after_cons, hear_quit hquit,
          State.after_over]
        exact List.append_nil _
      rw [Ending.lines, converse_eq, hmoves]
      exact carryOut_moves_farewell h turns hquit unread _

theorem converse_of_atPrompt (h : p.Answers) {lines : List String} (hlines : AtPrompt lines)
    (rest : List (List UInt8)) :
    (converse p .waiting (lines.map Text.bytes ++ rest) : m ExitCode) = (do
      let _ ← converse p .waiting (lines.map Text.bytes)
      converse p .waiting rest) := by
  rcases hlines with ⟨turns, rfl⟩
  have hlast := converse_of_turns (m := m) h turns []
  rw [List.append_nil] at hlast
  rw [hlast, converse_of_turns h turns rest, converse_nil]
  simp [State.leave, carryOut]

theorem converse_of_quit (h : p.Answers) {lines : List String} (hlines : AtPrompt lines)
    {line : String} (hquit : command line ∈ quitWords) (unread : List (List UInt8)) :
    (converse p .waiting ((lines ++ [line]).map Text.bytes ++ unread) : m ExitCode) =
      converse p .waiting ((lines ++ [line]).map Text.bytes) := by
  rcases hlines with ⟨turns, rfl⟩
  have hnone := converse_append (m := m) p (s := .waiting) State.noConfusion
    (turns.flatMap Turn.lines ++ [line]) []
  rw [List.append_nil] at hnone
  rw [hnone, converse_append p State.noConfusion, carryOut_moves_farewell h turns hquit [],
    carryOut_moves_farewell h turns hquit []]

end Answers

/-!
## Composition
-/

/--
With a trained classifier each line is taken once and in its order: the lines belong to
turns, their moves are made one after another, and the actions among them are those of the
turns.  What follows a prompt is taken as if nothing had been before it, nothing is read
after a command to end, and inside a snippet a line that does not close it is kept as it is.
A snippet that is not blank is answered by showing one prediction, that of the classifier,
and the battery by showing one outcome for each of its examples.
-/
theorem conversation_composes [LawfulMonad m] [Logarithm] {corpus : Corpus}
    {settings : TrainingSettings} {run : TrainingRun}
    (hrun : Polyglot.train corpus settings = .ok run) {p : Predictor}
    (hp : p.classifier = some run.classifier) :
    (forall lines : List String,
      (converse p .waiting (lines.map Text.bytes) : m ExitCode) = (do
        (moves lines).forM (make p)
        return success) ∧
      (moves lines).filterMap Move.action? = Dialogue.actions lines ∧
      (∃ (turns : List Turn) (e : Ending), lines = turns.flatMap Turn.lines ++ e.lines) ∧
      forall (turns : List Turn) (e : Ending), lines = turns.flatMap Turn.lines ++ e.lines ->
        Dialogue.actions lines = turns.flatMap Turn.actions ++ e.actions) ∧
    (forall lines : List String, State.waiting.after lines = .waiting ->
      (forall more, Dialogue.actions (lines ++ more) =
        Dialogue.actions lines ++ Dialogue.actions more) ∧
      (forall rest, (converse p .waiting (lines.map Text.bytes ++ rest) : m ExitCode) = (do
        let _ ← converse p .waiting (lines.map Text.bytes)
        converse p .waiting rest)) ∧
      forall line, command line ∈ quitWords -> forall unread,
        (converse p .waiting ((lines ++ [line]).map Text.bytes ++ unread) : m ExitCode) =
          converse p .waiting ((lines ++ [line]).map Text.bytes)) ∧
    (forall (kept : List String) (line : String), ¬Closes line ->
      (State.collecting kept).hear line = (.collecting (line :: kept), none)) ∧
    (forall code, Text.allBlank code.toList = false ->
      ∃ q, run.classifier.predict code = .ok q ∧
        (perform p (some (.predict code)) : m _) = do
          Host.note (run.classifier.predictJournal code)
          Host.print (Display.prediction q)
          return none) ∧
    (∃ outcomes, List.Forall₂ p.Tried Battery.examples outcomes ∧
      (perform p (some .battery) : m _) = do
        Host.print (Display.heading "RUNNING TEST EXAMPLES")
        Battery.examples.forM fun e => Host.note (run.classifier.predictJournal e.code)
        Host.print (Display.battery outcomes)
        return none) ∧
    (perform p (some .farewell) : m _) = do
      Host.print parting
      return some success := by
  have hanswers := Predictor.answers_of_train hrun hp
  have hjournal : p.classifyJournal = run.classifier.predictJournal := by
    funext code
    rw [Predictor.classifyJournal, hp]
  refine ⟨?_, ?_, fun kept line h => hear_inside h kept, ?_, ?_, rfl⟩
  · intro lines
    refine ⟨converse_of_answers hanswers lines, action?_moves lines, exists_turns lines, ?_⟩
    intro turns e hlines
    rw [hlines]
    exact actions_turns turns e
  · intro lines hafter
    have hprompt := (atPrompt_iff lines).mpr hafter
    exact ⟨actions_append hprompt, converse_of_atPrompt hanswers hprompt,
      fun _ hquit => converse_of_quit hanswers hprompt hquit⟩
  · intro code hcode
    rw [← hjournal]
    rcases perform_predict (m := m) hanswers (Action.GoesOn.ne_empty hcode) with ⟨q, hq, hperform⟩
    exact ⟨q, (Predictor.classify_eq_ok_iff hp).mp hq, hperform⟩
  · rw [← hjournal]
    exact perform_battery hanswers

/-- A snippet that begins with blanks and holds a command, then the battery and a farewell. -/
theorem conversation_composes_twoLabels :
    ∃ p : Predictor, p.isTrained = true ∧
      Dialogue.actions (["  x", "quit", "END"] ++ ["test", "q", "y"]) =
        [.predict "x\nquit"] ++ [.battery, .farewell] ∧
      (converse p .waiting (["  x", "quit", "END"].map Text.bytes ++ ["test", "q", "y"].map Text.bytes) :
        StateM Workspace ExitCode) = (do
          let _ ← converse p .waiting (["  x", "quit", "END"].map Text.bytes)
          converse p .waiting (["test", "q", "y"].map Text.bytes)) ∧
      ∃ q, p.classify "x\nquit" = .ok q ∧
        (perform p (some (.predict "x\nquit")) : StateM Workspace _) = do
          Host.note (p.classifyJournal "x\nquit")
          Host.print (Display.prediction q)
          return none := by
  rcases exists_run_twoLabels with ⟨run, hrun⟩
  have hprompt : State.waiting.after ["  x", "quit", "END"] = .waiting := by decide
  have hcomposes := @conversation_composes (StateM Workspace) _ _ _ logarithmOfFiveQuarters _ _ _
    hrun ⟨⟨"m.json"⟩, .twoLabels, .small, some run.classifier⟩ rfl
  rcases hcomposes.2.2.2.1 "x\nquit" (by decide) with ⟨q, hq, hperform⟩
  refine ⟨_, rfl, ?_, (hcomposes.2.1 _ hprompt).2.1 _, q, ?_, hperform⟩
  · rw [(hcomposes.2.1 _ hprompt).1]
    decide
  · exact (Predictor.classify_eq_ok_iff rfl).mpr hq

end Conversation

end Console
end Polyglot
