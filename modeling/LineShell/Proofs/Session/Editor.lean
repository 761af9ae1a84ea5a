import LineShell.Proofs.Session.Exchange
import LineShell.Proofs.Session.Inert
import LineShell.Proofs.Session.Typing

/-!
# Sessions on an editor

An editor answers every read, with a line or without one. What an interrupted prompt means depends on the
question: at the command prompt it is a blank line, and at a question of `alias` it is no answer. The history
gets the command lines, and nothing else.

* `Session.answers`, `recorded`: what the editor answered, and what its history was handed.
* `Session.PromptEnd`, `AliasEnd`: the ways in which a prompt for a command, and the questions of `alias` end.
* `Turn.answers`, `interrupted`, `command?`, `typed`: what was answered in a turn, and what it took for that.
* `Session.recorded_turn`: a turn hands its command line to the history.
* `Session.answered_turn`: what the answers of a turn say of its end.
-/

namespace LineShell

variable {W : Type}

/-- The answer of the editor that an event is. -/
def Event.answer? : Event → Option (Except EditorFault String)
  | answered _ answer => some answer
  | _ => none

/-- The line that an event hands to the history. -/
def Event.recorded? : Event → Option String
  | recorded line => some line
  | _ => none

theorem Event.answer?_eq_none {event : Event} (other : event.effect ≠ .read) : event.answer? = none := by
  cases event with
  | answered prompt answer => exact absurd rfl other
  | _ => rfl

theorem Event.recorded?_eq_none {event : Event} (other : event.effect ≠ .remember) :
    event.recorded? = none := by
  cases event with
  | recorded line => exact absurd rfl other
  | _ => rfl

namespace Session

open Act

/-! ## What an editor is asked, and what it keeps -/

/-- What the editor has answered, in order. -/
def answers (session : Session W) : List (Except EditorFault String) :=
  session.trace.reverse.filterMap Event.answer?

/-- The lines that were handed to the history, in order. -/
def recorded (session : Session W) : List String :=
  session.trace.reverse.filterMap Event.recorded?

theorem answers_eq_of_trace {session after : Session W} (events : List Event)
    (h : after.trace = events ++ session.trace) :
    after.answers = session.answers ++ events.reverse.filterMap Event.answer? := by
  simp [answers, h]

theorem recorded_eq_of_trace {session after : Session W} (events : List Event)
    (h : after.trace = events ++ session.trace) :
    after.recorded = session.recorded ++ events.reverse.filterMap Event.recorded? := by
  simp [recorded, h]

/-- What the editor answered in a turn, in order. The first answer is that to the command prompt. -/
def Turn.answers (turn : Turn W) : List (Except EditorFault String) :=
  turn.told.filterMap Event.answer?

/-- Whether the command prompt of a turn was interrupted. -/
def Turn.interrupted (turn : Turn W) : Bool :=
  match turn.answers with
  | .error .interrupted :: _ => true
  | _ => false

/-- The command line of a turn, if there was one that is not blank. -/
def Turn.command? (turn : Turn W) : Option String :=
  match turn.answers with
  | .ok line :: _ => if Text.allBlank line then none else some line
  | _ => none

/-- The entries that a turn took. -/
def Turn.typed (turn : Turn W) : List Entry :=
  turn.start.entries.take (turn.start.entries.length - turn.finish.entries.length)

/-- The record of an interrupted prompt. -/
def discarding : Event :=
  .logged { level := .debug, message := "prompt interrupted, discarding line" }

theorem answers_discarding (session : Session W) :
    (session.afterEvent discarding).answers = session.answers :=
  (answers_eq_of_trace [discarding] rfl).trans (List.append_nil _)

section
variable [Host W] {effects : List Effect} {session after : Session W}

/-- Without a read there is no answer. -/
theorem Steps.answers_eq (unread : .read ∉ effects) (steps : Steps effects session after) :
    after.answers = session.answers :=
  steps.filterMap_eq Event.answer?_eq_none unread

theorem Steps.recorded_eq (unkept : .remember ∉ effects) (steps : Steps effects session after) :
    after.recorded = session.recorded :=
  steps.filterMap_eq Event.recorded?_eq_none unkept

theorem Steps.history_eq (unkept : .remember ∉ effects) (steps : Steps effects session after) :
    after.history = session.history := by
  refine steps.invariant (p := fun s => s.history = session.history) ?_ rfl
  intro before next effect mem step same
  refine Eq.trans ?_ same
  cases step with
  | write stream bytes => simp only [history, afterWrite, Console.input_spend]
  | piece reader here => simp only [history, afterPiece, here]
  | answer editor prompt here => simp only [history, afterAnswer, here, Editor.afterRead]
  | remember => exact absurd mem unkept
  | launch program args =>
    cases here : before.console.input <;> simp [history, afterLaunch, here, Input.afterProgram]
  | _ => rfl

/-- No command hands anything to the history. -/
theorem remember_notMem_footprint (tokens : List String) : .remember ∉ footprint tokens := by
  cases tokens with
  | nil => simp [footprint]
  | cons name args =>
    simp only [footprint]
    split
    · simp
    · simp
    · simp
    · split <;> simp
    · simp

/-! ## A prompt for a command -/

/-- What the editor answers to the command prompt. -/
def answer (session : Session W) (editor : Editor) : Except EditorFault String :=
  editor.answer session.world session.prompt

/-- The session behind that answer. -/
def afterPrompt (session : Session W) (editor : Editor) : Session W :=
  session.afterAnswer editor session.prompt

/-- The session behind a command line that is kept. -/
def afterCommand (session : Session W) (editor : Editor) (line : String) : Session W :=
  (session.afterPrompt editor).afterRecorded editor.afterRead line

/-- The ways in which a prompt for a command ends: the editor answers with a line that is kept or a blank one,
the prompt is interrupted, which gives a blank line, or there is no answer. -/
inductive PromptEnd (session : Session W) (editor : Editor) :
    Except SessionFault String → Session W → Prop
  | command (line : String) : session.answer editor = .ok line → Text.allBlank line = false →
      PromptEnd session editor (.ok line) (session.afterCommand editor line)
  | blank (line : String) : session.answer editor = .ok line → Text.allBlank line = true →
      PromptEnd session editor (.ok line) (session.afterPrompt editor)
  | interrupted : session.answer editor = .error .interrupted →
      PromptEnd session editor (.ok "") ((session.afterPrompt editor).afterEvent discarding)
  | none (cause : EditorFault) : session.answer editor = .error cause → cause ≠ .interrupted →
      PromptEnd session editor (.error (.ofEditor cause)) (session.afterPrompt editor)

theorem readLine_cases {editor : Editor} (here : session.console.input = .editor editor) :
    PromptEnd session editor ((readLine session.prompt).on session).1
      ((readLine session.prompt).on session).2 := by
  have asked : (readEntry session.prompt).on session =
      answered (session.answer editor) (session.afterPrompt editor) := on_readEntry_answered here _
  rw [readLine, on_bind, asked]
  cases answer : session.answer editor with
  | ok line =>
    have there : (session.afterPrompt editor).console.input = .editor editor.afterRead := rfl
    cases blank : Text.allBlank line with
    | false =>
      have kept := on_remember_of_editor there line
      simp only [answered, Option.getD_some, blank, Bool.not_false, if_true, on_bind, kept, on_pure]
      exact .command line answer blank
    | true =>
      simp only [answered, Option.getD_some, blank, Bool.not_true, Bool.false_eq_true, if_false,
        on_pure]
      exact .blank line answer blank
  | error cause =>
    by_cases interrupted : cause = .interrupted
    · subst interrupted
      have blank : Text.allBlank "" = true := rfl
      simp only [answered, Option.getD_none, blank, Bool.not_true, Bool.false_eq_true, if_false,
        on_pure]
      exact .interrupted answer
    · have failed : answered (.error cause) (session.afterPrompt editor) =
          (.error (.ofEditor cause), session.afterPrompt editor) := by
        cases cause with
        | interrupted => exact absurd rfl interrupted
        | _ => rfl
      rw [failed]
      exact .none cause answer interrupted

/-- The ways in which a turn ends: only a line that is kept is carried out. -/
inductive EditorTurn (session : Session W) (editor : Editor) :
    Except SessionFault Bool → Session W → Prop
  | command (line : String) (result : Except SessionFault Bool) (after : Session W) :
      session.answer editor = .ok line → Text.allBlank line = false →
      (executeLine line >>= closeTurn).on (session.afterCommand editor line) =
        (result, after) →
      EditorTurn session editor result after
  | blank (line : String) : session.answer editor = .ok line → Text.allBlank line = true →
      EditorTurn session editor (.ok false) (session.afterPrompt editor)
  | interrupted : session.answer editor = .error .interrupted →
      EditorTurn session editor (.ok false)
        ((session.afterPrompt editor).afterEvent discarding)
  | none (cause : EditorFault) : session.answer editor = .error cause → cause ≠ .interrupted →
      EditorTurn session editor (.error (.ofEditor cause)) (session.afterPrompt editor)

theorem turn_of_editor {editor : Editor} (here : session.console.input = .editor editor) :
    EditorTurn session editor (turn.on session).1 (turn.on session).2 := by
  have ended := readLine_cases here
  cases read : (readLine session.prompt).on session with
  | mk result asked =>
    rw [read] at ended
    cases ended with
    | command line answer some =>
      rw [on_turn_of_line read some]
      exact .command line _ _ answer some rfl
    | blank line answer blank =>
      rw [on_turn_of_blank read blank]
      exact .blank line answer blank
    | interrupted answer =>
      rw [on_turn_of_blank read rfl]
      exact .interrupted answer
    | none cause answer other =>
      rw [on_turn_of_fault read]
      exact .none cause answer other

/-! ## What a turn was asked, and what it keeps -/

/-- Entries are taken from the front. -/
theorem typed_append (session : Session W) :
    session.nextTurn.typed ++ (turn.on session).2.entries = session.entries := by
  obtain ⟨typed, split⟩ := Steps.entries_suffix (within_turn session).steps
  have length := congrArg List.length split
  rw [List.length_append] at length
  show session.entries.take (session.entries.length - (turn.on session).2.entries.length) ++ _ = _
  have front : session.entries.length - (turn.on session).2.entries.length = typed.length := by
    omega
  rw [front, ← split, List.take_left]

theorem answers_nextTurn {answers : List (Except EditorFault String)}
    (h : (turn.on session).2.answers = session.answers ++ answers) :
    session.nextTurn.answers = answers := by
  have told := congrArg (List.filterMap Event.answer?) (trace_nextTurn session)
  rw [List.filterMap_append] at told
  exact List.append_cancel_left (told.symm.trans h)

/-- A line does what its tokens allow, and at most logs that it was the last. -/
theorem within_command (line : String) :
    Within (.log :: footprint (Token.tokens line)) (executeLine line >>= closeTurn : Act W Bool) := by
  refine .bind ((within_executeLine line).mono (by simp)) fun status => ?_
  cases status with
  | exit => exact .bind ((within_debug _).mono (by simp)) fun _ => .pure _
  | success => exact .pure _
  | failure => exact .pure _

variable {editor : Editor}

/-- The first answer in a turn is the one to the command prompt. -/
theorem exists_answers_nextTurn (here : session.console.input = .editor editor) :
    ∃ later, session.nextTurn.answers = session.answer editor :: later := by
  have ended := turn_of_editor here
  generalize on : turn.on session = outcome at ended
  obtain ⟨result, last⟩ := outcome
  have answers : ∀ later, last.answers = session.answers ++ session.answer editor :: later →
      ∃ later, session.nextTurn.answers = session.answer editor :: later := by
    intro later eq
    exact ⟨later, answers_nextTurn (by rw [on]; exact eq)⟩
  cases ended with
  | command line _ _ answer some executed =>
    have steps := (within_command line (session.afterCommand editor line)).steps
    rw [executed] at steps
    obtain ⟨events, told, _⟩ := steps.trace
    have first : (session.afterCommand editor line).answers =
        session.answers ++ [session.answer editor] :=
      answers_eq_of_trace [.recorded line, .answered session.prompt (session.answer editor)] rfl
    apply answers (events.reverse.filterMap Event.answer?)
    rw [answers_eq_of_trace events told, first, List.append_assoc]
    rfl
  | blank line answer blank =>
    exact answers [] (answers_eq_of_trace [.answered session.prompt (session.answer editor)] rfl)
  | interrupted answer =>
    exact answers []
      (answers_eq_of_trace [discarding, .answered session.prompt (session.answer editor)] rfl)
  | none cause answer other =>
    exact answers [] (answers_eq_of_trace [.answered session.prompt (session.answer editor)] rfl)

theorem interrupted_nextTurn (here : session.console.input = .editor editor) :
    session.nextTurn.interrupted = true ↔ session.answer editor = .error .interrupted := by
  obtain ⟨later, answers⟩ := exists_answers_nextTurn here
  unfold Turn.interrupted
  rw [answers]
  cases session.answer editor with
  | ok line => simp
  | error cause => cases cause <;> simp

theorem command?_nextTurn (here : session.console.input = .editor editor) :
    session.nextTurn.command? =
      match session.answer editor with
      | .ok line => if Text.allBlank line then none else some line
      | .error _ => none := by
  obtain ⟨later, answers⟩ := exists_answers_nextTurn here
  unfold Turn.command?
  rw [answers]
  cases session.answer editor <;> rfl

/-- A turn hands its command line to the history, and nothing else. -/
theorem recorded_turn (here : session.console.input = .editor editor) :
    (turn.on session).2.recorded = session.recorded ++ session.nextTurn.command?.toList ∧
      (turn.on session).2.history =
        session.nextTurn.command?.toList.reverse ++ session.history := by
  have ended := turn_of_editor here
  have same := history_of_editor here
  -- An answer is kept only where it is handed on.
  have asked : (session.afterPrompt editor).recorded = session.recorded ++ [] :=
    recorded_eq_of_trace [.answered session.prompt (session.answer editor)] rfl
  have kept : (session.afterPrompt editor).history = editor.history := rfl
  have command := command?_nextTurn here
  generalize turn.on session = outcome at ended ⊢
  obtain ⟨result, last⟩ := outcome
  cases ended with
  | command line _ _ answer some executed =>
    have steps := (within_command line (session.afterCommand editor line)).steps
    have unkept : .remember ∉ .log :: footprint (Token.tokens line) := by
      simp [remember_notMem_footprint]
    have first : (session.afterCommand editor line).recorded = session.recorded ++ [line] :=
      recorded_eq_of_trace [.recorded line, .answered session.prompt (session.answer editor)] rfl
    rw [executed] at steps
    simp only [answer, some] at command
    rw [steps.recorded_eq unkept, steps.history_eq unkept, first, command, same]
    exact ⟨rfl, rfl⟩
  | blank line answer blank =>
    simp only [answer, blank] at command
    rw [command, same]
    exact ⟨asked, kept⟩
  | interrupted answer =>
    have discarded : ((session.afterPrompt editor).afterEvent discarding).recorded =
        session.recorded ++ [] :=
      recorded_eq_of_trace [discarding, .answered session.prompt (session.answer editor)] rfl
    simp only [answer] at command
    rw [command, same]
    exact ⟨discarded, kept⟩
  | none cause answer other =>
    simp only [answer] at command
    rw [command, same]
    exact ⟨asked, kept⟩

/-! ## The questions of `alias` -/

/-- The ways in which the questions of `alias` end: both are answered, one is interrupted, which is the end of
the questions, or there is no answer to one. -/
inductive AliasEnd (session : Session W) :
    Except SessionFault (Option (String × String)) → Session W → Prop
  | answered (name value : String) (after : Session W) : Steps [.read, .log] session after →
      after.answers = session.answers ++ [.ok name, .ok value] →
      AliasEnd session (.ok (some (name, value))) after
  | interrupted (given : List String) (after : Session W) : Steps [.read, .log] session after →
      after.answers = session.answers ++ (given.map .ok ++ [.error .interrupted]) →
      AliasEnd session (.ok none) after
  | none (given : List String) (cause : EditorFault) (after : Session W) :
      Steps [.read, .log] session after → cause ≠ .interrupted →
      after.answers = session.answers ++ (given.map .ok ++ [.error cause]) →
      AliasEnd session (.error (.ofEditor cause)) after

/-- One answer behind those that were given. -/
theorem answers_afterAnswer (session : Session W) (editor : Editor) (prompt : String) :
    (session.afterAnswer editor prompt).answers =
      session.answers ++ [editor.answer session.world prompt] :=
  answers_eq_of_trace [.answered prompt (editor.answer session.world prompt)] rfl

/-- The questions end with an answer that is no line, behind the answers that were given. -/
theorem AliasEnd.of_error {asked : Session W} (given : List String) (cause : EditorFault)
    (steps : Steps [.read, .log] session asked)
    (answers : asked.answers = session.answers ++ (given.map .ok ++ [.error cause])) :
    AliasEnd session ((Session.answered (.error cause) asked).1.map fun _ => Option.none)
      (Session.answered (.error cause) asked).2 := by
  by_cases interrupted : cause = .interrupted
  · subst interrupted
    have logged : Steps [.read, .log] session (asked.afterEvent discarding) :=
      steps.trans (.single (.log _) (by simp))
    exact .interrupted given _ logged ((answers_discarding _).trans answers)
  · cases cause with
    | interrupted => exact absurd rfl interrupted
    | _ => exact .none given _ asked steps interrupted answers

theorem askAlias_cases (here : session.console.input = .editor editor) :
    AliasEnd session (askAlias.on session).1 (askAlias.on session).2 := by
  have read : Steps [.read, .log] session (session.afterAnswer editor "alias name: ") :=
    .single (.answer editor _ here) (by simp)
  have first := answers_afterAnswer session editor "alias name: "
  rw [askAlias, on_bind, on_readEntry_answered here]
  have there : (session.afterAnswer editor "alias name: ").console.input =
    .editor editor.afterRead := rfl
  generalize session.afterAnswer editor "alias name: " = named at read first there ⊢
  cases name : editor.answer session.world "alias name: " with
  | error cause =>
    rw [name] at first
    have ended := AliasEnd.of_error [] cause read first
    cases cause <;> exact ended
  | ok text =>
    rw [name] at first
    have more := read.trans (.single (.answer editor.afterRead "alias value: " there) (by simp))
    have second := answers_afterAnswer named editor.afterRead "alias value: "
    rw [first, List.append_assoc] at second
    simp only [answered]
    rw [on_bind, on_readEntry_answered there]
    cases value : editor.afterRead.answer named.world "alias value: " with
    | ok note =>
      rw [value] at second
      exact .answered text note _ more second
    | error cause =>
      rw [value] at second
      have ended := AliasEnd.of_error [text] cause more second
      cases cause <;> exact ended

/-- The ways in which a line ends on streams without a limit: it asks nothing, or it is `alias`, and its
questions were answered, interrupted, or not answered. -/
inductive LineEnd (session : Session W) (line : String) : Except SessionFault Status → Session W → Prop
  | silent (status : Status) (after : Session W) : after.answers = session.answers →
      LineEnd session line (.ok status) after
  | answered (name value : String) (after : Session W) :
      Token.tokens line = [Builtin.aliases.name] →
      after.answers = session.answers ++ [.ok name, .ok value] →
      LineEnd session line (.ok .success) after
  | interrupted (given : List String) (after : Session W) :
      Token.tokens line = [Builtin.aliases.name] →
      after.answers = session.answers ++ (given.map .ok ++ [.error .interrupted]) →
      Steps [.read, .log, .write .out] session after →
      after.written .out = session.written .out ++ listed session.aliases →
      LineEnd session line (.ok .success) after
  | none (given : List String) (cause : EditorFault) (after : Session W) :
      Token.tokens line = [Builtin.aliases.name] → cause ≠ .interrupted →
      after.answers = session.answers ++ (given.map .ok ++ [.error cause]) →
      LineEnd session line (.error (.ofEditor cause)) after

/-- On a stream without a limit the aliases are listed. -/
theorem on_listAliases_of_free (room : session.console.outRoom = none) :
    ∃ after, (listAliases : Act W Status).on session = (.ok .success, after) ∧
      Steps [.write .out] session after ∧
      after.written .out = session.written .out ++ listed session.aliases := by
  have on := on_listAliases_of_room room
  have steps := (within_listAliases session).steps
  obtain ⟨_, written⟩ := listAliases_ok on
  rw [on] at steps
  exact ⟨_, on, steps, written⟩

/-- Only `alias` asks anything. -/
theorem executeLine_silent (free : ∀ stream, session.console.room stream = none) {line : String}
    (other : Token.tokens line ≠ [Builtin.aliases.name]) :
    ∃ status after, (executeLine line).on session = (.ok status, after) ∧
      after.answers = session.answers := by
  have unread : .read ∉ footprint (Token.tokens line) := fun mem => other (eq_alias_of_read_mem mem)
  obtain ⟨status, after, on, steps⟩ :=
    (within_executeLine line session).on_eq_ok fun effect mem after fault steps fails => by
      cases fails with
      | @write stream _ _ _ _ cut => cases (steps.room_eq_none stream (free stream)).symm.trans cut
      | piece => exact unread mem
      | answer => exact unread mem
  exact ⟨status, after, on, steps.answers_eq unread⟩

/-- The questions of `alias`, and the listing behind them. -/
theorem executeLine_asking (here : session.console.input = .editor editor)
    (free : ∀ stream, session.console.room stream = none) {line : String}
    (asks : Token.tokens line = [Builtin.aliases.name]) :
    LineEnd session line ((executeLine line).on session).1 ((executeLine line).on session).2 := by
  obtain ⟨begun, logged, on⟩ := on_beforeListing_asking session
  have here' : begun.console.input = .editor editor := by
    rw [logged.console_eq]
    exact here
  have start : begun.answers = session.answers := logged.answers_eq (by decide)
  have ended := askAlias_cases here'
  rw [executeLine_alias asks, on_bind, on, on_bind]
  generalize askAlias.on begun = outcome at ended ⊢
  obtain ⟨result, asked⟩ := outcome
  have free' : ∀ {effects : List Effect} {after : Session W}, Steps effects asked after →
      Steps [.read, .log] begun asked → after.console.outRoom = none :=
    fun later steps => later.room_eq_none .out
      (steps.room_eq_none .out (logged.room_eq_none .out (free .out)))
  cases ended with
  | answered name value _ steps answers =>
    have stores : Steps [.store] asked (asked.afterStore name value) :=
      .single (.store name value) (by simp)
    have kept : (keepAlias (some (name, value))).on asked = (.ok (), asked.afterStore name value) :=
      rfl
    obtain ⟨after, lists, listing, _⟩ := on_listAliases_of_free (free' stores steps)
    simp only [kept, lists]
    refine .answered name value after asks ?_
    rw [listing.answers_eq (by decide), stores.answers_eq (by decide), answers, start]
  | interrupted given _ steps answers =>
    have logs : Within [.log] (keepAlias none : Act W Unit) := within_debug _
    obtain ⟨_, noted, kept, notes⟩ := on_of_within_log logs asked
    obtain ⟨after, lists, listing, written⟩ := on_listAliases_of_free (free' notes steps)
    -- Up to the listing there are only reads and records.
    have quiet : Steps [.read, .log] session noted :=
      (logged.mono (by simp)).trans (steps.trans (notes.mono (by simp)))
    simp only [kept, lists]
    refine .interrupted given after asks ?_ ((quiet.mono (by simp)).trans (listing.mono (by simp))) ?_
    · rw [listing.answers_eq (by decide), notes.answers_eq (by decide), answers, start]
    · rw [written, quiet.aliases_eq (by decide), quiet.written_eq (by decide)]
  | none given cause _ steps other answers =>
    refine .none given cause asked asks other ?_
    rw [answers, start]

theorem executeLine_of_editor (here : session.console.input = .editor editor)
    (free : ∀ stream, session.console.room stream = none) (line : String) :
    LineEnd session line ((executeLine line).on session).1 ((executeLine line).on session).2 := by
  by_cases asks : Token.tokens line = [Builtin.aliases.name]
  · exact executeLine_asking here free asks
  · obtain ⟨status, after, on, answers⟩ := executeLine_silent free asks
    rw [on]
    exact .silent status after answers

/-! ## The answers of a turn -/

/-- What the answers of a turn are, by its end, on streams without a limit. An interrupt behind the command
line is the last answer; the turn stores nothing, lists the aliases, and is not the last one. -/
inductive Answered (session : Session W) :
    List (Except EditorFault String) → Except SessionFault Bool → Session W → Prop
  | done (answer : Except EditorFault String) (last : Session W) :
      Answered session [answer] (.ok false) last
  | left (line : String) (last : Session W) : Text.allBlank line = false →
      (Token.tokens line).head? = some Builtin.exit.name → Answered session [.ok line] (.ok true) last
  | stored (line name value : String) (last : Session W) :
      Answered session [.ok line, .ok name, .ok value] (.ok false) last
  | interrupted (line : String) (given : List String) (last : Session W) :
      Text.allBlank line = false → Token.tokens line = [Builtin.aliases.name] →
      Steps [.read, .remember, .log, .write .out] session last →
      last.written .out = session.written .out ++ listed session.aliases →
      Answered session (.ok line :: (given.map .ok ++ [.error .interrupted])) (.ok false) last
  | none (given : List String) (cause : EditorFault) (last : Session W) : cause ≠ .interrupted →
      Answered session (given.map .ok ++ [.error cause]) (.error (.ofEditor cause)) last

theorem answers_afterCommand {line : String} (answer : session.answer editor = .ok line) :
    (session.afterCommand editor line).answers = session.answers ++ [.ok line] := by
  rw [← answer]
  exact answers_eq_of_trace [.recorded line, .answered session.prompt (session.answer editor)] rfl

/-- What is answered behind the command line. -/
theorem answers_of_command {line : String} (answer : session.answer editor = .ok line)
    {later : List (Except EditorFault String)}
    (answers : (turn.on session).2.answers = (session.afterCommand editor line).answers ++ later) :
    session.nextTurn.answers = .ok line :: later := by
  apply answers_nextTurn
  rw [answers, answers_afterCommand answer, List.append_assoc]
  rfl

/-- A line is read and handed on. -/
theorem steps_afterCommand (here : session.console.input = .editor editor) (line : String) :
    Steps [.read, .remember] session (session.afterCommand editor line) :=
  (Steps.single (.answer editor _ here) (by simp)).trans (.single (.remember _ line rfl) (by simp))

/-- The answers of a turn that carries out a line. -/
theorem answered_command (here : session.console.input = .editor editor)
    (free : ∀ stream, session.console.room stream = none) {line : String}
    (answer : session.answer editor = .ok line) (some : Text.allBlank line = false)
    (on : turn.on session = (executeLine line >>= closeTurn).on (session.afterCommand editor line)) :
    Answered session session.nextTurn.answers (turn.on session).1 (turn.on session).2 := by
  have there : (session.afterCommand editor line).console.input =
    .editor (editor.afterRead.remember line) := rfl
  have ended := executeLine_of_editor there free line
  rw [on_bind] at on
  generalize executed : (executeLine line).on (session.afterCommand editor line) = outcome at ended on
  obtain ⟨result, after⟩ := outcome
  have told : ∀ {later}, (turn.on session).2.answers = after.answers →
      after.answers = (session.afterCommand editor line).answers ++ later →
      session.nextTurn.answers = .ok line :: later :=
    fun same answers => answers_of_command answer (same.trans answers)
  cases ended with
  | silent status _ answers =>
    by_cases leaves : status = .exit
    · subst leaves
      have logged : (after.afterEvent leaving).answers = after.answers :=
        (answers_eq_of_trace [leaving] rfl).trans (List.append_nil _)
      have finish : turn.on session = (.ok true, after.afterEvent leaving) := on
      rw [told (by rw [finish, logged]) (answers.trans (List.append_nil _).symm), finish]
      exact .left line _ some (head?_of_exit executed)
    · have finish : turn.on session = (.ok false, after) := on.trans (on_closeTurn_of_ne leaves after)
      rw [told (by rw [finish]) (answers.trans (List.append_nil _).symm), finish]
      exact .done _ _
  | answered name value _ asks answers =>
    have finish : turn.on session = (.ok false, after) := on
    rw [told (by rw [finish]) answers, finish]
    exact .stored line name value _
  | interrupted given _ asks answers steps written =>
    have finish : turn.on session = (.ok false, after) := on
    have kept := steps_afterCommand here line
    have silent : (session.afterCommand editor line).written .out = session.written .out := by
      rw [written_eq_of_trace [.recorded line, .answered session.prompt (session.answer editor)] rfl]
      exact List.append_nil _
    rw [silent] at written
    rw [told (by rw [finish]) answers, finish]
    exact .interrupted line given _ some asks
      ((kept.mono (by simp)).trans (steps.mono (by simp))) written
  | none given cause _ asks other answers =>
    have finish : turn.on session = (.error (.ofEditor cause), after) := on
    rw [told (by rw [finish]) answers, finish]
    exact .none (line :: given) cause _ other

/-- The answers of a turn. -/
theorem answered_turn (here : session.console.input = .editor editor)
    (free : ∀ stream, session.console.room stream = none) :
    Answered session session.nextTurn.answers (turn.on session).1 (turn.on session).2 := by
  have ended := turn_of_editor here
  have first : (session.afterPrompt editor).answers = session.answers ++ [session.answer editor] :=
    answers_afterAnswer ..
  generalize on : turn.on session = outcome at ended
  obtain ⟨result, last⟩ := outcome
  cases ended with
  | command line _ _ answer some executed =>
    rw [← on]
    exact answered_command here free answer some (on.trans executed.symm)
  | blank line answer blank =>
    rw [answers_nextTurn (by rw [on]; exact first)]
    exact .done _ _
  | interrupted answer =>
    rw [answers_nextTurn (by rw [on]; exact (answers_discarding _).trans first)]
    exact .done _ _
  | none cause answer other =>
    rw [answer] at first
    rw [answers_nextTurn (by rw [on]; exact first)]
    exact .none [] cause _ other

end

end Session

end LineShell
