import LineShell.Machine.Basic
import LineShell.Proofs.Session.Editor

/-!
# Interrupts, and what is kept in the history

An interrupt means two things to a session on an editor. At the command prompt it is as if nothing had come of
it. At a question of `alias` it is the end of the questions, and the aliases are listed as they are.

* `Session.uninterrupted`: the entries, without those that interrupt a command prompt.
* `Session.Calmer`: the same session but for the turns that were interrupted.
* `Turn.DropsAlias`: a turn whose questions were interrupted.
* `Session.run_onEditor`: what holds of every run on an editor.
-/

namespace LineShell

variable {W : Type} [Host W]

namespace Session

open Act

variable {session : Session W} {editor : Editor}

/-! ## Interrupted command prompts -/

omit [Host W] in
/-- The entries of turns that are not interrupted, and those that are left. -/
def calmEntries (turns : List (Turn W)) (left : List Entry) : List Entry :=
  (turns.filter (!·.interrupted)).flatMap Turn.typed ++ left

omit [Host W] in
theorem calmEntries_of_interrupted {turn : Turn W} (interrupted : turn.interrupted = true)
    (turns : List (Turn W)) (left : List Entry) :
    calmEntries (turn :: turns) left = calmEntries turns left := by
  simp [calmEntries, interrupted]

omit [Host W] in
theorem calmEntries_of_calm {turn : Turn W} (calm : turn.interrupted = false) (turns : List (Turn W))
    (left : List Entry) : calmEntries (turn :: turns) left = turn.typed ++ calmEntries turns left := by
  simp [calmEntries, calm]

/-- The session without the entries that interrupt a command prompt. -/
def uninterrupted (session : Session W) : Session W :=
  session.typing (calmEntries (turns session) (run session).2.entries) session.trace

/-- A turn whose command prompt is interrupted takes one entry, and leaves the rest as it was. -/
theorem on_turn_of_interrupted (here : session.console.input = .editor editor)
    (interrupted : session.nextTurn.interrupted = true) :
    turn.on session = (.ok false, (session.afterPrompt editor).afterEvent discarding) := by
  have answer := (interrupted_nextTurn here).mp interrupted
  have ended := turn_of_editor here
  generalize turn.on session = outcome at ended
  obtain ⟨result, last⟩ := outcome
  cases ended with
  | command line _ _ other => cases answer.symm.trans other
  | blank line other => cases answer.symm.trans other
  | interrupted => rfl
  | none cause other no =>
    cases answer.symm.trans other
    exact absurd rfl no

/-- The first entry of a turn is what the editor answers from. -/
theorem entries_of_typed (here : session.console.input = .editor editor) {entry : Entry}
    {typed : List Entry} (taken : session.nextTurn.typed = entry :: typed) :
    editor.entries = entry :: (typed ++ (turn.on session).2.entries) := by
  have split := typed_append session
  rw [taken, entries_of_editor here] at split
  exact split.symm

/-- An answer is an interrupt exactly if the prompt was left by one. -/
theorem answer_eq_interrupted_iff {entry : Entry} {rest : List Entry}
    (entries : editor.entries = entry :: rest) :
    session.answer editor = .error .interrupted ↔ entry.leave = some .interrupted := by
  simp only [answer, Editor.answer, entries]
  cases entry.leave with
  | none => simp
  | some fault => simp

/-- A turn is interrupted if the one prompt in it is left by an interrupt. -/
theorem interrupted_iff_typed (here : session.console.input = .editor editor) :
    session.nextTurn.interrupted = true ↔
      ∃ entry, session.nextTurn.typed = [entry] ∧ entry.leave = some .interrupted := by
  constructor
  · intro interrupted
    have answer := (interrupted_nextTurn here).mp interrupted
    have taken := typed_append session
    rw [on_turn_of_interrupted here interrupted, entries_of_editor here] at taken
    have left : ((session.afterPrompt editor).afterEvent discarding).entries =
      editor.entries.tail := rfl
    rw [left] at taken
    cases entries : editor.entries with
    | nil =>
      simp only [Session.answer, Editor.answer, entries] at answer
      cases answer
    | cons entry rest =>
      rw [entries] at taken
      have one : session.nextTurn.typed = [entry] := List.append_cancel_right taken
      exact ⟨entry, one, (answer_eq_interrupted_iff entries).mp answer⟩
  · rintro ⟨entry, one, leave⟩
    rw [interrupted_nextTurn here]
    exact (answer_eq_interrupted_iff (entries_of_typed here one)).mpr leave

/-- What is told of a turn that is interrupted. -/
theorem told_of_interrupted (here : session.console.input = .editor editor)
    (interrupted : session.nextTurn.interrupted = true) :
    session.nextTurn.told = [.answered session.prompt (.error .interrupted), discarding] := by
  have answer := (interrupted_nextTurn here).mp interrupted
  have trace : ((session.afterPrompt editor).afterEvent discarding).trace =
      [discarding, .answered session.prompt (.error .interrupted)] ++ session.trace := by
    rw [← answer]
    rfl
  exact told_nextTurn (on_turn_of_interrupted here interrupted) trace

/-- A run comes to the outcome without the entries that interrupt a command prompt, whatever happened before, and
its turns are the others. -/
def RunsCalm (session : Session W) (outcome : Except SessionFault Unit × Session W)
    (turns : List (Turn W)) : Prop :=
  ∀ base, ∃ trace,
    run (session.typing (calmEntries turns outcome.2.entries) base) =
      (outcome.1, outcome.2.typing outcome.2.entries trace) ∧
    (Session.turns (session.typing (calmEntries turns outcome.2.entries) base)).map Turn.told =
      (turns.filter (!·.interrupted)).map Turn.told

/-- The last turn is not interrupted. -/
theorem runsCalm_last (here : session.console.input = .editor editor)
    {result : Except SessionFault Bool} {after : Session W}
    (turned : turn.on session = (result, after)) (last : result ≠ .ok false) :
    RunsCalm session (result.map fun _ => (), after) [session.nextTurn] := by
  intro base
  have calm : session.nextTurn.interrupted = false := by
    refine Bool.eq_false_iff.mpr fun interrupted => last ?_
    exact congrArg Prod.fst (turned.symm.trans (on_turn_of_interrupted here interrupted))
  have taken := typed_append session
  obtain ⟨events, trace, retold⟩ := on_turn_retold here base
  rw [turned] at taken trace retold
  obtain ⟨turns, run⟩ := turns_of_last retold last
  have told := told_nextTurn turned trace
  have told' := told_nextTurn retold rfl
  have kept : calmEntries [session.nextTurn] after.entries = session.entries :=
    (calmEntries_of_calm calm [] _).trans taken
  rw [kept, run, turns, List.filter_cons_of_pos (by simp [calm]),
    List.filter_nil, List.map_singleton, List.map_singleton, told, told']
  exact ⟨_, rfl, rfl⟩

/-- Behind a turn that is interrupted a session is where it was. -/
theorem runsCalm_of_interrupted (here : session.console.input = .editor editor)
    (interrupted : session.nextTurn.interrupted = true) {after : Session W}
    (turned : turn.on session = (.ok false, after))
    {outcome : Except SessionFault Unit × Session W} {turns : List (Turn W)}
    (rest : RunsCalm after outcome turns) : RunsCalm session outcome (session.nextTurn :: turns) := by
  intro base
  have same : ∀ entries base, after.typing entries base = session.typing entries base := by
    intro entries base
    cases turned.symm.trans (on_turn_of_interrupted here interrupted)
    rw [typing, typing, history_of_editor here]
    rfl
  rw [calmEntries_of_interrupted interrupted, ← same,
    List.filter_cons_of_neg (by simp [interrupted])]
  exact rest base

/-- Behind any other turn a session is where it is with the entries that are left. -/
theorem runsCalm_of_calm (here : session.console.input = .editor editor)
    (calm : session.nextTurn.interrupted = false) {after : Session W}
    (turned : turn.on session = (.ok false, after))
    {outcome : Except SessionFault Unit × Session W} {turns : List (Turn W)}
    (rest : RunsCalm after outcome turns) : RunsCalm session outcome (session.nextTurn :: turns) := by
  intro base
  have taken := typed_append session
  rw [turned] at taken
  obtain ⟨events, trace, again⟩ :=
    on_turn_typing here turned taken.symm (calmEntries turns outcome.2.entries) base
  have told := told_nextTurn turned trace
  have told' := told_nextTurn again rfl
  obtain ⟨final, run, others⟩ := rest (events ++ base)
  rw [calmEntries_of_calm calm, run_of_turn again, turns_of_turn again,
    List.filter_cons_of_pos (by simp [calm]), List.map_cons, List.map_cons, told, told', run, others]
  exact ⟨final, rfl, rfl⟩

/-- A run goes on alike without the entries that interrupt a command prompt. -/
theorem runsCalm_run (here : ∃ editor, session.console.input = .editor editor) :
    RunsCalm session (run session) (turns session) := by
  refine turns_induction_of (motive := RunsCalm) Steps.still_editor ?_ ?_ session here
  · rintro session result after ⟨editor, here⟩ turned last
    exact runsCalm_last here turned last
  · rintro session after ⟨editor, here⟩ turned rest
    cases interrupted : session.nextTurn.interrupted with
    | true => exact runsCalm_of_interrupted here interrupted turned rest
    | false => exact runsCalm_of_calm here interrupted turned rest

/-- The second session tells of the turns that are not interrupted in the first, and both come to the same
end. -/
structure Calmer (session calm : Session W) : Prop where
  quiet : ∀ turn ∈ turns calm, turn.interrupted = false
  told : (turns calm).map Turn.told = ((turns session).filter (!·.interrupted)).map Turn.told
  result : (run calm).1 = (run session).1
  written : ∀ stream, (run calm).2.written stream = (run session).2.written stream
  recorded : (run calm).2.recorded = (run session).2.recorded
  state : (run calm).2 = { (run session).2 with trace := (run calm).2.trace }

omit [Host W] in
/-- What is nothing in an interrupted turn is all in the other turns. -/
theorem flatMap_told_filter {β : Type} (view : Event → List β) (turns : List (Turn W))
    (silent : ∀ turn ∈ turns, turn.interrupted = true → turn.told.flatMap view = []) :
    ((turns.filter (!·.interrupted)).flatMap Turn.told).flatMap view =
      (turns.flatMap Turn.told).flatMap view := by
  induction turns with
  | nil => rfl
  | cons turn turns ih =>
    have rest := ih fun turn mem => silent turn (List.mem_cons_of_mem _ mem)
    rw [List.flatMap_cons, List.flatMap_append, ← rest]
    cases interrupted : turn.interrupted with
    | true =>
      rw [silent turn List.mem_cons_self interrupted, List.nil_append,
        List.filter_cons_of_neg (by simp [interrupted])]
    | false =>
      rw [List.filter_cons_of_pos (by simp [interrupted]), List.flatMap_cons, List.flatMap_append]

/-- An interrupted turn is nothing to a view that shows neither answers nor diagnostics. -/
theorem flatMap_told_of_interrupted {β : Type} {view : Event → List β}
    (answers : ∀ prompt answer, view (.answered prompt answer) = []) (logs : ∀ record, view (.logged record) = [])
    (here : ∃ editor, session.console.input = .editor editor) :
    ∀ turn ∈ turns session, turn.interrupted = true → turn.told.flatMap view = [] := by
  intro turn mem interrupted
  obtain ⟨before, steps, rfl⟩ := exists_nextTurn_of_mem mem
  obtain ⟨editor, there⟩ := steps.still_editor here
  rw [told_of_interrupted there interrupted]
  simp [discarding, answers, logs]

/-- Without the entries that interrupt a command prompt, a session on an editor is the same but for these
prompts. -/
theorem calmer_uninterrupted (here : ∃ editor, session.console.input = .editor editor) :
    Calmer session session.uninterrupted := by
  obtain ⟨trace, calm, told⟩ := runsCalm_run here session.trace
  have run : run session.uninterrupted =
    ((run session).1, (run session).2.typing (run session).2.entries trace) := calm
  have told : (turns session.uninterrupted).map Turn.told =
    ((turns session).filter (!·.interrupted)).map Turn.told := told
  have view : ∀ {β : Type} (view : Event → List β),
      (∀ prompt answer, view (.answered prompt answer) = []) →
      (∀ record, view (.logged record) = []) →
      (Session.run session.uninterrupted).2.trace.reverse.flatMap view =
        (Session.run session).2.trace.reverse.flatMap view := by
    intro β view answers logs
    have same : session.uninterrupted.trace = session.trace := rfl
    have events : (turns session.uninterrupted).flatMap Turn.told =
        ((turns session).filter (!·.interrupted)).flatMap Turn.told := by
      rw [List.flatMap_def, told, ← List.flatMap_def]
    rw [trace_run, trace_run, same, List.flatMap_append, List.flatMap_append, events,
      flatMap_told_filter view _ (flatMap_told_of_interrupted answers logs here)]
  obtain ⟨editor, there⟩ := (steps_run session).still_editor here
  constructor
  · intro turn mem
    have told := told ▸ List.mem_map_of_mem (f := Turn.told) mem
    obtain ⟨turn', mem', same⟩ := List.mem_map.mp told
    have calm := (List.mem_filter.mp mem').2
    simpa only [Turn.interrupted, Turn.answers, same, Bool.not_eq_true'] using calm
  · exact told
  · rw [run]
  · intro stream
    exact view (Event.console stream) (fun _ _ => rfl) fun _ => rfl
  · unfold recorded
    rw [List.filterMap_eq_flatMap_toList, List.filterMap_eq_flatMap_toList]
    exact view _ (fun _ _ => rfl) fun _ => rfl
  · rw [run]
    exact typing_entries there trace

/-! ## Interrupted questions -/

/-- A turn in which a question of `alias` was interrupted: no further question is asked and nothing is stored,
and the aliases are listed as they are. It is not the last turn. -/
structure Turn.DropsAlias (turn : Turn W) : Prop where
  asked : ∃ line, turn.command? = some line ∧ Token.tokens line = [Builtin.aliases.name]
  answers : ∃ (line : String) (given : List String),
    turn.answers = .ok line :: (given.map .ok ++ [.error .interrupted])
  unstored : ∀ name value, .stored name value ∉ turn.told
  aliases : turn.finish.aliases = turn.start.aliases
  written : turn.finish.written .out = turn.start.written .out ++ Session.listed turn.start.aliases
  goes : (Session.turn.on turn.start).1 = .ok false

/-- An interrupt that is not the answer to the command prompt is one to a question of `alias`. -/
theorem dropsAlias_nextTurn (here : session.console.input = .editor editor)
    (free : ∀ stream, session.console.room stream = none)
    (interrupted : .error .interrupted ∈ session.nextTurn.answers.tail) :
    session.nextTurn.DropsAlias := by
  have answered := answered_turn here free
  have finish : session.nextTurn.finish = (turn.on session).2 := rfl
  have start : session.nextTurn.start = session := rfl
  generalize answers : session.nextTurn.answers = all at answered interrupted
  generalize on : turn.on session = outcome at answered finish
  obtain ⟨result, last⟩ := outcome
  cases answered with
  | done => simp at interrupted
  | left => simp at interrupted
  | stored => simp at interrupted
  | none given cause _ other =>
    -- The answer that ends the session is no interrupt, and the others are lines.
    have mem := List.mem_of_mem_tail interrupted
    simp [Ne.symm other] at mem
  | interrupted line given _ some asks steps written =>
    obtain ⟨events, trace, kinds⟩ := steps.trace
    have told := told_nextTurn on trace
    constructor
    · refine ⟨line, ?_, asks⟩
      unfold Turn.command?
      rw [answers]
      simp [some]
    · exact ⟨line, given, answers⟩
    · intro name value mem
      rw [told, List.mem_reverse] at mem
      have kind := kinds _ mem
      simp [Event.effect] at kind
    · rw [finish, start]
      exact steps.aliases_eq (by simp)
    · rw [finish, start]
      exact written
    · rw [start, on]

/-! ## The history -/

/-- The history is handed the command lines of the turns, one after another. -/
theorem recorded_run (here : ∃ editor, session.console.input = .editor editor) :
    (run session).2.recorded = session.recorded ++ (turns session).filterMap Turn.command? ∧
      (run session).2.history =
        ((turns session).filterMap Turn.command?).reverse ++ session.history := by
  rw [List.filterMap_eq_flatMap_toList]
  constructor
  · exact parts_run Steps.still_editor recorded (fun turn => turn.command?.toList) (· ++ ·)
      (fun _ _ _ => (List.append_assoc ..).symm) (fun ⟨_, here⟩ => (recorded_turn here).1) session here
  · exact parts_run Steps.still_editor history (fun turn => turn.command?.toList)
      (fun start lines => lines.reverse ++ start) (fun _ _ _ => by simp)
      (fun ⟨_, here⟩ => (recorded_turn here).2) session here

/-! ## The end of a run -/

/-- The ways in which a run on an editor ends: a line asks to leave, or a prompt is left without an answer. -/
inductive RunEnd : List (Except EditorFault String) → Except SessionFault Unit → Prop
  | left (line : String) : Text.allBlank line = false →
      (Token.tokens line).head? = some Builtin.exit.name → RunEnd [.ok line] (.ok ())
  | none (given : List String) (cause : EditorFault) : cause ≠ .interrupted →
      RunEnd (given.map .ok ++ [.error cause]) (.error (.ofEditor cause))

/-- A run ends as the answers in its last turn say. -/
theorem run_ends (here : ∃ editor, session.console.input = .editor editor)
    (free : ∀ stream, session.console.room stream = none) :
    ∃ turn, (turns session).getLast? = some turn ∧ RunEnd turn.answers (run session).1 := by
  obtain ⟨before, result, steps, last, on, ends, more⟩ := exists_last_turn session
  obtain ⟨editor, there⟩ := steps.still_editor here
  have answered := answered_turn there fun stream => steps.room_eq_none stream (free stream)
  refine ⟨before.nextTurn, last, ?_⟩
  rw [on] at answered
  rw [ends]
  generalize before.nextTurn.answers = answers at answered ⊢
  cases answered with
  | done => exact absurd rfl more
  | left line _ some leaves => exact .left line some leaves
  | stored => exact absurd rfl more
  | interrupted => exact absurd rfl more
  | none given cause _ other => exact .none given cause other

/-! ## Runs on an editor -/

/-- The entries of a session are taken by its turns, or left. -/
theorem typed_run (session : Session W) :
    (turns session).flatMap Turn.typed ++ (run session).2.entries = session.entries := by
  refine turns_induction (motive := fun session outcome turns =>
    turns.flatMap Turn.typed ++ outcome.2.entries = session.entries) ?_ ?_ session
  · intro session result after turned _
    have taken := typed_append session
    rw [turned] at taken
    rw [List.flatMap_singleton]
    exact taken
  · intro session after turned rest
    have taken := typed_append session
    rw [turned] at taken
    rw [List.flatMap_cons, List.append_assoc, rest]
    exact taken

/-- The answers of a run are those of its turns. -/
theorem answers_run (session : Session W) :
    (run session).2.answers = session.answers ++ (turns session).flatMap Turn.answers := by
  unfold answers
  rw [trace_run, List.filterMap_append, List.filterMap_flatMap]
  rfl

/-- What holds of a run on an editor, whatever comes of its prompts. -/
structure RunsOnEditor (session : Session W) : Prop where
  /-- Every entry is taken by a turn, or left. -/
  entries : (turns session).flatMap Turn.typed ++ (run session).2.entries = session.entries
  /-- Every answer is given in a turn. -/
  answers : (run session).2.answers = session.answers ++ (turns session).flatMap Turn.answers
  /-- The first one is the answer to the command prompt. -/
  prompted : ∀ turn ∈ turns session, ∃ editor later, turn.start.console.input = .editor editor ∧
    turn.answers = turn.start.answer editor :: later
  /-- One entry interrupts a command prompt, and the turn is over. -/
  interrupted : ∀ turn ∈ turns session, turn.interrupted = true ↔
    ∃ entry, turn.typed = [entry] ∧ entry.leave = some .interrupted
  /-- Without these entries the run is the same but for the interrupts. -/
  calmer : Calmer session session.uninterrupted
  /-- Any other interrupt is one of the questions of `alias`. -/
  drops : (∀ stream, session.console.room stream = none) → ∀ turn ∈ turns session,
    .error .interrupted ∈ turn.answers.tail → turn.DropsAlias
  /-- The history is handed the command lines, and nothing else. -/
  recorded : (run session).2.recorded = session.recorded ++ (turns session).filterMap Turn.command?
  history : (run session).2.history =
    ((turns session).filterMap Turn.command?).reverse ++ session.history
  /-- The last turn leaves, or gets no answer. -/
  ends : (∀ stream, session.console.room stream = none) →
    ∃ turn, (turns session).getLast? = some turn ∧ RunEnd turn.answers (run session).1

/-- **Interrupts and history on an editor.** An interrupt at the command prompt is as if there had been
no prompt, and one at a question of `alias` drops the alias; the history gets the command lines; and only a line
that asks to leave or a prompt without an answer ends the run. -/
theorem run_onEditor (session : Session W) (editor : Editor) :
    RunsOnEditor (session.withInput (.editor editor)) := by
  generalize eq : session.withInput (.editor editor) = session
  have here : ∃ editor, session.console.input = .editor editor := ⟨editor, by rw [← eq]; rfl⟩
  have turn_on : ∀ turn ∈ turns session, ∃ before editor, turn = before.nextTurn ∧
      Steps Effect.all session before ∧ before.console.input = .editor editor := by
    intro turn mem
    obtain ⟨before, steps, same⟩ := exists_nextTurn_of_mem mem
    obtain ⟨editor, there⟩ := steps.still_editor here
    exact ⟨before, editor, same, steps, there⟩
  constructor
  case entries => exact typed_run session
  case answers => exact answers_run session
  case prompted =>
    intro turn mem
    obtain ⟨before, editor, rfl, _, there⟩ := turn_on turn mem
    obtain ⟨later, answers⟩ := exists_answers_nextTurn there
    exact ⟨editor, later, there, answers⟩
  case interrupted =>
    intro turn mem
    obtain ⟨before, editor, rfl, _, there⟩ := turn_on turn mem
    exact interrupted_iff_typed there
  case calmer => exact calmer_uninterrupted here
  case drops =>
    intro free turn mem interrupted
    obtain ⟨before, editor, rfl, steps, there⟩ := turn_on turn mem
    exact dropsAlias_nextTurn there (fun stream => steps.room_eq_none stream (free stream)) interrupted
  case recorded => exact (recorded_run here).1
  case history => exact (recorded_run here).2
  case ends => exact run_ends here

end Session

/-! ## A question that is interrupted -/

namespace Machine

open Session

/-- A session with an alias, in front of an editor. -/
def edited (entries : List Entry) : Session Machine :=
  Session.withInput
    { console := { input := .reader (.ofScript []) }
      world := { tree := {} }
      directory := "/"
      aliases := AliasTable.empty.put "ll" "ls -l" } (.editor { entries })

/-- Where the second question of `alias` is interrupted, nothing is stored, and the alias that is there already is
listed. The history is handed the two commands. -/
theorem run_onEditor_interrupted :
    let session := edited [.ofText "alias", .ofText "la", .leaving .interrupted, .ofText "exit"]
    session.nextTurn.DropsAlias ∧ session.nextTurn.finish.written .out = Utf8.encode "ll: ls -l\n" ∧
      (run session).1 = .ok () ∧ (run session).2.recorded = ["alias", "exit"] := by
  intro session
  have free : ∀ stream, session.console.room stream = none := by
    intro stream
    cases stream <;> rfl
  have runs := run_onEditor (edited []) ⟨[.ofText "alias", .ofText "la", .leaving .interrupted,
    .ofText "exit"], []⟩
  have dropped := runs.drops free session.nextTurn (nextTurn_mem_turns session) (by decide +kernel)
  refine ⟨dropped, ?_, by decide +kernel, by decide +kernel⟩
  rw [dropped.written]
  decide +kernel

end Machine

end LineShell
