import LineShell.Proofs.Session.Simulation

/-!
# Prompts that come later

A turn on an editor goes by the entries at its own prompts. Those that come later make no difference to it,
and neither does what happened before.

* `Session.Types`: two sessions in front of the same entries, with more behind them in the second.
* `Session.simulation_types`: they go on alike, until the first has none left.
* `Session.on_turn_typing`, `on_turn_retold`: a turn with other entries behind it, and after anything else.
-/

namespace LineShell

variable {W : Type}

namespace Session

open Act

/-- The entries that are going to come; a reader has none. -/
def entries (session : Session W) : List Entry :=
  match session.console.input with
  | .reader _ => []
  | .editor editor => editor.entries

/-- The lines that can be recalled; a reader has none. -/
def history (session : Session W) : History :=
  match session.console.input with
  | .reader _ => []
  | .editor editor => editor.history

/-- The session in front of other entries, with another account of what happened. -/
def typing (session : Session W) (entries : List Entry) (trace : Trace) : Session W :=
  session.reading (.editor { entries, history := session.history }) trace

theorem entries_of_editor {session : Session W} {editor : Editor}
    (here : session.console.input = .editor editor) : session.entries = editor.entries := by
  simp only [entries, here]

theorem history_of_editor {session : Session W} {editor : Editor}
    (here : session.console.input = .editor editor) : session.history = editor.history := by
  simp only [history, here]

/-- A session in front of its own entries is the same session. -/
theorem typing_entries {session : Session W} {editor : Editor}
    (here : session.console.input = .editor editor) (trace : Trace) :
    session.typing session.entries trace = { session with trace } := by
  unfold typing reading
  rw [entries_of_editor here, history_of_editor here]
  show { session with console := { session.console with input := .editor editor }, trace } = _
  rw [← here]

/-- The second session has more entries to come, and has done the same since the accounts ended with `base` and
`base'`. -/
inductive Types (more : List Entry) (base base' : Trace) : Session W → Session W → Prop
  | intro (session : Session W) (editor : Editor) (events : List Event) :
      session.console.input = .editor editor → session.trace = events ++ base →
      Types more base base' session (session.typing (editor.entries ++ more) (events ++ base'))

/-- The first session had no entry left, and the second took one that was to come later. -/
inductive RunsOn (more : List Entry) : SessionFault → Session W → Session W → Prop
  | intro (first second : Session W) : second.entries.length < more.length →
      RunsOn more .endOfInput first second

section
variable {more : List Entry} {base base' : Trace} {first second : Session W}

/-- What does not look at the entries happens in both sessions alike. -/
theorem Types.step (types : Types more base base' first second) (change : Session W → Session W)
    (new : Session W → List Event)
    (input : ∀ session, (change session).console.input = session.console.input)
    (trace : ∀ session, (change session).trace = new session ++ session.trace)
    (commutes : ∀ session input trace,
      change (session.reading input trace) = (change session).reading input (new session ++ trace)) :
    Types more base base' (change first) (change second) := by
  cases types with
  | intro editor events here told =>
    have history : (change first).history = first.history := by
      simp only [Session.history, input]
    rw [typing, commutes, ← List.append_assoc, ← history]
    apply Types.intro _ editor (new first ++ events) ((input first).trans here)
    rw [trace, told, List.append_assoc]

theorem Types.event (types : Types more base base' first second) (event : Event) :
    Types more base base' (first.afterEvent event) (second.afterEvent event) :=
  types.step (afterEvent · event) (fun _ => [event]) (fun _ => rfl) (fun _ => rfl) fun _ _ _ => rfl

/-- What the relation says of the second session. -/
theorem Types.exists_eq (types : Types more base base' first second) :
    ∃ editor events, first.console.input = .editor editor ∧ first.trace = events ++ base ∧
      second = first.typing (editor.entries ++ more) (events ++ base') := by
  cases types with
  | intro editor events here told => exact ⟨editor, events, here, told, rfl⟩

section
variable [Host W]

theorem Types.launch (types : Types more base base' first second) (program : String)
    (args : List String) :
    (first.launched program args).result = (second.launched program args).result ∧
      Types more base base' (first.afterLaunch program args) (second.afterLaunch program args) := by
  cases types with
  | intro editor events here told =>
    -- A program finds nothing in front of an editor.
    have source : first.console.input.source = [] := by
      rw [here]
      rfl
    have same : (first.typing (editor.entries ++ more) (events ++ base')).launched program args =
        first.launched program args := by
      unfold launched
      rw [source]
      rfl
    have input : (first.afterLaunch program args).console.input = .editor editor := by
      simp only [afterLaunch, here]
      rfl
    have history : (first.afterLaunch program args).history = first.history := by
      rw [history_of_editor input, history_of_editor here]
    have after : (first.typing (editor.entries ++ more) (events ++ base')).afterLaunch program args =
        (first.afterLaunch program args).typing (editor.entries ++ more)
          ((((first.launched program args).output.map fun part =>
            Event.emitted part.1 part.2).reverse ++
              .launched program args [] :: events) ++ base') := by
      conv_rhs => rw [typing, history]
      rw [afterLaunch, same]
      simp [typing, afterLaunch, reading, Input.afterProgram, Input.source]
    rw [same, after]
    refine ⟨rfl, .intro _ editor _ input ?_⟩
    simp [afterLaunch, source, told]

theorem related_write_types (stream : Stream) (bytes : Bytes) :
    Related (Types (W := W) more base base') (RunsOn more) (write stream bytes)
      (write stream bytes) where
  steps := (within_write stream bytes).steps_all
  meets := by
    intro first second types
    have fitting : first.console.fitting stream bytes = second.console.fitting stream bytes := by
      cases types
      cases stream <;> rfl
    rw [on_write, on_write, fitting]
    apply Meets.together
    apply types.step (afterWrite · stream bytes) fun session =>
      [.wrote stream (session.console.fitting stream bytes)]
    · intro session
      exact Console.input_spend ..
    · intro session
      rfl
    · intro session input trace
      cases stream <;> rfl

/-- The same answer gives the same in both. -/
theorem Types.answered (types : Types more base base' first second)
    (answer : Except EditorFault String) :
    Meets (Types more base base') (RunsOn more) (Session.answered answer first)
      (Session.answered answer second) := by
  unfold Session.answered
  split
  · exact .together _ types
  · exact .together _ (types.event _)
  · exact .together _ types

/-- Both get the same answer, unless the first has no entry left. -/
theorem related_readEntry_types (prompt : String) :
    Related (Types (W := W) more base base') (RunsOn more) (readEntry prompt) (readEntry prompt) where
  steps := (within_readEntry prompt).steps_all
  meets := by
    intro first second types
    cases types with
    | intro editor events here told =>
      obtain ⟨entries, lines⟩ := editor
      have here' : (first.typing (entries ++ more) (events ++ base')).console.input =
          .editor ⟨entries ++ more, lines⟩ :=
        congrArg (fun history => Input.editor ⟨entries ++ more, history⟩) (history_of_editor here)
      rw [on_readEntry_answered here, on_readEntry_answered here']
      cases entries with
      | cons entry entries =>
        have after : Types more base base' (first.afterAnswer ⟨entry :: entries, lines⟩ prompt)
            ((first.typing (entry :: entries ++ more) (events ++ base')).afterAnswer
              ⟨entry :: entries ++ more, lines⟩ prompt) := by
          apply Types.intro (first.afterAnswer ⟨entry :: entries, lines⟩ prompt) ⟨entries, lines⟩
            (.answered prompt (Editor.answer ⟨entry :: entries, lines⟩ first.world prompt) :: events) rfl
          rw [afterAnswer, told]
          rfl
        exact after.answered _
      | nil =>
        cases more with
        | nil =>
          have after : Types [] base base' (first.afterAnswer ⟨[], lines⟩ prompt)
              ((first.typing [] (events ++ base')).afterAnswer ⟨[], lines⟩ prompt) := by
            apply Types.intro (first.afterAnswer ⟨[], lines⟩ prompt) ⟨[], lines⟩
              (.answered prompt (.error .endOfFile) :: events) rfl
            rw [afterAnswer, told]
            rfl
          exact after.answered _
        | cons entry later =>
          -- The first session is over, and the second reads on.
          refine .parted .endOfInput _ (.intro _ _ ?_) .refl
          have fewer : ∀ answer, (answered answer ((first.typing (entry :: later)
              (events ++ base')).afterAnswer ⟨entry :: later, lines⟩ prompt)).2.entries = later := by
            intro answer
            unfold Session.answered
            split <;> rfl
          rw [List.nil_append, fewer]
          exact Nat.lt_succ_self _

/-- Sessions in front of the same entries do the same while there are any. -/
theorem simulation_types : Simulation (Types (W := W) more base base') (RunsOn more) := by
  have print : ∀ stream text, Related (Types (W := W) more base base') (RunsOn more)
      (print stream text) (print stream text) :=
    fun stream text => related_write_types stream _
  have style : ∀ {first second : Session W}, Types more base base' first second →
      first.outHighlighter = second.outHighlighter := by
    intro first second types
    cases types
    rfl
  constructor
  case' toSimulationUpToListing => constructor
  case sees_world =>
    intro first second types
    cases types
    rfl
  case sees_directory =>
    intro first second types
    cases types
    rfl
  case after_log =>
    intro first second types record
    exact types.event _
  case after_enter =>
    intro first second types path world _
    exact types.step (afterEnter · path world) (fun _ => [.entered path]) (fun _ => rfl)
      (fun _ => rfl) fun _ _ _ => rfl
  case after_refresh =>
    intro first second types text _
    exact types.step (withDirectory · text) (fun _ => []) (fun _ => rfl) (fun _ => rfl)
      fun _ _ _ => rfl
  case after_store =>
    intro first second types name value
    exact types.step (afterStore · name value) (fun _ => [.stored name value]) (fun _ => rfl)
      (fun _ => rfl) fun _ _ _ => rfl
  case after_launch =>
    intro first second types program args
    exact types.launch program args
  case on_print => exact print .out
  case on_readEntry => exact related_readEntry_types
  case on_remember =>
    intro line
    constructor
    · exact (within_remember line).steps_all
    · intro first second types
      cases types with
      | intro editor events here told =>
        have here' : (first.typing (editor.entries ++ more) (events ++ base')).console.input =
          .editor ⟨editor.entries ++ more, first.history⟩ := rfl
        rw [on_remember_of_editor here, on_remember_of_editor here', history_of_editor here]
        refine .together _ (.intro (first.afterRecorded editor line)
          (editor.remember line) (.recorded line :: events) rfl ?_)
        rw [afterRecorded, told]
        rfl
  case on_logo => exact related_printLogo (print .out) style
  case on_help => exact related_help (print .out) style
  case on_listing =>
    apply related_listAliases (print .out)
    intro first second types
    cases types
    rfl
  case on_report =>
    apply related_report (print .err)
    intro first second types
    cases types
    rfl

/-! ## Turns -/

/-- Entries are taken from the front, one after another. -/
theorem Steps.entries_suffix {effects : List Effect} {session after : Session W}
    (steps : Steps effects session after) : after.entries <:+ session.entries := by
  refine steps.invariant (p := fun s => s.entries <:+ session.entries) ?_ (List.suffix_refl _)
  intro before next effect mem step suffix
  refine List.IsSuffix.trans ?_ suffix
  cases step with
  | write stream bytes =>
    rw [entries, afterWrite, Console.input_spend]
    exact List.suffix_refl _
  | piece reader here => exact List.nil_suffix
  | answer editor prompt here =>
    rw [entries_of_editor here]
    exact List.tail_suffix _
  | remember editor line here =>
    rw [entries_of_editor here]
    exact List.suffix_refl _
  | launch program args =>
    cases here : before.console.input with
    | reader reader =>
      simp only [entries, afterLaunch, here]
      exact List.nil_suffix
    | editor editor =>
      simp only [entries, afterLaunch, here]
      exact List.suffix_refl _
  | _ => exact List.suffix_refl _

/-- A turn that goes on takes no entry that is left behind it, so it comes to the same end without them. -/
theorem on_turn_alone {session after : Session W} {editor : Editor}
    (here : session.console.input = .editor editor) (on : turn.on session = (.ok false, after))
    {typed : List Entry} (taken : session.entries = typed ++ after.entries) :
    ∃ last lines events, turn.on (session.typing typed session.trace) = (.ok false, last) ∧
      last.console.input = .editor ⟨[], lines⟩ ∧ last.trace = events ++ session.trace ∧
      after = last.typing after.entries (events ++ session.trace) := by
  have types : Types after.entries session.trace session.trace (session.typing typed session.trace)
      ((session.typing typed session.trace).typing (typed ++ after.entries)
        ([] ++ session.trace)) :=
    .intro _ ⟨typed, session.history⟩ [] rfl rfl
  have same : (session.typing typed session.trace).typing (typed ++ after.entries)
      ([] ++ session.trace) = session := by
    rw [← taken]
    exact typing_entries here session.trace
  rw [same] at types
  have meets := simulation_types.related_turn.meets types
  rw [on] at meets
  generalize turn.on (session.typing typed session.trace) = outcome at meets ⊢
  cases meets with
  | together _ near =>
    obtain ⟨⟨entries, lines⟩, events, there, told, eq⟩ := near.exists_eq
    have none : entries = [] := by
      have none := congrArg Session.entries eq
      exact List.self_eq_append_left.mp none
    rw [none] at there eq
    exact ⟨_, lines, events, rfl, there, told, eq⟩
  | parted fault split more steps =>
    cases more with
    | intro _ _ fewer =>
      have still := (Steps.entries_suffix steps).length_le
      simp only at still
      omega

/-- With other entries left behind it, and after anything else, such a turn does the same. -/
theorem on_turn_typing {session after : Session W} {editor : Editor}
    (here : session.console.input = .editor editor) (on : turn.on session = (.ok false, after))
    {typed : List Entry} (taken : session.entries = typed ++ after.entries) (left : List Entry)
    (base : Trace) :
    ∃ events, after.trace = events ++ session.trace ∧
      turn.on (session.typing (typed ++ left) base) =
        (.ok false, after.typing left (events ++ base)) := by
  obtain ⟨last, lines, events, alone, there, told, eq⟩ := on_turn_alone here on taken
  have types : Types left session.trace base (session.typing typed session.trace)
      ((session.typing typed session.trace).typing (typed ++ left) ([] ++ base)) :=
    .intro _ ⟨typed, session.history⟩ [] rfl rfl
  have meets := simulation_types.related_turn.meets types
  rw [alone] at meets
  have same : (session.typing typed session.trace).typing (typed ++ left) ([] ++ base) =
    session.typing (typed ++ left) base := rfl
  rw [same] at meets
  generalize turn.on (session.typing (typed ++ left) base) = outcome at meets ⊢
  cases meets with
  | together _ near =>
    obtain ⟨editor', events', there', told', eq'⟩ := near.exists_eq
    cases there.symm.trans there'
    cases List.append_cancel_right (told.symm.trans told')
    refine ⟨events, congrArg Session.trace eq, ?_⟩
    rw [eq', eq]
    rfl

/-- Any turn does the same after anything else. -/
theorem on_turn_retold {session : Session W} {editor : Editor}
    (here : session.console.input = .editor editor) (base : Trace) :
    ∃ events, (turn.on session).2.trace = events ++ session.trace ∧
      turn.on (session.typing session.entries base) =
        ((turn.on session).1, (turn.on session).2.typing (turn.on session).2.entries
          (events ++ base)) := by
  have types : Types [] session.trace base session
      (session.typing (editor.entries ++ []) ([] ++ base)) :=
    .intro session editor [] here rfl
  rw [List.append_nil, ← entries_of_editor here] at types
  have meets := simulation_types.related_turn.meets types
  have same : session.typing session.entries ([] ++ base) = session.typing session.entries base := rfl
  rw [same] at meets
  generalize turn.on session = outcome, turn.on (session.typing session.entries base) = outcome'
    at meets ⊢
  cases meets with
  | together result near =>
    obtain ⟨editor', events, there, told, eq⟩ := near.exists_eq
    refine ⟨events, told, ?_⟩
    rw [eq, List.append_nil, ← entries_of_editor there]
  | parted fault split more steps =>
    cases more with
    | intro _ _ fewer => exact absurd fewer (Nat.not_lt_zero _)

end

end

end Session

end LineShell
