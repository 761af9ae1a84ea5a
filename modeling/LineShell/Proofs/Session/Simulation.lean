import LineShell.Proofs.Session.Outcome
import LineShell.Proofs.Session.Turns
import Mathlib.Data.List.Forall2

/-!
# Two sessions side by side

Two sessions that do the same, step by step, stay as they stand to each other, up to a fault at which the
first one may end alone. What a relation has to keep for that is said once for each thing a session does.

* `Session.withInput`, `withRoom`, `shownIn`: sessions that differ in one thing.
* `Act.Meets`: how two sessions stand behind an act: still related, or parted by a fault of the first.
* `Act.Related`: two acts that lead related sessions there.
* `Session.SimulationUpToListing`, `Simulation`: what a relation keeps.
* `Session.Simulation.related_turn`, `meets_run`: then turns and runs keep it.
-/

namespace LineShell

variable {W α β : Type}

namespace Session

/-- The session with another input. -/
def withInput (session : Session W) (input : Input) : Session W :=
  { session with console := { session.console with input } }

/-- The session in front of another input, with another account of what happened. -/
def reading (session : Session W) (input : Input) (trace : Trace) : Session W :=
  { session with console := { session.console with input }, trace }

/-- The session on streams that take so many bytes more; `none` is any number. -/
def withRoom (session : Session W) (out err : Option Nat) : Session W :=
  { session with console := { session.console with outRoom := out, errRoom := err } }

/-- The session with other highlighters. -/
def shownIn (session : Session W) (look : Stream → Highlighter) : Session W :=
  { session with outHighlighter := look .out, errHighlighter := look .err }

/-- No fault parts the sessions. -/
def Never (_ : SessionFault) (_ _ : Session W) : Prop := False

end Session

namespace Act

open Session

section
variable [Host W] {Near : Session W → Session W → Prop}
  {Split : SessionFault → Session W → Session W → Prop}

/-! ## Related acts -/

/-- Two outcomes, of a first and of a second session. They are the same and the sessions are still related;
or the first session has ended with a fault, and the second has gone on from where they parted. -/
inductive Meets (Near : Session W → Session W → Prop)
    (Split : SessionFault → Session W → Session W → Prop) :
    Except SessionFault α × Session W → Except SessionFault α × Session W → Prop
  | together (result : Except SessionFault α) {first second : Session W} :
      Near first second → Meets Near Split (result, first) (result, second)
  | parted (fault : SessionFault) {first split : Session W}
      (outcome : Except SessionFault α × Session W) :
      Split fault first split → Steps Effect.all split outcome.2 →
      Meets Near Split (.error fault, first) outcome

/-- The acts lead related sessions to outcomes that meet, and the second act is made of effects. -/
structure Related (Near : Session W → Session W → Prop)
    (Split : SessionFault → Session W → Session W → Prop) (act other : Act W α) : Prop where
  steps : ∀ session, Steps Effect.all session (other.on session).2
  meets : ∀ {first second}, Near first second → Meets Near Split (act.on first) (other.on second)

theorem Within.steps_all {effects : List Effect} {act : Act W α} (within : Within effects act)
    (session : Session W) : Steps Effect.all session (act.on session).2 :=
  (within session).steps.mono fun effect _ => effect.mem_all

theorem Related.pure (x : α) : Related Near Split (Pure.pure x : Act W α) (Pure.pure x) where
  steps _ := .refl
  meets near := .together (.ok x) near

/-- Sessions that no fault parts are still related. -/
theorem Meets.of_never {outcome outcome' : Except SessionFault α × Session W}
    (meets : Meets Near Never outcome outcome') :
    ∃ result first second, outcome = (result, first) ∧ outcome' = (result, second) ∧
      Near first second := by
  cases meets with
  | together result near => exact ⟨result, _, _, rfl, rfl, near⟩
  | parted fault _ split _ => exact split.elim

/-- One act after another, from a given pair of sessions. -/
theorem Meets.bind {act other : Act W α} {next next' : α → Act W β} {before before' : Session W}
    (meets : Meets Near Split (act.on before) (other.on before'))
    (steps : ∀ x second, other.on before' = (.ok x, second) →
      Steps Effect.all second ((next' x).on second).2)
    (rest : ∀ x first second, act.on before = (.ok x, first) → other.on before' = (.ok x, second) →
      Near first second → Meets Near Split ((next x).on first) ((next' x).on second)) :
    Meets Near Split ((act >>= next).on before) ((other >>= next').on before') := by
  rw [on_bind, on_bind]
  generalize act.on before = outcome, other.on before' = outcome' at meets steps rest
  cases meets with
  | together result near =>
    cases result with
    | error fault => exact .together (.error fault) near
    | ok x => exact rest x _ _ rfl rfl near
  | parted fault _ split goes =>
    -- The first session is over; whatever the second does is only further steps.
    obtain ⟨result, between⟩ := outcome'
    cases result with
    | error fault' => exact .parted fault _ split goes
    | ok x => exact .parted fault _ split (goes.trans (steps x between rfl))

theorem Related.bind {act other : Act W α} {next next' : α → Act W β}
    (first : Related Near Split act other) (rest : ∀ x, Related Near Split (next x) (next' x)) :
    Related Near Split (act >>= next) (other >>= next') where
  steps := by
    intro session
    have begins := first.steps session
    rw [on_bind]
    generalize other.on session = outcome at begins
    obtain ⟨result, between⟩ := outcome
    cases result with
    | error fault => exact begins
    | ok x => exact begins.trans ((rest x).steps between)
  meets := by
    intro before before' near
    apply (first.meets near).bind
    · intro x second _
      exact (rest x).steps second
    · intro x first second _ _ near
      exact (rest x).meets near

/-- Both sessions look at themselves, and do what they see. -/
theorem Related.look {act other : Session W → Act W α}
    (steps : ∀ session, Steps Effect.all session ((other session).on session).2)
    (meets : ∀ {first second}, Near first second →
      Meets Near Split ((act first).on first) ((other second).on second)) :
    Related Near Split (get >>= act) (get >>= other) where
  steps session := by
    rw [on_bind, on_get]
    exact steps session
  meets near := by
    rw [on_bind, on_bind, on_get, on_get]
    exact meets near

/-- What both sessions see leads them to the same act. -/
theorem Related.look_same {act : Session W → Act W α}
    (same : ∀ {first second}, Near first second → act first = act second)
    (rest : ∀ session, Related Near Split (act session) (act session)) :
    Related Near Split (get >>= act) (get >>= act) := by
  apply Related.look
  · intro session
    exact (rest session).steps session
  · intro first second near
    rw [same near]
    exact (rest second).meets near

end

end Act

namespace Session

open Act

section
variable [Host W] {Near : Session W → Session W → Prop}
  {Split : SessionFault → Session W → Session W → Prop}

/-! ## Printing and reading -/

/-- Lines of a kind, one after another. -/
theorem related_printLines {lines lines' : List String}
    (alike : List.Forall₂ (fun line line' =>
      Related Near Split (printLine .out line) (printLine .out line')) lines lines') :
    Related Near Split (printLines lines) (printLines lines') := by
  induction alike with
  | nil => exact .pure _
  | cons line _ ih => exact .bind line fun _ => ih

section
variable (prints : ∀ text, Related Near Split (print .out text) (print .out text))
include prints

theorem related_printLines_same (lines : List String) :
    Related Near Split (printLines lines) (printLines lines) := by
  apply related_printLines
  rw [List.forall₂_same]
  intro line _
  exact prints _

/-- Where the output streams are styled alike, so are the texts. -/
theorem related_printLogo (same : ∀ {first second}, Near first second →
      first.outHighlighter = second.outHighlighter) :
    Related Near Split printLogo printLogo := by
  apply Related.look_same
  · intro first second near
    rw [same near]
  · intro session
    exact prints _

theorem related_help (same : ∀ {first second}, Near first second →
      first.outHighlighter = second.outHighlighter) :
    Related Near Split (help : Act W Status) help := by
  refine .bind (related_printLogo prints same) fun _ => ?_
  apply Related.look_same
  · intro first second near
    rw [same near]
  · intro session
    exact .bind (related_printLines_same prints _) fun _ => .pure _

theorem related_listAliases (same : ∀ {first second}, Near first second →
      first.aliases = second.aliases) :
    Related Near Split (listAliases : Act W Status) listAliases := by
  apply Related.look_same
  · intro first second near
    rw [same near]
  · intro session
    exact .bind (related_printLines_same prints _) fun _ => .pure _

end

theorem related_report (prints : ∀ text, Related Near Split (print .err text) (print .err text))
    (same : ∀ {first second}, Near first second → first.errHighlighter = second.errHighlighter)
    (fault : CommandFault) : Related Near Split (report fault) (report fault) := by
  apply Related.look_same
  · intro first second near
    rw [same near]
  · intro session
    exact .bind (prints _) fun _ => .pure _

/-- Sessions with the same input get the same answers. -/
theorem related_readEntry
    (prints : ∀ text, Related Near Split (print .out text) (print .out text))
    (world : ∀ {first second}, Near first second → first.world = second.world)
    (input : ∀ {first second}, Near first second → first.console.input = second.console.input)
    (log : ∀ {first second}, Near first second → ∀ record,
      Near (first.afterEvent (.logged record)) (second.afterEvent (.logged record)))
    (piece : ∀ {first second}, Near first second → ∀ reader,
      second.console.input = .reader reader → Near (first.afterPiece reader) (second.afterPiece reader))
    (answer : ∀ {first second}, Near first second → ∀ editor prompt,
      second.console.input = .editor editor →
      Near (first.afterAnswer editor prompt) (second.afterAnswer editor prompt))
    (prompt : String) : Related Near Split (readEntry prompt) (readEntry prompt) where
  steps := (within_readEntry prompt).steps_all
  meets := by
    intro first second near
    have same := input near
    cases here : second.console.input with
    | reader reader =>
      rw [here] at same
      rw [on_readEntry_of_reader same, on_readEntry_of_reader here]
      -- The prompt changes nothing about the input.
      have still : ∀ x second', (print .out prompt).on second = (.ok x, second') →
          second'.console.input = .reader reader := by
        intro _ second' put
        rw [(write_ok put).2, afterWrite, Console.input_spend, here]
      apply ((prints prompt).meets near).bind
      · intro x second' put
        rw [on_readPiece]
        exact .single (.piece reader (still x second' put)) (Effect.mem_all _)
      · intro x first' second' _ put near'
        rw [on_readPiece, on_readPiece]
        exact .together _ (piece near' reader (still x second' put))
    | editor editor =>
      rw [here] at same
      rw [on_readEntry_of_editor same, on_readEntry_of_editor here, on_readEditor, on_readEditor,
        world near]
      have answered := answer near editor prompt here
      split
      · exact .together _ answered
      · exact .together _ (log answered _)
      · exact .together _ answered

theorem related_remember
    (input : ∀ {first second}, Near first second → first.console.input = second.console.input)
    (record : ∀ {first second}, Near first second → ∀ editor line,
      second.console.input = .editor editor →
      Near (first.afterRecorded editor line) (second.afterRecorded editor line))
    (line : String) : Related Near Split (remember line) (remember line) where
  steps := (within_remember line).steps_all
  meets := by
    intro first second near
    have same := input near
    cases here : second.console.input with
    | reader reader =>
      rw [here] at same
      rw [on_remember_of_reader same, on_remember_of_reader here]
      exact .together _ near
    | editor editor =>
      rw [here] at same
      rw [on_remember_of_editor same, on_remember_of_editor here]
      exact .together _ (record near editor line here)

/-! ## What a relation has to keep -/

/-- The relation is kept by everything that two sessions do alike, listing their aliases apart, and a fault
apart by which they part. -/
structure SimulationUpToListing (Near : Session W → Session W → Prop)
    (Split : SessionFault → Session W → Session W → Prop) : Prop where
  sees_world : ∀ {first second}, Near first second → first.world = second.world
  sees_directory : ∀ {first second}, Near first second → first.directory = second.directory
  after_log : ∀ {first second}, Near first second → ∀ record,
    Near (first.afterEvent (.logged record)) (second.afterEvent (.logged record))
  after_enter : ∀ {first second}, Near first second → ∀ path world,
    Host.enter second.world path = .ok world →
    Near (first.afterEnter path world) (second.afterEnter path world)
  after_refresh : ∀ {first second}, Near first second → ∀ text,
    Directory.read second.world = .ok text →
    Near (first.withDirectory text) (second.withDirectory text)
  after_store : ∀ {first second}, Near first second → ∀ name value,
    Near (first.afterStore name value) (second.afterStore name value)
  after_launch : ∀ {first second}, Near first second → ∀ program args,
    (first.launched program args).result = (second.launched program args).result ∧
      Near (first.afterLaunch program args) (second.afterLaunch program args)
  on_print : ∀ text, Related Near Split (print .out text) (print .out text)
  on_readEntry : ∀ prompt, Related Near Split (readEntry prompt) (readEntry prompt)
  on_remember : ∀ line, Related Near Split (remember line) (remember line)
  on_logo : Related Near Split printLogo printLogo
  on_help : Related Near Split help help
  on_report : ∀ fault, Related Near Split (report fault) (report fault)

/-- The relation is kept by listing the aliases, too. -/
structure Simulation (Near : Session W → Session W → Prop)
    (Split : SessionFault → Session W → Session W → Prop) : Prop
    extends SimulationUpToListing Near Split where
  on_listing : Related Near Split listAliases listAliases

namespace SimulationUpToListing

variable (sim : SimulationUpToListing Near Split)
include sim

/-! ## Lines -/

theorem related_debug (message : String) : Related Near Split (debug message) (debug message) where
  steps := (within_debug message).steps_all
  meets near := by
    rw [on_debug, on_debug]
    exact .together _ (sim.after_log near _)

theorem related_readLine (prompt : String) :
    Related Near Split (readLine prompt) (readLine prompt) := by
  apply Related.bind (sim.on_readEntry prompt)
  intro answer
  dsimp only
  split
  · exact .bind (sim.on_remember _) fun _ => .pure _
  · exact .pure _

theorem related_refresh : Related Near Split (refresh : Act W _) refresh where
  steps := within_refresh.steps_all
  meets := by
    intro first second near
    have world := sim.sees_world near
    cases read : Directory.read second.world with
    | error cause =>
      have read' : Directory.read first.world = .error cause := by rw [world, read]
      rw [on_refresh_of_error read, on_refresh_of_error read']
      exact .together _ near
    | ok text =>
      have read' : Directory.read first.world = .ok text := by rw [world, read]
      rw [on_refresh_of_ok read, on_refresh_of_ok read']
      exact .together _ (sim.after_log (sim.after_refresh near text read) _)

theorem related_enter (path : Bytes) : Related Near Split (enter path) (enter path) where
  steps := (within_enter path).steps_all
  meets := by
    intro first second near
    have world := sim.sees_world near
    cases entered : Host.enter second.world path with
    | error cause =>
      have entered' : Host.enter first.world path = .error cause := by rw [world, entered]
      rw [on_enter_of_error entered, on_enter_of_error entered']
      exact .together _ near
    | ok target =>
      have entered' : Host.enter first.world path = .ok target := by rw [world, entered]
      rw [on_enter_of_ok entered, on_enter_of_ok entered']
      exact .together _ (sim.after_enter near path target entered)

theorem related_moveTo (target : String) : Related Near Split (moveTo target) (moveTo target) := by
  apply Related.look_same
  · intro first second near
    rw [sim.sees_world near]
  · intro session
    split
    · exact .pure _
    · refine .bind (sim.related_enter _) fun entered => ?_
      split
      · split <;> exact .pure _
      · refine .bind sim.related_refresh fun refreshed => ?_
        split <;> exact .pure _

theorem related_cd (args : List String) : Related Near Split (cd args) (cd args) := by
  dsimp only [cd]
  split
  · refine .bind (sim.related_moveTo _) fun moved => ?_
    split
    · exact .pure _
    · exact sim.on_report _
  · exact sim.on_report _

theorem related_pwd : Related Near Split (pwd : Act W Status) pwd := by
  apply Related.look_same
  · intro first second near
    rw [sim.sees_directory near]
  · intro session
    exact .bind (sim.on_print _) fun _ => .pure _

theorem related_exit (args : List String) : Related Near Split (exit args) (exit args) := by
  dsimp only [exit]
  split
  · exact .bind (sim.related_debug _) fun _ => .pure _
  · exact .pure _

theorem related_askAlias : Related Near Split (askAlias : Act W _) askAlias := by
  refine .bind (sim.on_readEntry _) fun name => ?_
  split
  · exact .pure _
  · refine .bind (sim.on_readEntry _) fun value => ?_
    split <;> exact .pure _

theorem related_storeAlias (name value : String) :
    Related Near Split (storeAlias name value) (storeAlias name value) where
  steps := (within_storeAlias name value).steps_all
  meets near := .together (.ok ()) (sim.after_store near name value)

theorem related_noteReferences (tokens : List String) :
    Related Near Split (noteReferences tokens) (noteReferences tokens) := by
  induction tokens with
  | nil => exact .pure _
  | cons token rest ih =>
    dsimp only [noteReferences]
    split
    · exact .bind (sim.related_debug _) fun _ => ih
    · exact ih

/-- What `alias` does before it lists the aliases. -/
theorem related_beforeListing (args : List String) :
    Related Near Split (beforeListing args) (beforeListing args) := by
  refine .bind (sim.related_noteReferences _) fun _ => .bind (sim.related_debug _) fun _ => ?_
  split
  · refine .bind sim.related_askAlias fun answer => ?_
    cases answer with
    | none => exact sim.related_debug _
    | some entry => exact sim.related_storeAlias _ _
  · exact .pure _

theorem related_runBuiltin {builtin : Builtin} (other : builtin ≠ .aliases) (args : List String) :
    Related Near Split (runBuiltin builtin args) (runBuiltin builtin args) := by
  cases builtin with
  | exit => exact sim.related_exit args
  | help => exact sim.on_help
  | logo => exact .bind sim.on_logo fun _ => .pure _
  | cd => exact sim.related_cd args
  | pwd => exact sim.related_pwd
  | aliases => exact absurd rfl other

theorem related_launch (args : List String) : Related Near Split (launch args) (launch args) := by
  cases args with
  | nil => exact .pure _
  | cons program args =>
    constructor
    · exact (within_launch _).steps_all
    · intro first second near
      obtain ⟨result, after⟩ := sim.after_launch near program args
      rw [on_launch, on_launch, result]
      cases (second.launched program args).result with
      | refused cause => exact .together _ after
      | lost cause => exact .together _ after
      | exited pid status => exact .together _ (sim.after_log after _)

theorem related_dispatch {name : String} (other : name ≠ Builtin.aliases.name) (args : List String) :
    Related Near Split (dispatch (name :: args)) (dispatch (name :: args)) := by
  cases named : Builtin.lookup? name with
  | some builtin =>
    rw [dispatch_builtin named]
    refine .bind (sim.related_debug _) fun _ => sim.related_runBuiltin ?_ _
    rintro rfl
    exact other (Builtin.eq_name_of_lookup? named)
  | none =>
    rw [dispatch_program named]
    refine .bind (sim.related_debug _) fun _ => .bind (sim.related_launch _) fun outcome => ?_
    cases outcome with
    | ok _ => exact .pure _
    | error fault => exact sim.on_report _

/-- A line that lists no aliases. -/
theorem related_executeLine_other {line : String}
    (other : (Token.tokens line).head? ≠ some Builtin.aliases.name) :
    Related Near Split (executeLine line) (executeLine line) := by
  cases tokens : Token.tokens line with
  | nil =>
    rw [executeLine_of_nil tokens]
    exact .pure _
  | cons name args =>
    rw [executeLine_of_cons tokens]
    refine .bind (sim.related_noteReferences _) fun _ => sim.related_dispatch ?_ args
    rintro rfl
    exact other (by rw [tokens, List.head?_cons])

end SimulationUpToListing

namespace Simulation

variable (sim : Simulation Near Split)
include sim

theorem related_executeLine (line : String) :
    Related Near Split (executeLine line) (executeLine line) := by
  by_cases lists : (Token.tokens line).head? = some Builtin.aliases.name
  · obtain ⟨args, tokens⟩ := List.head?_eq_some_iff.mp lists
    rw [executeLine_alias tokens]
    exact .bind (sim.related_beforeListing args) fun _ => sim.on_listing
  · exact sim.related_executeLine_other lists

/-! ## Turns -/

theorem related_turn : Related Near Split (turn : Act W Bool) turn := by
  apply Related.look_same
  · intro first second near
    rw [prompt, prompt, sim.sees_directory near]
  · intro session
    refine .bind (sim.related_readLine session.prompt) fun line => ?_
    split
    · exact .pure _
    · refine .bind (sim.related_executeLine line) fun status => ?_
      split
      · exact .bind (sim.related_debug _) fun _ => .pure _
      · exact .pure _

end Simulation

/-! ## Runs -/

/-- A run is made of effects. -/
theorem steps_run (session : Session W) : Steps Effect.all session (run session).2 := by
  fun_induction run session with
  | case1 session fault after turned =>
    have steps := within_turn.steps_all session
    rw [turned] at steps
    exact steps
  | case2 session after turned =>
    have steps := within_turn.steps_all session
    rw [turned] at steps
    exact steps
  | case3 session after turned ih =>
    have steps := within_turn.steps_all session
    rw [turned] at steps
    exact steps.trans ih

/-- Behind its first turn, too. -/
theorem steps_run_of_turn (session : Session W) :
    Steps Effect.all (turn.on session).2 (run session).2 := by
  cases turned : turn.on session with
  | mk result after =>
    match result with
    | .error fault =>
      rw [run_of_fault turned]
      exact .refl
    | .ok true =>
      rw [run_of_end turned]
      exact .refl
    | .ok false =>
      rw [run_of_turn turned]
      exact steps_run after

/-- Runs of related sessions end alike, or the first one ends with a fault where they part. -/
theorem Simulation.meets_run (sim : Simulation Near Split) {first second : Session W}
    (near : Near first second) : Meets Near Split (run first) (run second) := by
  fun_induction run first generalizing second with
  | case1 first fault after turned =>
    have meets := sim.related_turn.meets near
    have goes := steps_run_of_turn second
    rw [turned] at meets
    generalize turned' : turn.on second = outcome at meets goes
    cases meets with
    | together _ near =>
      rw [run_of_fault turned']
      exact .together _ near
    | parted _ _ split steps => exact .parted fault _ split (steps.trans goes)
  | case2 first after turned =>
    have meets := sim.related_turn.meets near
    rw [turned] at meets
    generalize turned' : turn.on second = outcome at meets
    cases meets with
    | together _ near =>
      rw [run_of_end turned']
      exact .together _ near
  | case3 first after turned ih =>
    have meets := sim.related_turn.meets near
    rw [turned] at meets
    generalize turned' : turn.on second = outcome at meets
    cases meets with
    | together _ near =>
      rw [run_of_turn turned']
      exact ih near

end

end Session

end LineShell
