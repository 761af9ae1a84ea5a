import LineShell.Proofs.CommandLine
import LineShell.Proofs.Session.Refusal
import LineShell.Proofs.Token.Layout

/-!
# Lines that start programs

A line whose first token is no builtin command is one request for a program, with its tokens as they are. The
session is the same before and after it, but for what the program itself changed.

* `Event.program?`, `Session.programs`: the programs that were asked for, with their arguments.
* `Session.RunsProgram`: a line that is one request for a program.
* `Session.words_run_programs`: these are the lines without a builtin command, and any words are on one of them.
-/

namespace LineShell

variable {W : Type}

theorem Builtin.lookup?_eq_none {text : String} (other : ∀ builtin : Builtin, text ≠ builtin.name) :
    lookup? text = none := by
  cases named : lookup? text with
  | none => rfl
  | some builtin => exact absurd (eq_name_of_lookup? named) (other builtin)

/-! ## Requests for programs -/

/-- The program that an event asked for, with its arguments. -/
def Event.program? : Event → Option (String × List String)
  | launched program args _ => some (program, args)
  | _ => none

theorem Event.program?_eq_none {event : Event} (other : event.effect ≠ .launch) :
    event.program? = none := by
  cases event with
  | launched program args fed => exact absurd rfl other
  | _ => rfl

namespace Session

open Act

/-- The programs that the session asked for, the oldest first. -/
def programs (session : Session W) : List (String × List String) :=
  session.trace.reverse.filterMap Event.program?

section
variable [Host W]

theorem Steps.programs_eq {effects : List Effect} {session after : Session W}
    (idle : .launch ∉ effects) (steps : Steps effects session after) :
    after.programs = session.programs :=
  steps.filterMap_eq Event.program?_eq_none idle

/-- What a program writes is no further request. -/
theorem programs_afterLaunch (session : Session W) (name : String) (args : List String) :
    (session.afterLaunch name args).programs = session.programs ++ [(name, args)] := by
  have writes : ∀ output : List (Stream × Bytes),
      (output.map fun part => Event.emitted part.1 part.2).filterMap Event.program? = [] := by
    intro output
    simp [List.filterMap_map, Event.program?]
  simp [programs, afterLaunch, writes, Event.program?]

/-! ## What becomes of a program -/

/-- What comes of a program is decided by the world and by the input. -/
theorem launched_congr {session begun : Session W} (world : begun.world = session.world)
    (console : begun.console = session.console) (name : String) (args : List String) :
    begun.launched name args = session.launched name args := by
  simp only [launched, world, console]

theorem fault?_of_program {name : String} (other : Builtin.lookup? name = none) (args : List String)
    (session : Session W) :
    session.fault? (name :: args) = launchFault? name (session.launched name args).result := by
  simp only [fault?, other]

/-- A line succeeds if its program was started and seen to end. -/
theorem executeLine_of_exited {line name : String} {args : List String} {session : Session W}
    (typed : Token.tokens line = name :: args) (other : Builtin.lookup? name = none)
    {pid : Nat} {status : ExitStatus}
    (exited : (session.launched name args).result = .exited pid status) :
    ((executeLine line).on session).1 = .ok .success := by
  obtain ⟨begun, logged, on⟩ := executeLine_program typed other session
  have world := logged.world_eq (by simp) (by simp)
  rw [← launched_congr world logged.console_eq] at exited
  have right : launchFault? name (begun.launched name args).result = none := by
    rw [exited]
    rfl
  obtain ⟨after, _, ran⟩ := program_of_no_fault right
  rw [on, ran]

/-- A line succeeds only if its program was started and seen to end. -/
theorem exited_of_success {line name : String} {args : List String} {session : Session W}
    (typed : Token.tokens line = name :: args) (other : Builtin.lookup? name = none)
    (success : ((executeLine line).on session).1 = .ok .success) :
    ∃ pid status, (session.launched name args).result = .exited pid status := by
  have status := status_executeLine (Prod.ext success rfl)
  rw [typed, fault?_of_program other] at status
  cases result : (session.launched name args).result with
  | exited pid status => exact ⟨pid, status, rfl⟩
  | refused cause =>
    rw [result] at status
    cases status
  | lost cause =>
    rw [result] at status
    cases status

theorem message_refused (name : String) (cause : IoFault) :
    (CommandFault.launch (.refused name cause)).message =
      s!"shoal: failed to launch {name}: {cause.message}" := by
  apply String.toList_inj.mp
  show ("shoal: " ++ ("failed to launch " ++ name ++ ": " ++ cause.message)).toList = _
  simp [toString]

theorem message_lost (name : String) (cause : IoFault) :
    (CommandFault.launch (.lost name cause)).message =
      s!"shoal: failed to wait for {name}: {cause.message}" := by
  apply String.toList_inj.mp
  show ("shoal: " ++ ("failed to wait for " ++ name ++ ": " ++ cause.message)).toList = _
  simp [toString]

/-! ## Lines that are programs -/

/-- The line is one request for the program, with these arguments. The session keeps its directory and its
aliases, and writes nothing itself but a report if the program could not be run. -/
structure RunsProgram (session : Session W) (line name : String) (args : List String) : Prop where
  /-- The launcher is asked once, for this program with these arguments. -/
  asked : ((executeLine line).on session).2.programs = session.programs ++ [(name, args)]
  /-- The world is as the program leaves it. -/
  world : ((executeLine line).on session).2.world = (session.launched name args).world
  directory : ((executeLine line).on session).2.directory = session.directory
  aliases : ((executeLine line).on session).2.aliases = session.aliases
  out : ((executeLine line).on session).2.written .out = session.written .out
  /-- The exit status does not matter. -/
  success : ((executeLine line).on session).1 = .ok .success ↔
    ∃ pid status, (session.launched name args).result = .exited pid status
  silent : ((executeLine line).on session).1 = .ok .success →
    ((executeLine line).on session).2.written .err = session.written .err
  refused : ∀ cause, (session.launched name args).result = .refused cause →
    Reports session line s!"shoal: failed to launch {name}: {cause.message}"
  lost : ∀ cause, (session.launched name args).result = .lost cause →
    Reports session line s!"shoal: failed to wait for {name}: {cause.message}"

/-- Any line without a builtin command is a request for a program. -/
theorem runsProgram {line name : String} {args : List String}
    (typed : Token.tokens line = name :: args) (other : Builtin.lookup? name = none)
    (session : Session W) : RunsProgram session line name args := by
  obtain ⟨begun, logged, rest⟩ := executeLine_launched typed other session
  -- The effects of the line as a whole say what it leaves alone; its parts say what it asks for.
  have steps := (within_executeLine line session).steps
  have footprint : footprint (Token.tokens line) = [.log, .launch, .write .err] := by
    rw [typed, Session.footprint, other]
  rw [footprint] at steps
  have wrong := fault?_of_program other args session
  rw [← typed] at wrong
  constructor
  case asked => rw [rest.programs_eq (by decide), programs_afterLaunch, logged.programs_eq (by decide)]
  case world =>
    have world := logged.world_eq (by decide) (by decide)
    rw [rest.world_eq (by decide) (by decide), ← launched_congr world logged.console_eq]
    rfl
  case directory => exact steps.directory_eq (by decide)
  case aliases => exact steps.aliases_eq (by decide)
  case out => exact steps.written_eq (by decide)
  case success =>
    refine ⟨exited_of_success typed other, ?_⟩
    rintro ⟨pid, status, exited⟩
    exact executeLine_of_exited typed other exited
  case silent =>
    intro success
    obtain ⟨pid, status, exited⟩ := exited_of_success typed other success
    rw [exited] at wrong
    exact (executeLine_of_no_fault wrong).1.written_eq (by decide)
  case refused =>
    intro cause result
    have fault : session.fault? (Token.tokens line) = some (.launch (.refused name cause)) := by
      rw [wrong, result]
      rfl
    rw [← message_refused]
    exact reports_of_fault? fault
  case lost =>
    intro cause result
    have fault : session.fault? (Token.tokens line) = some (.launch (.lost name cause)) := by
      rw [wrong, result]
      rfl
    rw [← message_lost]
    exact reports_of_fault? fault

/-- **Programs get the line as it was typed, and leave the session alone.** A line whose first token is not exactly
the name of a builtin command is one request for the program and the arguments that its tokens are. And any
program with any arguments can be asked for in a line, as long as they are words. -/
theorem words_run_programs :
    (∀ (session : Session W) (line name : String) (args : List String),
      Token.tokens line = name :: args → (∀ builtin : Builtin, name ≠ builtin.name) →
        RunsProgram session line name args) ∧
      ∀ (name : String) (args : List String), (∀ word ∈ name :: args, Token.IsWord word) →
        (∀ builtin : Builtin, name ≠ builtin.name) →
        ∃ line, Token.tokens line = name :: args ∧
          ∀ session : Session W, RunsProgram session line name args := by
  constructor
  · intro session line name args typed other
    exact runsProgram typed (Builtin.lookup?_eq_none other) session
  · intro name args isWord other
    obtain ⟨line, typed⟩ := Token.exists_tokens_eq isWord
    exact ⟨line, typed, runsProgram typed (Builtin.lookup?_eq_none other)⟩

end

end Session

/-! ## References and quotes -/

namespace Mumbling

open Session

/-- A session with an alias for the name of a program. -/
def aliasedSession : Session Mumbling :=
  { console := { input := .reader (.ofScript []) }
    world := {}
    directory := "/"
    aliases := AliasTable.empty.put "ls" "exit" }

theorem words_run_programs_quoted :
    Token.tokens "ls $HOME '~'" = ["ls", "$HOME", "'~'"] ∧
      (∀ builtin : Builtin, "ls" ≠ builtin.name) ∧
      RunsProgram aliasedSession "ls $HOME '~'" "ls" ["$HOME", "'~'"] ∧
      ((executeLine "ls $HOME '~'").on aliasedSession).1 = .ok .success ∧
      (∀ word ∈ ["ls", "$HOME", "'~'"], Token.IsWord word) ∧
      ∃ line, Token.tokens line = ["ls", "$HOME", "'~'"] ∧
        ∀ session : Session Mumbling, RunsProgram session line "ls" ["$HOME", "'~'"] := by
  have words : Token.words "ls $HOME '~'".toList =
      ["ls".toList, "$HOME".toList, "'~'".toList] := by decide
  have typed : Token.tokens "ls $HOME '~'" = ["ls", "$HOME", "'~'"] := by
    rw [Token.tokens_eq, words]
    rfl
  have other : ∀ builtin : Builtin, "ls" ≠ builtin.name := by
    intro builtin
    cases builtin <;> decide
  have isWord : ∀ word ∈ ["ls", "$HOME", "'~'"], Token.IsWord word := by
    rw [← typed]
    exact fun word => Token.isWord_of_mem_tokens
  obtain ⟨run, onLine⟩ := words_run_programs (W := Mumbling)
  have runs := run aliasedSession _ _ _ typed other
  exact ⟨typed, other, runs, runs.success.mpr ⟨2, .code 0, rfl⟩, isWord, onLine _ _ isWord other⟩

end Mumbling

end LineShell
