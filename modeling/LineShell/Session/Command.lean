import LineShell.Session.Directory
import LineShell.Session.Read
import LineShell.Text.Column

/-!
# Commands

A command is a list of tokens. A builtin command is carried out by the session, everything else is started
as a program, and what a command gets wrong is reported on the error stream.

* `Session.report`: one line for a failed command.
* `Session.runBuiltin`: the builtin commands.
* `Session.launch`: programs.
* `Session.dispatch`: a list of tokens.
* `Session.tokenize`: the tokens of a line, or the fault that there are too many.
* `Session.executeLine`: a line.
-/

namespace LineShell

variable {W : Type}

namespace Session

open Act

/-- Reports a failed command. -/
def report (fault : CommandFault) : Act W Status := do
  printLine .err ((← get).errHighlighter.error fault.message)
  return .failure

/-- Prints lines one after another. -/
def printLines : List String → Act W Unit
  | [] => pure ()
  | line :: rest => do
    printLine .out line
    printLines rest

/-! ### Builtin commands -/

/-- Ends the session; arguments have no effect. -/
def exit (args : List String) : Act W Status := do
  if args.length > 1 then debug s!"exit: ignoring {args.length - 1} argument(s)"
  return .exit

/-- Prints the banner. -/
def printLogo : Act W Unit := do
  printLine .out ((← get).outHighlighter.banner logo)

/-- The line of a builtin command in the help text; the name is padded before it is styled. -/
def helpLine (highlighter : Highlighter) (builtin : Builtin) : String :=
  s!"  {highlighter.name (Text.padRight 8 builtin.name)} {builtin.description}"

/-- The help text below the banner. -/
def helpLines (highlighter : Highlighter) : List String :=
  ["", "Welcome to shoal, a tiny interactive shell.", "Built-in commands:"] ++
    Builtin.all.map (helpLine highlighter) ++
    ["", "Anything else is started as a program with its arguments, e.g. `ls -l`."]

/-- Shows the help text. -/
def help : Act W Status := do
  printLogo
  printLines (helpLines (← get).outHighlighter)
  return .success

/-- Changes the working directory; exactly one directory has to be named. -/
def cd [Host W] (args : List String) : Act W Status := do
  match args with
  | [_, target] =>
    match ← moveTo target with
    | .ok () => return .success
    | .error fault => report fault
  | _ => report (.usage "cd <directory>")

/-- Prints the working directory as it is kept. -/
def pwd : Act W Status := do
  printLine .out (← get).directory
  return .success

/-- Asks for a name and a value; `none` when either prompt was interrupted. -/
def askAlias [Host W] : Act W (Option (String × String)) := do
  match ← readEntry "alias name: " with
  | none => return none
  | some name =>
    match ← readEntry "alias value: " with
    | none => return none
    | some value => return some (name, value)

/-- Stores an alias. -/
def storeAlias (name value : String) : Act W Unit :=
  modify fun session => { session with
    aliases := session.aliases.put name value
    trace := .stored name value :: session.trace }

/-- Without arguments asks for an alias and stores it; always lists the aliases afterwards. -/
def manageAliases [Host W] (args : List String) : Act W Status := do
  if args.length = 1 then
    match ← askAlias with
    | some (name, value) => storeAlias name value
    | none => debug "alias entry interrupted, nothing stored"
  printLines ((← get).aliases.toList.map fun entry => s!"{entry.1}: {entry.2}")
  return .success

/-- Carries out a builtin command on a list of tokens, the name of the command included. -/
def runBuiltin [Host W] (builtin : Builtin) (args : List String) : Act W Status :=
  match builtin with
  | .exit => exit args
  | .help => help
  | .logo => do printLogo; return .success
  | .cd => cd args
  | .pwd => pwd
  | .aliases => manageAliases args

/-! ### Programs -/

/-- Runs a program and waits for its end. Its exit status is logged and otherwise ignored. -/
def launch [Host W] (args : List String) : Act W (Except LaunchFault Unit) := do
  match args with
  | [] => return .error .nothingToLaunch
  | program :: rest =>
    let session ← get
    let input := session.console.input
    -- Bytes that the reader holds are not in the source, so a program does not see them.
    let launched := Host.launch session.world program rest input.source
    modify fun session => { session with
      world := launched.world
      console := { session.console with input := session.console.input.afterProgram launched.taken }
      trace := (launched.output.map fun part => Event.emitted part.1 part.2).reverse ++
        .launched program rest (input.source.take launched.taken) :: session.trace }
    match launched.result with
    | .refused cause => return .error (.refused program cause)
    | .lost cause => return .error (.lost program cause)
    | .exited pid status =>
      debug s!"{program} (pid {pid}) exited with {status.text}"
      return .ok ()

/-! ### Lines -/

/-- Carries out a list of tokens: a builtin command if the first token names one, else a program. -/
def dispatch [Host W] (args : List String) : Act W Status := do
  match args with
  | [] => return .success
  | name :: _ =>
    match Builtin.lookup? name with
    | some builtin =>
      debug s!"builtin {builtin.name}"
      runBuiltin builtin args
    | none =>
      debug s!"launching {name}"
      match ← launch args with
      | .ok () => return .success
      | .error fault => report (.launch fault)

/-- Logs the tokens that look like references to variables; they are passed on unchanged. -/
def noteReferences : List String → Act W Unit
  | [] => pure ()
  | token :: rest => do
    if Token.isReference token then
      debug s!"substitution is not supported, passing {token} through"
    noteReferences rest

/-- The tokens of a line; a fault where there are more than `capacity` of them. -/
def tokenize (line : String) (capacity : Nat) : Except SessionFault (List String) :=
  match Token.tokenize? line capacity with
  | some tokens => .ok tokens
  | none => .error (.tokenOverflow capacity)

/-- Carries out a line. A line of as many bytes has room for all its tokens. -/
def executeLine [Host W] (line : String) : Act W Status := do
  match tokenize line line.utf8ByteSize with
  | .error fault => throw fault
  | .ok [] => return .success
  | .ok tokens =>
    noteReferences tokens
    dispatch tokens

/-! ### No command puts input back -/

theorem keepsInput_report (fault : CommandFault) : KeepsInput (report fault : Act W Status) :=
  .bind .get fun _ => .bind (keepsInput_printLine _ _) fun _ => .pure _

theorem keepsInput_printLines (lines : List String) : KeepsInput (printLines lines : Act W Unit) := by
  induction lines with
  | nil => exact .pure _
  | cons line rest ih => exact .bind (keepsInput_printLine _ _) fun _ => ih

theorem keepsInput_exit (args : List String) : KeepsInput (exit args : Act W Status) := by
  dsimp only [exit]
  split
  · exact .bind (keepsInput_debug _) fun _ => .pure _
  · exact .pure _

theorem keepsInput_printLogo : KeepsInput (printLogo : Act W Unit) :=
  .bind .get fun _ => keepsInput_printLine _ _

theorem keepsInput_help : KeepsInput (help : Act W Status) :=
  .bind keepsInput_printLogo fun _ => .bind .get fun _ =>
    .bind (keepsInput_printLines _) fun _ => .pure _

theorem keepsInput_cd [Host W] (args : List String) : KeepsInput (cd args : Act W Status) := by
  dsimp only [cd]
  split
  · refine .bind (keepsInput_moveTo _) fun moved => ?_
    split
    · exact .pure _
    · exact keepsInput_report _
  · exact keepsInput_report _

theorem keepsInput_pwd : KeepsInput (pwd : Act W Status) :=
  .bind .get fun _ => .bind (keepsInput_printLine _ _) fun _ => .pure _

theorem keepsInput_askAlias [Host W] :
    KeepsInput (askAlias : Act W (Option (String × String))) := by
  refine .bind (keepsInput_readEntry _) fun name => ?_
  split
  · exact .pure _
  · refine .bind (keepsInput_readEntry _) fun value => ?_
    split <;> exact .pure _

theorem keepsInput_storeAlias (name value : String) :
    KeepsInput (storeAlias name value : Act W Unit) :=
  .modify fun _ => Nat.le_refl _

theorem keepsInput_manageAliases [Host W] (args : List String) :
    KeepsInput (manageAliases args : Act W Status) := by
  have listing : ∀ u : Unit, KeepsInput (do
      printLines ((← (get : Act W (Session W))).aliases.toList.map fun entry =>
        s!"{entry.1}: {entry.2}")
      return Status.success) :=
    fun _ => .bind .get fun _ => .bind (keepsInput_printLines _) fun _ => .pure _
  dsimp only [manageAliases]
  split
  · refine .bind keepsInput_askAlias fun answer => ?_
    split
    · exact .bind (keepsInput_storeAlias _ _) listing
    · exact .bind (keepsInput_debug _) listing
  · exact listing ()

theorem keepsInput_runBuiltin [Host W] (builtin : Builtin) (args : List String) :
    KeepsInput (runBuiltin builtin args : Act W Status) := by
  cases builtin with
  | exit => exact keepsInput_exit _
  | help => exact keepsInput_help
  | logo => exact .bind keepsInput_printLogo fun _ => .pure _
  | cd => exact keepsInput_cd _
  | pwd => exact keepsInput_pwd
  | aliases => exact keepsInput_manageAliases _

theorem keepsInput_launch [Host W] (args : List String) :
    KeepsInput (launch args : Act W (Except LaunchFault Unit)) := by
  dsimp only [launch]
  split
  · exact .pure _
  · refine .bind .get fun session => .bind (.modify fun _ => ?_) fun _ => ?_
    · exact Input.pending_afterProgram_le _ _
    · split
      · exact .pure _
      · exact .pure _
      · exact .bind (keepsInput_debug _) fun _ => .pure _

theorem keepsInput_dispatch [Host W] (args : List String) :
    KeepsInput (dispatch args : Act W Status) := by
  dsimp only [dispatch]
  split
  · exact .pure _
  · split
    · exact .bind (keepsInput_debug _) fun _ => keepsInput_runBuiltin _ _
    · refine .bind (keepsInput_debug _) fun _ => .bind (keepsInput_launch _) fun launched => ?_
      split
      · exact .pure _
      · exact keepsInput_report _

theorem keepsInput_noteReferences (tokens : List String) :
    KeepsInput (noteReferences tokens : Act W Unit) := by
  induction tokens with
  | nil => exact .pure _
  | cons token rest ih =>
    dsimp only [noteReferences]
    split
    · exact .bind (keepsInput_debug _) fun _ => ih
    · exact ih

theorem keepsInput_executeLine [Host W] (line : String) :
    KeepsInput (executeLine line : Act W Status) := by
  dsimp only [executeLine]
  split
  · exact .throw _
  · exact .pure _
  · exact .bind (keepsInput_noteReferences _) fun _ => keepsInput_dispatch _

end Session

end LineShell
