import LineShell.Machine.Number
import LineShell.Machine.Program
import LineShell.Machine.Shell.Job
import LineShell.Machine.Shell.Parser
import LineShell.Machine.Shell.Switch

/-!
# The state of a shell

A running shell has a process, parameters, variables, functions and aliases. Its commands change these, and
some end more than themselves.

* `State`: a running shell.
* `Jump`, `Run`: commands that run, and how they end before their time.
* `complain`, `fail`: complaints.
* `State.lookup?`, `assign`, `unset`: variables.
* `inSubshell`: commands whose changes do not stay.
-/

namespace LineShell.Machine.Shell

/-- A variable. Without a value it only has its marks. -/
structure Variable where
  value : Option Bytes := none
  exported : Bool := false
  readOnly : Bool := false
deriving DecidableEq, Repr

/-- What comes back when a function or another command has ended: variables, and the switches if these were made
local. -/
structure Scope where
  bindings : List (Bytes × Option Variable) := []
  switches : Option (List (Switch × Bool)) := none
deriving DecidableEq, Repr

/-- The number of the process that is the shell itself. -/
def ownProcess : Nat := 2

/-- A running shell. Its name and the command that is at work stand in front of complaints, with the line;
the script has been read up to the line `reached`.
`tested` says that a status other than 0 is expected, so that it does not end the shell. The path of the current
directory goes by the names that were followed; `physical` is the one that the machine has found, if it was
asked since. The names of programs that were found are remembered, with whether they are still where they
were. Options are read in the word of the number `optionWord`, or in the one before it from `optionPlace` on.
Processes in the background are counted from that of the shell on; signals have come whose actions are still to
be carried out. -/
structure State where
  process : Process
  run : Runner
  name : Bytes
  parameters : List Bytes := []
  bindings : List (Bytes × Variable) := []
  functions : List (Bytes × Command) := []
  aliases : List (Bytes × Bytes) := []
  documents : List Word := []
  switches : List (Switch × Bool) := []
  status : Nat := 0
  line : Nat := 0
  reached : Nat := 0
  calls : Nat := 0
  command : Option Bytes := none
  loops : Nat := 0
  tested : Bool := false
  scopes : List Scope := []
  traps : List (Nat × Bytes) := []
  signals : List Nat := []
  isPart : Bool := false
  jobs : Jobs := []
  lastProcess : Nat := ownProcess
  background : Option Nat := none
  remembered : List (Bytes × Bool) := []
  directory : Option Bytes := none
  physical : Option Bytes := none
  optionWord : Nat := 1
  optionPlace : Nat := 0
  substituted : Nat := 0
  written : Bytes := []

/-- How commands end before their time: the shell ends; something was wrong; loops are left or start their
next turn, as many as are given; a function or script is left. -/
inductive Jump where
  | exit
  | fault
  | leave (loops : Nat)
  | next (loops : Nat)
  | comeBack
deriving DecidableEq, Repr

/-- Commands that run. What they have changed stays changed when they end before their time. -/
abbrev Run := ExceptT Jump (StateM State)

/-- Carries out commands and gives back how they ended. -/
def attempt {α : Type} (body : Run α) : Run (Except Jump α) :=
  fun state => let (result, after) := body state; (.ok result, after)

/-- Ends commands the way others have ended. -/
def resume {α : Type} : Except Jump α → Run α
  | .ok value => return value
  | .error jump => throw jump

/-- Whether a switch is on. -/
def isOn (state : State) (switch : Switch) : Bool :=
  (state.switches.lookup switch).getD false

/-! ### Output and complaints -/

/-- Changes the process of the shell. -/
def onProcess (change : Process → Process) : Run Unit :=
  modify fun state => { state with process := change state.process }

/-- Adds to what the command at work writes. It goes to the output when the command has ended. -/
def write (bytes : Bytes) : Run Unit :=
  modify fun state => { state with written := state.written ++ bytes }

/-- Sends what has been written to the output; `false` if that cannot be done. -/
def flush : Run Bool := do
  let state ← get
  let after := { state with written := [] }
  if state.written.isEmpty then return true
  match state.process.write? 1 state.written with
  | some process =>
    set { after with process }
    return true
  | none =>
    set after
    return false

/-- Adds a line to what the command at work writes. -/
def writeLine (text : Bytes) : Run Unit :=
  write (text ++ [byte '\n'])

/-- The decimal digits of a number. -/
def decimal (n : Nat) : Bytes :=
  Utf8.encode (toString n)

/-- A complaint with the name of the shell, the line and the command at work in front. -/
def State.complaint (state : State) (text : Bytes) : Bytes :=
  let command := (state.command.map (· ++ Utf8.encode ": ")).getD []
  state.name ++ Utf8.encode ": " ++ decimal state.line ++ Utf8.encode ": " ++ command ++ text

/-- Complains on behalf of what is at work. -/
def complain (text : Bytes) : Run Unit := do
  let line := (← get).complaint text
  onProcess (·.complain line)

/-- Sets the status of the last command. -/
def setStatus (status : Nat) : Run Unit :=
  modify fun state => { state with status }

/-- Complains, and ends what is at work. -/
def failWith {α : Type} (status : Nat) (text : Bytes) : Run α := do
  complain text
  setStatus status
  throw .fault

/-- Complains about a wrong use, and ends what is at work. -/
def fail {α : Type} (text : Bytes) : Run α :=
  failWith 2 text

/-- The end of a complaint about an error number. A missing file or directory has a text of its own. -/
def because (missing : String) (code : Errno) : Bytes :=
  let text := if code = .ENOENT || code = .ENOTDIR then missing else code.text
  Utf8.encode (": " ++ text)

/-! ### Variables -/

namespace State

/-- The value of a variable. -/
def lookup? (state : State) (name : Bytes) : Option Bytes :=
  (state.bindings.lookup name).bind (·.value)

/-- Sets a variable with its marks. -/
def put (state : State) (name : Bytes) (new : Variable) : State :=
  { state with bindings := setEntry name new state.bindings }

/-- Forgets a variable. -/
def remove (state : State) (name : Bytes) : State :=
  { state with bindings := state.bindings.filter (·.1 != name) }

/-- The variable of a name; one that is not there has no marks. -/
def entry (state : State) (name : Bytes) : Variable :=
  (state.bindings.lookup name).getD {}

/-- How many groups the names of variables fall into, in whose order they are exported. -/
def groupCount : Nat := 39

/-- A sum of the bytes of a name, by which names fall into groups. -/
def nameSum (name : Bytes) : Nat :=
  name.foldl (fun sum b => sum + b.toNat) (((name.head?.map (·.toNat)).getD 0) * 16)

/-- The group of a name. -/
def group (name : Bytes) : Nat :=
  nameSum name % groupCount

/-- The variables that programs see. -/
def environment (state : State) : Bindings :=
  let exported := state.bindings.filterMap fun entry =>
    if entry.2.exported then entry.2.value.map (entry.1, ·) else none
  (List.range groupCount).flatMap fun n => exported.filter fun entry => group entry.1 == n

/-- The bytes that values are split at. -/
def separators (state : State) : Bytes :=
  (state.lookup? (Utf8.encode "IFS")).getD (Utf8.encode " \t\n")

end State

/-- The number that an argument stands for. -/
def numberArgument (argument : Bytes) : Run Nat :=
  match integer? .ten argument with
  | some n => if 0 ≤ n && n ≤ 0x7FFFFFFF then return n.toNat else fail (Utf8.encode "Illegal number: " ++ argument)
  | none => fail (Utf8.encode "Illegal number: " ++ argument)

/-- The variable with the number of the word in which options are read. -/
def optionVariable : Bytes :=
  Utf8.encode "OPTIND"

namespace State

/-- Begins to read options with the word of a number. -/
def restartOptions (state : State) (word : Nat := 1) : State :=
  { state with optionWord := max 1 word, optionPlace := 0 }

/-- What the value of a variable brings about: options are read from a word on, or programs are looked for
again. -/
def heed (state : State) (name value : Bytes) : State :=
  if name = optionVariable then
    match integer? .ten value with
    | some n => state.restartOptions n.toNat
    | none => state
  else if name = Utf8.encode "PATH" then { state with remembered := [] }
  else state

end State

/-- Makes sure that a variable can have another value. -/
def checkVariable (name value : Bytes) : Run Unit := do
  if ((← get).entry name).readOnly then fail (name ++ Utf8.encode ": is read only")
  if name = optionVariable then
    let _ ← numberArgument value

/-- Sets a variable. -/
def assign (name value : Bytes) (exported : Bool := false) : Run Unit := do
  checkVariable name value
  modify fun state =>
    let old := state.entry name
    let marks := exported || old.exported || isOn state .allexport
    (state.put name { old with value := some value, exported := marks }).heed name value

/-- Takes a variable away. -/
def unset (name : Bytes) : Run Unit := do
  checkVariable name []
  modify fun state => (state.remove name).heed name []

/-! ### Scopes -/

/-- Changes the innermost scope, if there is one. -/
def onScope (change : State → Scope → Scope) : Run Unit :=
  modify fun state =>
    match state.scopes with
    | scope :: rest => { state with scopes := change state scope :: rest }
    | [] => state

/-- Remembers a variable, so that it comes back when what is at work has ended. -/
def makeLocal (name : Bytes) : Run Unit :=
  onScope fun state scope =>
    if scope.bindings.any (·.1 == name) then scope
    else { scope with bindings := (name, state.bindings.lookup name) :: scope.bindings }

/-- Remembers the switches, so that they come back when what is at work has ended. -/
def keepSwitches : Run Unit :=
  onScope fun state scope => { scope with switches := some (scope.switches.getD state.switches) }

/-- Brings back what has been remembered last. -/
def dropScope (state : State) : State :=
  match state.scopes with
  | [] => state
  | scope :: rest =>
    let restore := fun (state : State) (entry : Bytes × Option Variable) =>
      match entry.2 with
      | some old => (state.put entry.1 old).heed entry.1 (old.value.getD [])
      | none => (state.remove entry.1).heed entry.1 []
    scope.bindings.foldl restore
      { state with scopes := rest, switches := scope.switches.getD state.switches }

/-- Carries out commands with a scope of their own. -/
def inScope {α : Type} (body : Run α) : Run α := do
  modify fun state => { state with scopes := {} :: state.scopes }
  let result ← attempt body
  modify dropScope
  resume result

/-! ### Parts of a shell -/

/-- Makes room for a command in front, which is a job of the shell as long as it runs. -/
def makeRoom : Run Unit :=
  modify fun state => { state with jobs := state.jobs.makeRoom }

/-- Carries out commands on a copy of the shell. Only what all processes share is changed, and the
status. The copy does nothing at signals, but leaves alone those that the shell does. -/
def inSubshell (body : Run Unit) : Run Unit := do
  let before ← get
  set { before with isPart := true, traps := before.traps.filter (·.2.isEmpty), jobs := [] }
  let _ ← attempt body
  let after ← get
  set { before with
    process := { before.process with system := after.process.system }
    documents := after.documents
    signals := after.signals
    status := after.status }

/-- Carries out commands where a status other than 0 is expected, or not more than before. -/
def whileTested {α : Type} (tested : Bool) (body : Run α) : Run α := do
  let before := (← get).tested
  modify fun state => { state with tested }
  let result ← attempt body
  modify fun state => { state with tested := before }
  resume result

/-- Carries out a builtin command with its name in front of complaints. -/
def asCommand {α : Type} (name : Bytes) (body : Run α) : Run α := do
  let before := (← get).command
  modify fun state => { state with command := some name }
  let result ← attempt body
  modify fun state => { state with command := before }
  resume result

/-- Enters a line of the script. -/
def enterLine (line : Nat) : Run Unit :=
  modify fun state => { state with line }

/-! ### Scripts -/

/-- The lines of a script that have been read between two states of it. -/
def readLines (before after : Source) : Bytes :=
  let whole := before.held ++ before.reserve
  let count := whole.length - (after.held.length + after.reserve.length)
  let read := whole.take count
  let rest := whole.drop count
  if read.isEmpty || read.getLast? = some (byte '\n') then read
  else read ++ rest.takeWhile (· != byte '\n') ++ (rest.dropWhile (· != byte '\n')).take 1

/-- Carries out a reading on a source, which knows the aliases and the texts of the shell. Lines are shown if
that is wanted, and `note` learns where the reading has come to. A fault of the script is complained about. -/
def readFrom {α : Type} (source : Source) (reading : Reading α) (note : Source → Run Unit := fun _ => pure ()) :
    Run (α × Source) := do
  let state ← get
  let (result, after) := reading { source with aliases := state.aliases, documents := state.documents }
  -- Only a script on the input of the shell has something that has not been asked for.
  onProcess (·.skip 0 (source.reserve.length - after.reserve.length))
  if source.isFile && isOn state .verbose then onProcess (·.write 2 (readLines source after))
  note after
  match result with
  | .ok value =>
    modify fun state => { state with documents := after.documents, reached := after.line }
    return (value, after)
  | .error wrong =>
    modify fun state => { state with line := wrong.line }
    fail (Utf8.encode s!"Syntax error: {wrong.message}")

/-- Carries out the commands of a text, one after another. -/
def runText (evaluate : Command → Run Unit) (text : Bytes) (isFile : Bool := false) : Run Unit := do
  let before := (← get).reached
  let start : Source := { held := text, isFile }
  let result ← attempt (iterate (throw Jump.fault) (fun (source : Source) => do
    match ← readFrom source readNext with
    | (none, _) => return .inr ()
    | (some command, after) =>
      evaluate command
      return .inl after) maxRepetitions start)
  modify fun state => { state with reached := before }
  resume result

end LineShell.Machine.Shell
