import LineShell.Machine.Shell.Evaluation

/-!
# Invocation

A run of `sh`: on the text behind `-c`, on the file of a script, or on its input.

* `initial`: the state that a shell starts in.
* `Script`, `readInvocation`: what it is to carry out.
* `runScript`: a script of commands that are carried out one after another.
* `runSh`: the program.
-/

namespace LineShell.Machine.Shell

/-- The directories for programs unless others are set. -/
def standardPath : Bytes :=
  Utf8.encode "/usr/local/sbin:/usr/local/bin:/usr/sbin:/usr/bin:/sbin:/bin"

/-- The variables that a shell starts with unless they are set. -/
def standardVariables : List (String × Bytes) :=
  [("IFS", Utf8.encode " \t\n"), ("PATH", standardPath), ("PS1", Utf8.encode "# "),
    ("PS2", Utf8.encode "> "), ("PS4", Utf8.encode "+ "), ("OPTIND", [byte '1']),
    ("PPID", decimal (ownProcess - 1))]

/-- The variables that keep their standard values whatever the environment says. -/
def fixedVariables : List String :=
  ["IFS", "OPTIND", "PPID"]

/-- A shell with the variables of its environment. -/
def initial (run : Runner) (name : Bytes) (process : Process) : State :=
  let standard := standardVariables.map fun entry =>
    (Utf8.encode entry.1, ({ value := some entry.2 } : Variable))
  let start : State := { process, run, name, bindings := standard }
  process.env.foldl (fun state entry =>
    if !isName entry.1 then state
    else if fixedVariables.any (Utf8.encode · == entry.1) then
      state.put entry.1 { state.entry entry.1 with exported := true }
    else state.put entry.1 { value := some entry.2, exported := true }) start

/-- Makes sure that the environment holds no value that a variable cannot have, even if it is not used. -/
def checkEnvironment : Run Unit := do
  if let some value := (← get).process.env.lookup optionVariable then
    let _ ← numberArgument value

/-- What a shell carries out: a text, the content of a file, or its input. -/
inductive Script where
  | text (content : Bytes)
  | file (content : Bytes)
  | input
deriving DecidableEq, Repr

/-- Sets the switches at the front of arguments; what is left, and whether a text is among it. The budget has
to be the number of arguments at least. -/
def setAtStart : Nat → Bool → List Bytes → Run (Bool × List Bytes)
  | 0, given, _ | _, given, [] => return (given, [])
  | budget + 1, given, argument :: rest =>
    match argument with
    | [0x2D] | [0x2D, 0x2D] => return (given, rest)
    | sign :: letters => do
      if sign != byte '-' && sign != byte '+' then return (given, argument :: rest)
      let others := letters.filter fun b => b != byte 'c' && b != byte 'l'
      setAtStart budget (given || letters.contains (byte 'c'))
        (← setLetters true (sign == byte '-') others rest)
    | [] => return (given, argument :: rest)

/-- Reads the arguments of a shell: options, the script, and the parameters. -/
def readInvocation (arguments : List Bytes) : Run Script := do
  let (given, operands) ← setAtStart arguments.length false arguments
  let state ← get
  match given, operands with
  | true, [] => fail (Utf8.encode "-c requires an argument")
  | true, text :: rest =>
    set { state with name := rest.head?.getD state.name, parameters := rest.tail }
    return .text text
  | false, [] =>
    setSwitch .stdin true
    return .input
  | false, file :: rest =>
    if isOn state .stdin then
      set { state with parameters := operands }
      return .input
    match ← readScript file with
    | .error code =>
      fail (Utf8.encode "cannot open " ++ file ++ because "No such file" code)
    | .ok content =>
      set { state with name := file, parameters := rest }
      return .file content

/-! ### Scripts -/

/-- Asks for a line with the value of a variable. -/
def prompt (evaluate : Command → Run Unit) (name : String) : Run Unit := do
  let shown ← shownValue evaluate name
  onProcess (·.write 2 shown)

/-- A script of which commands are carried out: what is left of it, and how often its end has been met. -/
structure Progress where
  source : Source := { isFile := true }
  ends : Nat := 0

/-- How often the end of a script is not taken for the end of the shell, if that is wanted. -/
def maxEnds : Nat := 50

/-- What is left to do at the end of a script, if anything is. -/
def atEnd (progress : Progress) : Run (Option Progress) := do
  let state ← get
  if !isOn state .ignoreeof then
    if isOn state .interactive then onProcess (·.complain [])
    return none
  if progress.ends = maxEnds then return none
  onProcess (·.complain (Utf8.encode "\nUse \"exit\" to leave shell."))
  return some { progress with ends := progress.ends + 1 }

/-- Carries out the next command of a script. A script on the input is read block by block; commands read
what is behind the present block. An interactive shell asks for lines, and goes on with another block after a
fault. -/
def nextStep (evaluate : Command → Run Unit) (onInput : Bool) (progress : Progress) :
    Run (Progress ⊕ Unit) := do
  let before ← get
  let interactive := isOn before .interactive
  if interactive then prompt evaluate "PS1"
  let source :=
    if onInput then { progress.source with reserve := (before.process.available 0).toOption.getD [] }
    else progress.source
  let askMore := fun (after : Source) =>
    if interactive then
      (List.replicate (after.asked - source.line) "PS2").forM (prompt evaluate)
    else pure ()
  let done ← attempt do
    let (command?, after) ← readFrom source readNext askMore
    let some command := command? | return none
    evaluate command
    return some after
  match done with
  | .ok (some source) => return .inl { source }
  | .ok none =>
    match ← atEnd progress with
    | some progress => return .inl progress
    | none => return .inr ()
  | .error .fault =>
    let state ← get
    if isOn state .interactive then return .inl { source := { isFile := true, line := state.line } }
    throw .fault
  | .error jump => throw jump

/-- Carries out the commands of a script on the input or elsewhere. -/
def runScript (evaluate : Command → Run Unit) (onInput : Bool) (progress : Progress) : Run Unit :=
  iterate (throw .fault) (nextStep evaluate onInput) maxRepetitions progress

/-- Carries out the file that an interactive shell starts with, if there is one. -/
def runStartFile (evaluate : Command → Run Unit) : Run Unit := do
  let path ← shownValue evaluate "ENV"
  if path.isEmpty then return
  if let .ok content ← readScript path then
    match ← attempt (runText evaluate content true) with
    | .ok () | .error .fault | .error .comeBack => return
    | .error jump => throw jump

/-- How deep commands may stand in one another. -/
def maxBudget : Nat := 100000

/-- Runs `sh`. -/
def runSh (run : Runner) (name : Bytes) (arguments : List Bytes) (process : Process) : Exit :=
  let carryOut := evaluate maxBudget
  let body : Run Unit := do
    checkEnvironment
    findDirectory
    let script ← readInvocation arguments
    let _ ← flush
    let state ← get
    if isOn state .interactive && (state.switches.lookup .monitor).isNone then setSwitch .monitor true
    dropJobControl
    if isOn state .interactive then runStartFile carryOut
    match script with
    | .text content =>
      match ← attempt (runText carryOut content) with
      | .ok () => if isOn (← get) .stdin then runScript carryOut true {}
      | .error .fault => if isOn (← get) .interactive then runScript carryOut true {} else throw .fault
      | .error jump => throw jump
    | .file content => runScript carryOut false { source := { held := content, isFile := true } }
    | .input => runScript carryOut true {}
  let whole : Run Unit := do
    let _ ← attempt body
    runExitTrap carryOut
  let (_, state) := whole.run (initial run name process)
  (state.process, state.status)

end LineShell.Machine.Shell
