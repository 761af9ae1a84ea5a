import LineShell.Machine.Shell.Condition
import LineShell.Machine.Shell.Directory
import LineShell.Machine.Shell.Format
import LineShell.Machine.Shell.Input
import LineShell.Machine.Shell.JobControl
import LineShell.Machine.Shell.Launch
import LineShell.Machine.Shell.OptionReading
import LineShell.Machine.Shell.Permission
import LineShell.Machine.Shell.Redirect
import LineShell.Machine.Shell.Setting
import LineShell.Machine.Shell.Trap

/-!
# Builtin commands

The commands that a shell carries out itself.

* `Builtin`: special commands, and those whose arguments are assignments.
* `builtins`, `builtin?`: the table.
* `describe`: what a name stands for.
-/

namespace LineShell.Machine.Shell

/-- A builtin command. A fault in a special one ends the shell, and assignments in front of it stay. -/
structure Builtin where
  name : String
  special : Bool := false
  assigning : Bool := false
  run : (Command → Run Unit) → List Bytes → Run Nat

/-! ### Directories -/

/-- Whether a path is looked for in the directories of `CDPATH`: not if it is absolute or starts with the
name of a directory itself or of the one around it. -/
def isSearched (path : Bytes) : Bool :=
  match names path with
  | first :: _ => path.head? != some (byte '/') && first != Utf8.encode "." && first != Utf8.encode ".."
  | [] => path.isEmpty

/-- Enters a directory: the one of an operand, that of `HOME` without one, or the one before for a `-`. -/
def runCd (arguments : List Bytes) : Run Nat := do
  let (options, operands) ← readOptions "LP" arguments
  let physical := options.getLast? == some 'P'
  let state ← get
  let named := fun (name : String) => (state.lookup? (Utf8.encode name)).getD []
  let (asked, back) := match operands with
    | [] => (named "HOME", false)
    | operand :: _ => if operand = [byte '-'] then (named "OLDPWD", true) else (operand, false)
  let path := if asked.isEmpty then [byte '.'] else asked
  let places := if isSearched asked then (named "CDPATH").splitOn (byte ':') else [[]]
  let candidates := places.map fun place => (inDirectory place path, !place.isEmpty)
  let directories := candidates.filter fun candidate =>
    ((nodeAt candidate.1 state.process).map (·.2)).any fun
      | .directory .. => true
      | _ => false
  let (chosen, elsewhere) := directories.head?.getD (path, false)
  if !(← enter physical chosen) then fail (Utf8.encode "can't cd to " ++ path)
  if back || elsewhere then writeLine ((← get).directory.getD [])
  return 0
where
  nodeAt (path : Bytes) (process : Process) := Condition.nodeAt? process true path

/-- Writes the path of the current directory. -/
def runPwd (arguments : List Bytes) : Run Nat := do
  let (options, _) ← readOptions "LP" arguments
  let physical := options.getLast? == some 'P'
  if physical && (← get).physical.isNone then
    let _ ← physicalPath
    exportDirectory
  let state ← get
  writeLine ((if physical then state.physical else state.directory).getD [])
  return 0

/-! ### Text -/

/-- Writes its arguments on a line. -/
def runEcho (arguments : List Bytes) : Run Nat := do
  let quiet := arguments.head? == some (Utf8.encode "-n")
  let operands := if quiet then arguments.tail else arguments
  write (Utility.echoLine { noNewline := quiet, escapes := some {} } operands)
  return 0

/-- Writes arguments as a format says. -/
def runPrintf (arguments : List Bytes) : Run Nat := do
  let (_, operands) ← readOptions "" arguments
  match operands with
  | [] => fail (Utf8.encode "usage: printf format [arg ...]")
  | format :: rest =>
    let formatting := formatAll format (rest.length + 1) { arguments := rest }
    write formatting.written
    formatting.complaints.forM complain
    if let some fault := formatting.fault? then fail fault.message
    return if formatting.complaints.isEmpty then 0 else 1

/-! ### Variables -/

/-- A line that sets a variable again. -/
def settingLine (front : Bytes) (entry : Bytes × Variable) : Bytes :=
  match entry.2.value with
  | some value => front ++ entry.1 ++ byte '=' :: quoteText value
  | none => front ++ entry.1

/-- Lists variables in the order of their names. -/
def listVariables (front : Bytes) (wanted : Variable → Bool) : Run Unit := do
  let found := (← get).bindings.filter (wanted ·.2)
  for entry in found.mergeSort fun left right => left.1 ≤ right.1 do
    writeLine (settingLine front entry)

/-- An argument as an assignment. -/
def assignmentOf (argument : Bytes) : Bytes × Option Bytes :=
  let name := argument.takeWhile (· != byte '=')
  (name, if name.length < argument.length then some (argument.drop (name.length + 1)) else none)

/-- Marks variables, or lists those that are marked. -/
def markVariables (front : String) (isMarked : Variable → Bool) (mark : Variable → Variable)
    (arguments : List Bytes) : Run Nat := do
  let (options, operands) ← readOptions "p" arguments
  if operands.isEmpty || options.contains 'p' then
    listVariables (Utf8.encode s!"{front} ") isMarked
    return 0
  for operand in operands do
    let (name, value) := assignmentOf operand
    if !isName name then badName name
    if let some new := value then assign name new
    modify fun state => state.put name (mark (state.entry name))
  return 0

/-- Marks variables for programs to see. -/
def runExport : List Bytes → Run Nat :=
  markVariables "export" (·.exported) fun entry => { entry with exported := true }

/-- Marks variables whose values stay as they are. -/
def runReadonly : List Bytes → Run Nat :=
  markVariables "readonly" (·.readOnly) fun entry => { entry with readOnly := true }

/-- Makes variables local to a function, or its switches for a `-`. -/
def runLocal (arguments : List Bytes) : Run Nat := do
  if (← get).calls = 0 then fail (Utf8.encode "not in a function")
  for argument in arguments do
    if argument = [byte '-'] then keepSwitches
    else
      let (name, value) := assignmentOf argument
      if !isName name then badName name
      makeLocal name
      if let some new := value then assign name new
  return 0

/-- Takes variables or functions away. -/
def runUnset (arguments : List Bytes) : Run Nat := do
  let (options, operands) ← readOptions "vf" arguments
  for operand in operands do
    if options.contains 'f' then
      modify fun state => { state with functions := state.functions.filter (·.1 != operand) }
    else
      if !isName operand then badName operand
      unset operand
  return 0

/-! ### Options and parameters -/

/-- Sets the switches at the front of arguments. What is left are parameters; `none` says that they stay as
they are. The budget has to be the number of arguments at least. -/
def setSwitches : Nat → List Bytes → Run (Option (List Bytes))
  | 0, _ | _, [] => return none
  | budget + 1, argument :: rest =>
    match argument with
    | [0x2D] => do
      setSwitch .xtrace false
      setSwitch .verbose false
      return if rest.isEmpty then none else some rest
    | [0x2D, 0x2D] => return some rest
    | sign :: letters => do
      if sign != byte '-' && sign != byte '+' then return some (argument :: rest)
      setSwitches budget (← setLetters false (sign == byte '-') letters rest)
    | [] => return some (argument :: rest)

/-- Sets switches and parameters, or lists variables. -/
def runSet (arguments : List Bytes) : Run Nat := do
  if arguments.isEmpty then listVariables [] fun entry => entry.value.isSome
  else
    let parameters? ← setSwitches arguments.length arguments
    dropJobControl
    if let some parameters := parameters? then
      modify fun state => { state with parameters }.restartOptions
  return 0

/-- Drops parameters. -/
def runShift (arguments : List Bytes) : Run Nat := do
  let count ← match arguments with
    | [] => pure 1
    | argument :: _ => numberArgument argument
  let state ← get
  if state.parameters.length < count then fail (Utf8.encode "can't shift that many")
  set { state with parameters := state.parameters.drop count }.restartOptions
  return 0

/-! ### Permissions -/

/-- Sets the mask of permissions, or writes it. -/
def runUmask (arguments : List Bytes) : Run Nat := do
  let (options, operands) ← readOptions "S" arguments
  let mask := (← get).process.mask
  match operands with
  | [] => writeLine (if options.isEmpty then Mask.octal mask else Mask.symbols mask)
  | text :: _ =>
    let isNumber := text.head?.any isDigit
    match if isNumber then Mask.ofOctal? text else Mask.ofSymbols? mask text with
    | some mask => onProcess fun process => { process with mask }
    | none =>
      fail (Utf8.encode (if isNumber then "Illegal number: " else "Illegal mode: ") ++ text)
  return 0

/-! ### Ends -/

/-- Ends the shell. -/
def runExit (arguments : List Bytes) : Run Nat := do
  setStatus (← statusArgument arguments)
  throw .exit

/-- Leaves a function or a script that another one carries out. -/
def runReturn (arguments : List Bytes) : Run Nat := do
  setStatus (← statusArgument arguments)
  throw .comeBack

/-- Leaves loops, or starts their next turn; nothing outside of loops. -/
def leaveLoops (jump : Nat → Jump) (arguments : List Bytes) : Run Nat := do
  let count ← match arguments with
    | [] => pure 1
    | argument :: _ => numberArgument argument
  if count = 0 then fail (Utf8.encode "Illegal number: " ++ arguments.head?.getD [])
  let loops := (← get).loops
  if loops = 0 then return 0
  setStatus 0
  throw (jump (min count loops))

/-! ### Names -/

/-- Sets aliases, or lists them. -/
def runAlias (arguments : List Bytes) : Run Nat := do
  let state ← get
  let line := fun (entry : Bytes × Bytes) => entry.1 ++ byte '=' :: quoteText entry.2
  if arguments.isEmpty then
    let grouped := (List.range State.groupCount).flatMap fun n =>
      state.aliases.filter fun entry => State.group entry.1 == n
    (grouped.map line).forM writeLine
    return 0
  let mut status := 0
  for argument in arguments do
    -- The name is at least one byte long, whatever that is.
    let (front, given) := assignmentOf argument.tail
    let name := argument.take 1 ++ front
    match given, (← get).aliases.lookup name with
    | some value, _ => modify fun state => { state with aliases := setEntry name value state.aliases }
    | none, some value => writeLine (line (name, value))
    | none, none =>
      onProcess (·.complain (Utf8.encode "alias: " ++ name ++ Utf8.encode " not found"))
      status := 1
  return status

/-- Takes aliases away. -/
def runUnalias (arguments : List Bytes) : Run Nat := do
  let (options, operands) ← readOptions "a" arguments
  if options.contains 'a' then
    modify fun state => { state with aliases := [] }
    return 0
  let mut status := 0
  for operand in operands do
    if ((← get).aliases.lookup operand).isNone then
      onProcess (·.complain (Utf8.encode "unalias: " ++ operand ++ Utf8.encode " not found"))
      status := 1
    modify fun state => { state with aliases := state.aliases.filter (·.1 != operand) }
  return status

/-! ### Scripts and programs -/

/-- Carries out arguments as a script. -/
def runEval (evaluate : Command → Run Unit) (arguments : List Bytes) : Run Nat := do
  if arguments.isEmpty then return 0
  setStatus 0
  runText evaluate ([byte ' '].intercalate arguments)
  return (← get).status

/-- The content of the file of a script. -/
def readScript (path : Bytes) : Run (Except Errno Bytes) := do
  let process := (← get).process
  return do
    let opened := process.attach 10 (← process.openToRead path)
    match opened.available 10 with
    | .ok content => return content.filter (· != 0)
    | .error _ => return []

/-- The file that `.` carries out: one with a slash in its name, or the first one of the search path. -/
def scriptFile (name : Bytes) : Run Bytes := do
  let state ← get
  if name.contains (byte '/') then return name
  match firstFile state.process isFile .ENOENT (state.candidates name) with
  | .ok path => return path
  | .error _ => fail (name ++ Utf8.encode ": not found")

/-- Carries out the commands of a file. -/
def runDot (evaluate : Command → Run Unit) (arguments : List Bytes) : Run Nat := do
  let (_, operands) ← readOptions "" arguments
  match operands with
  | [] => return 0
  | name :: _ =>
    let path ← scriptFile name
    match ← readScript path with
    | .error code =>
      fail (Utf8.encode "cannot open " ++ path ++ because "No such file" code)
    | .ok content =>
      setStatus 0
      let line := (← get).line
      match ← attempt (asCommand path (runText evaluate content true)) with
      | .ok () | .error .comeBack => modify fun state => { state with line }
      | .error jump => throw jump
      return (← get).status

/-- Becomes a program. Without one, only the redirections of the command count. -/
def runExec (words : List Bytes) : Run Nat := do
  if words.isEmpty then return 0
  becomeProgram words

/-- Checks whether a condition holds. -/
def runTest (arguments : List Bytes) : Run Nat := do
  match Condition.holds (← get).process arguments with
  | .ok holds => return if holds then 0 else 1
  | .error wrong => fail wrong.message

/-- Checks whether the condition in front of a closing bracket holds. -/
def runBracket (arguments : List Bytes) : Run Nat := do
  if arguments.getLast? != some [byte ']'] then fail (Utf8.encode "missing ]")
  runTest arguments.dropLast

/-! ### The table -/

/-- A command that does nothing. -/
def runStatus (status : Nat) : (Command → Run Unit) → List Bytes → Run Nat :=
  fun _ _ => return status

/-- The builtin commands, but for those that look up other commands. -/
def builtins : List Builtin :=
  [{ name := ".", special := true, run := runDot },
    { name := ":", special := true, run := runStatus 0 },
    { name := "[", run := fun _ => runBracket },
    { name := "alias", assigning := true, run := fun _ => runAlias },
    { name := "bg", run := fun _ => runForeground },
    { name := "break", special := true, run := fun _ => leaveLoops .leave },
    { name := "cd", run := fun _ => runCd },
    { name := "chdir", run := fun _ => runCd },
    { name := "continue", special := true, run := fun _ => leaveLoops .next },
    { name := "echo", run := fun _ => runEcho },
    { name := "eval", special := true, run := runEval },
    { name := "exec", special := true, run := fun _ => runExec },
    { name := "exit", special := true, run := fun _ => runExit },
    { name := "export", special := true, assigning := true, run := fun _ => runExport },
    { name := "false", run := runStatus 1 },
    { name := "fg", run := fun _ => runForeground },
    { name := "getopts", run := fun _ => runGetopts },
    { name := "jobs", run := fun _ => runJobs },
    { name := "kill", run := fun _ => runKill },
    { name := "local", special := true, assigning := true, run := fun _ => runLocal },
    { name := "printf", run := fun _ => runPrintf },
    { name := "pwd", run := fun _ => runPwd },
    { name := "read", run := fun _ => runRead },
    { name := "readonly", special := true, assigning := true, run := fun _ => runReadonly },
    { name := "return", special := true, run := fun _ => runReturn },
    { name := "set", special := true, run := fun _ => runSet },
    { name := "shift", special := true, run := fun _ => runShift },
    { name := "test", run := fun _ => runTest },
    { name := "trap", special := true, run := fun _ => runTrap },
    { name := "times", special := true, run := fun _ _ => do
        let line := Utf8.encode "0m0.000000s 0m0.000000s"
        writeLine line
        writeLine line
        return 0 },
    { name := "true", run := runStatus 0 },
    { name := "umask", run := fun _ => runUmask },
    { name := "unalias", run := fun _ => runUnalias },
    { name := "unset", special := true, run := fun _ => runUnset },
    { name := "wait", run := fun _ => runWait }]

/-- The names of the builtin commands that look up other commands. -/
def lookupNames : List String :=
  ["command", "hash", "type"]

/-- The builtin command of a name. -/
def builtin? (name : Bytes) : Option Builtin :=
  builtins.find? (Utf8.encode ·.name == name)

/-! ### Looking up commands -/

/-- Describes what the name of a command stands for, in words or as briefly as it can be given to a shell
again. -/
def describe (brief : Bool) (name : Bytes) : Run Nat := do
  let state ← get
  let say := fun (text : Bytes) => do
    writeLine (if brief then name else name ++ Utf8.encode " is " ++ text)
    return 0
  if keywords.any (Utf8.encode · == name) then say (Utf8.encode "a shell keyword")
  else if let some value := state.aliases.lookup name then
    if brief then
      writeLine (Utf8.encode "alias " ++ name ++ byte '=' :: quoteText value)
      return 0
    else say (Utf8.encode "an alias for " ++ value)
  else if (state.functions.lookup name).isSome then say (Utf8.encode "a shell function")
  else if let some found := builtin? name then
    say (Utf8.encode (if found.special then "a special shell builtin" else "a shell builtin"))
  else if lookupNames.any (Utf8.encode · == name) then say (Utf8.encode "a shell builtin")
  else
    let isKnown := (state.remembered.lookup name).isSome
    let path := (← findProgram name).toOption.filter fun path =>
      (state.process.tree.resolve state.process.here path).toOption.isSome
    match path with
    | some path =>
      let how := if isKnown then " is a tracked alias for " else " is "
      writeLine (if brief then path else name ++ Utf8.encode how ++ path)
      return 0
    | none =>
      if !brief then writeLine (name ++ Utf8.encode ": not found")
      return 127

/-- Describes names; the status is that of a name that stands for nothing, if there is one. -/
def runType (names : List Bytes) : Run Nat := do
  let mut status := 0
  for name in names do
    let found ← describe false name
    if found != 0 then status := found
  return status

/-- How many groups the names of remembered programs fall into, in whose order they are listed. -/
def rememberedGroups : Nat := 31

/-- Lists the programs that are remembered. A star marks one that is looked for again before it is run. -/
def listRemembered : Run Unit := do
  let state ← get
  let listed := (List.range rememberedGroups).flatMap fun n =>
    state.remembered.filter fun entry => State.nameSum entry.1 % rememberedGroups == n
  for (name, settled) in listed do
    match firstFile state.process isProgram .ENOENT (state.candidates name) with
    | .ok path => writeLine (path ++ if settled then [] else [byte '*'])
    | .error _ => return

/-- Remembers programs, or lists those that are remembered. -/
def runHash (arguments : List Bytes) : Run Nat := do
  let (options, operands) ← readOptions "r" arguments
  if options.contains 'r' then
    modify fun state => { state with remembered := [] }
    return 0
  if operands.isEmpty then listRemembered
  let mut status := 0
  for operand in operands do
    let known := (builtin? operand).isSome || lookupNames.any (Utf8.encode · == operand) ||
      ((← get).functions.lookup operand).isSome
    if !known then
      if let .error code ← findProgram operand then
        complainAbout operand code
        status := 1
  return status

end LineShell.Machine.Shell
