import LineShell.Machine.Program
import LineShell.Machine.Utility.ArgumentText
import LineShell.Machine.Utility.Options
import LineShell.Machine.Utility.Quoting

/-!
# Env

`env` runs a program in a changed environment, or prints the environment. An option can hold a text of
further arguments, and another one lets it tell what it does.

* `shellPath`, `orShell`: the shell as the last resort for a file that is no program.
* `readArguments`: the reading of the arguments, with those of texts in the place of the texts.
* `changeVariables`: the environment that was asked for.
* `runEnv`: the utility.
-/

namespace LineShell.Machine

/-- The shell that programs turn to for a file that is neither a program nor names its interpreter. -/
def shellPath : Bytes :=
  Utf8.encode "/bin/sh"

/-- Runs the file at a path, by the shell if it is neither a program nor names its interpreter. -/
def orShell (run : Runner) : Runner := fun process path words =>
  match run process path words with
  | .error code =>
    if code = .ENOEXEC then run process shellPath (shellPath :: path :: words.tail) else .error code
  | ended => ended

namespace Utility

/-- The options of `env`. -/
def envRules : List OptionRule :=
  [{ letter := some 'i', word := "ignore-environment" },
    { letter := some '0', word := "null" },
    { letter := some 'u', word := "unset", arity := .required },
    { letter := some 'C', word := "chdir", arity := .required },
    { word := "default-signal", arity := .optional }, { word := "ignore-signal", arity := .optional },
    { word := "block-signal", arity := .optional }, { word := "list-signal-handling" },
    { letter := some 'v', word := "debug" },
    { letter := some 'S', word := "split-string", arity := .required }]

/-- The exit status of `env` when it cannot do what it is asked for. -/
def envFault : Nat := 125

/-- The exit status of `env` when its command is missing, or cannot be run. -/
def envFailure (code : Errno) : Nat :=
  if code = .ENOENT then 127 else 126

/-- Advice for a first line of a script with several arguments, which reach a program as one. -/
def shebangAdvice (name : Bytes) (process : Process) : Process :=
  complain name (Utf8.encode "use -[v]S to pass options in shebang lines") process

/-- Tells what is done, if that is asked for. -/
def tell (found : Arguments) (text : Bytes) (process : Process) : Process :=
  if found.has "debug" then process.complain text else process

/-! ### Arguments -/

/-- Tells what has become of a text: the variables in it, and the arguments if it has any. -/
def tellPieces (found : Arguments) (text : Bytes) (pieces : List ArgumentText.Piece)
    (process : Process) : Process :=
  let told := (ArgumentText.references pieces).foldl (fun process reference =>
    let shown := Utf8.encode "$\x7b" ++ reference.1 ++ Utf8.encode "\x7d"
    match reference.2 with
    | some value =>
      tell found (Utf8.encode "expanding " ++ shown ++ Utf8.encode " into " ++ Quoting.plain value) process
    | none => tell found (Utf8.encode "replacing " ++ shown ++ Utf8.encode " with null string") process)
    process
  match ArgumentText.arguments none pieces with
  | .error _ | .ok [] => told
  | .ok (first :: rest) =>
    let split := tell found (Utf8.encode "split -S:  " ++ Quoting.plain text) told
    rest.foldl (fun process argument =>
      tell found (Utf8.encode "     &    " ++ Quoting.plain argument) process)
      (tell found (Utf8.encode " into:    " ++ Quoting.plain first) split)

/-- The end of `env` when it does not know an option. A gap for an option means that several arguments have
reached it as one. -/
def optionFault (name : Bytes) (fault : OptionFault) (process : Process) : Exit :=
  match fault with
  | .unknownLetter letter =>
    if isSpacing letter then
      let refused := shebangAdvice name (complain name fault.message process)
      (adviseHelp name refused, envFault)
    else usageFault name fault.message envFault process
  | _ => usageFault name fault.message envFault process

/-- How many arguments may come from texts, beyond those that a text without variables can hold. -/
def maxArguments : Nat := 10000

/-- Reads the arguments of `env`. The pieces of a text are arguments in its place, and may hold texts
again. The memory is exhausted when the budget is, as with a variable that is a text which names the
variable. -/
def readArguments (name : Bytes) :
    Nat → List Bytes → Arguments → Process → Except Exit (Arguments × Process)
  | _, [], found, process => .ok (found, process)
  | 0, _, _, process => .error (complain name (Utf8.encode "memory exhausted") process, envFault)
  | budget + 1, argument :: rest, found, process =>
    if argument == Arguments.endOfOptions then .ok ({ found with operands := rest }, process)
    else
      match Arguments.readOptions? envRules argument rest with
      | .error fault => .error (optionFault name fault process)
      | .ok none => .ok ({ found with operands := argument :: rest }, process)
      | .ok (some (options, rest)) =>
        let more := { found with options := found.options ++ options }
        match options.lookup "split-string" with
        | none => readArguments name budget rest more process
        | some text =>
          let pieces := ArgumentText.read process.env text
          let told := tellPieces more text pieces process
          match ArgumentText.arguments none pieces with
          | .error fault => .error (complain name fault.message told, envFault)
          | .ok inserted => readArguments name budget (inserted ++ rest) more told

/-! ### Environment -/

/-- The operands that are assignments, which come first, and the others. -/
def assignments (operands : List Bytes) : List Bytes × List Bytes :=
  let isAssignment := fun (operand : Bytes) => operand.contains (byte '=')
  (operands.takeWhile isAssignment, operands.dropWhile isAssignment)

/-- Sets the variable of an assignment. -/
def assign (found : Arguments) (process : Process) (assignment : Bytes) : Process :=
  let told := tell found (Utf8.encode "setenv:   " ++ assignment) process
  let value := (assignment.dropWhile (· != byte '=')).tail
  { told with env := setEntry (assignment.takeWhile (· != byte '=')) value told.env }

/-- Takes variables out of the environment, as far as their names can be names of variables. -/
def unsetEach (name : Bytes) (found : Arguments) : List Bytes → Process → Except Exit Process
  | [], process => .ok process
  | variableName :: rest, process =>
    let told := tell found (Utf8.encode "unset:    " ++ variableName) process
    if variableName.isEmpty || variableName.contains (byte '=') then
      .error (complain name (Utf8.encode "cannot unset " ++ Quoting.plain variableName ++
        Utf8.encode s!": {Errno.EINVAL.text}") told, envFault)
    else unsetEach name found rest { told with env := told.env.filter (·.1 != variableName) }

/-- Makes the environment that was asked for: an empty one or one without some variables, and with those of
the assignments. -/
def changeVariables (name : Bytes) (found : Arguments) (empty : Bool) (set : List Bytes)
    (process : Process) : Except Exit Process := do
  let ready ←
    if empty then .ok { tell found (Utf8.encode "cleaning environ") process with env := [] }
    else
      unsetEach name found ((found.options.filter (·.1 == "unset")).map (·.2)) process
  return set.foldl (assign found) ready

/-! ### Command -/

/-- Enters the directory for the command. -/
def enterDirectory (name : Bytes) (found : Arguments) (process : Process) : Except Exit Process :=
  match found.get? "chdir" with
  | none => .ok process
  | some directory =>
    let told := tell found (Utf8.encode "chdir:    " ++ Quoting.shell directory) process
    let entered : Except Errno Ino := do
      let there ← told.tree.resolve told.here directory
      if told.tree.isDirectory there then return there else throw .ENOTDIR
    match entered with
    | .ok there => .ok { told with here := there }
    | .error code =>
      .error (complain name (Utf8.encode "cannot change directory to " ++ Quoting.shell directory ++
        Utf8.encode s!": {code.text}") told, envFault)

/-- Tells which program is run, and its arguments. -/
def tellCommand (found : Arguments) (words : List Bytes) (process : Process) : Process :=
  words.zipIdx.foldl (fun process (word, place) =>
    tell found (Utf8.encode s!"   arg[{place}]= " ++ Quoting.plain word) process)
    (tell found (Utf8.encode "executing: " ++ words.head?.getD []) process)

/-- Runs the command of `env`. -/
def runCommand (run : Runner) (name : Bytes) (words : List Bytes) (process : Process) : Exit :=
  let program := words.head?.getD []
  match search process.env (fun path => orShell run process path words) program with
  | .ok ended => ended
  | .error code =>
    let refused := complain name (Quoting.plain program ++ Utf8.encode s!": {code.text}") process
    let advised :=
      if code = .ENOENT && program.any isSpacing then shebangAdvice name refused else refused
    (advised, envFailure code)

/-- Does what the arguments ask for. -/
def carryOut (run : Runner) (name : Bytes) (found : Arguments) (process : Process) :
    Except Exit Exit := do
  let dashed := found.operands.head? == some (Utf8.encode "-")
  let (set, words) := assignments (if dashed then found.operands.tail else found.operands)
  let changed ← changeVariables name found (dashed || found.has "ignore-environment") set process
  if words.isEmpty then
    if found.has "chdir" then
      throw (usageFault name (Utf8.encode "must specify command with --chdir (-C)") envFault changed)
    let ending := if found.has "null" then 0 else byte '\n'
    let lines := changed.env.flatMap fun entry => entry.1 ++ byte '=' :: entry.2 ++ [ending]
    return finish name envFault (changed.print lines, 0)
  else
    if found.has "null" then
      throw (usageFault name (Utf8.encode "cannot specify --null (-0) with command") envFault changed)
    let ready ← enterDirectory name found changed
    return runCommand run name words (tellCommand found words ready)

/-- Runs `env`. -/
def runEnv (run : Runner) (name : Bytes) (arguments : List Bytes) (process : Process) : Exit :=
  let budget := maxArguments + arguments.length + arguments.flatten.length
  let ended := do
    let (found, told) ← readArguments name budget arguments {} process
    carryOut run name found told
  match ended with
  | .ok ended | .error ended => ended

end Utility

end LineShell.Machine
