import LineShell.Machine.Shell.Builtin

/-!
# Evaluation

How commands are carried out. Each kind of command is described given how the commands inside of it are
carried out; a budget that shrinks from level to level ties the descriptions together.

* `runSimple`: simple commands.
* `runLoop`, `runIteration`, `runSelection`, `runPipeline`: compound ones.
* `step`, `evaluate`: all of them.
-/

namespace LineShell.Machine.Shell

/-! ### Ends of shells -/

/-- Carries out commands in a part of the shell that ends with them. -/
def runSubshell (evaluate : Command → Run Unit) (body : Run Unit) : Run Unit :=
  inSubshell do
    let _ ← attempt body
    runExitTrap evaluate

/-- Ends the shell after a command that failed, if it is to do so. -/
def checkStatus : Run Unit := do
  let state ← get
  if isOn state .errexit && !state.tested && state.status != 0 then throw .exit

/-! ### Simple commands -/

/-- The fields of the words of a command. Behind a command whose arguments are assignments these are not
split. -/
def expandCommand (evaluate : Command → Run Unit) : List Word → Run (List Bytes)
  | [] => return []
  | word :: rest => do
    match ← expandField evaluate word with
    | [] => expandCommand evaluate rest
    | name :: fields =>
      let assigning := (builtin? name).any (·.assigning)
      let others ← rest.mapM fun word =>
        match assigning, word.assignment? with
        | true, some (variableName, value) => do
          return [variableName ++ byte '=' :: (← expandValue evaluate value)]
        | _, _ => expandField evaluate word
      return name :: fields ++ others.flatten

/-- Sets the variables of assignments in front of a command. With `passing` only the command sees them. -/
def runAssignments (evaluate : Command → Run Unit) (passing : Bool) (assignments : List Word) :
    Run (List Bytes) :=
  assignments.mapM fun word => do
    match word.assignment? with
    | none => return []
    | some (name, value) =>
      let text ← expandValue evaluate value
      if passing then makeLocal name
      assign name text passing
      return name ++ byte '=' :: text

/-- What the value of a variable stands for, as a text in which parameters are looked up. -/
def shownValue (evaluate : Command → Run Unit) (name : String) : Run Bytes := do
  let state ← get
  let text := (state.lookup? (Utf8.encode name)).getD []
  let shown ← attempt do
    let (word, _) ← readFrom {} (readQuotedText text state.line)
    expandText evaluate word
  return shown.toOption.getD text

/-- Shows a command before it is carried out, if that is wanted. -/
def trace (evaluate : Command → Run Unit) (words : List Bytes) : Run Unit := do
  if isOn (← get) .xtrace then
    let shown ← shownValue evaluate "PS4"
    onProcess (·.complain (shown ++ [byte ' '].intercalate words))

/-- What a command stands for. -/
inductive Target where
  | assignments
  | function (body : Command)
  | builtin (builtin : Builtin)
  | program

/-- The command behind `command`, which looks up no functions; `none` if `command` has another use. -/
def behindCommand? : List Bytes → Option (List Bytes)
  | [] => none
  | word :: rest =>
    match word with
    | 0x2D :: letter :: letters =>
      if word = Utf8.encode "--" then if rest.isEmpty then none else some rest
      else if (letter :: letters).all (· == byte 'p') then behindCommand? rest
      else none
    | _ => some (word :: rest)

/-- Describes what a name stands for, as `command` does with its options; without one it does nothing. -/
def runCommandLookup (arguments : List Bytes) : Run Nat := do
  let (options, operands) ← readOptions "pvV" arguments
  match operands with
  | [] => return 0
  | name :: _ =>
    match options.filter (· != 'p') with
    | [] => return 0
    | chosen => describe (chosen.getLast? == some 'v') name

/-- The builtin commands that look up other commands. -/
def lookupBuiltin? (name : Bytes) : Option Builtin :=
  if name = Utf8.encode "command" then some { name := "command", run := fun _ => runCommandLookup }
  else if name = Utf8.encode "hash" then some { name := "hash", run := fun _ => runHash }
  else if name = Utf8.encode "type" then some { name := "type", run := fun _ => runType }
  else none

/-- What the words of a command stand for, and the words themselves without `command` in front. -/
def targetOf (state : State) : Nat → Bool → List Bytes → Target × List Bytes
  | _, _, [] => (.assignments, [])
  | fuel, functions, name :: rest =>
    match if functions then state.functions.lookup name else none with
    | some body => (.function body, name :: rest)
    | none =>
      let unwrapped := if name = Utf8.encode "command" then behindCommand? rest else none
      match fuel, unwrapped with
      | fuel + 1, some words =>
        let (target, words) := targetOf state fuel false words
        match target with
        | .builtin found => (.builtin { found with special := false }, words)
        | _ => (target, words)
      | _, _ =>
        match (builtin? name).orElse fun () => lookupBuiltin? name with
        | some found => (.builtin found, name :: rest)
        | none => (.program, name :: rest)

/-- How many functions may be at work. -/
def maxCalls : Nat := 1000

/-- Calls a function with parameters of its own. -/
def callFunction (evaluate : Command → Run Unit) (body : Command) (parameters : List Bytes) : Run Unit := do
  let before ← get
  if before.calls = maxCalls then
    fail (Utf8.encode s!"Maximum function recursion depth ({maxCalls}) reached")
  set { before with parameters, loops := 0, calls := before.calls + 1 }.restartOptions
  let result ← attempt (evaluate body)
  modify fun state =>
    { state with
      parameters := before.parameters, loops := before.loops, calls := before.calls
      optionWord := before.optionWord, optionPlace := before.optionPlace }
  match result with
  | .error .comeBack => return
  | result => resume result

/-- Carries out a builtin command. A fault in it ends the shell only if it is a special one. -/
def callBuiltin (evaluate : Command → Run Unit) (found : Builtin) (words : List Bytes) : Run Unit := do
  let name := words.head?.getD []
  let checked := asCommand name do
    let status ← found.run evaluate words.tail
    if ← flush then return status
    complain (name ++ Utf8.encode ": I/O error")
    return status ||| 1
  let result ← attempt checked
  let _ ← flush
  match result with
  | .ok status => setStatus status
  | .error .fault => if found.special then throw .fault
  | .error jump => throw jump

/-- Starts the program of a command. -/
def callProgram (words : List Bytes) : Run Unit := do
  let name := words.head?.getD []
  match ← findProgram name with
  | .error code =>
    complainAbout name code
    setStatus 127
  | .ok _ => setStatus (← runProgram words)

/-- Carries out a simple command: its words are looked up, then its redirections; descriptors are changed,
the assignments are made, and the command is called. -/
def runSimple (evaluate : Command → Run Unit) (line : Nat) (assignments words : List Word)
    (redirections : List Redirection) : Run Unit := do
  enterLine line
  modify fun state => { state with substituted := 0 }
  let fields ← expandCommand evaluate words
  let (target, command) := targetOf (← get) fields.length true fields
  let prepared ← redirections.mapM (prepare evaluate)
  let special := match target with
    | .builtin found => found.special
    | _ => false
  let refused : Run Unit := if special then throw .fault else return
  let assigned := fun (passing : Bool) => do
    let shown ← runAssignments evaluate passing assignments
    if !(shown.isEmpty && fields.isEmpty) then trace evaluate (shown ++ fields)
  match target with
  | .assignments => redirected evaluate prepared refused do
      assigned false
      setStatus (← get).substituted
  | .function body => inScope (redirected evaluate prepared refused do
      assigned true
      callFunction evaluate body command.tail)
  | .program => inScope (redirected evaluate prepared refused do
      assigned true
      callProgram command)
  | .builtin found =>
    if found.name = "exec" && found.special then
      if ← redirectForGood evaluate prepared then
        assigned (1 < command.length)
        callBuiltin evaluate found command
      else refused
    else if found.special then redirected evaluate prepared refused do
      assigned false
      callBuiltin evaluate found command
    else inScope (redirected evaluate prepared refused do
      assigned true
      callBuiltin evaluate found command)

/-! ### Compound commands -/

/-- How a turn of a loop ended: the loop goes on, or it has been left. -/
inductive Turn where
  | goOn
  | left
deriving DecidableEq, Repr

/-- Carries out a turn of a loop. -/
def turn (body : Run Unit) : Run Turn := do
  match ← attempt body with
  | .ok () => return .goOn
  | .error (.leave loops) => if loops ≤ 1 then return .left else throw (.leave (loops - 1))
  | .error (.next loops) => if loops ≤ 1 then return .goOn else throw (.next (loops - 1))
  | .error jump => throw jump

/-- Carries out a loop, which knows how many loops it is in. -/
def insideLoop (body : Run Unit) : Run Unit := do
  modify fun state => { state with loops := state.loops + 1 }
  let result ← attempt body
  modify fun state => { state with loops := state.loops - 1 }
  resume result

/-- Carries out a body as long as a condition holds, or as long as it does not. The status is that of the
last turn. -/
def runLoop (evaluate : Command → Run Unit) (wanted : Bool) (condition body : Command) : Run Unit :=
  insideLoop (iterate (throw .fault) (fun (last : Nat) => do
    let stop := fun (status : Nat) => do
      setStatus status
      return .inr ()
    -- Leaving the condition leaves the loop; its next turn starts with the condition again.
    let met ← attempt (whileTested true (evaluate condition))
    match met with
    | .ok () =>
      if ((← get).status == 0) != wanted then stop last
      else
        let how ← turn (evaluate body)
        let status := (← get).status
        if how = .left then stop status else return .inl status
    | .error jump => if (← turn (throw jump)) = .left then stop last else return .inl last)
    maxRepetitions 0)

/-- Carries out a body for one word after another. -/
def runIteration (evaluate : Command → Run Unit) (name : Bytes) (body : Command) : List Bytes → Run Unit
  | [] => return
  | word :: rest => do
    assign name word
    let how ← turn (evaluate body)
    if how = .goOn then runIteration evaluate name body rest

/-- Whether one of several words is a pattern for a text. -/
def matchesAny (evaluate : Command → Run Unit) (text : Bytes) : List Word → Run Bool
  | [] => return false
  | word :: rest => do
    if (← expandPattern evaluate word).matchesText text then return true
    matchesAny evaluate text rest

/-- Carries out the first arm with a pattern for a text. -/
def runSelection (evaluate : Command → Run Unit) (text : Bytes) :
    List (List Word × Command) → Run Unit
  | [] => setStatus 0
  | (patterns, body) :: rest => do
    if ← matchesAny evaluate text patterns then
      setStatus 0
      evaluate body
    else runSelection evaluate text rest

/-- Carries out commands one after another, each with the output of the one before as its input. The input
of the first one, if there is another before it, is the open file of a number. -/
def runPipeline (evaluate : Command → Run Unit) (input : Option Nat) : List Command → Run Unit
  | [] => return
  | command :: rest => do
    let number := (← get).process.system.openings.length
    let connect : Run Unit := do
      if let some source := input then onProcess (·.point 0 source)
      if !rest.isEmpty then onProcess (·.attach 1 { channel := .pipe [] })
    runSubshell evaluate do
      connect
      evaluate command
    if !rest.isEmpty then runPipeline evaluate (some number) rest

/-! ### All commands -/

/-- Carries out a command, given how the commands inside of it are carried out. -/
def step (evaluate : Command → Run Unit) : Command → Run Unit
  | .nothing => return
  | .simple line assignments words redirections => do
    runSimple evaluate line assignments words redirections
    checkStatus
    heedSignals evaluate
  | .redirected line body redirections => do
    enterLine line
    let prepared ← redirections.mapM (prepare evaluate)
    redirected evaluate prepared (pure ()) (evaluate body)
  | .subshell line body redirections => do
    enterLine line
    let prepared ← redirections.mapM (prepare evaluate)
    makeRoom
    runSubshell evaluate do
      if ← redirectForGood evaluate prepared then evaluate body
    checkStatus
    heedSignals evaluate
  | .background body => do
    runSubshell evaluate do
      onProcess (·.attach 0 { channel := .null })
      evaluate body
    startJob body.size (← get).status
    setStatus 0
  | .pipeline commands => do
    makeRoom
    runPipeline evaluate none commands
    checkStatus
    heedSignals evaluate
  | .sequence first second => do
    evaluate first
    evaluate second
  | .both first second => do
    whileTested true (evaluate first)
    if (← get).status = 0 then evaluate second
  | .either first second => do
    whileTested true (evaluate first)
    if (← get).status != 0 then evaluate second
  | .negation body => do
    whileTested true (evaluate body)
    setStatus (if (← get).status = 0 then 1 else 0)
  | .choice condition body otherwise => do
    whileTested true (evaluate condition)
    let chosen := if (← get).status = 0 then body else otherwise
    setStatus 0
    evaluate chosen
  | .loop wanted condition body => runLoop evaluate wanted condition body
  | .iteration line name words body => do
    enterLine line
    let fields ← expandFields evaluate words
    setStatus 0
    insideLoop (runIteration evaluate name body fields)
  | .selection line subject arms => do
    enterLine line
    let text ← expandText evaluate subject
    runSelection evaluate text arms
  | .function name body => do
    modify fun state =>
      { state with
        functions := (name, body) :: state.functions.filter (·.1 != name) }
    setStatus 0

/-- Carries out a command, unless commands are only to be read. The budget bounds how deep commands stand in
one another. -/
def evaluate : Nat → Command → Run Unit
  | 0, _ => throw .exit
  | budget + 1, command => do
    if !isOn (← get) .noexec then step (evaluate budget) command

end LineShell.Machine.Shell
