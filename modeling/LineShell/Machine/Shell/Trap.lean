import LineShell.Machine.Shell.Argument
import LineShell.Machine.Shell.Signal

/-!
# Signals to a shell

A shell can send signals, and it carries out what has been set for those that come.

* `runTrap`: what is carried out at an event.
* `runKill`: sending of signals.
* `heedSignals`, `runExitTrap`: what is due.
-/

namespace LineShell.Machine.Shell

/-! ### Actions -/

/-- Sets what is carried out at events, or lists it. -/
def runTrap (arguments : List Bytes) : Run Nat := do
  let (_, operands) ← readOptions "" arguments
  match operands with
  | [] =>
    for entry in (← get).traps.mergeSort fun left right => left.1 ≤ right.1 do
      let event := Signal.name entry.1
      writeLine (Utf8.encode "trap -- " ++ quoteText entry.2 ++ Utf8.encode s!" {event}")
    return 0
  | first :: rest =>
    -- Without an action, or with a number in its place, events are forgotten.
    let forget := first == [byte '-'] || rest.isEmpty || (!first.isEmpty && first.all isDigit)
    let events := if rest.isEmpty || (forget && first != [byte '-']) then operands else rest
    for event in events do
      let some number := Signal.number? event | do
        onProcess (·.complain (Utf8.encode "trap: " ++ event ++ Utf8.encode ": bad trap"))
        return 1
      modify fun state =>
        let others := state.traps.filter (·.1 != number)
        { state with traps := if forget then others else (number, first) :: others }
    return 0

/-- Carries out what is due at a signal, which does not change the status. One that is not expected ends the
shell. -/
def heed (evaluate : Command → Run Unit) (number : Nat) : Run Unit := do
  let state ← get
  match state.traps.lookup number with
  | some action =>
    runText evaluate action
    setStatus state.status
  | none =>
    if !Signal.isHarmless number then
      set { state with traps := [], status := 128 + number }
      throw .exit

/-- Carries out what is due at the signals that have come. A part of the shell leaves them to the whole. -/
def heedSignals (evaluate : Command → Run Unit) : Run Unit := do
  let state ← get
  if !state.isPart then
    set { state with signals := [] }
    for number in state.signals.eraseDups.mergeSort do heed evaluate number

/-- Carries out what is due when a shell ends. It does not change the status. -/
def runExitTrap (evaluate : Command → Run Unit) : Run Unit := do
  let state ← get
  match state.traps.lookup 0 with
  | none => return
  | some action =>
    set { state with traps := state.traps.filter (·.1 != 0) }
    match ← attempt (runText evaluate action) with
    | .error .exit => return
    | _ => setStatus state.status

/-! ### Sending -/

/-- Complains about the use of `kill`. -/
def killUsage {α : Type} : Run α :=
  fail (Utf8.encode
    "Usage: kill [-s sigspec | -signum | -sigspec] [pid | job]... or\nkill -l [exitstatus]")

/-- Lists the names of signals, or names the one of a number or of the status that it ends a program with. -/
def listSignals : List Bytes → Run Unit
  | [] => do
    writeLine [byte '0']
    for name in Signal.names.tail do writeLine (Utf8.encode name)
  | operand :: _ => do
    let status ← numberArgument operand
    let number := if 128 < status then status - 128 else status
    if number = 0 || Signal.names.length ≤ number then
      fail (Utf8.encode "invalid signal number or exit status: " ++ operand)
    writeLine (Utf8.encode (Signal.name number))

/-- Sends a signal to what an operand stands for; `false` if there is no such process. Jobs have ended, but
stay until they have been waited for. -/
def send (number : Nat) (operand : Bytes) : Run Bool := do
  let state ← get
  match operand with
  | 0x25 :: _ =>
    match state.jobs.find operand with
    | .ok _ => return false
    | .error missing => fail missing
  | 0x2D :: group =>
    let _ ← numberArgument group
    return false
  | _ =>
    let process ← numberArgument operand
    if process = ownProcess then
      if number != 0 then set { state with signals := number :: state.signals }
      return true
    return state.jobs.any (·.any fun job => job.process == process && !job.known)

/-- Sends a signal to processes, or lists signals. -/
def runKill (arguments : List Bytes) : Run Nat := do
  let first := arguments.head?.getD []
  let direct := if first.head? = some (byte '-') then Signal.signal? first.tail else none
  let (settings, operands) ←
    if direct.isSome then pure ([], arguments.tail) else readSettings "ls:" arguments
  let mut chosen := direct
  for (letter, text) in settings do
    if letter = byte 's' then
      chosen := Signal.signal? text
      if chosen.isNone then fail (Utf8.encode "invalid signal number or name: " ++ text)
  if settings.any (·.1 == byte 'l') then
    if chosen.isSome && !operands.isEmpty then killUsage
    listSignals operands
    return 0
  if operands.isEmpty then killUsage
  let number := chosen.getD ((Signal.signal? (Utf8.encode "TERM")).getD 0)
  let mut status := 0
  for operand in operands do
    if !(← send number operand) then
      complain (Utf8.encode "No such process\n")
      status := 1
  return status

end LineShell.Machine.Shell
