import LineShell.Machine.Shell.Argument

/-!
# Commands for jobs

A command in the background has run to its end before the shell goes on, but the shell only knows how it ended
once it has waited for it.

* `startJob`: a command in the background.
* `runWait`, `runJobs`, `runForeground`: the builtin commands.
-/

namespace LineShell.Machine.Shell

/-- Puts a command of some processes in the background, given how it has ended. -/
def startJob (size status : Nat) : Run Unit :=
  modify fun state =>
    let process := state.lastProcess + size
    let job : Job := { process, size, status }
    { state with jobs := state.jobs.place job, lastProcess := process, background := some process }

/-- The place of the job that an argument stands for. -/
def findJob (argument : Bytes) : Run Nat := do
  match (← get).jobs.find argument with
  | .ok place => return place
  | .error missing => fail missing

/-- Waits for the job at a place, and gives back how it ended. -/
def waitFor (place : Nat) : Run (Option Nat) := do
  let state ← get
  let job? : Option Job := (state.jobs[place]?).join
  let after := job?.map fun job => { job with known := true }
  set { state with jobs := state.jobs.set place after }
  return job?.map (·.status)

/-- Waits for jobs, given by their processes or as jobs, and ends like the last one; or waits for all. -/
def runWait (arguments : List Bytes) : Run Nat := do
  let (_, operands) ← readOptions "" arguments
  if operands.isEmpty then
    for place in List.range (← get).jobs.length do
      let _ ← waitFor place
    return 0
  let mut status := 127
  for operand in operands do
    let place ← if operand.head? = some (byte '%') then findJob operand else do
      let process ← numberArgument operand
      pure ((← get).jobs.findIdx fun job? => job?.any (·.process == process))
    status := (← waitFor place).getD status
  return status

/-- Shows the job at a place, and forgets it if it has ended. -/
def showJob (options : List Char) (place : Nat) : Run Unit := do
  let state ← get
  let some job := (state.jobs[place]?).join | return
  match options.getLast? with
  | some 'p' => writeLine (decimal (job.process + 1 - job.size))
  | option =>
    writeLine (state.jobs.line (option == some 'l') place job)
    if job.known then modify fun state => { state with jobs := state.jobs.set place none }

/-- Shows some jobs, or all of them with the latest one first. -/
def runJobs (arguments : List Bytes) : Run Nat := do
  let (options, operands) ← readOptions "lp" arguments
  if operands.isEmpty then
    for entry in (← get).jobs.latest do showJob options entry.1
  for operand in operands do showJob options (← findJob operand)
  return 0

/-- Goes on with a job in front or in the background, which only control of jobs makes possible. -/
def runForeground (arguments : List Bytes) : Run Nat := do
  let (_, operands) ← readOptions "" arguments
  let asked := operands.head?
  let _ ← findJob (asked.getD [byte '%'])
  let shown := asked.getD (Utf8.encode "(null)")
  fail (Utf8.encode "job " ++ shown ++ Utf8.encode " not created under job control")

end LineShell.Machine.Shell
