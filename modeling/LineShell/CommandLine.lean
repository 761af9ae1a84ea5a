import LineShell.Flag
import LineShell.Session.Loop

/-!
# The program

The program is a session on the standard streams, set up by the arguments that it is started with.

* `Surroundings`: what the program finds when it is started.
* `Surroundings.session`: the session that the flags ask for.
* `Report`: what the program leaves behind.
* `Surroundings.run`: the program.
-/

namespace LineShell

variable {W : Type}

/-- What the program finds when it is started: its input, whether the output streams are terminals, whether the
terminal shows colours, and the world. -/
structure Surroundings (W : Type) where
  input : Input
  outIsTerminal : Bool := false
  errIsTerminal : Bool := false
  showsColor : Bool := false
  world : W

/-- What the program leaves behind: its exit code, what was written to the two descriptors, in order, and
the input that is still to be read. -/
structure Report where
  code : UInt32
  output : List (Stream × Bytes)
  left : Input

/-- What was written to one descriptor. -/
def Report.stream (report : Report) (stream : Stream) : Bytes :=
  report.output.flatMap fun part => if part.1 = stream then part.2 else []

/-- The program's version. -/
def version : String := "0.1.0"

/-- The fault of an argument that asks to be a flag and is none. -/
def unknownFlag (arg : String) : SessionFault :=
  .flag s!"unknown flag {arg}"

namespace Surroundings

/-- The session on the standard streams, before its directory is read. -/
def session (surroundings : Surroundings W) (flags : Flags) : Session W :=
  let highlighter := fun isTerminal =>
    Highlighter.forTerminal surroundings.showsColor (flags.colorFor isTerminal)
  { console := { input := surroundings.input }
    world := surroundings.world
    outHighlighter := highlighter surroundings.outIsTerminal
    errHighlighter := highlighter surroundings.errIsTerminal }

/-- Which diagnostics are shown: warnings, or with the debug flag everything down to debug level. -/
def logSettings (surroundings : Surroundings W) (flags : Flags) : Log.Settings :=
  { upTo := some (if flags.debug then .debug else .warn)
    colored := flags.colorFor surroundings.errIsTerminal }

/-- Starts a session and runs it to its end. -/
def runSession [Host W] (session : Session W) : Except SessionFault Unit × Session W :=
  match Session.start.on session with
  | (.error fault, after) => (.error fault, after)
  | (.ok (), after) => after.run

/-- The end of the program: a fault is written to the error descriptor and gives the exit code 1. -/
def report (result : Except SessionFault Unit) (output : List (Stream × Bytes)) (left : Input) :
    Report :=
  match result with
  | .ok () => { code := 0, output, left }
  | .error fault =>
    { code := 1, output := output ++ [(.err, Utf8.encode s!"shoal: {fault.message}\n")], left }

/-- Runs the program on its arguments. These are texts: with an argument that is not well-formed Unicode the program
would end before it looks at any of them. An unknown flag ends it at once; help goes before version, and both
before the session. -/
def run [Host W] (surroundings : Surroundings W) (args : List String) : Report :=
  let input := surroundings.input
  let reading := Flags.parse {} args
  match reading.unknown with
  | some arg => report (.error (unknownFlag arg)) [] input
  | none =>
    let flags := reading.flags
    if flags.help then report (.ok ()) [(.out, Utf8.encode Flags.usage)] input
    else if flags.version then report (.ok ()) [(.out, Utf8.encode s!"shoal {version}\n")] input
    else
      -- The console is on the descriptors, so both views of the trace come together there.
      let ended := runSession (surroundings.session flags)
      report ended.1 (ended.2.trace.reverse.flatMap (Event.outputs (surroundings.logSettings flags)))
        ended.2.console.input

end Surroundings

end LineShell
