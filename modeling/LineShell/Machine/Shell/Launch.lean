import LineShell.Machine.Shell.Expansion
import LineShell.Machine.Utility.Env

/-!
# Programs of a script

How a shell finds and starts the programs that its commands name.

* `findProgram`: the file of a program.
* `orScript`: another shell for a file that is no program, but a text.
* `runProgram`, `becomeProgram`: the run of a program.
-/

namespace LineShell.Machine.Shell

/-- The files that the name of a program may stand for, in the order in which they are tried. -/
def State.candidates (state : State) (name : Bytes) : List Bytes :=
  let path := (state.lookup? (Utf8.encode "PATH")).getD []
  (path.splitOn (byte ':')).map (inDirectory · name)

/-- The first usable file among candidates, or why there is none. -/
def firstFile (process : Process) (usable : Node → Bool) (wrong : Errno) : List Bytes → Except Errno Bytes
  | [] => .error wrong
  | path :: rest =>
    match process.tree.resolve process.here path with
    | .error code =>
      firstFile process usable (if code = .ENOENT || code = .ENOTDIR then wrong else code) rest
    | .ok i =>
      if (process.tree.node? i).any usable then .ok path else firstFile process usable .EACCES rest

/-- Whether something in a tree is a file. -/
def isFile : Node → Bool
  | .file .. | .utility _ => true
  | _ => false

/-- Whether something in a tree can be run. -/
def isProgram : Node → Bool
  | .file _ executable => executable
  | .utility _ => true
  | _ => false

/-- The file of a program; the name itself if there is a slash in it. A name that was looked for is
remembered. -/
def findProgram (name : Bytes) : Run (Except Errno Bytes) := do
  let state ← get
  if name.contains (byte '/') then return .ok name
  let found := firstFile state.process isProgram .ENOENT (state.candidates name)
  if found.isOk then set { state with remembered := setEntry name true state.remembered }
  return found

/-- Tries to run one file after another; a missing one is passed over. -/
def runFirst (run : Bytes → Except Errno Exit) (wrong : Errno) : List Bytes → Except Errno Exit
  | [] => .error wrong
  | path :: rest =>
    match run path with
    | .ok ended => .ok ended
    | .error code => runFirst run (if code = .ENOENT || code = .ENOTDIR then wrong else code) rest

/-- Complains about a program that cannot be run. -/
def complainAbout (name : Bytes) (code : Errno) : Run Unit :=
  complain (name ++ because "not found" code)

/-- How many bytes of a file show whether it is a text. -/
def sampleLength : Nat := 128

/-- The bytes that texts are made of: all but control characters, and those among these that are signs for
the layout or begin an escape. -/
def isTextByte (b : UInt8) : Bool :=
  (0x20 ≤ b && b != 0x7F) || (0x09 ≤ b && b ≤ 0x0F) || b == 0x1B

/-- Whether the file at a path begins like a text. -/
def isText (process : Process) (path : Bytes) : Bool :=
  match (process.tree.resolve process.here path).toOption.bind process.tree.node? with
  | some (.file content _) =>
    ((content.take sampleLength).takeWhile (· != byte '\n')).all isTextByte
  | _ => false

/-- Runs the file at a path, by another shell if it is a text that is neither a program nor names its
interpreter. -/
def orScript (run : Runner) : Runner := fun process path words =>
  if isText process path then orShell run process path words else run process path words

/-- Runs the program of a command to its end, or complains. -/
def launch (words : List Bytes) : Run (Except Errno Nat) := do
  let state ← get
  let name := words.head?.getD []
  let files := if name.contains (byte '/') then [name] else state.candidates name
  let child := { state.process with env := state.environment }
  match runFirst (fun path => orScript state.run child path words) .ENOENT files with
  | .ok (ended, status) =>
    onProcess fun process => { process with system := ended.system }
    return .ok status
  | .error code =>
    complainAbout name code
    return .error code

/-- The status of a command whose program cannot be run. -/
def launchFailure (code : Errno) : Nat :=
  if [Errno.ELOOP, .ENAMETOOLONG, .ENOENT, .ENOTDIR].contains code then 127 else 126

/-- Starts a program and waits for its end. -/
def runProgram (words : List Bytes) : Run Nat := do
  match ← launch words with
  | .ok status =>
    makeRoom
    return status
  | .error code => return launchFailure code

/-- Becomes a program, with which the shell ends. -/
def becomeProgram {α : Type} (words : List Bytes) : Run α := do
  match ← launch words with
  | .ok status => modify fun state => { state with traps := [], status }
  | .error code => setStatus (launchFailure code)
  throw .exit

end LineShell.Machine.Shell
