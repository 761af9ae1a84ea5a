import LineShell.Host
import LineShell.Machine.Environment
import LineShell.Machine.Shell.Invocation
import LineShell.Machine.Utility.Cat
import LineShell.Machine.Utility.Directories
import LineShell.Machine.Utility.Touch

/-!
# Machines

A machine is a file tree, a current directory and an environment. It is a host for sessions. Its user is the
superuser, to whom no file is closed, so files have no permissions but that to be run.

* `execute`: the run of a file.
* `Machine`: the state.
* `Machine.enter`, `Machine.launch`: what a session asks of it.
* `Machine.empty`: a machine with its programs and nothing else.
-/

namespace LineShell.Machine

/-! ### Running files -/

/-- Runs a program of the machine. `run` is how it starts other programs. -/
def Utility.run (run : Runner) (utility : Utility) (name : Bytes) (arguments : List Bytes)
    (process : Process) : Exit :=
  match utility with
  | .succeed => (process, 0)
  | .fail => (process, 1)
  | .echo => Utility.runEcho name arguments process
  | .cat => Utility.runCat name arguments process
  | .mkdir => Utility.runMkdir name arguments process
  | .rmdir => Utility.runRmdir name arguments process
  | .touch => Utility.runTouch name arguments process
  | .sh => Shell.runSh run name arguments process
  | .env => Utility.runEnv run name arguments process

/-- Runs the file at a path. The bound says how many processes may wait for one another. -/
def execute : Nat → Runner
  | 0, _, _, _ => .error .EAGAIN
  | below + 1, process, path, words => do
    let (utility, words) ← load process.tree process.here maxImages path words
    return utility.run (execute below) (words.head?.getD []) words.tail process

end Machine

/-- An in-memory computer: its files, the current directory, the environment, and the number of the next
process. -/
structure Machine where
  tree : Machine.Tree
  here : Machine.Ino := Machine.Tree.root
  env : Machine.Environment := []
  nextPid : Nat := 2
deriving DecidableEq, Repr

namespace Machine

/-- How many processes may wait for one another. -/
def maxDepth : Nat := 1000

/-! ### What a session asks -/

/-- A path with a zero byte in it, which no call takes. -/
def zeroInPath : IoFault :=
  .own .invalidInput "file name contained an unexpected NUL byte"

/-- A program name or an argument with a zero byte in it. -/
def zeroInArgument : IoFault :=
  .own .invalidInput "nul byte found in provided data"

/-- Makes the directory at a path the current one. -/
def enter (machine : Machine) (path : Bytes) : Except IoFault Machine :=
  if path.contains 0 then .error zeroInPath
  else
    match machine.tree.resolve machine.here path with
    | .error code => .error (.os code)
    | .ok i =>
      if machine.tree.isDirectory i then .ok { machine with here := i } else .error (.os .ENOTDIR)

/-- The path of the current directory, unless it has been removed. -/
def currentPath (machine : Machine) : Except IoFault Bytes :=
  match machine.tree.pathOf machine.here with
  | some path => .ok path
  | none => .error (.os .ENOENT)

/-- The path of the home directory of the user; an empty variable names none. -/
def home (machine : Machine) : Option Bytes :=
  ((machine.env.get? "HOME").filter (!·.isEmpty)).map Utf8.encode

/-- Runs a program to its end. Its changes to the files stay, its current directory does not. -/
def launch (machine : Machine) (program : String) (arguments : List String) (input : Bytes) :
    Launch Machine :=
  let words := (program :: arguments).map Utf8.encode
  let process : Process :=
    { system := { tree := machine.tree, input }
      here := machine.here
      env := machine.env.map fun entry => (Utf8.encode entry.1, Utf8.encode entry.2) }
  if words.any (·.contains 0) then { world := machine, result := .refused zeroInArgument }
  else
    match search process.env (fun path => execute maxDepth process path words) (Utf8.encode program) with
    | .error code => { world := machine, result := .refused (.os code) }
    | .ok (ended, status) =>
      { world := { machine with tree := ended.tree, nextPid := machine.nextPid + 1 }
        taken := input.length - ended.system.input.length
        output := ended.system.output.reverse
        result := .exited machine.nextPid (.code status) }

/-- The names in the directory at a path. -/
def list (machine : Machine) (path : Bytes) : Option (List Bytes) :=
  if path.contains 0 then none
  else
    match machine.tree.resolve machine.here path with
    | .error _ => none
    | .ok i =>
      if machine.tree.isDirectory i then some ((machine.tree.entries i).map (·.1)) else none

/-- Whether what a path leads to is a directory. -/
def stat (machine : Machine) (path : Bytes) : Except IoFault Bool :=
  if path.contains 0 then .error zeroInPath
  else
    match machine.tree.resolve machine.here path with
    | .error code => .error (.os code)
    | .ok i => .ok (machine.tree.isDirectory i)

instance : Host Machine where
  enter := enter
  here := currentPath
  home := home
  launch := launch
  entries := list
  stat := stat

/-! ### A machine to start with -/

/-- The programs of a machine with the names that they go by. -/
def programs : List (String × Utility) :=
  [("true", .succeed), ("false", .fail), ("echo", .echo), ("cat", .cat), ("sh", .sh),
    ("mkdir", .mkdir), ("rmdir", .rmdir), ("touch", .touch), ("env", .env)]

/-- A tree changed by a call; a refused call leaves it as it is. -/
def orSame (tree : Tree) (change : Except Errno Tree) : Tree :=
  match change with
  | .ok changed => changed
  | .error _ => tree

/-- The files that every machine has: its programs under `/usr/bin`, an empty directory for temporary
files, and the null device. -/
def baseTree : Tree :=
  let directories := ["/usr", "/usr/bin", "/usr/local", "/usr/local/bin", "/tmp", "/dev"]
  let tree := directories.foldl (fun tree path =>
    orSame tree (tree.mkdir Tree.root (Utf8.encode path))) {}
  let tree := orSame tree
    (tree.create Tree.root (Utf8.encode "/bin") fun _ => .link (Utf8.encode "usr/bin"))
  let tree := orSame tree (tree.create Tree.root (Utf8.encode "/dev/null") fun _ => .device)
  programs.foldl (fun tree entry =>
    orSame tree (tree.create Tree.root (Utf8.encode s!"/usr/bin/{entry.1}") fun _ =>
      .utility entry.2)) tree

/-- The environment of a user of the machine. -/
def baseEnvironment : Environment :=
  [("HOME", "/tmp"), ("PATH", "/usr/local/bin:/usr/bin:/bin"), ("TERM", "xterm"), ("LC_ALL", "C")]

/-- A machine with nothing but its programs. -/
def empty : Machine :=
  { tree := baseTree, env := baseEnvironment }

end Machine

end LineShell
