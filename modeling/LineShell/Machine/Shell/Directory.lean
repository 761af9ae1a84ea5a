import LineShell.Machine.Shell.State

/-!
# The current directory of a shell

A shell keeps a path of its current directory, which goes by the names that have been followed, and, once it
was needed, the one that the machine finds. A directory that has been removed has no such path.

* `logicalPath`: where names lead without a look at the files.
* `physicalPath`: the path that the machine finds.
* `settle`: a new current directory.
* `enter`: moves.
-/

namespace LineShell.Machine.Shell

/-- The slashes at the front of an absolute path: two are kept, any other number counts as one. -/
def leadingSlashes (path : Bytes) : Bytes :=
  match path.takeWhile (· == byte '/') with
  | [first, second] => [first, second]
  | slashes => slashes.take 1

/-- The path that a directory has when names are followed without looking at the files. The names in the
path of the current one stay as they are. -/
def logicalPath (current path : Bytes) : Bytes :=
  let absolute := path.head? == some (byte '/')
  let lead := if absolute then leadingSlashes path else current.takeWhile (· == byte '/') |>.take 2
  let behind := if absolute then [] else current.drop lead.length
  let unclosed := if behind.getLast? = some (byte '/') then behind.dropLast else behind
  let start := if behind.isEmpty then [] else (unclosed.splitOn (byte '/')).reverse
  let kept := (names path).foldl (fun (kept : List Bytes) name =>
    if name = Utf8.encode "." then kept
    else if name = Utf8.encode ".." then kept.tail
    else name :: kept) start
  lead ++ [byte '/'].intercalate kept.reverse

/-- The path that the machine finds for the current directory. That there is none is complained about. -/
def physicalPath : Run (Option Bytes) := do
  let process := (← get).process
  let found := process.tree.pathOf process.here
  if found.isNone then complain (Utf8.encode s!"getcwd() failed: {Errno.ENOENT.text}")
  modify fun state => { state with physical := found }
  return found

/-- Sets the variable with the path of the current directory. -/
def exportDirectory : Run Unit := do
  assign (Utf8.encode "PWD") ((← get).directory.getD []) true

/-- Takes a path for that of the current directory, or else the one that the machine finds. -/
def settle (path : Option Bytes) : Run Unit := do
  modify fun state => { state with physical := none }
  let settled ← match path with
    | some path => pure (some path)
    | none => physicalPath
  modify fun state => { state with directory := settled }
  exportDirectory

/-- Finds out the current directory. The path in the environment counts if it leads there. -/
def findDirectory : Run Unit := do
  let state ← get
  let process := state.process
  let leadsHere := fun (path : Bytes) =>
    path.head? == some (byte '/') &&
      (process.tree.resolve process.here path).toOption == some process.here
  settle ((state.lookup? (Utf8.encode "PWD")).filter leadsHere)

/-- Enters the directory at a path. The paths of the old and the new one are kept in variables. -/
def enter (physical : Bool) (path : Bytes) : Run Bool := do
  let state ← get
  let logical :=
    if physical then none
    else if path.head? = some (byte '/') then some (logicalPath [] path)
    else state.directory.map (logicalPath · path)
  let process := state.process
  match process.tree.resolve process.here (logical.getD path) with
  | .error _ => return false
  | .ok there =>
    if !process.tree.isDirectory there then return false
    onProcess fun process => { process with here := there }
    assign (Utf8.encode "OLDPWD") (state.directory.getD []) true
    settle logical
    -- What was found before may be somewhere else now.
    modify fun state => { state with remembered := state.remembered.map fun entry => (entry.1, false) }
    return true

end LineShell.Machine.Shell
