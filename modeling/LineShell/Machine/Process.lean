import LineShell.Host
import LineShell.Machine.Tree

/-!
# Processes

The processes of a machine share its file tree, its input and output, and the files that are open. A
process has of its own a current directory, an environment and descriptors, which are numbers for open
files.

* `Channel`, `Opening`: where an open file leads.
* `System`: what processes share.
* `Process`: a running program.
* `Process.write`, `available`, `skip`, `readAll`: input and output through descriptors.
* `Process.openToRead`, `openToWrite`, `attach`, `point`, `close`: changes of descriptors.
* `Exit`, `Runner`: the end of a program, and how one is run.
-/

namespace LineShell.Machine

/-- Where an open file leads: to the input or an output of the machine, to a file or directory of the tree,
to the bytes in a pipe, or nowhere. -/
inductive Channel where
  | input
  | stream (stream : Stream)
  | node (ino : Ino)
  | pipe (content : Bytes)
  | null
deriving DecidableEq, Repr

/-- An open file: where it leads, what it is open for, and how far into a file it stands. Writing with
`append` always goes to the end of a file. -/
structure Opening where
  channel : Channel
  readable : Bool := true
  writable : Bool := true
  append : Bool := false
  offset : Nat := 0
deriving DecidableEq, Repr

/-- Environment variables of a process, by name. -/
abbrev Bindings := List (Bytes × Bytes)

/-- Puts what belongs to a name in its place in a table, or behind the others if it is new. -/
def setEntry {κ α : Type} [BEq κ] (name : κ) (new : α) (table : List (κ × α)) : List (κ × α) :=
  if table.any (·.1 == name) then table.map fun entry => if entry.1 == name then (name, new) else entry
  else table ++ [(name, new)]

/-- What the processes of a machine share. What was written to the output is kept with the newest part
first. -/
structure System where
  tree : Tree
  input : Bytes := []
  output : List (Stream × Bytes) := []
  openings : List Opening :=
    [{ channel := .input }, { channel := .stream .out }, { channel := .stream .err }]
deriving DecidableEq, Repr

/-- A running program. Each of its descriptors is the number of an open file. The permissions in its mask
are not given to files that it makes. It takes note when something could not be written to its output. -/
structure Process where
  system : System
  here : Ino
  env : Bindings := []
  mask : Nat := 0o022
  descriptors : List (Nat × Nat) := [(0, 0), (1, 1), (2, 2)]
  outputLost : Bool := false
deriving DecidableEq, Repr

namespace Process

/-- The file tree that a process sees. -/
def tree (process : Process) : Tree :=
  process.system.tree

/-- A process that sees another file tree. -/
def withTree (process : Process) (tree : Tree) : Process :=
  { process with system := { process.system with tree } }

/-- The number of the open file behind a descriptor, and the file. -/
def opening? (process : Process) (descriptor : Nat) : Option (Nat × Opening) := do
  let number ← process.descriptors.lookup descriptor
  let opening ← process.system.openings[number]?
  return (number, opening)

/-- Changes an open file. -/
def setOpening (process : Process) (number : Nat) (opening : Opening) : Process :=
  { process with
    system := { process.system with openings := process.system.openings.set number opening } }

/-! ### Writing -/

/-- Bytes put over a content from an offset on; a gap between the two is filled with zeros. -/
def overwrite (content : Bytes) (offset : Nat) (bytes : Bytes) : Bytes :=
  content.take offset ++ List.replicate (offset - content.length) 0 ++ bytes ++
    content.drop (offset + bytes.length)

/-- Writes bytes to a descriptor, if it is open for that. -/
def write? (process : Process) (descriptor : Nat) (bytes : Bytes) : Option Process := do
  let (number, opening) ← process.opening? descriptor
  if !opening.writable then none
  match opening.channel with
  | .stream stream =>
    let output := (stream, bytes) :: process.system.output
    return { process with system := { process.system with output } }
  | .pipe content => return process.setOpening number { opening with channel := .pipe (content ++ bytes) }
  | .node ino =>
    match process.tree.node? ino with
    | some (.file content executable) =>
      let offset := if opening.append then content.length else opening.offset
      let nodes := process.tree.nodes.set ino (.file (overwrite content offset bytes) executable)
      let moved := { opening with offset := offset + bytes.length }
      return (process.withTree ⟨nodes⟩).setOpening number moved
    | _ => none
  | .null => return process
  | .input => none

/-- Writes bytes to a descriptor; what cannot be written is lost. -/
def write (process : Process) (descriptor : Nat) (bytes : Bytes) : Process :=
  if bytes.isEmpty then process else (process.write? descriptor bytes).getD process

/-- Writes bytes to the output, or takes note that this cannot be done. -/
def print (process : Process) (bytes : Bytes) : Process :=
  if bytes.isEmpty then process else (process.write? 1 bytes).getD { process with outputLost := true }

/-- Writes a line of complaint to the error descriptor. -/
def complain (process : Process) (text : Bytes) : Process :=
  process.write 2 (text ++ [byte '\n'])

/-! ### Reading -/

/-- All bytes that a descriptor has left. -/
def available (process : Process) (descriptor : Nat) : Except Errno Bytes :=
  match process.opening? descriptor with
  | none => .error .EBADF
  | some (_, opening) =>
    if !opening.readable then .error .EBADF
    else
      match opening.channel with
      | .input => .ok process.system.input
      | .pipe content => .ok content
      | .node ino =>
        match process.tree.node? ino with
        | some (.file content _) => .ok (content.drop opening.offset)
        | some (.directory ..) => .error .EISDIR
        | _ => .ok []
      | .stream _ | .null => .ok []

/-- Moves a descriptor past bytes that have been read. -/
def skip (process : Process) (descriptor : Nat) (count : Nat) : Process :=
  match process.opening? descriptor with
  | none => process
  | some (number, opening) =>
    match opening.channel with
    | .input =>
      let input := process.system.input.drop count
      { process with system := { process.system with input } }
    | .pipe content => process.setOpening number { opening with channel := .pipe (content.drop count) }
    | .node _ => process.setOpening number { opening with offset := opening.offset + count }
    | .stream _ | .null => process

/-- Reads all that a descriptor has left. -/
def readAll (process : Process) (descriptor : Nat) : Except Errno (Bytes × Process) := do
  let bytes ← process.available descriptor
  return (bytes, process.skip descriptor bytes.length)

/-! ### Descriptors -/

/-- Lets a descriptor stand for an open file. -/
def point (process : Process) (descriptor number : Nat) : Process :=
  { process with
    descriptors := (descriptor, number) :: process.descriptors.filter (·.1 != descriptor) }

/-- Opens a file for a descriptor. -/
def attach (process : Process) (descriptor : Nat) (opening : Opening) : Process :=
  let openings := process.system.openings
  { process with system := { process.system with openings := openings ++ [opening] } }.point
    descriptor openings.length

/-- Closes a descriptor. -/
def close (process : Process) (descriptor : Nat) : Process :=
  { process with descriptors := process.descriptors.filter (·.1 != descriptor) }

/-- The open file for a node of the tree. -/
def openingOf (process : Process) (ino : Ino) : Opening :=
  match process.tree.node? ino with
  | some .device => { channel := .null }
  | _ => { channel := .node ino }

/-- Opens the file at a path for reading. -/
def openToRead (process : Process) (path : Bytes) : Except Errno Opening := do
  let ino ← process.tree.resolve process.here path
  return { process.openingOf ino with writable := false }

/-- Opens the file at a path for writing, in a tree in which it is made if it is not there. With `empty` its
content is removed. -/
def openToWrite (process : Process) (path : Bytes) (empty : Bool) :
    Except Errno (Process × Opening) := do
  Tree.checkPath path
  let (tree, ino) ← process.tree.openToWrite maxLinks process.here path
  let after := process.withTree tree
  let opening := { after.openingOf ino with readable := false }
  match empty, tree.node? ino with
  | true, some (.file _ executable) =>
    return (after.withTree ⟨tree.nodes.set ino (.file [] executable)⟩, opening)
  | _, _ => return (after, opening)

end Process

/-! ### Running -/

/-- The end of a program: its process as it left it, and its exit status. -/
abbrev Exit := Process × Nat

/-- How a process turns into the program at a path, with arguments of which the first one is the name of
the program. -/
abbrev Runner := Process → Bytes → List Bytes → Except Errno Exit

end LineShell.Machine
