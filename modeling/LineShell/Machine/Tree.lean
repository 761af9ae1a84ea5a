import LineShell.Fault.Errno
import LineShell.Machine.Ascii

/-!
# File trees

The file system of a machine is a table of nodes. Directories hold names of nodes, and a directory that no
directory names any more is gone, although a process may still be in it.

* `Node`, `Tree`: the table.
* `Tree.walk`, `Tree.resolve`: the node that a path leads to.
* `Tree.pathOf`: the path of a directory.
* `Tree.mkdir`, `rmdir`, `rename`, `putFile`, `openToWrite`: changes.
-/

namespace LineShell.Machine

/-- The programs that are part of a machine. -/
inductive Utility where
  | succeed
  | fail
  | echo
  | cat
  | sh
  | mkdir
  | rmdir
  | touch
  | env
deriving DecidableEq, Repr

/-- The number of a node in the table. -/
abbrev Ino := Nat

/-- A node: a directory with the directory above it, a file with its content, a symbolic link, a device,
or a program of the machine. -/
inductive Node where
  | directory (parent : Ino) (entries : List (Bytes × Ino))
  | file (content : Bytes) (executable : Bool)
  | link (target : Bytes)
  | device
  | utility (utility : Utility)
deriving DecidableEq, Repr

/-- A table of nodes; node 0 is the root directory. -/
structure Tree where
  nodes : List Node := [.directory 0 []]
deriving DecidableEq, Repr

/-! ### Paths -/

/-- The names that a path goes through. A slash at the end asks for a directory, as a dot would. -/
def names (path : Bytes) : List Bytes :=
  (path.splitOn (byte '/')).filter (!·.isEmpty) ++
    if path.getLast? = some (byte '/') then [Utf8.encode "."] else []

/-- The length that a name may have. -/
def maxName : Nat := 255

/-- The length that a path may have, a final zero byte included. -/
def maxPath : Nat := 4096

/-- The number of symbolic links that a path may go through. -/
def maxLinks : Nat := 40

namespace Tree

/-- The node at the top of a tree. -/
def root : Ino := 0

/-- The node of a number. -/
def node? (tree : Tree) (i : Ino) : Option Node :=
  tree.nodes[i]?

/-- The entries of a directory; none for any other node. -/
def entries (tree : Tree) (i : Ino) : List (Bytes × Ino) :=
  match tree.node? i with
  | some (.directory _ entries) => entries
  | _ => []

/-- Whether a node is a directory. -/
def isDirectory (tree : Tree) (i : Ino) : Bool :=
  match tree.node? i with
  | some (.directory ..) => true
  | _ => false

/-- The directory above a directory; the root is above itself. -/
def parent (tree : Tree) (i : Ino) : Ino :=
  match tree.node? i with
  | some (.directory parent _) => parent
  | _ => root

/-- Whether a directory is still in the tree. -/
def isLinked (tree : Tree) (i : Ino) : Bool :=
  i == root || (tree.entries (tree.parent i)).any (·.2 == i)

/-- Where a path starts: at the root, or in the given directory. -/
def origin (here : Ino) (path : Bytes) : Ino :=
  if path.head? = some (byte '/') then root else here

/-- What stands under a name in a directory. -/
def find (tree : Tree) (directory : Ino) (name : Bytes) : Except Errno Ino :=
  if !tree.isLinked directory then .error .ENOENT
  else if maxName < name.length then .error .ENAMETOOLONG
  else
    match (tree.entries directory).lookup name with
    | none => .error .ENOENT
    | some i => .ok i

/-- Follows names from a directory. Symbolic links are followed on the way, and at the end if `follow`
says so; `links` is how many more may be followed. -/
def walk (tree : Tree) (follow : Bool) (links : Nat) (i : Ino) : List Bytes → Except Errno Ino
  | [] => .ok i
  | name :: rest =>
    if !tree.isDirectory i then .error .ENOTDIR
    else if name = Utf8.encode "." then walk tree follow links i rest
    else if name = Utf8.encode ".." then walk tree follow links (tree.parent i) rest
    else
      match tree.find i name with
      | .error code => .error code
      | .ok j =>
        match tree.node? j with
        | some (.link target) =>
          if rest.isEmpty && !follow then .ok j
          else
            -- The names of the target come in front of the names that are left.
            match links with
            | 0 => .error .ELOOP
            | left + 1 => walk tree follow left (origin i target) (names target ++ rest)
        | _ => walk tree follow links j rest
termination_by path => (links, path.length)

/-- The checks that a path has to pass before it is followed. -/
def checkPath (path : Bytes) : Except Errno Unit :=
  if path.isEmpty then .error .ENOENT
  else if maxPath ≤ path.length then .error .ENAMETOOLONG
  else .ok ()

/-- The node that a path leads to. -/
def resolve (tree : Tree) (here : Ino) (path : Bytes) : Except Errno Ino := do
  checkPath path
  tree.walk true maxLinks (origin here path) (names path)

/-- The names on the way from the root to a directory; `none` when it is gone. The table bounds the
depth. -/
def climb (tree : Tree) : Nat → Ino → Option (List Bytes)
  | fuel, i =>
    if i = root then some []
    else
      match fuel with
      | 0 => none
      | fuel + 1 => do
        let entry ← (tree.entries (tree.parent i)).find? (·.2 == i)
        let above ← climb tree fuel (tree.parent i)
        return above ++ [entry.1]

/-- The path of a directory, however long it is. -/
def pathOf (tree : Tree) (i : Ino) : Option Bytes :=
  (tree.climb tree.nodes.length i).map fun names =>
    byte '/' :: [byte '/'].intercalate names

/-! ### Changes -/

/-- The tree with other entries in a directory. -/
def setEntries (tree : Tree) (i : Ino) (entries : List (Bytes × Ino)) : Tree :=
  ⟨tree.nodes.set i (.directory (tree.parent i) entries)⟩

/-- The tree with a new node under a new name in a directory. -/
def add (tree : Tree) (directory : Ino) (name : Bytes) (node : Node) : Tree :=
  let entries := tree.entries directory ++ [(name, tree.nodes.length)]
  ⟨(tree.setEntries directory entries).nodes ++ [node]⟩

/-- The tree without a name in a directory. -/
def remove (tree : Tree) (directory : Ino) (name : Bytes) : Tree :=
  tree.setEntries directory ((tree.entries directory).filter (·.1 != name))

/-- The directory in which the last name of a path is looked up, and that name; there is no name in the
path of the root. -/
def locate (tree : Tree) (here : Ino) (path : Bytes) : Except Errno (Ino × Option Bytes) := do
  checkPath path
  let steps := (path.splitOn (byte '/')).filter (!·.isEmpty)
  let directory ← tree.walk true maxLinks (origin here path) steps.dropLast
  if !tree.isDirectory directory then throw .ENOTDIR
  return (directory, steps.getLast?)

/-- Whether a name is one of the two that every directory has. -/
def isDots (name : Bytes) : Bool :=
  name == Utf8.encode "." || name == Utf8.encode ".."

/-- Makes a node under a name that is not taken. -/
def create (tree : Tree) (here : Ino) (path : Bytes) (node : Ino → Node) : Except Errno Tree := do
  match ← tree.locate here path with
  | (_, none) => throw .EEXIST
  | (directory, some name) =>
    if isDots name then throw .EEXIST
    match tree.find directory name with
    | .ok _ => throw .EEXIST
    | .error code =>
      if code = .ENOENT && tree.isLinked directory then
        return tree.add directory name (node directory)
      else throw code

/-- Whether a path ends with a slash, which only the path of a directory may. -/
def endsInSlash (path : Bytes) : Bool :=
  path.getLast? == some (byte '/')

/-- The file that opening a path for writing gives, and the tree with it: a file that is missing is made,
where symbolic links lead. `links` is how many of them may still be followed at the end of the path. -/
def openToWrite (tree : Tree) : Nat → Ino → Bytes → Except Errno (Tree × Ino)
  | links, here, path => do
    match ← tree.locate here path with
    | (_, none) => throw .EISDIR
    | (directory, some name) =>
      if isDots name || endsInSlash path then throw .EISDIR
      match tree.find directory name with
      | .error code =>
        if code = .ENOENT && tree.isLinked directory then
          return (tree.add directory name (.file [] false), tree.nodes.length)
        else throw code
      | .ok i =>
        match tree.node? i with
        | some (.directory ..) => throw .EISDIR
        | some (.link target) =>
          match links with
          | 0 => throw .ELOOP
          | left + 1 => openToWrite tree left directory target
        | _ => return (tree, i)

/-- Makes an empty directory. -/
def mkdir (tree : Tree) (here : Ino) (path : Bytes) : Except Errno Tree :=
  tree.create here path fun parent => .directory parent []

/-- Removes an empty directory. -/
def rmdir (tree : Tree) (here : Ino) (path : Bytes) : Except Errno Tree := do
  match ← tree.locate here path with
  | (_, none) => throw .EBUSY
  | (directory, some name) =>
    if name = Utf8.encode "." then throw .EINVAL
    if name = Utf8.encode ".." then throw .ENOTEMPTY
    let i ← tree.find directory name
    if !tree.isDirectory i then throw .ENOTDIR
    if !(tree.entries i).isEmpty then throw .ENOTEMPTY
    return tree.remove directory name

/-- Whether a directory is another one or lies somewhere below it; `fuel` bounds the depth. -/
def isBelow (tree : Tree) (top : Ino) : Nat → Ino → Bool
  | 0, i => i == top
  | fuel + 1, i => i == top || (i != root && isBelow tree top fuel (tree.parent i))

/-- Whether a node may take the place of another one: a directory that of an empty directory, anything else
that of anything that is no directory. -/
def mayReplace (tree : Tree) (i : Ino) (replaced : Ino) : Except Errno Unit :=
  match tree.isDirectory i, tree.isDirectory replaced with
  | true, true => if (tree.entries replaced).isEmpty then .ok () else .error .ENOTEMPTY
  | true, false => .error .ENOTDIR
  | false, true => .error .EISDIR
  | false, false => .ok ()

/-- Moves a node to another place. A directory cannot be moved below itself, and nothing can take the place
of a directory that it lies in. -/
def rename (tree : Tree) (here : Ino) (path target : Bytes) : Except Errno Tree := do
  match ← tree.locate here path, ← tree.locate here target with
  | (source, some name), (directory, some newName) =>
    if isDots name || isDots newName then throw .EBUSY
    -- The checks stand in the order in which their faults win.
    let i ← tree.find source name
    if !tree.isLinked directory then throw .ENOENT
    let replaced ←
      match tree.find directory newName with
      | .ok j => pure (some j)
      | .error code => if code = .ENOENT then pure none else throw code
    if !tree.isDirectory i && (endsInSlash path || endsInSlash target) then throw .ENOTDIR
    if tree.isDirectory i && tree.isBelow i tree.nodes.length directory then throw .EINVAL
    if let some j := replaced then
      if j = i then return tree
      if tree.isBelow j tree.nodes.length source then throw .ENOTEMPTY
      tree.mayReplace i j
    -- Whatever stood under the new name is gone before the node comes there.
    let removed := (tree.remove source name).remove directory newName
    let moved := removed.setEntries directory (removed.entries directory ++ [(newName, i)])
    match moved.node? i with
    | some (.directory _ entries) => return ⟨moved.nodes.set i (.directory directory entries)⟩
    | _ => return moved
  | _, _ => throw .EBUSY

/-- Puts a file at a path, in the place of a file that is there. -/
def putFile (tree : Tree) (here : Ino) (path content : Bytes) (executable : Bool) :
    Except Errno Tree :=
  match tree.resolve here path with
  | .error _ => tree.create here path fun _ => .file content executable
  | .ok i =>
    match tree.node? i with
    | some (.file ..) => .ok ⟨tree.nodes.set i (.file content executable)⟩
    | some (.directory ..) => .error .EISDIR
    | _ => .error .EEXIST

/-- Makes the directories along some names where they are missing, and gives the last one. -/
def makeWay (tree : Tree) (i : Ino) : List Bytes → Except Errno (Tree × Ino)
  | [] => .ok (tree, i)
  | name :: rest =>
    match tree.walk true maxLinks i [name] with
    | .ok j => tree.makeWay j rest
    | .error _ => do
      let made ← tree.create i name fun parent => .directory parent []
      let j ← made.walk true maxLinks i [name]
      made.makeWay j rest

end Tree

end LineShell.Machine
