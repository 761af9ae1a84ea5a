import LineShell.Machine.Process

/-!
# Programs

Running a file means finding out what it is: a program of the machine, or a script for an interpreter,
which may be a script again.

* `Image`, `Tree.image`: what a file is when it is run.
* `interpreter?`: the first line of a script.
* `load`: the program that runs in the end, and its arguments.
* `search`: the file that a program name stands for.
-/

namespace LineShell.Machine

/-- What a file is when it is run: a program of the machine, or bytes that may be a script. -/
inductive Image where
  | utility (utility : Utility)
  | text (content : Bytes)
deriving DecidableEq, Repr

/-- What the file at a path is when it is run. Only a file with permission to be run is anything. -/
def Tree.image (tree : Tree) (here : Ino) (path : Bytes) : Except Errno Image := do
  match tree.node? (← tree.resolve here path) with
  | some (.utility utility) => return .utility utility
  | some (.file content true) => return .text content
  | _ => throw .EACCES

/-! ### Scripts -/

/-- The bytes that separate the parts of the first line of a script. -/
def isGap (b : UInt8) : Bool :=
  b == byte ' ' || b == byte '\t'

/-- A byte string without gaps at its end. -/
def trimEnd (bs : Bytes) : Bytes :=
  (bs.reverse.dropWhile isGap).reverse

/-- How many bytes of a file decide what it is. -/
def headLength : Nat := 256

/-- The first line of a script behind `#!`. It ends at a newline among the first bytes of the file, or with
them; then the name of the interpreter has to be whole, which shows in a gap or a zero byte behind it. -/
def headLine? (content : Bytes) : Option Bytes :=
  match content with
  | 0x23 :: 0x21 :: rest =>
    let seen := rest.take (headLength - 2)
    if (seen.takeWhile (· != 0)).contains (byte '\n') then some (seen.takeWhile (· != byte '\n'))
    else
      let padded := seen ++ List.replicate (headLength - 2 - seen.length) 0
      if (padded.dropWhile isGap).any fun b => isGap b || b == 0 then some padded.dropLast else none
  | _ => none

/-- The interpreter that the first line of a script names, and the argument for it: all that stands behind
the name, up to a zero byte. -/
def interpreter? (content : Bytes) : Option (Bytes × Option Bytes) := do
  let line := (trimEnd (← headLine? content)).dropWhile isGap
  if line.isEmpty then none
  let name := line.takeWhile fun b => !isGap b && b != 0
  let rest := line.drop name.length
  let argument :=
    if rest.head?.any isGap then some ((rest.dropWhile isGap).takeWhile (· != 0)) else none
  return (name, argument)

/-- How many files may be looked at before one of them is a program. -/
def maxImages : Nat := 6

/-- The program that runs when the file at a path is run, and its arguments. A script is run by running
its interpreter on it. -/
def load (tree : Tree) (here : Ino) : Nat → Bytes → List Bytes → Except Errno (Utility × List Bytes)
  | images, path, arguments => do
    let image ← tree.image here path
    match images with
    | 0 => throw .ELOOP
    | left + 1 =>
      match image with
      | .utility utility => return (utility, arguments)
      | .text content =>
        match interpreter? content with
        | none => throw .ENOEXEC
        | some (name, argument) =>
          -- An interpreter without a name stands for the current directory, which cannot be run.
          if name.isEmpty then throw .EACCES
          load tree here left name (name :: argument.toList ++ path :: arguments.tail)

/-! ### Program names -/

/-- The length up to which the list of directories for programs counts. -/
def maxSearchPath : Nat := maxPath - 1

/-- The directories that programs are looked for in; an empty one is the current directory. One that is too
long to be a path stands for the current directory as well, or for nothing if it is the last one. -/
def searchPath (env : Bindings) : List Bytes :=
  let path := (env.lookup (Utf8.encode "PATH")).getD (Utf8.encode "/bin:/usr/bin")
  shorten (min path.length maxSearchPath) (path.splitOn (byte ':'))
where
  shorten (limit : Nat) : List Bytes → List Bytes
    | [] => []
    | [directory] => if limit < directory.length then [] else [directory]
    | directory :: rest => (if limit < directory.length then [] else directory) :: shorten limit rest

/-- A name in a directory of the search path. -/
def inDirectory (directory name : Bytes) : Bytes :=
  if directory.isEmpty then name else directory ++ byte '/' :: name

/-- Tries a name in one directory after another. Where it is missing the search goes on, and also where it
may not be run, which is remembered and reported in the end; any other failure ends the search. -/
def tryEach {α : Type} (run : Bytes → Except Errno α) (name : Bytes) (denied : Bool) (last : Errno) :
    List Bytes → Except Errno α
  | [] => .error (if denied then .EACCES else last)
  | directory :: rest =>
    match run (inDirectory directory name) with
    | .ok result => .ok result
    | .error code =>
      if code = .EACCES then tryEach run name true code rest
      else if code = .ENOENT || code = .ENOTDIR then tryEach run name denied code rest
      else .error code

/-- Runs the program of a name: the file itself if the name has a slash, else the first one of the search
path that can be run. No more of a name is looked for than one byte beyond the longest one there is. -/
def search {α : Type} (env : Bindings) (run : Bytes → Except Errno α) (name : Bytes) :
    Except Errno α :=
  if name.isEmpty then .error .ENOENT
  else if name.contains (byte '/') then run name
  else tryEach run (name.take (maxName + 1)) false .ENOENT (searchPath env)

end LineShell.Machine
