import LineShell.Machine.Utility.Options
import LineShell.Machine.Utility.Quoting

/-!
# Directories

The utilities that make and remove directories.

* `isMode`: the texts that stand for permissions.
* `pathPrefixes`: a path cut behind each of its names.
* `runMkdir`, `runRmdir`: the utilities.
-/

namespace LineShell.Machine.Utility

/-! ### Permissions -/

def modeWho (b : UInt8) : Bool := (Utf8.encode "ugoa").contains b

def modeHow (b : UInt8) : Bool := (Utf8.encode "+-=").contains b

def modeWhat (b : UInt8) : Bool := (Utf8.encode "rwxXst").contains b

/-- Whether a text is a sequence of changes, each a sign with letters or with one class of users behind
it. -/
def isModeChanges : Nat → Bytes → Bool
  | 0, _ => true
  | _, [] => true
  | fuel + 1, sign :: rest =>
    modeHow sign &&
      match rest.dropWhile modeWhat, rest with
      | left, first :: others =>
        if left.length = rest.length && (Utf8.encode "ugo").contains first then isModeChanges fuel others
        else isModeChanges fuel left
      | left, [] => isModeChanges fuel left

/-- Whether a text stands for permissions: an octal number of at most 7777, or changes between commas. -/
def isMode (text : Bytes) : Bool :=
  if text.head?.any fun b => byte '0' ≤ b && b ≤ byte '9' then
    text.all (fun b => byte '0' ≤ b && b ≤ byte '7') &&
      text.foldl (fun value b => min (value * 8 + (b - byte '0').toNat) 0x10000) 0 ≤ 0o7777
  else
    (text.splitOn (byte ',')).all fun part =>
      let changes := part.dropWhile modeWho
      changes.head?.any modeHow && isModeChanges changes.length changes

/-! ### Making -/

/-- A path cut behind each of its names, with that name: of `a/b` the path `a` with `a`, and `a/b` with
`b`. -/
def pathPrefixes (path : Bytes) : List (Bytes × Bytes) :=
  let step := fun (found : List (Bytes × Bytes)) (seen : Bytes × Bytes) =>
    if seen.2.isEmpty then found else found ++ [seen]
  let cut := path.foldl (fun (state : Bytes × Bytes × List (Bytes × Bytes)) b =>
    let (before, name, found) := state
    if b = byte '/' then (before ++ [b], [], step found (before, name))
    else (before ++ [b], name ++ [b], found)) ([], [], [])
  step cut.2.2 (cut.1, cut.2.1)

/-- Tells that a directory was made. -/
def announceMade (name path : Bytes) (process : Process) : Process :=
  process.print
    (name ++ Utf8.encode ": created directory " ++ Quoting.shell path ++ [byte '\n'])

/-- Complains about a directory that cannot be made. -/
def cannotMake (name path : Bytes) (code : Errno) (process : Process) : Process :=
  complain name (Utf8.encode "cannot create directory " ++ Quoting.plain path ++
    Utf8.encode s!": {code.text}") process

/-- Makes the directories on the way to the last name of a path where they are missing, and enters each.
The result is the last one, or the path that could not be entered and why. -/
def enterAncestors (name : Bytes) (verbose : Bool) :
    List (Bytes × Bytes) → Ino → Process → Process × Except (Bytes × Errno) Ino
  | [], here, process => (process, .ok here)
  | (path, step) :: rest, here, process =>
    let made :=
      if step = Utf8.encode ".." then .error .EEXIST else process.tree.mkdir here step
    let (after, refusal) := match made with
      | .ok tree =>
        let after := process.withTree tree
        (if verbose then announceMade name path after else after, none)
      | .error code => (process, some code)
    match after.tree.resolve here step with
    | .ok there =>
      if after.tree.isDirectory there then enterAncestors name verbose rest there after
      else (after, .error (path, .ENOTDIR))
    | .error code =>
      -- If nothing could be made either, that is the reason.
      (after, .error (path, if code = .ENOENT then refusal.getD code else code))

/-- Makes the directory at a path. With `parents` also those on the way to it, and nothing is wrong with
one that is there already. -/
def makeDirectory (name : Bytes) (parents verbose : Bool) (process : Process) (path : Bytes) :
    Process × Bool :=
  let origin := Tree.origin process.here path
  let prefixes := pathPrefixes path
  let (ready, entered) :=
    if parents then enterAncestors name verbose prefixes.dropLast origin process
    else (process, .ok process.here)
  match entered with
  | .error (reached, code) => (cannotMake name reached code ready, false)
  | .ok here =>
    let step := match parents, prefixes.getLast? with
      | true, some (_, last) => last ++ if Tree.endsInSlash path then [byte '/'] else []
      | _, _ => path
    match ready.tree.mkdir here step with
    | .ok tree =>
      let after := ready.withTree tree
      (if verbose then announceMade name path after else after, true)
    | .error code =>
      let isThere := match ready.tree.resolve here step with
        | .ok there => ready.tree.isDirectory there
        | .error _ => false
      if parents && isThere then (ready, true) else (cannotMake name path code ready, false)

/-- The options of `mkdir`. -/
def mkdirRules : List OptionRule :=
  [{ letter := some 'Z', word := "context", arity := .optional },
    { letter := some 'm', word := "mode", arity := .required },
    { letter := some 'p', word := "parents" }, { letter := some 'v', word := "verbose" }]

/-- Runs `mkdir`. -/
def runMkdir (name : Bytes) (arguments : List Bytes) (process : Process) : Exit :=
  withArguments mkdirRules true 1 name arguments process fun found =>
    if found.operands.isEmpty then usageFault name (Utf8.encode "missing operand") 1 process
    else
      match found.get? "mode" with
      | some mode =>
        if isMode mode then make found
        else (complain name (Utf8.encode "invalid mode " ++ Quoting.plain mode) process, 1)
      | none => make found
where
  make (found : Arguments) : Exit :=
    finish name 1
      (forEach (makeDirectory name (found.has "parents") (found.has "verbose")) found.operands process)

/-! ### Removing -/

/-- Whether a refusal to remove a directory only says that something is in it or that it is in use. -/
def isOccupied (code : Errno) : Bool :=
  [Errno.ENOTEMPTY, .EEXIST, .EBUSY, .EACCES, .EPERM].contains code

/-- Why a directory was not removed. A symbolic link is not followed even if the path asks for a
directory; that is said unless the link leads to something else. -/
def refusalText (process : Process) (path : Bytes) (code : Errno) : String :=
  let leadsElsewhere := match process.tree.resolve process.here path with
    | .ok i => !process.tree.isDirectory i
    | .error code => code == .ENOTDIR
  let bare := (path.reverse.dropWhile (· == byte '/')).reverse
  let isLink := match process.tree.walk false maxLinks (Tree.origin process.here bare) (names bare) with
    | .ok i => (process.tree.node? i).any fun
      | .link _ => true
      | _ => false
    | .error _ => false
  if code = .ENOTDIR && Tree.endsInSlash path && isLink && !leadsElsewhere then "Symbolic link not followed"
  else code.text

/-- How directories are removed: with those above them, with a line for each, and without a complaint about
one that is not empty. -/
structure Removal where
  parents : Bool
  verbose : Bool
  keepOccupied : Bool
deriving DecidableEq, Repr

/-- Tells that a directory is about to be removed, if that is wanted. -/
def announceRemoval (name path : Bytes) (removal : Removal) (process : Process) : Process :=
  if removal.verbose then
    process.print
      (name ++ Utf8.encode ": removing directory, " ++ Quoting.shell path ++ [byte '\n'])
  else process

/-- A path without the slashes at its end and its last name; `none` when it has one name only. -/
def parentPath? (path : Bytes) : Option Bytes :=
  let bare := (path.reverse.dropWhile (· == byte '/')).reverse
  if bare.contains (byte '/') then
    let above := (bare.reverse.dropWhile (· != byte '/')).dropWhile (· == byte '/')
    if above.isEmpty then some [byte '/'] else some above.reverse
  else none

/-- Removes the directories above a path, from below, as long as that goes well. -/
def removeParents (name : Bytes) (removal : Removal) : Nat → Process → Bytes → Process × Bool
  | 0, process, _ => (process, true)
  | fuel + 1, process, path =>
    match parentPath? path with
    | none => (process, true)
    | some above =>
      let ready := announceRemoval name above removal process
      match ready.tree.rmdir ready.here above with
      | .ok tree =>
        if Tree.endsInSlash above then (ready.withTree tree, true)
        else removeParents name removal fuel (ready.withTree tree) above
      | .error code =>
        if removal.keepOccupied && isOccupied code then (ready, true)
        else
          let what := if code = .ENOTDIR then "failed to remove " else "failed to remove directory "
          (complain name (Utf8.encode what ++ Quoting.shell above ++
            Utf8.encode s!": {refusalText ready above code}") ready, false)

/-- Removes a directory, and those above it if that is wanted. -/
def removeDirectory (name : Bytes) (removal : Removal) (process : Process) (path : Bytes) :
    Process × Bool :=
  let ready := announceRemoval name path removal process
  match ready.tree.rmdir ready.here path with
  | .ok tree =>
    if removal.parents then removeParents name removal path.length (ready.withTree tree) path
    else (ready.withTree tree, true)
  | .error code =>
    if removal.keepOccupied && isOccupied code then (ready, true)
    else
      (complain name (Utf8.encode "failed to remove " ++ Quoting.shell path ++
        Utf8.encode s!": {refusalText ready path code}") ready, false)

/-- The options of `rmdir`. -/
def rmdirRules : List OptionRule :=
  [{ word := "ignore-fail-on-non-empty" }, { letter := some 'p', word := "parents" },
    { word := "path", sameAs := some "parents" }, { letter := some 'v', word := "verbose" }]

/-- Runs `rmdir`. -/
def runRmdir (name : Bytes) (arguments : List Bytes) (process : Process) : Exit :=
  withArguments rmdirRules true 1 name arguments process fun found =>
    let removal : Removal :=
      { parents := found.has "parents"
        verbose := found.has "verbose"
        keepOccupied := found.has "ignore-fail-on-non-empty" }
    if found.operands.isEmpty then usageFault name (Utf8.encode "missing operand") 1 process
    else finish name 1 (forEach (removeDirectory name removal) found.operands process)

end LineShell.Machine.Utility
