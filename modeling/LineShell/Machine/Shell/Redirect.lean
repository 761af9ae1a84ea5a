import LineShell.Machine.Shell.Expansion

/-!
# Redirections

The words of redirections are looked up first, then the descriptors are changed one after another.

* `Prepared`: a redirection whose word has been looked up.
* `prepare`, `Prepared.apply`, `redirected`: the steps.
-/

namespace LineShell.Machine.Shell

/-- A redirection whose word has been looked up: that of a text in the script is looked up when it is its
turn. A descriptor is replaced with another one, or closed. -/
inductive Prepared where
  | file (descriptor : Nat) (use : FileUse) (path : Bytes)
  | copy (descriptor : Nat) (source : Option Nat)
  | document (descriptor : Nat) (text : Word)

/-- Looks up the word of a redirection. -/
def prepare (evaluate : Command → Run Unit) : Redirection → Run Prepared
  | .file descriptor use path => return .file descriptor use (← expandText evaluate path)
  | .copy descriptor target => do
    let text ← expandText evaluate target
    if text = [byte '-'] then return .copy descriptor none
    if text.length != 1 || !text.all isDigit then
      modify fun state => { state with line := state.reached }
      fail (Utf8.encode "Syntax error: Bad fd number")
    return .copy descriptor (some (numberOf 10 text))
  | .document descriptor number => do
    return .document descriptor (((← get).documents[number]?).getD [])

/-- Why a file that is there is not written over, and what was tried with it. -/
def kept? (process : Process) (path : Bytes) : Option (String × Errno) :=
  match (process.tree.resolve process.here path).toOption.bind process.tree.node? with
  | some (.file ..) | some (.utility _) => some ("create", .EEXIST)
  | some (.directory ..) => some ("open", .EISDIR)
  | some _ => none
  | none => if isThere process path then some ("create", .EEXIST) else none

/-- The process with a file open for a descriptor, or a complaint. With `keep` a file that is there is not
written over. -/
def openFor (keep : Bool) (process : Process) (descriptor : Nat) (use : FileUse) (path : Bytes) :
    Except Bytes Process :=
  let complaint := fun (verb missing : String) (code : Errno) =>
    Utf8.encode s!"cannot {verb} " ++ path ++ because missing code
  match use with
  | .read =>
    match process.openToRead path with
    | .ok opening => .ok (process.attach descriptor opening)
    | .error code => .error (complaint "open" "No such file" code)
  | _ =>
    match if keep && use = .write then kept? process path else none with
    | some (verb, code) => .error (complaint verb "" code)
    | none =>
      match process.openToWrite path (use = .write || use = .replace) with
      | .ok (after, opening) =>
        .ok (after.attach descriptor
          { opening with append := use == .append, readable := use == .both })
      | .error code => .error (complaint "create" "Directory nonexistent" code)

/-- Carries out a redirection. -/
def Prepared.apply (evaluate : Command → Run Unit) : Prepared → Run Unit
  | .document descriptor text => do
    let content ← expandText evaluate text
    onProcess (·.attach descriptor { channel := .pipe content })
  | .copy descriptor none => onProcess (·.close descriptor)
  | .copy descriptor (some source) => do
    match (← get).process.opening? source with
    | some (number, _) => onProcess (·.point descriptor number)
    | none => fail (decimal source ++ Utf8.encode s!": {Errno.EBADF.text}")
  | .file descriptor use path => do
    let state ← get
    match openFor (isOn state .noclobber) state.process descriptor use path with
    | .ok process => set { state with process }
    | .error text => fail text

/-- Changes descriptors for good, up to the first redirection that fails. -/
def redirectForGood (evaluate : Command → Run Unit) (redirections : List Prepared) : Run Bool := do
  match ← attempt (redirections.forM (·.apply evaluate)) with
  | .ok () => return true
  | .error .fault => return false
  | .error jump => throw jump

/-- Carries out commands with changed descriptors. If a redirection fails they are not carried out. -/
def redirected {α : Type} (evaluate : Command → Run Unit) (redirections : List Prepared) (refused : Run α)
    (body : Run α) : Run α := do
  let before := (← get).process.descriptors
  let done ← redirectForGood evaluate redirections
  let result ← if done then attempt body else pure (.error .fault)
  onProcess fun process => { process with descriptors := before }
  if done then resume result else refused

end LineShell.Machine.Shell
