import LineShell.Fault.Errno

/-!
# Faults

Everything that can go wrong, by cause. A fault of one command is reported and the session goes on; a
fault of the session ends it.

* `IoFault`: a call to the operating system or a stream failed.
* `LaunchFault`: a program could not be started or waited for.
* `CommandFault`: a command failed.
* `EditorFault`: the line editor returned no line.
* `SessionFault`: the session cannot go on.

Each has one `message`, the text that a person sees.
-/

namespace LineShell

/-! ### Input and output -/

/-- The kinds of fault that carry no error number. -/
inductive FaultKind where
  | notFound
  | permissionDenied
  | alreadyExists
  | invalidInput
  | invalidData
  | timedOut
  | brokenPipe
  | interrupted
  | unexpectedEof
  | notADirectory
  | other
deriving DecidableEq, Repr

/-- The identifier of a kind, for diagnostics. -/
def FaultKind.name : FaultKind → String
  | .notFound => "NotFound"
  | .permissionDenied => "PermissionDenied"
  | .alreadyExists => "AlreadyExists"
  | .invalidInput => "InvalidInput"
  | .invalidData => "InvalidData"
  | .timedOut => "TimedOut"
  | .brokenPipe => "BrokenPipe"
  | .interrupted => "Interrupted"
  | .unexpectedEof => "UnexpectedEof"
  | .notADirectory => "NotADirectory"
  | .other => "Other"

/-- The description of a kind that comes without a text of its own. -/
def FaultKind.description : FaultKind → String
  | .notFound => "entity not found"
  | .permissionDenied => "permission denied"
  | .alreadyExists => "entity already exists"
  | .invalidInput => "invalid input parameter"
  | .invalidData => "invalid data"
  | .timedOut => "timed out"
  | .brokenPipe => "broken pipe"
  | .interrupted => "operation interrupted"
  | .unexpectedEof => "unexpected end of file"
  | .notADirectory => "not a directory"
  | .other => "other error"

/-- A failed call: refused by the operating system with a number, or found faulty before it was made,
with a kind and perhaps a text. -/
inductive IoFault where
  | os (code : Errno)
  | own (kind : FaultKind) (text : Option String)
deriving DecidableEq, Repr

namespace IoFault

def message : IoFault → String
  | os code => s!"{code.text} (os error {code})"
  | own kind text => text.getD kind.description

/-- Whether the fault says that the thing named does not exist. -/
def isNotFound : IoFault → Bool
  | os code => code == .ENOENT
  | own kind _ => kind == .notFound

/-- A write to a stream that takes no more bytes. -/
def closed : IoFault := own .brokenPipe "closed"

/-- A line of input that is not well-formed text. -/
def malformedText : IoFault := own .invalidData "stream did not contain valid UTF-8"

end IoFault

/-! ### Programs -/

/-- Why no program was run to its end. -/
inductive LaunchFault where
  | nothingToLaunch
  | refused (program : String) (cause : IoFault)
  | lost (program : String) (cause : IoFault)
deriving DecidableEq, Repr

namespace LaunchFault

def message : LaunchFault → String
  | nothingToLaunch => "no program given"
  | refused program cause => s!"failed to launch {program}: {cause.message}"
  | lost program cause => s!"failed to wait for {program}: {cause.message}"

/-- The failed call behind the fault. -/
def cause? : LaunchFault → Option IoFault
  | nothingToLaunch => none
  | refused _ cause => some cause
  | lost _ cause => some cause

end LaunchFault

/-! ### Commands -/

/-- What one command can get wrong. -/
inductive CommandFault where
  | usage (text : String)
  | noSuchDirectory (path : String)
  | directory (path : String) (cause : IoFault)
  | noHome
  | launch (fault : LaunchFault)
deriving DecidableEq, Repr

/-- A refused directory change shows the symbolic name and the number of the error, or the kind where
there is no number. -/
def CommandFault.message : CommandFault → String
  | usage text => s!"usage: {text}"
  | noSuchDirectory path => s!"cd: no such directory: {path}"
  | directory path (.os code) => s!"cd: {path}: {code.name} (os error {code})"
  | directory path (.own kind _) => s!"cd: {path}: {kind.name}"
  | noHome => "cd: home directory not found"
  | launch fault => s!"shoal: {fault.message}"

/-! ### Sessions -/

/-- Why the line editor returned no line. -/
inductive EditorFault where
  | endOfFile
  | interrupted
  | resized
  | io (cause : IoFault)
deriving DecidableEq, Repr

def EditorFault.message : EditorFault → String
  | endOfFile => "EOF"
  | interrupted => "Interrupted"
  | resized => "WindowResized"
  | io cause => cause.message

/-- What ends a session. -/
inductive SessionFault where
  | editor (cause : EditorFault)
  | io (cause : IoFault)
  | endOfInput
  | tokenOverflow (capacity : Nat)
  | loggerInUse
  | flag (text : String)
deriving DecidableEq, Repr

namespace SessionFault

def message : SessionFault → String
  | editor cause => s!"Readline error: {cause.message}"
  | io cause => s!"IO error: {cause.message}"
  | endOfInput => "end of input"
  | tokenOverflow capacity => s!"token overflow: more than {capacity} tokens on one line"
  | loggerInUse =>
    "Logger error: attempted to set a logger after the logging system was already initialized"
  | flag text => s!"Flag error: {text}"

/-- The end of the edited input is the end of the session's input, and a failed call is a failed call;
any other answer without a line is a fault of the editor. -/
def ofEditor : EditorFault → SessionFault
  | .endOfFile => endOfInput
  | .io cause => io cause
  | cause => editor cause

end SessionFault

end LineShell
