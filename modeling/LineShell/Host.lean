import LineShell.Fault
import LineShell.Text.Utf8

/-!
# The host

What a session asks of the system it runs on. Sessions are defined over every host, so whatever is said of
them holds for every behaviour of the file system and of programs.

* `Stream`: the two output streams.
* `ExitStatus`, `Launch`: how a program ended, and what became of it.
* `Host`: the calls.
* `Host.isDirectory`: a look at a path.
-/

namespace LineShell

/-- The two streams that text is written to. -/
inductive Stream where
  | out
  | err
deriving DecidableEq, Repr

/-! ### Programs -/

/-- How a program ended that was waited for: with a code of its own, or by a signal, with or without a dump of
its memory. -/
inductive ExitStatus where
  | code (value : Nat)
  | signal (number : Nat) (dumped : Bool)
deriving DecidableEq, Repr

namespace ExitStatus

/-- The names of the signals, from that of the number 1 on. -/
def signalNames : List String :=
  ["SIGHUP", "SIGINT", "SIGQUIT", "SIGILL", "SIGTRAP", "SIGABRT", "SIGBUS", "SIGFPE", "SIGKILL", "SIGUSR1",
    "SIGSEGV", "SIGUSR2", "SIGPIPE", "SIGALRM", "SIGTERM", "SIGSTKFLT", "SIGCHLD", "SIGCONT", "SIGSTOP",
    "SIGTSTP", "SIGTTIN", "SIGTTOU", "SIGURG", "SIGXCPU", "SIGXFSZ", "SIGVTALRM", "SIGPROF", "SIGWINCH",
    "SIGIO", "SIGPWR", "SIGSYS"]

/-- The name of a signal in brackets, for those that have one. -/
def signalName (number : Nat) : String :=
  match ("" :: signalNames)[number]? with
  | none | some "" => ""
  | some name => s!" ({name})"

/-- The description of an exit status, for diagnostics. -/
def text : ExitStatus → String
  | code value => s!"exit status: {value}"
  | signal number dumped =>
    s!"signal: {number}{signalName number}" ++ if dumped then " (core dumped)" else ""

end ExitStatus

/-- How an attempt to run a program ended: it came to an end of its own or by a signal, it was never started,
or it was started and never seen to end. -/
inductive LaunchEnd where
  | exited (pid : Nat) (status : ExitStatus)
  | refused (cause : IoFault)
  | lost (cause : IoFault)
deriving DecidableEq, Repr

/-- What became of an attempt to run a program: the world it left behind, how many bytes it took off its
input, and what it wrote, in order. -/
structure Launch (W : Type) where
  world : W
  taken : Nat := 0
  output : List (Stream × Bytes) := []
  result : LaunchEnd

/-! ### Calls -/

/-- A system whose states are the elements of `W`. Paths are bytes to it, whether they are texts or not. -/
class Host (W : Type) where
  /-- Makes the directory at a path the current one; a refused change leaves the world as it was. -/
  enter : W → Bytes → Except IoFault W
  /-- The path of the current directory. -/
  here : W → Except IoFault Bytes
  /-- The path of the home directory. -/
  home : W → Option Bytes
  /-- Runs a program with arguments on the bytes of input that it can read. -/
  launch : W → String → List String → Bytes → Launch W
  /-- The names in the directory at a path in no particular order; `none` when it cannot be read. -/
  entries : W → Bytes → Option (List Bytes)
  /-- Whether what a path leads to, symbolic links followed, is a directory. -/
  stat : W → Bytes → Except IoFault Bool

/-- Whether a directory is found at a path. None is where the system does not find or tell what is there. -/
def Host.isDirectory {W : Type} [Host W] (world : W) (path : Bytes) : Bool :=
  match Host.stat world path with
  | .ok directory => directory
  | .error _ => false

end LineShell
