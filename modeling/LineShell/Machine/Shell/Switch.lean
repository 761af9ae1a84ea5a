import LineShell.Machine.Ascii

/-!
# Switches

A shell has switches that change what it does. Each has a name, and most have a letter too.

* `Switch`: the switches.
* `Switch.ofLetter?`, `Switch.ofName?`: the switches that letters and names mean.
-/

namespace LineShell.Machine.Shell

/-- A switch that changes how a shell works. -/
inductive Switch where
  | errexit | noglob | ignoreeof | interactive | monitor | noexec | stdin | xtrace | verbose | vi | emacs
  | noclobber | allexport | notify | nounset | privileged | nolog | debug
deriving DecidableEq, Repr

namespace Switch

/-- All switches, in the order in which they are listed. -/
def all : List Switch :=
  [.errexit, .noglob, .ignoreeof, .interactive, .monitor, .noexec, .stdin, .xtrace, .verbose, .vi, .emacs,
    .noclobber, .allexport, .notify, .nounset, .privileged, .nolog, .debug]

def name : Switch → String
  | .errexit => "errexit"
  | .noglob => "noglob"
  | .ignoreeof => "ignoreeof"
  | .interactive => "interactive"
  | .monitor => "monitor"
  | .noexec => "noexec"
  | .stdin => "stdin"
  | .xtrace => "xtrace"
  | .verbose => "verbose"
  | .vi => "vi"
  | .emacs => "emacs"
  | .noclobber => "noclobber"
  | .allexport => "allexport"
  | .notify => "notify"
  | .nounset => "nounset"
  | .privileged => "privileged"
  | .nolog => "nolog"
  | .debug => "debug"

def letter? : Switch → Option Char
  | .errexit => some 'e'
  | .noglob => some 'f'
  | .ignoreeof => some 'I'
  | .interactive => some 'i'
  | .monitor => some 'm'
  | .noexec => some 'n'
  | .stdin => some 's'
  | .xtrace => some 'x'
  | .verbose => some 'v'
  | .vi => some 'V'
  | .emacs => some 'E'
  | .noclobber => some 'C'
  | .allexport => some 'a'
  | .notify => some 'b'
  | .nounset => some 'u'
  | .privileged => some 'p'
  | .nolog | .debug => none

/-- The switch of a letter. -/
def ofLetter? (letter : UInt8) : Option Switch :=
  all.find? (·.letter?.any (byte · == letter))

/-- The switch of a name. -/
def ofName? (name : Bytes) : Option Switch :=
  all.find? (Utf8.encode ·.name == name)

/-- Every switch is listed. -/
theorem mem_all (switch : Switch) : switch ∈ all := by
  cases switch <;> decide

end Switch

end LineShell.Machine.Shell
