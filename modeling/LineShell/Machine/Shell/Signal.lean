import LineShell.Machine.Number

/-!
# Signals

The events that a shell can carry something out at have names and numbers: 0 is its own end, the others are
signals.

* `Signal.names`: the names, in the order of the numbers.
* `Signal.number?`: the number that a name or a numeral stands for.
-/

namespace LineShell.Machine.Shell.Signal

/-- The names of the events with a name of their own. -/
def plainNames : List String :=
  ["EXIT", "HUP", "INT", "QUIT", "ILL", "TRAP", "ABRT", "BUS", "FPE", "KILL", "USR1", "SEGV", "USR2", "PIPE",
    "ALRM", "TERM", "16", "CHLD", "CONT", "STOP", "TSTP", "TTIN", "TTOU", "URG", "XCPU", "XFSZ", "VTALRM",
    "PROF", "WINCH", "IO", "PWR", "SYS", "32", "33"]

/-- The names of the signals for programs to use, which are counted from both ends. -/
def freeNames : List String :=
  let above := (List.range 15).map fun n => s!"RTMIN+{n + 1}"
  let below := (List.range 14).map fun n => s!"RTMAX-{14 - n}"
  "RTMIN" :: above ++ below ++ ["RTMAX"]

/-- The names of all events; the place of a name is its number. -/
def names : List String :=
  plainNames ++ freeNames

/-- The name of an event. -/
def name (number : Nat) : String :=
  (names[number]?).getD (toString number)

/-- A byte with a small letter in the place of a capital one. -/
def small (b : UInt8) : UInt8 :=
  if byte 'A' ≤ b && b ≤ byte 'Z' then b + 0x20 else b

/-- The number of an event, given as a numeral or by its name in small or capital letters. -/
def number? (text : Bytes) : Option Nat :=
  if !text.isEmpty && text.all isDigit then
    if numberOf 10 text < names.length then some (numberOf 10 text) else none
  else names.findIdx? fun known => (Utf8.encode known).map small == text.map small

/-- The number of a signal; the end of the shell is none. -/
def signal? (text : Bytes) : Option Nat :=
  (number? text).filter fun number => number != 0 || text.all isDigit

/-- The signals that do nothing to a program which does not expect them. -/
def isHarmless (number : Nat) : Bool :=
  ["CHLD", "CONT", "URG", "WINCH"].contains (name number)

end LineShell.Machine.Shell.Signal
