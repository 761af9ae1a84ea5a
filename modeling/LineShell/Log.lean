import LineShell.Text.Ansi

/-!
# Diagnostics

Diagnostic records go to the error descriptor, one line each, apart from what commands print.

* `Level`, `Record`: how important a record is and what it says.
* `Settings`: which records are shown, and whether their tags are coloured.
* `Settings.line`: the line of a record.
-/

namespace LineShell.Log

/-- The levels, from the most important on. -/
inductive Level where
  | error
  | warn
  | info
  | debug
  | trace
deriving DecidableEq, Repr

/-- The rank of a level; a larger one is less important. -/
def Level.rank : Level → Nat
  | .error => 1
  | .warn => 2
  | .info => 3
  | .debug => 4
  | .trace => 5

/-- One diagnostic. -/
structure Record where
  level : Level
  message : String
deriving DecidableEq, Repr

/-- What is shown: records up to a level (`none` shows nothing), with coloured tags or plain ones. -/
structure Settings where
  upTo : Option Level := none
  colored : Bool := false
deriving DecidableEq, Repr

/-- Whether records of a level are shown. -/
def Settings.shows (settings : Settings) (level : Level) : Bool :=
  match settings.upTo with
  | none => false
  | some limit => level.rank ≤ limit.rank

/-- The one-character tag of a level. -/
def Level.tag : Level → String
  | .info => "*"
  | .warn => "W"
  | .error => "E"
  | .debug => "D"
  | .trace => "T"

/-- The colour of a level's tag. -/
def Level.hue : Level → Ansi.Hue
  | .info => .green
  | .warn => .yellow
  | .error => .red
  | .debug => .cyan
  | .trace => .grey

/-- The tag of a level as it is shown: bold in its colour, or plain. -/
def Settings.tag (settings : Settings) (level : Level) : String :=
  if settings.colored then ({ hue := level.hue, bold := true } : Ansi.Style).paint level.tag
  else level.tag

/-- The line that a record is shown as; empty when its level is not shown. -/
def Settings.line (settings : Settings) (record : Record) : String :=
  if settings.shows record.level then s!"[{settings.tag record.level}] {record.message}\n" else ""

end LineShell.Log
