import LineShell.Text.Column

/-!
# Flags

The switches that the program is started with. A switch is set by its short or its long spelling and is
never unset.

* `Flag`, `Flag.ofSpelling?`: the switches and how they are written.
* `Flags`: a set of switches.
* `Flags.parse`: an argument list, read up to its first unknown flag.
* `Flags.usage`: the help text on flags.
-/

namespace LineShell

/-- The switches. -/
inductive Flag where
  | debug
  | help
  | noColor
  | version
deriving DecidableEq, Repr

namespace Flag

/-- The switches in the order of their names. -/
def all : List Flag := [.debug, .help, .noColor, .version]

def name : Flag → String
  | debug => "debug"
  | help => "help"
  | noColor => "no-color"
  | version => "version"

def short : Flag → String
  | debug => "-d"
  | help => "-h"
  | noColor => "-n"
  | version => "-v"

def long : Flag → String
  | debug => "--debug"
  | help => "--help"
  | noColor => "--no-color"
  | version => "--version"

def description : Flag → String
  | debug => "Log debug diagnostics to stderr"
  | help => "Print this help message"
  | noColor => "Disable colored output"
  | version => "Show version information"

/-- The switch of a name. -/
def ofName? (text : String) : Option Flag :=
  all.find? (·.name == text)

/-- The switch that an argument spells. -/
def ofSpelling? (arg : String) : Option Flag :=
  all.find? fun flag => arg == flag.short || arg == flag.long

end Flag

/-- A set of switches. -/
structure Flags where
  debug : Bool := false
  help : Bool := false
  noColor : Bool := false
  version : Bool := false
deriving DecidableEq, Repr

namespace Flags

def has (flags : Flags) : Flag → Bool
  | .debug => flags.debug
  | .help => flags.help
  | .noColor => flags.noColor
  | .version => flags.version

/-- The set with one switch more. -/
def set (flags : Flags) : Flag → Flags
  | .debug => { flags with debug := true }
  | .help => { flags with help := true }
  | .noColor => { flags with noColor := true }
  | .version => { flags with version := true }

theorem has_set (flags : Flags) (flag other : Flag) :
    (flags.set flag).has other = (other == flag || flags.has other) := by
  cases flag <;> cases other <;> simp [set, has]

/-- What reading an argument list comes to: the switches set by it, the positional arguments, which have
no effect, and the unknown flag that ended the reading. -/
structure Reading where
  flags : Flags
  ignored : List String := []
  unknown : Option String := none
deriving DecidableEq, Repr

/-- Whether an argument asks to be taken as a flag. -/
def looksLikeFlag (arg : String) : Bool :=
  arg.toList.head? == some '-'

/-- Reads arguments from the left up to the first unknown flag; the switches before it stay set. -/
def parse (flags : Flags) : List String → Reading
  | [] => { flags }
  | arg :: args =>
    match Flag.ofSpelling? arg with
    | some flag => (flags.set flag).parse args
    | none =>
      if looksLikeFlag arg then { flags, unknown := some arg }
      else
        let reading := flags.parse args
        { reading with ignored := arg :: reading.ignored }

/-- Whether a stream may be coloured: it is a terminal, and colours are not switched off. -/
def colorFor (flags : Flags) (isTerminal : Bool) : Bool :=
  isTerminal && !flags.noColor

/-- One line of the help text. -/
def usageLine (flag : Flag) : String :=
  s!"  {flag.short}, {Text.padRight 15 flag.long} {flag.description}\n"

/-- The help text. -/
def usage : String :=
  "Usage: shoal [OPTIONS]\n\nOptions:\n" ++ String.join (Flag.all.map usageLine)

end Flags

end LineShell
