/-!
# Environments

A machine has environment variables. Among other things they say whether its terminal shows colours.

* `Environment`: variables by name.
* `Environment.supportsColor`: the rule for colours.
-/

namespace LineShell.Machine

/-- Environment variables; a variable that is not listed is unset. -/
abbrev Environment := List (String × String)

namespace Environment

/-- The value of a variable that is set. -/
def get? (env : Environment) (name : String) : Option String :=
  env.lookup name

/-- The environment with a variable set, or unset for `none`. A variable that is there keeps its place. -/
def put (env : Environment) (name : String) (value : Option String) : Environment :=
  match value with
  | none => env.filter (·.1 != name)
  | some text =>
    if env.any (·.1 == name) then env.map fun entry => if entry.1 == name then (name, text) else entry
    else env ++ [(name, text)]

/-- Whether a text holds another one. -/
def holds (text part : List Char) : Bool :=
  part.isPrefixOf text ||
    match text with
    | [] => false
    | _ :: rest => holds rest part

/-- A character in lower case, as far as letters that become a plain `a` to `z` are concerned: besides
the capitals `A` to `Z` these are the Kelvin sign and the dotted capital i. -/
def lowerCase (c : Char) : List Char :=
  if c = '\u212A' then ['k'] else if c = '\u0130' then ['i', '\u0307'] else [c.toLower]

/-- The names that mark a terminal type with colours. -/
def colorTerminals : List String :=
  ["xterm-truecolor", "konsole", "tmux", "screen-truecolor", "alacritty", "kitty", "terminator",
    "terminology", "eterm", "rxvt-unicode", "xterm-ghostty", "vte", "termious", "256", "color", "ansi",
    "xterm", "screen"]

/-- The programs that are terminals with colours. -/
def colorPrograms : List String :=
  ["iTerm.app", "Apple_Terminal", "Hyper"]

/-- The variables that say whether the terminal shows colours. -/
def colorVariables : List String :=
  ["NO_COLOR", "CLICOLOR", "CLICOLOR_FORCE", "COLORTERM", "TERM", "TERM_PROGRAM"]

/-- Whether the terminal shows colours. `NO_COLOR`, even empty, and `CLICOLOR` at `0` forbid them; any
one sign of support allows them. -/
def supportsColor (env : Environment) : Bool :=
  if (env.get? "NO_COLOR").isSome || env.get? "CLICOLOR" == some "0" then false
  else
    let depth := ((env.get? "COLORTERM").getD "").toList
    let kind := ((env.get? "TERM").getD "").toList.flatMap lowerCase
    holds depth "truecolor".toList || holds depth "24bit".toList ||
      colorTerminals.any (holds kind ·.toList) ||
      colorPrograms.contains ((env.get? "TERM_PROGRAM").getD "") ||
      env.get? "CLICOLOR_FORCE" == some "1"

end Environment

end LineShell.Machine
