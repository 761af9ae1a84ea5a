/-!
# Builtin commands

The commands that the shell carries out itself. Their names are matched exactly.

* `Builtin`, `Builtin.all`: the commands, in the order in which they are listed.
* `Builtin.lookup?`: the command of a name.
* `logo`: the banner.
-/

namespace LineShell

/-- The commands that are not programs. -/
inductive Builtin where
  | exit
  | help
  | logo
  | cd
  | pwd
  | aliases
deriving DecidableEq, Repr

namespace Builtin

/-- The commands in listing order. -/
def all : List Builtin := [.exit, .help, .logo, .cd, .pwd, .aliases]

def name : Builtin → String
  | exit => "exit"
  | help => "help"
  | logo => "logo"
  | cd => "cd"
  | pwd => "pwd"
  | aliases => "alias"

def description : Builtin → String
  | exit => "Leave the shell"
  | help => "Show this help"
  | logo => "Print the shoal logo"
  | cd => "Change the working directory"
  | pwd => "Print the working directory"
  | aliases => "Add an alias interactively and list all aliases"

/-- The command with exactly the given name. -/
def lookup? (text : String) : Option Builtin :=
  all.find? (·.name == text)

theorem lookup?_name (builtin : Builtin) : lookup? builtin.name = some builtin := by
  cases builtin <;> rfl

end Builtin

/-- The banner, without a newline at its end. -/
def logo : String :=
  "     _                 _\n" ++
  " ___| |__   ___   __ _| |\n" ++
  "/ __| '_ \\ / _ \\ / _` | |\n" ++
  "\\__ \\ | | | (_) | (_| | |\n" ++
  "|___/_| |_|\\___/ \\__,_|_|"

end LineShell
