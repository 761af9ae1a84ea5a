import LineShell.Machine.Shell.State

/-!
# Arguments of builtin commands

The options of a command are letters behind a `-`, at the front of its arguments. They end at `--`, or at the
first argument that holds none. Some letters take a text, which is what stands behind them.

* `optionRule?`: the letters that a command knows.
* `readSettings`, `readOptions`: options and operands.
* `quoteText`: a text as a word of a script.
-/

namespace LineShell.Machine.Shell

/-- Whether an option letter takes a text, if it is one of the letters that are known. A colon stands behind
those that do. -/
def optionRule? (letter : UInt8) : Bytes → Option Bool
  | [] => none
  | known :: 0x3A :: rest => if known = letter then some true else optionRule? letter rest
  | known :: rest => if known = letter then some false else optionRule? letter rest

/-- The options in the letters of an argument with their texts, and the letter at the end whose text is the
next argument, if there is one. -/
def readLetters (known : Bytes) : Bytes → Run (List (UInt8 × Bytes) × Option UInt8)
  | [] => return ([], none)
  | letter :: rest => do
    match optionRule? letter known with
    | none => fail (Utf8.encode "Illegal option -" ++ [letter])
    | some true => return if rest.isEmpty then ([], some letter) else ([(letter, rest)], none)
    | some false =>
      let (more, last?) ← readLetters known rest
      return ((letter, []) :: more, last?)

/-- The options at the front of arguments with their texts, and the operands behind them. -/
def readSettings (known : String) : List Bytes → Run (List (UInt8 × Bytes) × List Bytes)
  | [] => return ([], [])
  | argument :: rest =>
    match argument with
    | 0x2D :: letters@(_ :: _) => do
      if letters = [byte '-'] then return ([], rest)
      match ← readLetters (Utf8.encode known) letters, rest with
      | (options, none), rest =>
        let (more, operands) ← readSettings known rest
        return (options ++ more, operands)
      | (options, some last), text :: behind =>
        let (more, operands) ← readSettings known behind
        return (options ++ (last, text) :: more, operands)
      | (_, some last), [] => fail (Utf8.encode "No arg for -" ++ [last] ++ Utf8.encode " option")
    | _ => return ([], argument :: rest)

/-- The option letters at the front of arguments, and the operands behind them. -/
def readOptions (known : String) (arguments : List Bytes) : Run (List Char × List Bytes) := do
  let (settings, operands) ← readSettings known arguments
  return (settings.map fun setting => Char.ofNat setting.1.toNat, operands)

/-- A text as a word that a shell reads back: single quotes stand between double ones. -/
def quoteText (text : Bytes) : Bytes :=
  let parts := text.splitBy fun left right => (left == byte '\'') == (right == byte '\'')
  let quoted := parts.flatMap fun part =>
    if part.head? = some (byte '\'') then byte '"' :: part ++ [byte '"']
    else byte '\'' :: part ++ [byte '\'']
  if text.isEmpty then Utf8.encode "''"
  else if text.head? = some (byte '\'') then Utf8.encode "''" ++ quoted
  else quoted

/-- Complains about the name of a variable. -/
def badName {α : Type} (argument : Bytes) : Run α :=
  fail (argument ++ Utf8.encode ": bad variable name")

/-- The status that an argument asks for, or the present one. -/
def statusArgument : List Bytes → Run Nat
  | [] => return (← get).status
  | argument :: _ => return (← numberArgument argument) % 256

end LineShell.Machine.Shell
