import LineShell.Builtin
import LineShell.Text.Ansi
import LineShell.Token

/-!
# Highlighting

What is shown on a terminal is styled by its role. A plain highlighter leaves every text alone, and a
coloured one changes nothing but the style.

* `Role`: the role of a word on a command line, with its style.
* `Highlighter`, `Highlighter.forTerminal`: plain or coloured.
* `Highlighter.command`: an input line, word by word.
* `Highlighter.error`, `banner`, `name`, `hint`: the other styled texts.
-/

namespace LineShell

open Ansi

/-- The role of a word on a command line. -/
inductive Role where
  | builtin
  | program
  | option
  | reference
  | argument
deriving DecidableEq, Repr

namespace Role

/-- The role of the word that a command line starts with. -/
def ofCommand (word : List Char) : Role :=
  if (Builtin.lookup? (String.ofList word)).isSome then builtin else program

/-- The role of a later word: options start with `-`, references with `$`. -/
def ofArgument : List Char → Role
  | '-' :: _ => option
  | '$' :: _ => reference
  | _ => argument

/-- How a role is shown; arguments are not styled. -/
def style? : Role → Option Style
  | builtin => some { hue := .cyan, bold := true }
  | program => some { hue := .green }
  | option => some { hue := .yellow }
  | reference => some { hue := .grey }
  | argument => none

/-- A word in the style of its role. -/
def paint (role : Role) (word : List Char) : List Char :=
  match role.style? with
  | some style => style.paintChars word
  | none => word

end Role

/-- Whether styles are shown. -/
inductive Highlighter where
  | plain
  | colored
deriving DecidableEq, Repr

namespace Highlighter

/-- The highlighter for a stream: coloured if that is wanted and the terminal shows colours. -/
def forTerminal (shown wanted : Bool) : Highlighter :=
  if wanted && shown then colored else plain

/-- Styles the words of a command line. Two neighbouring spaces have an empty word between them, which
stays empty; the first other word is the command. -/
def paintWords : (seenCommand : Bool) → List (List Char) → List (List Char)
  | _, [] => []
  | seen, [] :: words => [] :: paintWords seen words
  | false, word :: words => (Role.ofCommand word).paint word :: paintWords true words
  | true, word :: words => (Role.ofArgument word).paint word :: paintWords true words

/-- An input line with its words styled and its spaces kept. -/
def command (highlighter : Highlighter) (line : String) : String :=
  match highlighter with
  | plain => line
  | colored => String.ofList ([' '].intercalate (paintWords false (line.toList.splitOn ' ')))

/-- A text in a style, if styles are shown. -/
def styled (highlighter : Highlighter) (style : Style) (text : String) : String :=
  match highlighter with
  | plain => text
  | colored => style.paint text

/-- The report of a failed command. -/
def error (highlighter : Highlighter) : String → String :=
  highlighter.styled { hue := .red, bold := true }

/-- The logo. -/
def banner (highlighter : Highlighter) : String → String :=
  highlighter.styled { hue := .cyan }

/-- The name of a command in the help text. -/
def name (highlighter : Highlighter) : String → String :=
  highlighter.styled { hue := .green, bold := true }

/-- A hint behind the cursor. -/
def hint (highlighter : Highlighter) : String → String :=
  highlighter.styled { hue := .grey }

end Highlighter

end LineShell
