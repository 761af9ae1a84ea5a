import LineShell.Builtin
import LineShell.Host
import LineShell.Path
import LineShell.Text.Blank
import LineShell.Text.Cut

/-!
# Completion

What the word before the cursor can be completed to: builtin names where a command is expected, and names
of files everywhere else.

* `Candidate`, `Completion`: what is offered.
* `Completion.commands`: builtin names.
* `Completion.paths`: names in a directory.
* `Completion.ofLine`: the completion of a line at a position.
-/

namespace LineShell

/-- A way to complete a word: how it is listed, and what the word is replaced by. -/
structure Candidate where
  display : String
  replacement : String
deriving DecidableEq, Repr

/-- The candidates for the word that starts at a byte position. -/
structure Completion where
  start : Nat
  candidates : List Candidate
deriving DecidableEq, Repr

namespace Completion

/-- The builtin commands whose names start with the word, each with a space behind it. -/
def commands (word : List Char) : List Candidate :=
  (Builtin.all.filter fun builtin => word.isPrefixOf builtin.name.toList).map fun builtin =>
    { display := builtin.name, replacement := builtin.name ++ " " }

/-- Whether a name is offered for the beginning of a name: it starts with it, and hidden names are
offered only once their dot is typed. -/
def offers (typed name : List Char) : Bool :=
  typed.isPrefixOf name && !(typed.isEmpty && name.head? == some '.')

/-- The candidate for a name in a directory: directories get a slash, everything else a space. -/
def ofName (directory name : String) (isDirectory : Bool) : Candidate :=
  if isDirectory then { display := name ++ "/", replacement := directory ++ name ++ "/" }
  else { display := name, replacement := directory ++ name ++ " " }

/-- The names in the directory part of the word (up to and with its last slash; the current directory when
there is none) that go on as typed, in the order of their display. Names that are no text are left
out. -/
def paths {W : Type} [Host W] (world : W) (word : List Char) : List Candidate :=
  let directory := String.ofList (Text.uptoLast '/' word)
  let typed := Text.afterLast '/' word
  let searched := Utf8.encode (if directory.isEmpty then "." else directory)
  let names := ((Host.entries world searched).getD []).filterMap Utf8.decode?
  let offered := names.filter (offers typed ·.toList)
  let candidates := offered.map fun name =>
    ofName directory name (Host.isDirectory world (Path.join searched (Utf8.encode name)))
  -- The slash of a directory takes part in the order.
  candidates.mergeSort fun a b => a.display ≤ b.display

/-- The completion of a line at a byte position. The word starts behind the last space before the
position, and it is a command when there are only blanks before it. -/
def ofLine {W : Type} [Host W] (world : W) (line : String) (position : Nat) : Completion :=
  let before := Text.takeBytes position line.toList
  let lead := Text.uptoLast ' ' before
  let word := Text.afterLast ' ' before
  { start := Utf8.size lead
    candidates := if lead.all Text.isBlank then commands word else paths world word }

end Completion

end LineShell
