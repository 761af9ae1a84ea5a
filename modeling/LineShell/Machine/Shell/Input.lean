import LineShell.Machine.Shell.Argument
import LineShell.Machine.Shell.Pattern

/-!
# Reading of lines

The command `read` takes a line of the input and gives its fields to variables.

* `InputLine.read`: a line.
* `share`: its fields.
* `runRead`: the builtin command.
-/

namespace LineShell.Machine.Shell

/-- A line of input: its bytes, each with the mark whether a backslash stood before it, and the count of
bytes taken. A line without a newline is not complete. -/
structure InputLine where
  bytes : List Marked := []
  taken : Nat := 0
  complete : Bool := false
deriving DecidableEq, Repr

/-- Reads a line. A backslash joins it with the next one, unless it is `raw`. -/
def InputLine.read (raw : Bool) (line : InputLine) : Bytes → InputLine
  | [] => { line with bytes := line.bytes.reverse }
  | [b] =>
    if b = byte '\n' then
      { bytes := line.bytes.reverse, taken := line.taken + 1, complete := true }
    else if b = byte '\\' && !raw || b = 0 then
      { line with bytes := line.bytes.reverse, taken := line.taken + 1 }
    else { line with bytes := ((b, false) :: line.bytes).reverse, taken := line.taken + 1 }
  | b :: c :: rest =>
    if b = byte '\n' then
      { bytes := line.bytes.reverse, taken := line.taken + 1, complete := true }
    else if b = 0 then InputLine.read raw { line with taken := line.taken + 1 } (c :: rest)
    else if b = byte '\\' && !raw then
      let bytes := if c = byte '\n' then line.bytes else (c, true) :: line.bytes
      InputLine.read raw { line with bytes, taken := line.taken + 2 } rest
    else
      InputLine.read raw { line with bytes := (b, false) :: line.bytes, taken := line.taken + 1 }
        (c :: rest)

/-- Gives the fields of a line to variables; the last one gets what is left. -/
def share (separators : Bytes) : List Bytes → List Marked → List (Bytes × Bytes)
  | [], _ => []
  | [name], line =>
    let bare := dropGaps line
    let kept := (dropGaps bare.reverse).reverse
    [(name, (withoutLast kept).map (·.1))]
  | name :: rest, line =>
    let bare := dropGaps line
    let field := bare.takeWhile (!isSeparator ·)
    let behind := dropGaps (bare.drop field.length)
    -- One separator that is no gap belongs to the field in front of it.
    let next := match behind with
      | separator :: others => if isSeparator separator then others else behind
      | [] => []
    (name, field.map (·.1)) :: share separators rest next
where
  isSeparator (marked : Marked) : Bool := !marked.2 && separators.contains marked.1
  dropGaps (line : List Marked) : List Marked :=
    line.dropWhile fun marked => isSeparator marked && isWordGap marked.1
  /-- What is left is a single field if a separator stands only at its end. -/
  withoutLast (line : List Marked) : List Marked :=
    match line.reverse with
    | last :: others =>
      if isSeparator last && !others.any isSeparator then (dropGaps others).reverse else line
    | [] => line

/-- Reads a line of the input into variables. -/
def runRead (arguments : List Bytes) : Run Nat := do
  -- The text of the option `p` asks for the line, but only a terminal would show it.
  let (options, variableNames) ← readSettings "rp:" arguments
  if variableNames.isEmpty then fail (Utf8.encode "arg count")
  let state ← get
  let available := (state.process.available 0).toOption.getD []
  let line := InputLine.read (options.any (·.1 == byte 'r')) {} available
  onProcess (·.skip 0 line.taken)
  for entry in share state.separators variableNames line.bytes do
    if !isName entry.1 then badName entry.1
    assign entry.1 entry.2
  return if line.complete then 0 else 1

end LineShell.Machine.Shell
