import LineShell.Machine.Utility.Options
import LineShell.Machine.Utility.Quoting

/-!
# Cat

`cat` copies files to its output, with numbers, marks and visible control characters if asked for.

* `Marks`: what is asked for.
* `Marks.render`: a piece of text with its marks.
* `CopyFault`, `leadsToOutput`: why a file is not copied.
* `runCat`: the utility.
-/

namespace LineShell.Machine.Utility

/-- What `cat` adds to a text: numbers before lines, or before those only that are not empty; a dollar sign
at their ends; tabs and control characters in print. Of several empty lines it may keep one. -/
structure Marks where
  numbers : Bool := false
  numbersOfFull : Bool := false
  ends : Bool := false
  squeeze : Bool := false
  tabs : Bool := false
  controls : Bool := false
deriving DecidableEq, Repr

/-- How far a text has been copied: the lines that have a number, whether a new line starts, and how many
empty lines there were right before. -/
structure CopyPlace where
  number : Nat := 0
  lineStarts : Bool := true
  emptyLines : Nat := 0
deriving DecidableEq, Repr

namespace Marks

/-- Whether a text is shown as it is. -/
def isPlain (marks : Marks) : Bool :=
  marks == {}

/-- A control character in print, as `^` and a letter. -/
def caret (b : UInt8) : Bytes :=
  [byte '^', b ^^^ 0x40]

/-- A byte below 128 in print. -/
def printed (b : UInt8) : Bytes :=
  if b < 0x20 || b = 0x7F then caret b else [b]

/-- A byte of a line as it is shown. -/
def shown (marks : Marks) (b : UInt8) (next : Option UInt8) : Bytes :=
  if b = byte '\t' then if marks.tabs then caret b else [b]
  else if marks.controls then
    if b < 0x80 then printed b else Utf8.encode "M-" ++ printed (b - 0x80)
  else if b = byte '\r' && next = some (byte '\n') && marks.ends then caret b
  else [b]

/-- The number in front of a line: right-aligned in six columns, then a tab. -/
def numberColumn (n : Nat) : Bytes :=
  let digits := Utf8.encode (toString n)
  List.replicate (6 - digits.length) (byte ' ') ++ digits ++ [byte '\t']

/-- A piece of text with its marks, and the place behind it. -/
def render (marks : Marks) : CopyPlace → Bytes → Bytes × CopyPlace
  | place, [] => ([], place)
  | place, b :: rest =>
    let isEnd := b == byte '\n'
    let isEmpty := isEnd && place.lineStarts
    if isEmpty && marks.squeeze && 1 ≤ place.emptyLines then
      marks.render { place with emptyLines := place.emptyLines + 1 } rest
    else
      let numbered := place.lineStarts &&
        (marks.numbersOfFull && !isEmpty || marks.numbers && !marks.numbersOfFull)
      let number := if numbered then place.number + 1 else place.number
      let mark := if marks.ends then [byte '$'] else []
      let text := (if numbered then numberColumn number else []) ++
        if isEnd then mark ++ [b] else marks.shown b rest.head?
      let after : CopyPlace :=
        { number, lineStarts := isEnd, emptyLines := if isEmpty then place.emptyLines + 1 else 0 }
      let (more, last) := marks.render after rest
      (text ++ more, last)

/-- The options of `cat`. -/
def rules : List OptionRule :=
  [{ letter := some 'b', word := "number-nonblank" }, { letter := some 'n', word := "number" },
    { letter := some 's', word := "squeeze-blank" }, { letter := some 'v', word := "show-nonprinting" },
    { letter := some 'E', word := "show-ends" }, { letter := some 'T', word := "show-tabs" },
    { letter := some 'A', word := "show-all" }, { letter := some 'e' }, { letter := some 't' },
    { letter := some 'u' }]

/-- The marks that options ask for. -/
def ofArguments (arguments : Arguments) : Marks where
  numbers := arguments.has "number"
  numbersOfFull := arguments.has "number-nonblank"
  ends := ["show-all", "e", "show-ends"].any arguments.has
  squeeze := arguments.has "squeeze-blank"
  tabs := ["show-all", "t", "show-tabs"].any arguments.has
  controls := ["show-all", "e", "t", "show-nonprinting"].any arguments.has

end Marks

/-- Why an operand cannot be copied. -/
inductive CopyFault where
  | refused (code : Errno)
  | intoItself
deriving DecidableEq, Repr

/-- What is said about a fault. -/
def CopyFault.message : CopyFault → String
  | .refused code => code.text
  | .intoItself => "input file is output file"

/-- Whether a descriptor leads to the file that the output goes to, with something of it left to read. A copy
would never come to its end. -/
def leadsToOutput (process : Process) (descriptor : Nat) : Bool :=
  match process.opening? descriptor, process.opening? 1 with
  | some (_, { channel := .node i, offset, .. }), some (_, { channel := .node j, .. }) =>
    match process.tree.node? i with
    | some (.file content _) => i == j && offset < content.length
    | _ => false
  | _, _ => false

/-- The content behind a descriptor that is to be copied to the output. -/
def copied (process : Process) (descriptor : Nat) : Except CopyFault (Bytes × Process) :=
  if leadsToOutput process descriptor then .error .intoItself
  else (process.readAll descriptor).mapError .refused

/-- The content of an operand of `cat`; `-` stands for the input. -/
def contentOf (process : Process) (operand : Bytes) : Except CopyFault (Bytes × Process) :=
  if operand = Utf8.encode "-" then copied process 0
  else do
    let opening ← (process.openToRead operand).mapError .refused
    let (content, after) ← copied (process.attach 3 opening) 3
    return (content, { after with descriptors := process.descriptors })

/-- Copies operands one after another, also behind one that cannot be copied, as long as the output takes
them. -/
def copyEach (name : Bytes) (marks : Marks) : CopyPlace → List Bytes → Process → Exit
  | _, [], process => (process, 0)
  | place, operand :: rest, process =>
    match contentOf process operand with
    | .ok (content, after) =>
      let (text, next) := if marks.isPlain then (content, place) else marks.render place content
      let printed := after.print text
      if printed.outputLost then (writeFault name printed, 1) else copyEach name marks next rest printed
    | .error fault =>
      let text := Quoting.shellIfNeeded operand ++ Utf8.encode s!": {fault.message}"
      ((copyEach name marks place rest (complain name text process)).1, 1)

/-- Runs `cat`. -/
def runCat (name : Bytes) (arguments : List Bytes) (process : Process) : Exit :=
  withArguments Marks.rules true 1 name arguments process fun found =>
    let operands := if found.operands.isEmpty then [Utf8.encode "-"] else found.operands
    if (process.opening? 1).isNone then
      (complain name (Utf8.encode s!"standard output: {Errno.EBADF.text}") process, 1)
    else
      let ended := copyEach name (Marks.ofArguments found) {} operands process
      if operands.contains (Utf8.encode "-") && (process.opening? 0).isNone then
        (complain name (Utf8.encode s!"closing standard input: {Errno.EBADF.text}") ended.1, 1)
      else ended

end LineShell.Machine.Utility
