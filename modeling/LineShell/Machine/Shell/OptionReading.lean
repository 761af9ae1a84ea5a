import LineShell.Machine.Shell.Argument

/-!
# Reading of options

The command `getopts` gives a script the options in its parameters, one after another. How far it has come
is known by the number of a word, and a place in the word before that.

* `optionsLeft`, `nextOption`: what has not been read.
* `reportOption`: what the script is given.
* `runGetopts`: the builtin command.
-/

namespace LineShell.Machine.Shell

/-- The rest of the options in the word that is being read, and the number of the word behind it. A new
word is begun where the last one is at its end; `none` means that there are no more options. -/
def optionsLeft (words : List Bytes) (next place : Nat) : Nat × Option Bytes :=
  let left := if 1 < next && 0 < place then ((words[next - 2]?).getD []).drop place else []
  if !left.isEmpty then (next, some left)
  else
    match words[next - 1]? with
    | some (0x2D :: letters@(_ :: _)) =>
      if letters = [byte '-'] then (next + 1, none) else (next + 1, some letters)
    | _ => (next, none)

/-- What reading an option comes to: there are no more; a letter was found, with its text if it takes one; or
the letter is not known, or its text is missing. -/
inductive OptionRead where
  | finished
  | found (letter : UInt8) (text : Bytes)
  | unknown (letter : UInt8)
  | incomplete (letter : UInt8)
deriving DecidableEq, Repr

/-- Reads the next option of words, with the place where the one behind it begins. -/
def nextOption (known : Bytes) (words : List Bytes) (next place : Nat) : OptionRead × Nat × Nat :=
  match optionsLeft words next place with
  | (next, none) | (next, some []) => (.finished, next, 0)
  | (next, some (letter :: rest)) =>
    let place := ((words[next - 2]?).getD []).length - rest.length
    match optionRule? letter known with
    | none => (.unknown letter, next, place)
    | some false => (.found letter [], next, place)
    | some true =>
      if !rest.isEmpty then (.found letter rest, next, 0)
      else
        match words[next - 1]? with
        | some text => (.found letter text, next + 1, 0)
        | none => (.incomplete letter, next, place)

/-- Takes note of the word in which options are read. Only this does not begin a new word. -/
def noteOptionWord (next : Nat) : Run Unit := do
  if ((← get).entry optionVariable).readOnly then fail (optionVariable ++ Utf8.encode ": is read only")
  modify fun state =>
    state.put optionVariable { state.entry optionVariable with value := some (decimal next) }

/-- The variable with the text of the option that was read last. -/
def textVariable : Bytes :=
  Utf8.encode "OPTARG"

/-- What a script is given of an option, and the text of it. One that is wrong is complained about, unless
the script is `quiet` about it and wants to know the letter. -/
def reportOption (quiet : Bool) : OptionRead → Run UInt8
  | .finished => return byte '?'
  | .found letter text => do
    assign textVariable text
    return letter
  | .unknown letter => refuse letter (byte '?') (Utf8.encode "Illegal option -" ++ [letter])
  | .incomplete letter =>
    refuse letter (byte ':') (Utf8.encode "No arg for -" ++ [letter] ++ Utf8.encode " option")
where
  refuse (letter sign : UInt8) (complaint : Bytes) : Run UInt8 := do
    if quiet then
      assign textVariable [letter]
      return sign
    onProcess (·.complain complaint)
    unset textVariable
    return byte '?'

/-- Reads the next option of the parameters, or of other words, into a variable. -/
def runGetopts (arguments : List Bytes) : Run Nat := do
  match arguments with
  | known :: name :: own =>
    let state ← get
    let words := if own.isEmpty then state.parameters else own
    let quiet := known.head? == some (byte ':')
    let letters := if quiet then known.tail else known
    let (read, next, place) :=
      if words.length + 1 < state.optionWord then nextOption letters words 1 0
      else nextOption letters words state.optionWord state.optionPlace
    let sign ← reportOption quiet read
    noteOptionWord next
    if !isName name then badName name
    assign name [sign]
    modify fun state => { state with optionWord := next, optionPlace := place }
    return if read = .finished then 1 else 0
  | _ => fail (Utf8.encode "Usage: getopts optstring var [arg...]")

end LineShell.Machine.Shell
