import LineShell.Machine.Process

/-!
# Options

The arguments of a utility are options and operands in any order. An option is a letter behind `-`, and
letters may stand together, or a word behind `--`, of which a beginning is enough if no other one begins
alike. Behind `--` alone there are operands only.

* `OptionRule`: an option that a utility knows.
* `OptionFault`: what can be wrong with an option.
* `Arguments`: options and operands told apart.
* `Arguments.readOptions?`: the reading of one argument.
* `Arguments.parse`: the reading of all.
* `withArguments`, `forEach`: the run of a utility on its arguments, and on its operands.
-/

namespace LineShell.Machine.Utility

/-- Whether an option takes an argument; an optional one is given behind `=` only. -/
inductive Arity where
  | nothing
  | optional
  | required
deriving DecidableEq, Repr

/-- An option that a utility knows: a letter, a word, or both. It may be another word for an option. -/
structure OptionRule where
  letter : Option Char := none
  word : String := ""
  arity : Arity := .nothing
  sameAs : Option String := none
deriving DecidableEq, Repr

/-- The name by which the options of a utility are told apart: the word if there is one. -/
def OptionRule.name (rule : OptionRule) : String :=
  rule.sameAs.getD (if rule.word.isEmpty then String.ofList rule.letter.toList else rule.word)

/-- The options that every utility has. -/
def commonRules : List OptionRule :=
  [{ word := "help" }, { word := "version" }]

/-- What can be wrong with an option. -/
inductive OptionFault where
  | unknownLetter (letter : UInt8)
  | unknownWord (text : Bytes)
  | ambiguous (text : Bytes) (possible : List String)
  | letterAlone (letter : UInt8)
  | wordAlone (word : String)
  | unwanted (word : String)
deriving DecidableEq, Repr

/-- What is said about a fault. -/
def OptionFault.message : OptionFault → Bytes
  | .unknownLetter letter => Utf8.encode "invalid option -- '" ++ [letter, byte '\'']
  | .unknownWord text => Utf8.encode "unrecognized option '--" ++ text ++ Utf8.encode "'"
  | .ambiguous text possible =>
    Utf8.encode "option '--" ++ text ++ Utf8.encode "' is ambiguous; possibilities:" ++
      possible.flatMap fun other => Utf8.encode s!" '--{other}'"
  | .letterAlone letter => Utf8.encode "option requires an argument -- '" ++ [letter, byte '\'']
  | .wordAlone word => Utf8.encode s!"option '--{word}' requires an argument"
  | .unwanted word => Utf8.encode s!"option '--{word}' doesn't allow an argument"

/-- The arguments of a utility: the options in order, by name and with their arguments, and the operands. -/
structure Arguments where
  options : List (String × Bytes) := []
  operands : List Bytes := []
deriving DecidableEq, Repr

namespace Arguments

/-- Whether an option was given. -/
def has (arguments : Arguments) (name : String) : Bool :=
  arguments.options.any (·.1 == name)

/-- The argument of an option; the last one counts. -/
def get? (arguments : Arguments) (name : String) : Option Bytes :=
  (arguments.options.reverse.lookup name)

/-- Arguments with more options in front. -/
def withOptions (arguments : Arguments) (options : List (String × Bytes)) : Arguments :=
  { arguments with options := options ++ arguments.options }

/-- Arguments with one more operand in front. -/
def withOperand (arguments : Arguments) (operand : Bytes) : Arguments :=
  { arguments with operands := operand :: arguments.operands }

/-- The options of one argument with letters, and the arguments behind it. What stands behind a letter that
takes an argument is that argument. -/
def readLetters (rules : List OptionRule) :
    Bytes → List Bytes → Except OptionFault (List (String × Bytes) × List Bytes)
  | [], rest => .ok ([], rest)
  | letter :: letters, rest =>
    match rules.find? (·.letter.any (byte · == letter)) with
    | none => .error (.unknownLetter letter)
    | some rule =>
      match rule.arity with
      | .required =>
        match letters, rest with
        | [], [] => .error (.letterAlone letter)
        | [], argument :: rest => .ok ([(rule.name, argument)], rest)
        | _, _ => .ok ([(rule.name, letters)], rest)
      | _ => do
        let (more, rest) ← readLetters rules letters rest
        return ((rule.name, []) :: more, rest)

/-- The word of an argument behind `--`. -/
def wordOf (text : Bytes) : Bytes :=
  text.takeWhile (· != byte '=')

/-- The rule that the word of an argument means: the one of that name, else the one that begins with it.
Several must be the same option. -/
def ruleOf (rules : List OptionRule) (text : Bytes) : Except OptionFault OptionRule :=
  let word := wordOf text
  match rules.find? (Utf8.encode ·.word == word) with
  | some rule => .ok rule
  | none =>
    match rules.filter fun rule => !rule.word.isEmpty && word.isPrefixOf (Utf8.encode rule.word) with
    | [] => .error (.unknownWord text)
    | rule :: others =>
      if others.all (·.name == rule.name) then .ok rule
      else .error (.ambiguous text ((rule :: others).map (·.word)))

/-- The option of an argument with a word, and the arguments behind it. -/
def readWord (rules : List OptionRule) (text : Bytes) (rest : List Bytes) :
    Except OptionFault ((String × Bytes) × List Bytes) := do
  let length := (wordOf text).length
  let value := text.drop (length + 1)
  let rule ← ruleOf rules text
  match rule.arity, decide (length < text.length), rest with
  | .nothing, true, _ => throw (.unwanted rule.word)
  | .required, false, [] => throw (.wordAlone rule.word)
  | .required, false, argument :: rest => return ((rule.name, argument), rest)
  | _, _, _ => return ((rule.name, value), rest)

/-- The options of an argument, and the arguments behind it, unless it is an operand. -/
def readOptions? (rules : List OptionRule) (argument : Bytes) (rest : List Bytes) :
    Except OptionFault (Option (List (String × Bytes) × List Bytes)) :=
  match argument with
  | 0x2D :: 0x2D :: word => do
    let (option, rest) ← readWord (rules ++ commonRules) word rest
    return some ([option], rest)
  | 0x2D :: letters@(_ :: _) => some <$> readLetters (rules ++ commonRules) letters rest
  | _ => .ok none

/-- The argument behind which there are operands only. -/
def endOfOptions : Bytes :=
  Utf8.encode "--"

/-- Reads arguments. With `mixed` options may stand behind operands; without, all that stands behind the
first operand is an operand. The budget has to be the number of arguments at least. -/
def read (rules : List OptionRule) (mixed : Bool) : Nat → List Bytes → Except OptionFault Arguments
  | 0, _ | _, [] => .ok {}
  | budget + 1, argument :: rest => do
    if argument == endOfOptions then return { operands := rest }
    match ← readOptions? rules argument rest with
    | some (options, rest) => return (← read rules mixed budget rest).withOptions options
    | none =>
      if mixed then return (← read rules mixed budget rest).withOperand argument
      else return { operands := argument :: rest }

/-- The arguments of a utility with the given options. -/
def parse (rules : List OptionRule) (mixed : Bool) (arguments : List Bytes) :
    Except OptionFault Arguments :=
  read rules mixed arguments.length arguments

end Arguments

/-! ### Complaints -/

/-- A line of complaint that begins with the name of the utility. -/
def complain (name : Bytes) (text : Bytes) (process : Process) : Process :=
  process.complain (name ++ Utf8.encode ": " ++ text)

/-- The complaint about output that was lost. -/
def writeFault (name : Bytes) (process : Process) : Process :=
  complain name (Utf8.encode s!"write error: {Errno.EBADF.text}") process

/-- The end of a utility. If some of its output was lost it has failed. -/
def finish (name : Bytes) (failure : Nat) (ended : Exit) : Exit :=
  if ended.1.outputLost then (writeFault name ended.1, failure) else ended

/-- The advice to ask a utility how it is used. -/
def adviseHelp (name : Bytes) (process : Process) : Process :=
  process.complain (Utf8.encode "Try '" ++ name ++ Utf8.encode " --help' for more information.")

/-- A utility that was called in a way it does not know. -/
def usageFault (name text : Bytes) (status : Nat) (process : Process) : Exit :=
  (adviseHelp name (complain name text process), status)

/-- Runs a utility on its arguments when they can be read. -/
def withArguments (rules : List OptionRule) (mixed : Bool) (status : Nat) (name : Bytes)
    (arguments : List Bytes) (process : Process) (run : Arguments → Exit) : Exit :=
  match Arguments.parse rules mixed arguments with
  | .ok found => run found
  | .error fault => usageFault name fault.message status process

/-- Carries out a step for every operand, also after one that failed; the status is 1 if any did. -/
def forEach (step : Process → Bytes → Process × Bool) : List Bytes → Process → Exit
  | [], process => (process, 0)
  | operand :: rest, process =>
    let (after, done) := step process operand
    let (last, status) := forEach step rest after
    (last, if done then status else 1)

end LineShell.Machine.Utility
