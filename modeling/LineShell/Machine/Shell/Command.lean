import LineShell.Machine.Process

/-!
# Commands

What the text of a shell script stands for.

* `Part`, `Word`: words before anything in them is looked up.
* `Redirection`: changes of descriptors.
* `Command`: commands.
* `Word.plain?`: a word that stands for itself.
-/

namespace LineShell.Machine.Shell

/-- What `${name…}` does with a parameter that is not set: give a word, set the parameter to it, or
complain with it; or give the word if the parameter is set. -/
inductive Fallback where
  | use
  | assign
  | complain
  | replace
deriving DecidableEq, Repr

/-- How the file of a redirection is opened. Replacing a file is writing to it where that is otherwise not
allowed for a file that is there. -/
inductive FileUse where
  | read
  | write
  | replace
  | append
  | both
deriving DecidableEq, Repr

mutual

/-- A part of a word. What comes from a part between quotes is neither split nor compared with the names of
files. -/
inductive Part where
  | text (quoted : Bool) (bytes : Bytes)
  | parameter (quoted : Bool) (name : Bytes) (change : Change)
  | output (quoted : Bool) (script : Command)
  | arithmetic (quoted : Bool) (expression : List Part)

/-- What is done with the value of a parameter. A fallback counts also for an empty value if `orEmpty`
says so. -/
inductive Change where
  | nothing
  | length
  | fallback (kind : Fallback) (orEmpty : Bool) (word : List Part)
  | trim (atEnd longest : Bool) (pattern : List Part)
  | unknown

/-- A change of a descriptor: a file opened for it, another descriptor put in its place, or a text in the
script, by its number, to read from. -/
inductive Redirection where
  | file (descriptor : Nat) (use : FileUse) (path : List Part)
  | copy (descriptor : Nat) (target : List Part)
  | document (descriptor : Nat) (number : Nat)

/-- A command. Where complaints can arise, it knows the line that it starts on. -/
inductive Command where
  | nothing
  | simple (line : Nat) (assignments words : List (List Part)) (redirections : List Redirection)
  | redirected (line : Nat) (body : Command) (redirections : List Redirection)
  | subshell (line : Nat) (body : Command) (redirections : List Redirection)
  | background (body : Command)
  | pipeline (commands : List Command)
  | sequence (first second : Command)
  | both (first second : Command)
  | either (first second : Command)
  | negation (body : Command)
  | choice (condition body otherwise : Command)
  | loop (wanted : Bool) (condition body : Command)
  | iteration (line : Nat) (name : Bytes) (words : List (List Part)) (body : Command)
  | selection (line : Nat) (subject : List Part) (arms : List (List (List Part) × Command))
  | function (name : Bytes) (body : Command)

end

instance : Inhabited Command :=
  ⟨.nothing⟩

/-- How many processes a command needs when it is put in the background. -/
def Command.size : Command → Nat
  | .pipeline commands => commands.length
  | _ => 1

/-- A word before anything in it is looked up. -/
abbrev Word := List Part

namespace Word

/-- The text of a word that has no quotes and nothing to look up. -/
def plain? : Word → Option Bytes
  | [] => some []
  | .text false bytes :: rest => (plain? rest).map (bytes ++ ·)
  | _ => none

/-- The text of a word without its quotes, as far as it is text. -/
def bareText (word : Word) : Bytes :=
  word.flatMap fun
    | .text _ bytes => bytes
    | _ => []

/-- Whether a part of a word stands between quotes. -/
def hasQuotes (word : Word) : Bool :=
  word.any fun
    | .text quoted _ => quoted
    | .parameter quoted .. => quoted
    | .output quoted _ => quoted
    | .arithmetic quoted _ => quoted

end Word

/-! ### Names -/

/-- The parameters whose names are no names of variables, and are one byte long. -/
def isSpecial (b : UInt8) : Bool :=
  isDigit b || (Utf8.encode "!#$*-?@").contains b

/-- A word cut at the sign of an assignment, if there is a name in front of it. -/
def Word.assignment? (word : Word) : Option (Bytes × Word) :=
  match word with
  | .text false bytes :: rest =>
    let name := bytes.takeWhile (· != byte '=')
    if name.length < bytes.length && isName name then
      let value := bytes.drop (name.length + 1)
      some (name, if value.isEmpty then rest else .text false value :: rest)
    else none
  | _ => none

end LineShell.Machine.Shell
