import LineShell.Machine.Shell.Command

/-!
# Script text

A script is read byte by byte. Aliases put their texts in front of what is left of it. The commands are
read one at a time, so that a script on the input of the shell can be read block by block.

* `Source`: a script that is being read.
* `Reading`: a reading of a part of it, which a syntax fault ends.
* `nextByte`, `nextJoined`, `putBack`: byte by byte.
* `iterate`: repetition.
-/

namespace LineShell.Machine.Shell

/-- What a word of a script may be taken for, and whether newlines in front of it do not count. -/
structure Checks where
  keywords : Bool := false
  aliases : Bool := false
  newlines : Bool := false
deriving DecidableEq, Repr

/-- What either of two checks for. -/
def Checks.or (left right : Checks) : Checks where
  keywords := left.keywords || right.keywords
  aliases := left.aliases || right.aliases
  newlines := left.newlines || right.newlines

/-- How a redirection begins, before its word. -/
inductive RedirectionSign where
  | file (use : FileUse)
  | copy
  | document (stripTabs : Bool)
deriving DecidableEq, Repr

/-- The units that commands are made of. -/
inductive Token where
  | endOfFile
  | operator (sign : String)
  | redirection (descriptor : Nat) (sign : RedirectionSign)
  | word (word : Word)
  | keyword (word : String)

/-- The text of an alias that is being read, and the aliases whose texts had ended just before it. -/
structure AliasText where
  name : Bytes
  rest : Bytes
  endsInGap : Bool
  before : List Bytes
deriving DecidableEq, Repr

/-- A text in the script that has been announced and comes on the lines behind: its number, the line that
ends it, whether tabs in front of lines do not count, and whether nothing in it is looked up. -/
structure Announcement where
  number : Nat
  mark : Bytes
  stripTabs : Bool
  literal : Bool
deriving DecidableEq, Repr

/-- A text in the script that is being read, and whether the line that ends it has been read. -/
structure Document where
  mark : Bytes
  stripTabs : Bool
  ended : Bool := false
deriving DecidableEq, Repr

/-- A script that is being read: what is held of it and what has not been asked for; whether it comes from a file
or from the input, so that its lines may be shown; the texts of aliases
in front of it, the innermost first, the aliases whose texts ended before the byte read last, and those whose
texts the whole script stands in; the number of the line, and that of the last line that a byte was asked of;
the token read last, which may be read again; the texts that are announced, the one that is
being read, and those that have been read, by number. -/
structure Source where
  aliasTexts : List AliasText := []
  endedAliases : List Bytes := []
  outerAliases : List Bytes := []
  held : Bytes := []
  reserve : Bytes := []
  isFile : Bool := false
  line : Nat := 1
  asked : Nat := 1
  last : Token := .endOfFile
  again : Bool := false
  checks : Checks := {}
  aliases : List (Bytes × Bytes) := []
  announced : List Announcement := []
  document : Option Document := none
  documents : List Word := []

/-- What is wrong with the text of a script, and on which line. -/
structure SyntaxFault where
  message : String
  line : Nat
deriving DecidableEq, Repr

/-- A reading of a part of a script. -/
abbrev Reading := ExceptT SyntaxFault (StateM Source)

/-- How many bytes of a script are asked for at a time. -/
def blockLength : Nat := 8192

/-- How often a step may be repeated, and how deep commands may be nested. -/
def maxRepetitions : Nat := 10000000

namespace Source

/-- The aliases whose texts the byte read last comes from. -/
def usedAliases (source : Source) : List Bytes :=
  source.endedAliases ++ (source.aliasTexts.flatMap fun text => text.name :: text.before) ++ source.outerAliases

/-- The source without the texts of aliases that have come to their end. Behind one that ends in a gap
another alias may stand. -/
def dropEnded (source : Source) : List AliasText → Source
  | [] => { source with aliasTexts := [] }
  | text :: rest =>
    if text.rest.isEmpty then
      let checks := { source.checks with aliases := source.checks.aliases || text.endsInGap }
      { source with checks, endedAliases := text.name :: text.before ++ source.endedAliases }.dropEnded
        rest
    else { source with aliasTexts := text :: rest }

/-- The source with another block of the script, if nothing of it is held. Zero bytes do not count. -/
def refill (source : Source) : Source :=
  if source.held.isEmpty then
    { source with
      held := (source.reserve.take blockLength).filter (· != 0)
      reserve := source.reserve.drop blockLength }
  else source

/-- The next byte. -/
def next (source : Source) : Option UInt8 × Source :=
  let ready := { source with endedAliases := [] }.dropEnded source.aliasTexts
  match ready.aliasTexts with
  | text :: rest => (text.rest.head?, { ready with aliasTexts := { text with rest := text.rest.tail } :: rest })
  | [] =>
    let filled := ready.refill
    (filled.held.head?, { filled with held := filled.held.tail })

/-- Counts the end of a line. -/
def countLine (source : Source) : Option UInt8 → Source
  | some b => if b = byte '\n' then { source with line := source.line + 1 } else source
  | none => source

/-- The source with a byte in front of it again. -/
def putBack (source : Source) (b : UInt8) : Source :=
  let uncounted := if b = byte '\n' then { source with line := source.line - 1 } else source
  match uncounted.aliasTexts with
  | text :: rest => { uncounted with aliasTexts := { text with rest := b :: text.rest } :: rest }
  | [] => { uncounted with held := b :: uncounted.held }

end Source

/-- A fault on the current line. -/
def fault {α : Type} (message : String) : Reading α := do
  throw { message, line := (← get).line }

/-- The next byte, or `none` at the end of the script. -/
def nextByte : Reading (Option UInt8) := do
  let (b, source) := (← get).next
  set { source.countLine b with asked := max source.asked source.line }
  return b

/-- Puts a byte back. -/
def putBack : Option UInt8 → Reading Unit
  | some b => modify (·.putBack b)
  | none => return

/-- Looks at the next byte. -/
def peekByte : Reading (Option UInt8) := do
  return (← get).next.1

/-- Takes a line back that was counted for a newline. -/
def uncount (b : Option UInt8) : Reading Unit := do
  if b = some (byte '\n') then modify fun source => { source with line := source.line - 1 }

/-- Repeats a step until it gives a result. -/
def iterate {m : Type → Type} [Monad m] {α β : Type} (tooLong : m β) (step : α → m (α ⊕ β)) : Nat → α → m β
  | 0, _ => tooLong
  | n + 1, a => do
    match ← step a with
    | .inl next => iterate tooLong step n next
    | .inr result => return result

/-- Repeats a step of a reading. -/
def repeatStep {α β : Type} (step : α → Reading (α ⊕ β)) (start : α) : Reading β :=
  iterate (fault "Script too long") step maxRepetitions start

/-- The next byte behind backslashes that join a line with the next one. -/
def nextJoined : Reading (Option UInt8) :=
  repeatStep (fun () => do
    let b ← nextByte
    if b != some (byte '\\') then return .inr b
    let following ← nextByte
    if following = some (byte '\n') then return .inl ()
    putBack following
    return .inr b) ()

/-- Reads bytes with a property; the byte behind them is given too. -/
def readWhile (p : UInt8 → Bool) (start : Bytes) : Reading (Bytes × Option UInt8) :=
  repeatStep (fun (read : Bytes) => do
    match ← nextJoined with
    | some b => if p b then return .inl (b :: read) else return .inr (read.reverse, some b)
    | none => return .inr (read.reverse, none)) start.reverse

/-- Carries out a reading on another text, and comes back to where the script was. -/
def within {α : Type} (text : Bytes) (line : Nat) (reading : Reading α) : Reading α := do
  let outer ← get
  set { outer with
    aliasTexts := [], endedAliases := [], outerAliases := outer.usedAliases, held := text, reserve := [], line
    again := false, checks := {}, document := none }
  let result ← reading
  modify fun inner => { outer with documents := inner.documents, again := false }
  return result

end LineShell.Machine.Shell
