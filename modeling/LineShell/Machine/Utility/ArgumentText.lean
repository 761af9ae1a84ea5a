import LineShell.Machine.Process
import LineShell.Machine.Utility.Quoting

/-!
# Texts of arguments

A text can stand for several arguments, so that a script can give more than one of them in its first line.
Gaps separate the arguments, quotes keep gaps, and a backslash keeps quotes. A variable of the environment
is named between `$\x7b` and `\x7d`, and its value is not read again.

* `Piece`: what a text is made of.
* `pieces`: the reading of a text.
* `arguments`: the arguments that pieces make up.
* `references`: the variables that a text names.
-/

namespace LineShell.Machine.Utility.ArgumentText

/-- What can be wrong with a text of arguments. -/
inductive TextFault where
  | endInQuotes
  | backslashAtEnd
  | unknownEscape (b : UInt8)
  | noReference (text : Bytes)
  | openQuote
deriving DecidableEq, Repr

/-- What is said about a fault. -/
def TextFault.message : TextFault → Bytes
  | .endInQuotes => Utf8.encode "'\\c' must not appear in double-quoted -S string"
  | .backslashAtEnd => Utf8.encode "invalid backslash at end of string in -S"
  | .unknownEscape b => Utf8.encode "invalid sequence '\\" ++ b :: Utf8.encode "' in -S"
  | .noReference text =>
    Utf8.encode "only $\x7bVARNAME\x7d expansion is supported, error at: " ++ text
  | .openQuote => Utf8.encode "no terminating quote in -S string"

/-- What a text is made of: gaps between arguments, bytes of arguments, and variables with their values.
Bytes belong to an argument even if there are none, as between quotes. -/
inductive Piece where
  | gap
  | bytes (bytes : Bytes)
  | reference (name : Bytes) (value : Option Bytes)
  | wrong (fault : TextFault)
deriving DecidableEq, Repr

/-- The quotes that a place in a text is between. -/
inductive Quotes where
  | nothing
  | single
  | double
deriving DecidableEq, Repr

/-- The name of a variable that stands between braces. -/
def name? (text : Bytes) : Option Bytes :=
  match text with
  | 0x7B :: first :: rest =>
    let name := first :: rest.takeWhile isNameByte
    if isNameStart first && (rest.drop (name.length - 1)).head? == some 0x7D then some name else none
  | _ => none

/-- What a byte behind a backslash stands for, among the bytes that may stand there between any quotes. -/
def escaped? (b : UInt8) : Option UInt8 :=
  if (Utf8.encode "\"#$'\\").contains b then some b
  else
    [(byte 'f', 0x0C), (byte 'n', 0x0A), (byte 'r', 0x0D), (byte 't', 0x09), (byte 'v', 0x0B)].lookup b

/-- The pieces of a text from a place on. An argument may have `started` before it, where `#` does not end
the text. A fault is the last piece. -/
def pieces (env : Bindings) (quotes : Quotes) (started : Bool) (text : Bytes) : List Piece :=
  match text with
  | [] => if quotes = .nothing then [] else [.wrong .openQuote]
  | b :: rest =>
    if b = byte '\'' && quotes != .double then
      .bytes [] :: pieces env (if quotes = .single then .nothing else .single) true rest
    else if b = byte '"' && quotes != .single then
      .bytes [] :: pieces env (if quotes = .double then .nothing else .double) true rest
    else if isSpacing b && quotes = .nothing then .gap :: pieces env quotes false rest
    else if b = byte '#' && !started then []
    else if b = byte '\\' && (quotes != .single || rest.head? == some (byte '\\') ||
        rest.head? == some (byte '\'')) then
      match rest with
      | [] => [.wrong .backslashAtEnd]
      | c :: rest =>
        if c = byte '_' then
          if quotes = .double then .bytes [byte ' '] :: pieces env quotes true rest
          else .gap :: pieces env quotes false rest
        else if c = byte 'c' then if quotes = .double then [.wrong .endInQuotes] else []
        else
          match escaped? c with
          | some value => .bytes [value] :: pieces env quotes true rest
          | none => [.wrong (.unknownEscape c)]
    else if b = byte '$' && quotes != .single then
      match name? rest with
      | none => [.wrong (.noReference text)]
      | some name =>
        let value := env.lookup name
        .reference name value ::
          pieces env quotes (started || value.isSome) (rest.drop (name.length + 2))
    else .bytes [b] :: pieces env quotes true rest
termination_by text.length
decreasing_by all_goals simp only [List.length_cons, List.length_drop]; omega

/-- The arguments that pieces make up, behind the bytes of one that has started. -/
def arguments (started : Option Bytes) : List Piece → Except TextFault (List Bytes)
  | [] => .ok started.toList
  | .gap :: rest => (started.toList ++ ·) <$> arguments none rest
  | .bytes bytes :: rest => arguments (some (started.getD [] ++ bytes)) rest
  | .reference _ none :: rest => arguments started rest
  | .reference _ (some value) :: rest => arguments (some (started.getD [] ++ value)) rest
  | .wrong fault :: _ => .error fault

/-- The variables that pieces name, and their values. -/
def references (pieces : List Piece) : List (Bytes × Option Bytes) :=
  pieces.filterMap fun piece =>
    match piece with
    | .reference name value => some (name, value)
    | _ => none

/-- The pieces of a whole text. -/
def read (env : Bindings) (text : Bytes) : List Piece :=
  pieces env .nothing false text

end LineShell.Machine.Utility.ArgumentText
