import LineShell.Machine.Tree

/-!
# Quoted names

Utilities put quotes around the names of files in their messages. There are two styles. In the plain style
everything that is not printable ASCII is written as an escape behind a backslash. In the shell style the
result is a word that a shell reads back as the name.

* `Quoting.plain`: the plain style.
* `Quoting.shell`: the shell style.
* `Quoting.shellIfNeeded`: the shell style, for names that need quotes only.
-/

namespace LineShell.Machine.Quoting

def isPrintable (b : UInt8) : Bool :=
  0x20 ≤ b && b < 0x7F

/-- The letters that stand behind a backslash for control characters. -/
def controlLetters : List (UInt8 × Char) :=
  [(0x07, 'a'), (0x08, 'b'), (0x09, 't'), (0x0A, 'n'), (0x0B, 'v'), (0x0C, 'f'), (0x0D, 'r')]

/-- The three octal digits of a byte. -/
def octal (b : UInt8) : Bytes :=
  [byte '0' + b / 64, byte '0' + b / 8 % 8, byte '0' + b % 8]

/-- A byte that is not printable, as an escape. -/
def escape (b : UInt8) : Bytes :=
  match controlLetters.lookup b with
  | some letter => [byte '\\', byte letter]
  | none => byte '\\' :: octal b

/-- A name between quotes, with a backslash before quotes and backslashes in it. -/
def plain (name : Bytes) : Bytes :=
  let body := name.flatMap fun b =>
    if b = byte '\'' || b = byte '\\' then [byte '\\', b]
    else if isPrintable b then [b]
    else escape b
  byte '\'' :: body ++ [byte '\'']

/-- The bytes that stand for themselves between double quotes as well as between single ones. -/
def isHarmless (b : UInt8) : Bool :=
  isPrintable b && !(Utf8.encode "!\"#$&()*;<=>?[\\^`\x7b|\x7d~").contains b

/-- The parts of a word between single quotes. Escapes stand in a part of their own, `$'…'`; `escaping`
says whether such a part is open. -/
def shellParts (escaping : Bool) : Bytes → Bytes
  | [] => []
  | b :: rest =>
    if b = byte '\'' then Utf8.encode "'\\''" ++ shellParts false rest
    else if isPrintable b then
      (if escaping then Utf8.encode "''" else []) ++ b :: shellParts false rest
    else (if escaping then [] else Utf8.encode "'$'") ++ escape b ++ shellParts true rest

/-- A name as a word for a shell, between double quotes if it has single quotes and nothing else that
matters. -/
def shell (name : Bytes) : Bytes :=
  if name.contains (byte '\'') && name.all isHarmless then byte '"' :: name ++ [byte '"']
  else byte '\'' :: shellParts false name ++ [byte '\'']

/-- Whether a byte has a meaning for a shell wherever it stands in a word, or ends a name in messages. -/
def isSpecial (b : UInt8) : Bool :=
  !isPrintable b || (Utf8.encode " !\"$&'()*:;<=>?[\\^`|").contains b

/-- Whether a name is not read back as it is by a shell. -/
def needsQuotes (name : Bytes) : Bool :=
  name.any isSpecial || (name.head?.any fun b => b == byte '#' || b == byte '~') ||
    [[], Utf8.encode "\x7b", Utf8.encode "\x7d"].contains name

def shellIfNeeded (name : Bytes) : Bytes :=
  if needsQuotes name then shell name else name

end LineShell.Machine.Quoting
