import LineShell.Machine.Shell.Expansion
import LineShell.Machine.Utility.Echo

/-!
# Formats

`printf` writes its arguments the way a format says, and uses the format again as long as there are
arguments left.

* `Layout`: signs, width and precision.
* `Formatting`: what has been written, and the arguments that are left.
* `formatOnce`, `formatAll`: what a format writes.
-/

namespace LineShell.Machine.Shell

/-- The flags, the width and the precision of a directive. -/
structure Layout where
  flags : Bytes := []
  width : Nat := 0
  precision : Option Nat := none
deriving DecidableEq, Repr

namespace Layout

/-- Whether a flag is set. -/
def has (layout : Layout) (flag : Char) : Bool :=
  layout.flags.contains (byte flag)

/-- A text with blanks before or behind it up to the width. -/
def pad (layout : Layout) (text : Bytes) : Bytes :=
  let blanks := List.replicate (layout.width - text.length) (byte ' ')
  if layout.has '-' then text ++ blanks else blanks ++ text

/-- A text of at most as many bytes as the precision says. -/
def text (layout : Layout) (bytes : Bytes) : Bytes :=
  layout.pad (match layout.precision with
    | some most => bytes.take most
    | none => bytes)

/-- Digits with a sign in front, with zeros up to the precision or the width. -/
def number (layout : Layout) (sign digits : Bytes) : Bytes :=
  let least := match layout.precision with
    | some least => least
    | none => if layout.has '0' && !layout.has '-' then layout.width - sign.length else 1
  let shown := if layout.precision = some 0 && digits = [byte '0'] then [] else digits
  layout.pad (sign ++ List.replicate (least - shown.length) (byte '0') ++ shown)

/-- The sign of a number that may be negative. -/
def sign (layout : Layout) (n : Int) : Bytes :=
  if n < 0 then [byte '-'] else if layout.has '+' then [byte '+'] else if layout.has ' ' then [byte ' '] else []

end Layout

/-- What is wrong with a format. -/
inductive FormatFault where
  | letterMissing
  | unknownDirective (text : Bytes)
deriving DecidableEq, Repr

/-- What is said about a fault. -/
def FormatFault.message : FormatFault → Bytes
  | .letterMissing => Utf8.encode "missing format character"
  | .unknownDirective text => text ++ Utf8.encode ": invalid directive"

/-- What became of a format: what was written, the arguments that are left, complaints, and whether it has come
to its end early, because that was asked for or because of a fault. -/
structure Formatting where
  arguments : List Bytes
  written : Bytes := []
  complaints : List Bytes := []
  ended : Bool := false
  fault? : Option FormatFault := none
deriving DecidableEq, Repr

namespace Formatting

/-- Adds to what has been written. -/
def write (formatting : Formatting) (bytes : Bytes) : Formatting :=
  { formatting with written := formatting.written ++ bytes }

/-- Takes note of a complaint. -/
def complain (formatting : Formatting) (text : Bytes) : Formatting :=
  { formatting with complaints := formatting.complaints ++ [text] }

/-- Comes to the end because of a fault. -/
def refuse (formatting : Formatting) (fault : FormatFault) : Formatting :=
  { formatting with ended := true, fault? := some fault }

/-- The next argument; there is always another empty one. -/
def take (formatting : Formatting) : Bytes × Formatting :=
  (formatting.arguments.head?.getD [], { formatting with arguments := formatting.arguments.tail })

/-- A number kept to 64 bits, with or without a sign. A negative number without a sign counts from the
largest one down, but one that is too large in itself counts as the largest one. -/
def kept (signed : Bool) (n : Int) : Int :=
  if signed then clamp n else if n.natAbs < wordCount then n else wordCount - 1

/-- The next argument as a number. A quote in front of a byte stands for its code. -/
def takeNumber (signed : Bool) (formatting : Formatting) : Int × Formatting :=
  let (argument, after) := formatting.take
  match argument with
  | [] => (0, after)
  | quote :: rest =>
    if quote = byte '\'' || quote = byte '"' then (((rest.head?.map (·.toNat)).getD 0 : Nat), after)
    else
      match leadingInteger? .any argument with
      | none => (0, after.complain (argument ++ Utf8.encode ": expected numeric value"))
      | some (n, behind) =>
        let value := kept signed n
        if !behind.isEmpty then (value, after.complain (argument ++ Utf8.encode ": not completely converted"))
        else if value ≠ n then (value, after.complain (argument ++ Utf8.encode s!": {Errno.ERANGE.text}"))
        else (value, after)

/-- The digits of a number in a base. -/
def digits (base n : Nat) : Bytes :=
  Utf8.encode (String.ofList (Nat.toDigits base n))

/-- Writes an argument as a directive says; `none` for an unknown directive. -/
def direct? (layout : Layout) (directive : UInt8) (formatting : Formatting) : Option Formatting :=
  let c := Char.ofNat directive.toNat
  match c with
  | 's' =>
    let (argument, after) := formatting.take
    some (after.write (layout.text argument))
  | 'b' =>
    let (argument, after) := formatting.take
    let (bytes, cut) := Utility.unescape {} argument
    let written := after.write (layout.text bytes)
    some (if cut then { written with ended := true } else written)
  | 'c' =>
    let (argument, after) := formatting.take
    -- Of an empty argument a zero byte is left.
    some (after.write (layout.pad [argument.head?.getD 0]))
  | 'd' | 'i' =>
    let (n, after) := formatting.takeNumber true
    some (after.write (layout.number (layout.sign n) (digits 10 n.natAbs)))
  | 'u' | 'o' | 'x' | 'X' =>
    let (n, after) := formatting.takeNumber false
    let bare := digits (if c = 'u' then 10 else if c = 'o' then 8 else 16) (bits n).toNat
    let shown := if c = 'X' then bare.map fun b => if byte 'a' ≤ b then b - 0x20 else b else bare
    let front :=
      if layout.has '#' && n ≠ 0 then
        if c = 'x' then Utf8.encode "0x" else if c = 'X' then Utf8.encode "0X"
        else if c = 'o' then [byte '0'] else []
      else []
    some (after.write (layout.number front shown))
  | _ => none

end Formatting

/-- The number of a width or precision, which may be an argument. -/
def readLayoutNumber (format : Bytes) (formatting : Formatting) : Int × Bytes × Formatting :=
  match format with
  | star :: rest =>
    if star = byte '*' then
      let (n, after) := formatting.takeNumber true
      (n, rest, after)
    else
      let own := format.takeWhile isDigit
      ((numberOf 10 own : Nat), format.drop own.length, formatting)
  | [] => (0, [], formatting)

/-- The layout of a directive, and the format behind it. -/
def readLayout (format : Bytes) (formatting : Formatting) : Layout × Bytes × Formatting :=
  let flags := format.takeWhile fun b => (Utf8.encode "#-+ 0").contains b
  let (width, behind, taken) := readLayoutNumber (format.drop flags.length) formatting
  -- A negative width asks for blanks behind the text.
  let layout : Layout :=
    { flags := if width < 0 then byte '-' :: flags else flags, width := width.natAbs }
  match behind with
  | point :: rest =>
    if point = byte '.' then
      let (precision, last, after) := readLayoutNumber rest taken
      ({ layout with precision := if precision < 0 then none else some precision.toNat }, last, after)
    else (layout, behind, taken)
  | [] => (layout, behind, taken)

/-- Writes arguments as a format says, once. `fuel` bounds the length of the format. -/
def formatOnce : Nat → Bytes → Formatting → Formatting
  | 0, _, formatting => formatting
  | _, [], formatting => formatting
  | fuel + 1, b :: rest, formatting =>
    if formatting.ended then formatting
    else if b = byte '\\' then
      -- In the format itself an octal escape has up to three digits, also behind a zero.
      let own := Utility.leading 3 (isDigitOf 8) rest
      if !own.isEmpty then
        formatOnce fuel (rest.drop own.length) (formatting.write [(numberOf 8 own).toUInt8])
      else
        match rest with
        | letter :: behind =>
          match Utility.letterEscapes.lookup letter with
          | some value => formatOnce fuel behind (formatting.write [value])
          | none => formatOnce fuel rest (formatting.write [b])
        | [] => formatting.write [b]
    else if b != byte '%' then formatOnce fuel rest (formatting.write [b])
    else if rest.head? = some (byte '%') then formatOnce fuel rest.tail (formatting.write [b])
    else
      let (layout, behind, taken) := readLayout rest formatting
      match behind with
      | [] => taken.refuse .letterMissing
      | directive :: last =>
        match taken.direct? layout directive with
        | some after => formatOnce fuel last after
        | none => taken.refuse (.unknownDirective (b :: rest.take (rest.length - last.length)))

/-- Writes arguments as a format says, as often as there are arguments for it. -/
def formatAll (format : Bytes) : Nat → Formatting → Formatting
  | 0, formatting => formatting
  | fuel + 1, formatting =>
    let after := formatOnce (format.length + 1) format formatting
    if after.ended || after.arguments.isEmpty || after.arguments.length = formatting.arguments.length then after
    else formatAll format fuel after

end LineShell.Machine.Shell
