import LineShell.Machine.Number
import LineShell.Machine.Utility.Options
import LineShell.Machine.Utility.Quoting

/-!
# Echo

`echo` writes its arguments with a space between any two and a newline at the end.

* `Escapes`, `unescape`: what stands behind a backslash.
* `echoLine`: what is written.
* `runEcho`: the utility.
-/

namespace LineShell.Machine.Utility

/-- The escapes of one letter. -/
def letterEscapes : List (UInt8 × UInt8) :=
  (byte '\\', byte '\\') :: (byte 'e', 0x1B) :: Quoting.controlLetters.map fun entry => (byte entry.2, entry.1)

/-- The leading bytes of a list with a property, at most `n` of them. -/
def leading (n : Nat) (p : UInt8 → Bool) (bs : Bytes) : Bytes :=
  (bs.take n).takeWhile p

/-- Which escapes a text may have besides those of one letter and of octal digits. -/
structure Escapes where
  hexadecimal : Bool := false
deriving DecidableEq, Repr

/-- The bytes of a text with escapes, and whether `\c` has cut it off. -/
def unescape (escapes : Escapes) : Bytes → Bytes × Bool
  | [] => ([], false)
  | [b] => ([b], false)
  | b :: c :: rest =>
    if b != byte '\\' then
      let after := unescape escapes (c :: rest)
      (b :: after.1, after.2)
    else if c = byte 'c' then ([], true)
    else if isDigitOf 8 c then
      -- A zero stands in front of up to three digits, any other digit is one of them.
      let digits := if c = byte '0' then leading 3 (isDigitOf 8) rest else leading 2 (isDigitOf 8) rest
      let after := unescape escapes (rest.drop digits.length)
      ((numberOf 8 (c :: digits)).toUInt8 :: after.1, after.2)
    else if escapes.hexadecimal && c = byte 'x' && rest.head?.any (isDigitOf 16) then
      let digits := leading 2 (isDigitOf 16) rest
      let after := unescape escapes (rest.drop digits.length)
      ((numberOf 16 digits).toUInt8 :: after.1, after.2)
    else
      let after := unescape escapes rest
      match letterEscapes.lookup c with
      | some value => (value :: after.1, after.2)
      | none => (b :: c :: after.1, after.2)
termination_by bs => bs.length
decreasing_by all_goals simp only [List.length_cons, List.length_drop]; omega

/-- The options of `echo`: no newline at the end, and escapes interpreted. -/
structure EchoOptions where
  noNewline : Bool := false
  escapes : Option Escapes := none
deriving DecidableEq, Repr

/-- The options that an argument sets; `none` when it is not made of option letters only. -/
def EchoOptions.add? (options : EchoOptions) (argument : Bytes) : Option EchoOptions :=
  match argument with
  | 0x2D :: letters =>
    if letters.isEmpty then none
    else letters.foldlM (fun options letter =>
      if letter = byte 'n' then some { options with noNewline := true }
      else if letter = byte 'e' then some { options with escapes := some { hexadecimal := true } }
      else if letter = byte 'E' then some { options with escapes := none }
      else none) options
  | _ => none

/-- What `echo` writes for its operands. -/
def echoLine (options : EchoOptions) (operands : List Bytes) : Bytes :=
  let text := [byte ' '].intercalate operands
  let ending := if options.noNewline then [] else [byte '\n']
  match options.escapes with
  | none => text ++ ending
  | some escapes =>
    let written := unescape escapes text
    if written.2 then written.1 else written.1 ++ ending

/-- What `echo` writes for its arguments, which start with options. -/
def echoText (options : EchoOptions) : List Bytes → Bytes
  | [] => echoLine options []
  | argument :: rest =>
    match options.add? argument with
    | some more => echoText more rest
    | none => echoLine options (argument :: rest)

/-- Runs `echo`. -/
def runEcho (name : Bytes) (arguments : List Bytes) (process : Process) : Exit :=
  finish name 1 (process.print (echoText {} arguments), 0)

end LineShell.Machine.Utility
