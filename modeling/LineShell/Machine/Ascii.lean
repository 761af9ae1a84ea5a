import LineShell.Text.Utf8

/-!
# ASCII

The programs of a machine work on bytes, and know the classes of ASCII characters among them.

* `byte`: the byte of a character.
* `isSpacing`, `isWordGap`, `isDigit`, `isNameByte`: classes.
* `isName`: the names of variables.
-/

namespace LineShell.Machine

/-- The byte of an ASCII character. -/
def byte (c : Char) : UInt8 :=
  c.toUInt8

/-- The space and the control characters that leave space. -/
def isSpacing (b : UInt8) : Bool :=
  b == byte ' ' || (byte '\t' ≤ b && b ≤ byte '\r')

/-- The characters that stand between the words of a script. -/
def isWordGap (b : UInt8) : Bool :=
  b == byte ' ' || b == byte '\t' || b == byte '\n'

def isDigit (b : UInt8) : Bool :=
  byte '0' ≤ b && b ≤ byte '9'

/-- The bytes that the name of a variable starts with. -/
def isNameStart (b : UInt8) : Bool :=
  (byte 'a' ≤ b && b ≤ byte 'z') || (byte 'A' ≤ b && b ≤ byte 'Z') || b == byte '_'

def isNameByte (b : UInt8) : Bool :=
  isNameStart b || isDigit b

/-- Whether a text can be the name of a variable. -/
def isName (bs : Bytes) : Bool :=
  bs.head?.any isNameStart && bs.all isNameByte

end LineShell.Machine
