/-!
# UTF-8 text

Streams and file names are byte strings; lines and prompts are text. This module goes between the two.

* `encode`: the bytes of a text.
* `units`: a byte string cut into characters and maximal runs that no character starts with.
* `decode?`: the text of a well-formed byte string.
* `decodeLossy`: the text of any byte string, one replacement character per malformed run.
-/

namespace LineShell

/-- A byte string: the content of a stream, a file or a file name. -/
abbrev Bytes := List UInt8

namespace Utf8

/-- The bytes of a list of characters. -/
def encodeChars (cs : List Char) : Bytes :=
  cs.flatMap String.utf8EncodeChar

/-- The bytes of a text. -/
def encode (text : String) : Bytes :=
  encodeChars text.toList

/-- The length of a list of characters in bytes. -/
def size : List Char → Nat
  | [] => 0
  | c :: cs => c.utf8Size + size cs

/-- What the first byte of a character announces: how many bytes follow, the bits it contributes, and
the range that the byte after it has to lie in. -/
structure Lead where
  follow : Nat
  bits : Nat
  low : UInt8 := 0x80
  high : UInt8 := 0xBF

/-- The announcement of a first byte; `none` for a byte that starts no character. The narrowed ranges
rule out overlong forms, surrogates, and values above U+10FFFF. -/
def lead? (b : UInt8) : Option Lead :=
  if b < 0x80 then some { follow := 0, bits := b.toNat }
  else if b < 0xC2 then none
  else if b < 0xE0 then some { follow := 1, bits := b.toNat - 0xC0 }
  else if b = 0xE0 then some { follow := 2, bits := 0, low := 0xA0 }
  else if b = 0xED then some { follow := 2, bits := 0xD, high := 0x9F }
  else if b < 0xF0 then some { follow := 2, bits := b.toNat - 0xE0 }
  else if b = 0xF0 then some { follow := 3, bits := 0, low := 0x90 }
  else if b < 0xF4 then some { follow := 3, bits := b.toNat - 0xF0 }
  else if b = 0xF4 then some { follow := 3, bits := 4, high := 0x8F }
  else none

/-- Reads `n` continuation bytes, the first of them within `low` and `high`, onto the bits read so far.
It stops before the first byte that cannot continue the character. -/
def readFollowing : Nat → UInt8 → UInt8 → Nat → Bytes → Option Nat × Bytes
  | 0, _, _, bits, rest => (some bits, rest)
  | _ + 1, _, _, _, [] => (none, [])
  | n + 1, low, high, bits, b :: rest =>
    if low ≤ b ∧ b ≤ high then readFollowing n 0x80 0xBF (bits * 64 + (b.toNat - 0x80)) rest
    else (none, b :: rest)

theorem length_readFollowing_le (n : Nat) (low high : UInt8) (bits : Nat) (bs : Bytes) :
    (readFollowing n low high bits bs).2.length ≤ bs.length := by
  induction n generalizing low high bits bs with
  | zero => simp [readFollowing]
  | succ n ih =>
    cases bs with
    | nil => simp [readFollowing]
    | cons b rest =>
      simp only [readFollowing]
      split
      · exact Nat.le_succ_of_le (ih _ _ _ rest)
      · simp

/-- A byte string cut from the left into characters and malformed runs. A malformed run (`none`) is a
byte that starts no character, or the longest beginning of a character that is not completed. -/
def units : Bytes → List (Option Char)
  | [] => []
  | b :: rest =>
    match lead? b with
    | none => none :: units rest
    | some lead =>
      let cut := readFollowing lead.follow lead.low lead.high lead.bits rest
      cut.1.map Char.ofNat :: units cut.2
termination_by bs => bs.length
decreasing_by
  · simp
  · exact Nat.lt_succ_of_le (length_readFollowing_le ..)

/-- The text of a byte string that has no malformed run. -/
def decode? (bs : Bytes) : Option String :=
  ((units bs).mapM id).map String.ofList

/-- The text of a byte string, each malformed run shown as U+FFFD. -/
def decodeLossy (bs : Bytes) : String :=
  String.ofList ((units bs).map (·.getD '\uFFFD'))

end Utf8

end LineShell
