import LineShell.Machine.Ascii

/-!
# Numbers in texts

The texts of whole numbers. They may have space around them and a sign, and in some places the digits say
in which base they are: 16 behind `0x`, 8 behind `0`, and 10 otherwise.

* `digit?`: the value of a digit.
* `numberOf`: the number that digits stand for.
* `leadingInteger?`: the number at the front of a text.
* `integer?`: the number of 64 bits that a text stands for.
-/

namespace LineShell.Machine

/-- The value of a digit of a base, which is 36 at most. -/
def digit? (base : Nat) (b : UInt8) : Option Nat :=
  let value :=
    if isDigit b then some (b - byte '0').toNat
    else if byte 'a' ≤ b && b ≤ byte 'z' then some ((b - byte 'a').toNat + 10)
    else if byte 'A' ≤ b && b ≤ byte 'Z' then some ((b - byte 'A').toNat + 10)
    else none
  value.filter (· < base)

def isDigitOf (base : Nat) (b : UInt8) : Bool :=
  (digit? base b).isSome

/-- The number that digits of a base stand for. -/
def numberOf (base : Nat) (digits : Bytes) : Nat :=
  digits.foldl (fun value b => value * base + (digit? base b).getD 0) 0

/-- The bases that numbers may be written in: ten only, or the one that the digits say. -/
inductive Bases where
  | ten
  | any
deriving DecidableEq, Repr

/-- The base of the digits at the front of a text, and the digits with what stands behind them. -/
def Bases.of (bases : Bases) (text : Bytes) : Nat × Bytes :=
  match bases, text with
  | .ten, _ => (10, text)
  | .any, 0x30 :: x :: d :: rest =>
    if (x = byte 'x' || x = byte 'X') && isDigitOf 16 d then (16, d :: rest) else (8, text)
  | .any, 0x30 :: _ => (8, text)
  | .any, _ => (10, text)

/-- The number of the digits at the front of a text, and what stands behind them. -/
def leadingNumber (bases : Bases) (text : Bytes) : Nat × Bytes :=
  let (base, digits) := bases.of text
  let own := digits.takeWhile (isDigitOf base)
  (numberOf base own, digits.drop own.length)

/-- The number at the front of a text, and what stands behind it. Space and a sign may stand before the
digits; without digits there is no number. -/
def leadingInteger? (bases : Bases) (text : Bytes) : Option (Int × Bytes) :=
  let front := text.dropWhile isSpacing
  let (negative, digits) := match front with
    | sign :: rest =>
      if sign = byte '-' then (true, rest) else if sign = byte '+' then (false, rest) else (false, front)
    | [] => (false, [])
  if digits.head?.any isDigit then
    let (size, behind) := leadingNumber bases digits
    some (if negative then -size else size, behind)
  else none

/-- How many numbers of 64 bits there are. -/
def wordCount : Nat := 0x10000000000000000

/-- The largest number of 64 bits with a sign. -/
def maxInteger : Int := 0x7FFFFFFFFFFFFFFF

/-- The least number of 64 bits with a sign. -/
def minInteger : Int := -0x8000000000000000

/-- The number of 64 bits next to a number. -/
def clamp (n : Int) : Int :=
  max minInteger (min maxInteger n)

/-- The number of 64 bits that a text stands for, with space around it. -/
def integer? (bases : Bases) (text : Bytes) : Option Int := do
  let (n, behind) ← leadingInteger? bases text
  if behind.all isSpacing && clamp n = n then some n else none

end LineShell.Machine
