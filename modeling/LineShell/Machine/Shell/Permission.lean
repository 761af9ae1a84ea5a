import LineShell.Machine.Number

/-!
# Masks of permissions

A process has a mask of permissions that the files it makes do not get. It is a number of nine bits, and
written in octal digits, or as the permissions that are left: `u=rwx,g=rx,o=rx`.

* `Mask.octal`, `Mask.symbols`: the two ways to write a mask.
* `Mask.ofOctal?`, `Mask.ofSymbols?`: the masks that texts stand for.
-/

namespace LineShell.Machine.Shell.Mask

/-- The permissions of all, which a mask of 0 leaves. -/
def everything : Nat := 0o777

/-- The permissions that a mask leaves. -/
def left (mask : Nat) : Nat :=
  everything - mask % (everything + 1)

/-- A mask in four octal digits. -/
def octal (mask : Nat) : Bytes :=
  let digits := Utf8.encode (String.ofList (Nat.toDigits 8 mask))
  List.replicate (4 - digits.length) (byte '0') ++ digits

/-- The permissions of three bits, as letters. -/
def letters (permissions : Nat) : Bytes :=
  [(4, 'r'), (2, 'w'), (1, 'x')].filterMap fun (bit, letter) =>
    if permissions &&& bit = 0 then none else some (byte letter)

/-- The permissions that a mask leaves to the owner, the group and others. -/
def symbols (mask : Nat) : Bytes :=
  let part := fun (entry : Char × Nat) =>
    byte entry.1 :: byte '=' :: letters (left mask >>> entry.2)
  [byte ','].intercalate ([('u', 6), ('g', 3), ('o', 0)].map part)

/-- The mask that octal digits stand for. -/
def ofOctal? (text : Bytes) : Option Nat :=
  if text.all (isDigitOf 8) then some (numberOf 8 text % (everything + 1)) else none

/-- The last bits of those whose permissions a letter means. -/
def places (letter : UInt8) : Nat :=
  if letter = byte 'u' then 0o100
  else if letter = byte 'g' then 0o010
  else if letter = byte 'o' then 0o001
  else 0o111

/-- The three bits that a letter stands for, given the permissions there are: a permission, or those of
somebody. -/
def granted (present : Nat) (letter : UInt8) : Nat :=
  if letter = byte 'r' then 4
  else if letter = byte 'w' then 2
  else if letter = byte 'x' then 1
  else if letter = byte 'u' then present >>> 6 &&& 7
  else if letter = byte 'g' then present >>> 3 &&& 7
  else if letter = byte 'o' then present &&& 7
  else if letter = byte 'X' && present &&& 0o111 != 0 then 1
  else 0

/-- Changes permissions as a text says: for somebody, the permissions behind `=`, `+` or `-` are set, added
or taken away. `whose` is left from before; `present` are the permissions at first. -/
def change? (present : Nat) : Nat → Nat → Nat → Bytes → Option Nat
  | 0, _, permissions, _ => some permissions
  | fuel + 1, whose, permissions, text =>
    let people := text.takeWhile (Utf8.encode "augo").contains
    let named := people.foldl (fun whose letter => whose ||| places letter) whose
    let whose := if named = 0 then 0o111 else named
    match text.drop people.length with
    | [] => some permissions
    | operator :: rest =>
      let own := rest.takeWhile (Utf8.encode "rwxugoXs").contains
      let bits := own.foldl (fun bits letter => bits ||| granted present letter) 0 * whose
      let behind := rest.drop own.length
      let next := if operator = byte '=' then some (bits ||| (permissions &&& everything - whose * 7))
        else if operator = byte '+' then some (permissions ||| bits)
        else if operator = byte '-' then some (permissions &&& everything - bits)
        else none
      match next, behind with
      | none, _ => none
      | some permissions, [] => some permissions
      | some permissions, separator :: last =>
        if separator = byte ',' then change? present fuel 0 permissions last
        else change? present fuel whose permissions behind

/-- The mask that leaves the permissions of a text, given the mask before. -/
def ofSymbols? (mask : Nat) (text : Bytes) : Option Nat :=
  (change? (left mask) (text.length + 1) 0 (left mask) text).map left

end LineShell.Machine.Shell.Mask
