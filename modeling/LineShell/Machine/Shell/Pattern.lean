import LineShell.Machine.Shell.Command

/-!
# Patterns

In a pattern `*` stands for any text, `?` for any byte, and brackets for one of several bytes. What is
quoted stands for itself.

* `Symbol`, `Pattern`: patterns.
* `Pattern.ofMarked`: the pattern of a text with quoted parts.
* `Pattern.matchesText`: the texts of a pattern.
* `cutFront`, `cutBack`: a text without what a pattern stands for at one of its ends.
-/

namespace LineShell.Machine.Shell

/-- A byte with the mark whether it is quoted. -/
abbrev Marked := UInt8 × Bool

/-- Classes of bytes by name. -/
def byteClasses : List (String × (UInt8 → Bool)) :=
  [("alnum", fun b => isNameByte b && b != byte '_'), ("alpha", fun b => isNameStart b && b != byte '_'),
    ("blank", fun b => b == byte ' ' || b == byte '\t'), ("cntrl", fun b => b < 0x20 || b == 0x7F),
    ("digit", isDigit), ("graph", fun b => 0x21 ≤ b && b < 0x7F),
    ("lower", fun b => byte 'a' ≤ b && b ≤ byte 'z'), ("print", fun b => 0x20 ≤ b && b < 0x7F),
    ("punct", fun b => 0x21 ≤ b && b < 0x7F && !(isNameByte b && b != byte '_')),
    ("space", fun b => b == byte ' ' || (byte '\t' ≤ b && b ≤ byte '\r')),
    ("upper", fun b => byte 'A' ≤ b && b ≤ byte 'Z'),
    ("xdigit", fun b => isDigit b || (byte 'a' ≤ b && b ≤ byte 'f') || (byte 'A' ≤ b && b ≤ byte 'F'))]

/-- A member of a set in brackets: a range of bytes, or a class. -/
inductive Member where
  | range (low high : UInt8)
  | named (name : Bytes)
deriving DecidableEq, Repr

/-- Whether a byte is a member of a class. -/
def Member.holds (member : Member) (b : UInt8) : Bool :=
  match member with
  | .range low high => low ≤ b && b ≤ high
  | .named name => (byteClasses.find? (Utf8.encode ·.1 == name)).any (·.2 b)

/-- A piece of a pattern. -/
inductive Symbol where
  | one (b : UInt8)
  | anyByte
  | anyText
  | set (negated : Bool) (members : List Member)
deriving DecidableEq, Repr

/-- Whether a piece stands for a byte. -/
def Symbol.holds (symbol : Symbol) (b : UInt8) : Bool :=
  match symbol with
  | .one c => b == c
  | .anyByte | .anyText => true
  | .set negated members => members.any (·.holds b) != negated

/-- A pattern: a text matches if its bytes match the symbols. -/
abbrev Pattern := List Symbol

namespace Pattern

/-- Whether a byte is a character that has its special meaning. -/
def isMarked (marked : Marked) (c : Char) : Bool :=
  marked == (byte c, false)

/-- The name of a class of bytes behind `[:`, and what stands behind `:]`. -/
def className? (text : List Marked) : Option (Bytes × List Marked) :=
  let name := text.takeWhile fun marked => marked.1 != byte ':' && marked.1 != byte ']'
  match text.drop name.length with
  | colon :: bracket :: rest =>
    if isMarked colon ':' && isMarked bracket ']' then some (name.map (·.1), rest) else none
  | _ => none

/-- The members of a set up to the bracket that closes it, in reverse; a bracket in the first place is a
member. There is no set without a closing bracket. -/
def members? (first : Bool) (found : List Member) :
    Nat → List Marked → Option (List Member × List Marked)
  | 0, _ => none
  | _, [] => none
  | fuel + 1, marked :: rest =>
    if isMarked marked ']' && !first then some (found, rest)
    else
      let named := match rest with
        | colon :: name =>
          if isMarked marked '[' && isMarked colon ':' then className? name else none
        | [] => none
      match named with
      | some (name, behind) => members? false (.named name :: found) fuel behind
      | none =>
        match rest with
        | hyphen :: high :: behind =>
          if isMarked hyphen '-' && !isMarked high ']' then
            members? false (.range marked.1 high.1 :: found) fuel behind
          else members? false (.range marked.1 marked.1 :: found) fuel rest
        | _ => members? false (.range marked.1 marked.1 :: found) fuel rest

/-- The set behind an opening bracket. -/
def set? (text : List Marked) : Option (Symbol × List Marked) :=
  let negated := text.head?.any fun marked => isMarked marked '!' || isMarked marked '^'
  let body := if negated then text.tail else text
  (members? true [] (body.length + 1) body).map fun found => (.set negated found.1, found.2)

def ofMarkedWith : Nat → List Marked → Pattern
  | 0, _ => []
  | _, [] => []
  | fuel + 1, marked :: rest =>
    if isMarked marked '*' then .anyText :: ofMarkedWith fuel rest
    else if isMarked marked '?' then .anyByte :: ofMarkedWith fuel rest
    else if isMarked marked '[' then
      match set? rest with
      | some (symbol, behind) => symbol :: ofMarkedWith fuel behind
      | none => .one marked.1 :: ofMarkedWith fuel rest
    else if isMarked marked '\\' then
      -- A backslash that came out of a value quotes the next byte.
      match rest with
      | next :: behind => .one next.1 :: ofMarkedWith fuel behind
      | [] => [.one marked.1]
    else .one marked.1 :: ofMarkedWith fuel rest

/-- The pattern of a text. -/
def ofMarked (text : List Marked) : Pattern :=
  ofMarkedWith text.length text

/-- Whether a pattern stands for more than one text. -/
def isOpen (pattern : Pattern) : Bool :=
  pattern.any fun
    | .one _ => false
    | _ => true

/-- Whether a pattern stands for a text. -/
def matchesText : Pattern → Bytes → Bool
  | [], text => text.isEmpty
  | .anyText :: pattern, [] => matchesText pattern []
  | .anyText :: pattern, b :: text => matchesText pattern (b :: text) || matchesText (.anyText :: pattern) text
  | _ :: _, [] => false
  | symbol :: pattern, b :: text => symbol.holds b && matchesText pattern text
termination_by pattern text => (pattern.length, text.length)

/-- The lengths up to that of a text, in the order in which they are tried. -/
def lengths (longest : Bool) (text : Bytes) : List Nat :=
  let upwards := List.range (text.length + 1)
  if longest then upwards.reverse else upwards

/-- A text without the shortest or longest part at its front that a pattern stands for. -/
def cutFront (pattern : Pattern) (longest : Bool) (text : Bytes) : Bytes :=
  match (lengths longest text).find? fun n => pattern.matchesText (text.take n) with
  | some n => text.drop n
  | none => text

/-- A text without the shortest or longest part at its back that a pattern stands for. -/
def cutBack (pattern : Pattern) (longest : Bool) (text : Bytes) : Bytes :=
  match (lengths longest text).find? fun n => pattern.matchesText (text.drop (text.length - n)) with
  | some n => text.take (text.length - n)
  | none => text

end Pattern

end LineShell.Machine.Shell
