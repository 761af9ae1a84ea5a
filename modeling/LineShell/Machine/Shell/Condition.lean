import LineShell.Machine.Shell.State
import LineShell.Machine.Shell.Expansion

/-!
# Conditions

The conditions of `test`: tests of files, texts and numbers, with `!`, `-a`, `-o` and parentheses.

* `UnaryTest`, `BinaryTest`: the tests of one operand and of two.
* `Condition.holds`: whether the arguments of `test` are a condition that holds.
-/

namespace LineShell.Machine.Shell

/-- What is wrong with a condition. -/
inductive ConditionFault where
  | argumentMissing (operator : Bytes)
  | unexpected (word : Bytes)
  | notClosed
  | notANumber (text : Bytes)
deriving DecidableEq, Repr

/-- What is said about a fault. -/
def ConditionFault.message : ConditionFault → Bytes
  | .argumentMissing operator => operator ++ Utf8.encode ": argument expected"
  | .unexpected word =>
    (if word.isEmpty then [] else word ++ Utf8.encode ": ") ++ Utf8.encode "unexpected operator"
  | .notClosed => Utf8.encode "closing paren expected"
  | .notANumber text => Utf8.encode "Illegal number: " ++ text

namespace Condition

/-- The result of a check, unless the condition makes no sense. -/
abbrev Check := Except ConditionFault

/-! ### Tests -/

/-- A test of one operand: of what is at a path, of a descriptor, or of a text. Nothing in a tree has one of the
`otherKind`s. -/
inductive UnaryTest where
  | present
  | plain
  | directory
  | device
  | executable
  | filled
  | link
  | otherKind
  | terminal
  | emptyText
  | filledText
deriving DecidableEq, Repr

/-- The signs of the tests of one operand. -/
def unaryTests : List (String × UnaryTest) :=
  [("-e", .present), ("-r", .present), ("-w", .present), ("-O", .present), ("-G", .present), ("-f", .plain),
    ("-d", .directory), ("-c", .device), ("-x", .executable), ("-s", .filled), ("-h", .link), ("-L", .link),
    ("-b", .otherKind), ("-p", .otherKind), ("-u", .otherKind), ("-g", .otherKind), ("-k", .otherKind),
    ("-S", .otherKind), ("-t", .terminal), ("-z", .emptyText), ("-n", .filledText)]

/-- A relation between numbers. -/
inductive NumberRelation where
  | equal | unequal | atLeast | greater | atMost | less
deriving DecidableEq, Repr

/-- Whether a relation holds between two numbers. -/
def NumberRelation.holds : NumberRelation → Int → Int → Bool
  | .equal, a, b => a == b
  | .unequal, a, b => a != b
  | .atLeast, a, b => b ≤ a
  | .greater, a, b => b < a
  | .atMost, a, b => a ≤ b
  | .less, a, b => a < b

/-- A test of two operands: texts that are the same or not, or in order; files that are the same, or of
different age, which is not known; and numbers. -/
inductive BinaryTest where
  | same
  | different
  | before
  | behind
  | sameFile
  | otherAge
  | numbers (relation : NumberRelation)
deriving DecidableEq, Repr

/-- The signs of the tests of two operands. -/
def binaryTests : List (String × BinaryTest) :=
  [("=", .same), ("!=", .different), ("<", .before), (">", .behind), ("-ef", .sameFile), ("-nt", .otherAge),
    ("-ot", .otherAge), ("-eq", .numbers .equal), ("-ne", .numbers .unequal), ("-ge", .numbers .atLeast),
    ("-gt", .numbers .greater), ("-le", .numbers .atMost), ("-lt", .numbers .less)]

/-- The test that a word is the sign of. -/
def testOf? {α : Type} (tests : List (String × α)) (word : Bytes) : Option α :=
  (tests.find? (Utf8.encode ·.1 == word)).map (·.2)

/-- The node at a path; a symbolic link at its end is followed or not. -/
def nodeAt? (process : Process) (follow : Bool) (path : Bytes) : Option (Ino × Node) := do
  let i ← (do
    Tree.checkPath path
    process.tree.walk follow maxLinks (Tree.origin process.here path) (names path)).toOption
  let node ← process.tree.node? i
  return (i, node)

/-- The number that an operand stands for. -/
def number (text : Bytes) : Check Int :=
  match integer? .ten text with
  | some n => .ok n
  | none => .error (.notANumber text)

/-- Whether a test of one operand holds. -/
def unary (process : Process) (test : UnaryTest) (operand : Bytes) : Check Bool := do
  let node := (nodeAt? process true operand).map (·.2)
  match test with
  | .present => return node.isSome
  | .plain => return node.any fun
    | .file .. | .utility _ => true
    | _ => false
  | .directory => return node.any fun
    | .directory .. => true
    | _ => false
  | .device => return node.any fun
    | .device => true
    | _ => false
  | .executable => return node.any fun
    | .directory .. | .utility _ => true
    | .file _ executable => executable
    | _ => false
  | .filled => return node.any fun
    | .file content _ => !content.isEmpty
    | .directory .. | .utility _ => true
    | _ => false
  | .link => return ((nodeAt? process false operand).map (·.2)).any fun
    | .link _ => true
    | _ => false
  | .otherKind => return false
  | .terminal =>
    let _ ← number operand
    return false
  | .emptyText => return operand.isEmpty
  | .filledText => return !operand.isEmpty

/-- Whether a test of two operands holds. -/
def binary (process : Process) (left : Bytes) (test : BinaryTest) (right : Bytes) : Check Bool := do
  match test with
  | .same => return left == right
  | .different => return left != right
  | .before => return left < right
  | .behind => return right < left
  | .sameFile =>
    let place := fun path => (nodeAt? process true path).map (·.1)
    return (place left).isSome && place left == place right
  | .otherAge => return false
  | .numbers relation => return relation.holds (← number left) (← number right)

/-! ### Conditions -/

/-- Whether the sign of a test in front stands for itself, because nothing or a test of two operands
follows. -/
def isOperand : List Bytes → Bool
  | [] => true
  | [_] => false
  | sign :: _ :: _ => (testOf? binaryTests sign).isSome

/-- A condition without `!`, `-a` and `-o` around it, and the words behind it. -/
def primary (process : Process) (whole : List Bytes → Check (Bool × List Bytes)) :
    List Bytes → Check (Bool × List Bytes)
  | [] => .ok (false, [])
  | word :: rest => do
    if word = [byte '('] && !rest.isEmpty then
      if rest.head? = some [byte ')'] then return (false, rest.tail)
      let (holds, behind) ← whole rest
      match behind with
      | closing :: behind => if closing = [byte ')'] then return (holds, behind) else throw .notClosed
      | [] => throw .notClosed
    else
      match testOf? unaryTests word, isOperand rest, rest with
      | some test, false, operand :: behind => return (← unary process test operand, behind)
      | _, _, sign :: right :: behind =>
        match testOf? binaryTests sign with
        | some test => return (← binary process word test right, behind)
        | none => return (!word.isEmpty, rest)
      | _, _, [sign] =>
        if (testOf? binaryTests sign).isSome then throw (.argumentMissing sign)
        return (!word.isEmpty, rest)
      | _, _, [] => return (!word.isEmpty, rest)

/-- A condition with any number of `!` in front. -/
def negated (process : Process) (whole : List Bytes → Check (Bool × List Bytes)) :
    List Bytes → Check (Bool × List Bytes)
  | word :: rest =>
    if word = [byte '!'] then
      (negated process whole rest).map fun found => (!found.1, found.2)
    else primary process whole (word :: rest)
  | [] => primary process whole []

/-- Conditions with one operator between them. -/
def series (sign : String) (join : Bool → Bool → Bool) (one : List Bytes → Check (Bool × List Bytes)) :
    Nat → List Bytes → Check (Bool × List Bytes)
  | 0, words => one words
  | fuel + 1, words => do
    let (left, rest) ← one words
    match rest with
    | word :: behind =>
      if word = Utf8.encode sign then
        let (right, last) ← series sign join one fuel behind
        return (join left right, last)
      return (left, rest)
    | [] => return (left, [])

/-- A condition. `fuel` bounds how deep parentheses may be nested. -/
def whole (process : Process) : Nat → List Bytes → Check (Bool × List Bytes)
  | 0, words => .ok (false, words)
  | fuel + 1, words =>
    series "-o" or (series "-a" and (negated process (whole process fuel)) words.length) words.length words

/-- Whether all words together are a condition that holds. If words are left behind a condition, its last
word is blamed. -/
def complete (process : Process) (words : List Bytes) : Check Bool := do
  let (holds, rest) ← whole process (words.length + 1) words
  if rest.isEmpty then return holds
  throw (.unexpected ((words[words.length - rest.length - 1]?).getD []))

/-- The test of two operands that three words are. -/
def binaryOf? : List Bytes → Option (Bytes × BinaryTest × Bytes)
  | [left, sign, right] => (testOf? binaryTests sign).map (left, ·, right)
  | _ => none

/-- Whether words are a condition that holds. Three or four of them are read by their number, so that no
operand is taken for an operator; `fuel` bounds how many `!` stand in front. -/
def holdsWith (process : Process) : Nat → List Bytes → Check Bool
  | fuel, words =>
    let few := words.length = 3 || words.length = 4
    match binaryOf? words with
    | some (left, test, right) => binary process left test right
    | none =>
      if few && words.head? = some [byte '('] && words.getLast? = some [byte ')'] then
        complete process words.tail.dropLast
      else
        match fuel with
        | 0 => complete process words
        | fuel + 1 =>
          if few && words.head? = some [byte '!'] then (holdsWith process fuel words.tail).map (!·)
          else complete process words

/-- Whether the arguments of `test` are a condition that holds. -/
def holds (process : Process) (words : List Bytes) : Check Bool :=
  holdsWith process words.length words

end Condition

end LineShell.Machine.Shell
