import LineShell.Machine.Number
import LineShell.Machine.Shell.Command

/-!
# Arithmetic

Expressions over whole numbers of 64 bits, with the operators and the precedence of C.

* `Expression`: expressions.
* `Expression.ofText`: the expression that a text stands for.
* `Expression.evaluate`: its value, and the variables that it sets.
-/

namespace LineShell.Machine.Shell

/-- An operator with two operands. -/
inductive BinaryOperator where
  | or | and | bitOr | bitXor | bitAnd | equal | unequal | less | atMost | greater | atLeast
  | shiftLeft | shiftRight | plus | minus | times | quotient | remainder
deriving DecidableEq, Repr

/-- An operator with one operand. -/
inductive UnaryOperator where
  | negate | not | complement
deriving DecidableEq, Repr

/-- What is wrong with an expression. -/
inductive ArithmeticFault where
  | operandMissing
  | parenthesisMissing
  | colonMissing
  | textLeft
  | divisionByZero
  | illegalNumber (text : Bytes)
deriving DecidableEq, Repr

/-- What a fault says, besides the text of the expression. -/
def ArithmeticFault.reason : ArithmeticFault → String
  | .operandMissing => "expecting primary"
  | .parenthesisMissing => "expecting ')'"
  | .colonMissing => "expecting ':'"
  | .textLeft => "expecting EOF"
  | .divisionByZero => "division by zero"
  | .illegalNumber _ => "Illegal number"

/-- An arithmetic expression. Where something is wrong with its text, that stands in its place: an expression
is evaluated as far as it goes, and there may be something else wrong before. -/
inductive Expression where
  | number (value : Int)
  | named (name : Bytes)
  | unary (operator : UnaryOperator) (operand : Expression)
  | binary (operator : BinaryOperator) (left right : Expression)
  | choice (condition left right : Expression)
  | assign (name : Bytes) (operator : Option BinaryOperator) (value : Expression)
  | wrong (fault : ArithmeticFault)
  | wrongBehind (before : Expression) (fault : ArithmeticFault)
deriving Repr

/-! ### Reading -/

/-- A unit of an expression. -/
inductive ArithmeticToken where
  | number (value : Int)
  | name (name : Bytes)
  | sign (text : String)
deriving DecidableEq, Repr

/-- A number kept to 64 bits. -/
def wrap (n : Int) : Int :=
  n.bmod wordCount

/-- The operators, those that begin with another one before it. -/
def arithmeticSigns : List String :=
  ["<<=", ">>=", "<<", ">>", "<=", ">=", "==", "!=", "&&", "||", "+=", "-=", "*=", "/=", "%=", "&=", "^=",
    "|=", "=", "<", ">", "!", "~", "+", "-", "*", "/", "%", "&", "^", "|", "?", ":", "(", ")"]

/-- The units of a text. A byte that belongs to none is an empty sign. -/
def arithmeticTokens : Nat → Bytes → List ArithmeticToken
  | 0, _ => []
  | _, [] => []
  | fuel + 1, b :: rest =>
    if isWordGap b then arithmeticTokens fuel rest
    else if isDigit b then
      -- Numbers that are too large count as the largest one.
      let (value, behind) := leadingNumber .any (b :: rest)
      .number (clamp value) :: arithmeticTokens fuel behind
    else if isNameStart b then
      let name := (b :: rest).takeWhile isNameByte
      .name name :: arithmeticTokens fuel ((b :: rest).drop name.length)
    else
      match arithmeticSigns.find? fun sign => (Utf8.encode sign).isPrefixOf (b :: rest) with
      | some sign => .sign sign :: arithmeticTokens fuel ((b :: rest).drop sign.length)
      | none => .sign "" :: arithmeticTokens fuel rest

/-- The operators with two operands, those that bind least first. -/
def binaryLevels : List (List (String × BinaryOperator)) :=
  [[("||", .or)], [("&&", .and)], [("|", .bitOr)], [("^", .bitXor)], [("&", .bitAnd)],
    [("==", .equal), ("!=", .unequal)],
    [("<=", .atMost), (">=", .atLeast), ("<", .less), (">", .greater)],
    [("<<", .shiftLeft), (">>", .shiftRight)], [("+", .plus), ("-", .minus)],
    [("*", .times), ("/", .quotient), ("%", .remainder)]]

/-- The operators of assignments. -/
def assignmentSigns : List (String × Option BinaryOperator) :=
  [("=", none), ("*=", some .times), ("/=", some .quotient), ("%=", some .remainder), ("+=", some .plus),
    ("-=", some .minus), ("<<=", some .shiftLeft), (">>=", some .shiftRight), ("&=", some .bitAnd),
    ("^=", some .bitXor), ("|=", some .bitOr)]

/-- The signs in front of an operand. -/
def unarySigns : List (String × UnaryOperator) :=
  [("-", .negate), ("!", .not), ("~", .complement)]

namespace Expression

/-- The result of a reading: what was read and the units behind it. Behind something wrong nothing is left. -/
abbrev Result := Expression × List ArithmeticToken

/-- Reads an operand, given how a whole expression is read. -/
def readOperand (whole : List ArithmeticToken → Result) : List ArithmeticToken → Result
  | .number value :: rest => (.number value, rest)
  | .name name :: rest => (.named name, rest)
  | .sign sign :: rest =>
    if sign = "+" then readOperand whole rest
    else if sign = "(" then
      match whole rest with
      | (inner, .sign ")" :: rest) => (inner, rest)
      | (inner, _) => (.wrongBehind inner .parenthesisMissing, [])
    else
      match unarySigns.lookup sign with
      | some operator =>
        let (operand, rest) := readOperand whole rest
        (.unary operator operand, rest)
      | none => (.wrong .operandMissing, [])
  | [] => (.wrong .operandMissing, [])

/-- Reads operands with operators of one level between them. -/
def readSeries (signs : List (String × BinaryOperator)) (operand : List ArithmeticToken → Result) :
    Nat → Expression → List ArithmeticToken → Result
  | fuel + 1, left, .sign sign :: rest =>
    match signs.lookup sign with
    | some operator =>
      let (right, rest) := operand rest
      readSeries signs operand fuel (.binary operator left right) rest
    | none => (left, .sign sign :: rest)
  | _, left, rest => (left, rest)

/-- Reads an expression with operators with two operands. `fuel` bounds how many there are. -/
def readBinary (fuel : Nat) (operand : List ArithmeticToken → Result) :
    List (List (String × BinaryOperator)) → List ArithmeticToken → Result
  | [], tokens => operand tokens
  | signs :: levels, tokens =>
    let (left, rest) := readBinary fuel operand levels tokens
    readSeries signs (readBinary fuel operand levels) fuel left rest

/-- Reads a choice, or an expression without one, given how a whole expression and another choice are
read. -/
def readChoice (fuel : Nat) (whole choice : List ArithmeticToken → Result)
    (tokens : List ArithmeticToken) : Result :=
  match readBinary fuel (readOperand whole) binaryLevels tokens with
  | (condition, .sign "?" :: rest) =>
    match whole rest with
    | (left, .sign ":" :: rest) =>
      let (right, rest) := choice rest
      (.choice condition left right, rest)
    | (left, _) => (.choice condition left (.wrong .colonMissing), [])
  | read => read

/-- Reads an expression, which may be an assignment if `assigning` says so. `depth` bounds how deep it may
be nested. -/
def read (fuel : Nat) : Nat → Bool → List ArithmeticToken → Result
  | 0, _, _ => (.wrong .operandMissing, [])
  | depth + 1, assigning, tokens =>
    let choice := readChoice fuel (read fuel depth true) (read fuel depth false)
    match assigning, tokens with
    | true, .name name :: .sign sign :: rest =>
      match assignmentSigns.lookup sign with
      | some operator =>
        let (value, rest) := read fuel depth true rest
        (.assign name operator value, rest)
      | none => choice tokens
    | _, _ => choice tokens

/-- The expression that a text stands for. -/
def ofText (text : Bytes) : Expression :=
  let tokens := arithmeticTokens text.length text
  let fuel := tokens.length + 1
  match read fuel fuel true tokens with
  | (expression, []) => expression
  | (expression, _) => .wrongBehind expression .textLeft

/-- The first thing that is wrong with the text of an expression. -/
def fault? : Expression → Option ArithmeticFault
  | .number _ | .named _ => none
  | .unary _ operand => operand.fault?
  | .binary _ left right => left.fault?.or right.fault?
  | .choice condition left right => (condition.fault?.or left.fault?).or right.fault?
  | .assign _ _ value => value.fault?
  | .wrong fault => some fault
  | .wrongBehind before fault => before.fault?.or (some fault)

end Expression

/-! ### Values -/

def ofBool (b : Bool) : Int :=
  if b then 1 else 0

/-- A number as 64 bits. -/
def bits (n : Int) : BitVec 64 :=
  BitVec.ofInt 64 n

/-- The value of an operator; there is none for a division by zero. -/
def BinaryOperator.apply? (operator : BinaryOperator) (a b : Int) : Option Int :=
  match operator with
  | .or => some (ofBool (a != 0 || b != 0))
  | .and => some (ofBool (a != 0 && b != 0))
  | .bitOr => some (bits a ||| bits b).toInt
  | .bitXor => some (bits a ^^^ bits b).toInt
  | .bitAnd => some (bits a &&& bits b).toInt
  | .equal => some (ofBool (a == b))
  | .unequal => some (ofBool (a != b))
  | .less => some (ofBool (a < b))
  | .atMost => some (ofBool (a ≤ b))
  | .greater => some (ofBool (b < a))
  | .atLeast => some (ofBool (b ≤ a))
  | .shiftLeft => some (bits a <<< (b % 64).toNat).toInt
  | .shiftRight => some ((bits a).sshiftRight (b % 64).toNat).toInt
  | .plus => some (wrap (a + b))
  | .minus => some (wrap (a - b))
  | .times => some (wrap (a * b))
  | .quotient => if b = 0 then none else some (wrap (a.tdiv b))
  | .remainder => if b = 0 then none else some (a.tmod b)

/-- The value of a sign in front of a number. -/
def UnaryOperator.apply (operator : UnaryOperator) (a : Int) : Int :=
  match operator with
  | .negate => wrap (-a)
  | .not => ofBool (a == 0)
  | .complement => wrap (-a - 1)

/-- An evaluation. Its state is the variables that have been set, the last one first; they stay set if
something is wrong. -/
abbrev Evaluation := ExceptT ArithmeticFault (StateM (List (Bytes × Int)))

/-- The value of a variable that may have been set in the same expression. -/
def Evaluation.named (valueOf : Bytes → Except ArithmeticFault Int) (name : Bytes) : Evaluation Int := do
  match (← get).lookup name with
  | some value => return value
  | none => liftExcept (valueOf name)
where
  liftExcept : Except ArithmeticFault Int → Evaluation Int
    | .ok value => return value
    | .error fault => throw fault

/-- Applies an operator. -/
def Evaluation.apply (operator : BinaryOperator) (a b : Int) : Evaluation Int :=
  match operator.apply? a b with
  | some value => return value
  | none => throw .divisionByZero

/-- Passes an expression over. What is wrong with its text is wrong nevertheless. -/
def Evaluation.pass (expression : Expression) : Evaluation Unit :=
  match expression.fault? with
  | some fault => throw fault
  | none => return

/-- The value of an expression, given those of variables. Only the part of a choice that is chosen is
evaluated, and the right side of `&&` and `||` only if the left one does not decide. -/
def Expression.evaluate (valueOf : Bytes → Except ArithmeticFault Int) : Expression → Evaluation Int
  | .number value => return wrap value
  | .named name => Evaluation.named valueOf name
  | .unary operator operand => return operator.apply (← operand.evaluate valueOf)
  | .binary .or left right => do
    if (← left.evaluate valueOf) != 0 then
      Evaluation.pass right
      return 1
    return ofBool ((← right.evaluate valueOf) != 0)
  | .binary .and left right => do
    if (← left.evaluate valueOf) = 0 then
      Evaluation.pass right
      return 0
    return ofBool ((← right.evaluate valueOf) != 0)
  | .binary operator left right => do
    let a ← left.evaluate valueOf
    let b ← right.evaluate valueOf
    Evaluation.apply operator a b
  | .choice condition left right => do
    if (← condition.evaluate valueOf) != 0 then
      let value ← left.evaluate valueOf
      Evaluation.pass right
      return value
    Evaluation.pass left
    right.evaluate valueOf
  | .assign name operator value => do
    let new ← value.evaluate valueOf
    let result ← match operator with
      | none => pure new
      | some operator => Evaluation.apply operator (← Evaluation.named valueOf name) new
    modify ((name, result) :: ·)
    return result
  | .wrong fault => throw fault
  | .wrongBehind before fault => do
    let _ ← before.evaluate valueOf
    throw fault

end LineShell.Machine.Shell
