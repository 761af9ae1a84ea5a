import LineShell.Machine.Shell.Source

/-!
# Tokens

How the text of a script is cut into tokens, and its words into parts.

* `Mode`: where in a word the reading stands.
* `readParts`: the parts of a word.
* `startLine`, `readDocuments`: texts in the script.
* `readToken`, `readAgain`: tokens.
-/

namespace LineShell.Machine.Shell

/-- Where the parts that are read stand: in a word, in one that marks the end of a text, between double
quotes, which may stand in the braces of a parameter, in a text in the script, in such braces, or in an
arithmetic expression. -/
inductive Mode where
  | bare
  | mark
  | quoted (inBraces : Bool)
  | document
  | braces (quoted : Bool)
  | arithmetic
deriving DecidableEq, Repr

/-- Whether what is looked up counts as quoted. -/
def Mode.isQuoted : Mode → Bool
  | .bare | .mark | .braces false => false
  | _ => true

/-- Parts of a word that are being read, in reverse; the bytes at the end of the last text are kept apart,
in reverse as well. In an arithmetic expression parentheses have been opened, `depth` of them; in quoted
braces there may be quotes again, in which a brace does not close. -/
structure Draft where
  parts : List Part := []
  quoted : Bool := false
  run : Option Bytes := none
  depth : Nat := 0
  inQuotes : Bool := false

namespace Draft

/-- Ends the last text. -/
def flush (draft : Draft) : Draft :=
  match draft.run with
  | none => draft
  | some run => { draft with parts := .text draft.quoted run.reverse :: draft.parts, run := none }

/-- Adds bytes of a text. -/
def add (draft : Draft) (quoted : Bool) (bytes : Bytes) : Draft :=
  match draft.run with
  | some run =>
    if draft.quoted = quoted then { draft with run := some (bytes.reverse ++ run) }
    else { draft.flush with quoted, run := some bytes.reverse }
  | none => { draft with quoted, run := some bytes.reverse }

/-- Adds other parts. -/
def append (draft : Draft) (parts : List Part) : Draft :=
  { draft.flush with parts := parts.reverse ++ draft.flush.parts }

/-- The word of a draft. -/
def toWord (draft : Draft) : Word :=
  draft.flush.parts.reverse

end Draft

/-- The bytes that end a word outside quotes. -/
def endsWord (b : UInt8) : Bool :=
  (Utf8.encode " \t\n;&|()<>").contains b

/-- Reads the rest of the line that ends a text, if the mark is all that is left of it. -/
def readMark : Bytes → Reading Bool
  | [] => do
    let ending ← nextByte
    if ending.isNone then modify fun source => { source with line := source.line + 1 }
    return ending.all (· == byte '\n')
  | b :: rest => do
    if (← nextByte) = some b then readMark rest else return false

/-- Reads tabs. -/
def skipTabs : Reading Unit :=
  repeatStep (fun () => do
    if (← peekByte) = some (byte '\t') then
      let _ ← nextByte
      return .inl ()
    return .inr ()) ()

/-- Starts a line of the text in the script that is being read, if one is. The line that ends it is read. -/
def startLine : Reading Unit := do
  if let some document := (← get).document then
    if document.stripTabs then skipTabs
    let before ← get
    if ← readMark document.mark then
      modify fun source => { source with document := some { document with ended := true } }
    else set before

/-- The next byte of a word; none at the end of the script, and of the text in it that is being read. -/
def nextInside : Reading (Option UInt8) := do
  if (← get).document.any (·.ended) then return none
  nextByte

/-- The end of a script between quotes. In a text of the script there are quotes only between braces, which
are missed then. -/
def endQuoted {α : Type} : Reading α := do
  fault (if (← get).document.isNone then "Unterminated quoted string" else "Missing '\x7d'")

/-- The bytes between single quotes. -/
def readSingle : Reading Bytes :=
  repeatStep (fun (read : Bytes) => do
    match ← nextInside with
    | none => endQuoted
    | some b =>
      if b = byte '\'' then return .inr read.reverse
      if b = byte '\n' then startLine
      return .inl (b :: read)) []

/-- The text between backquotes, with the backslashes removed that stand for one level of quoting. -/
def readBackquoted (quoted : Bool) : Reading Bytes :=
  repeatStep (fun (read : Bytes) => do
    match ← nextJoined with
    | none => fault "EOF in backquote substitution"
    | some b =>
      if b = byte '`' then return .inr read.reverse
      else if b = byte '\\' then
        match ← nextByte with
        | none => return .inl (b :: read)
        | some c =>
          if (Utf8.encode "\\`$").contains c || (quoted && c = byte '"') then return .inl (c :: read)
          else return .inl (c :: b :: read)
      else return .inl (b :: read)) []

/-- How the name in the braces of a parameter begins. -/
inductive BraceHead where
  | value (name : Bytes) (next : Option UInt8)
  | length (name : Bytes) (next : Option UInt8)
  | unknown (next : Option UInt8)

/-- Reads a name, or digits, from its first byte on. -/
def readNameFrom (first : UInt8) : Reading (Bytes × Option UInt8) :=
  readWhile (if isDigit first then isDigit else isNameByte) [first]

/-- Reads the name in braces. A number sign in front asks for the length of a value, unless it is a name
itself. -/
def readBraceHead : Reading BraceHead := do
  match ← nextJoined with
  | none => return .unknown none
  | some b =>
    if isNameByte b then
      let (name, next) ← readNameFrom b
      return .value name next
    else if b = byte '}' then return .unknown (some b)
    else
      let following ← nextJoined
      if b = byte '#' then
        match following with
        | none => return .value [b] none
        | some c =>
          if isNameByte c then
            let (name, next) ← readNameFrom c
            return .length name next
          else
            let behind ← nextJoined
            if c != byte '}' && behind = some (byte '}') then
              if isSpecial c then return .length [c] behind
              uncount (some c)
              return .unknown behind
            else
              putBack behind
              return .value [b] following
      else if isSpecial b then return .value [b] following
      else
        uncount (some b)
        return .unknown following

/-- The fallbacks by their signs. -/
def fallbackSigns : List (UInt8 × Fallback) :=
  [(byte '-', .use), (byte '=', .assign), (byte '?', .complain), (byte '+', .replace)]

/-- Reads what stands in the braces behind the name of a parameter. -/
def readChange (inner : Mode → Reading Word) (quoted : Bool) (next : Option UInt8) : Reading Change := do
  let orEmpty := next == some (byte ':')
  let sign ← if orEmpty then nextJoined else pure next
  match sign with
  | none =>
    let _ ← inner (.braces quoted)
    return .unknown
  | some b =>
    if b = byte '}' then
      -- A colon alone changes nothing, but another brace has to come.
      if orEmpty then
        let _ ← inner (.braces quoted)
      return .nothing
    else if let some kind := fallbackSigns.lookup b then
      return .fallback kind orEmpty (← inner (.braces quoted))
    else if (b = byte '%' || b = byte '#') && !orEmpty then
      let following ← nextJoined
      let longest := following == some b
      if !longest then putBack following
      return .trim (b == byte '%') longest (← inner (.braces false))
    else
      uncount sign
      let _ ← inner (.braces quoted)
      return .unknown

/-- Reads a parameter in braces. -/
def readBraces (inner : Mode → Reading Word) (quoted : Bool) : Reading Part := do
  match ← readBraceHead with
  | .value name next => return .parameter quoted name (← readChange inner quoted next)
  | .length name next =>
    if next = some (byte '}') then return .parameter quoted name .length
    putBack next
    let _ ← inner (.braces quoted)
    return .parameter quoted name .unknown
  | .unknown next =>
    putBack next
    let _ ← inner (.braces quoted)
    return .parameter quoted [] .unknown

/-- Reads what stands behind a dollar sign. `list` reads the commands up to a closing parenthesis. -/
def readDollar (inner : Mode → Reading Word) (list : Reading Command) (quoted : Bool) : Reading Part := do
  match ← nextJoined with
  | none => return .text quoted [byte '$']
  | some b =>
    if b = byte '(' then
      let following ← nextJoined
      if following = some (byte '(') then return .arithmetic quoted (← inner .arithmetic)
      putBack following
      return .output quoted (← list)
    else if b = byte '\x7b' then readBraces inner quoted
    else if isNameStart b then
      let (name, next) ← readWhile isNameByte [b]
      putBack next
      return .parameter quoted name .nothing
    else if isSpecial b then return .parameter quoted [b] .nothing
    else
      putBack (some b)
      return .text quoted [byte '$']

/-- Whether a backslash takes the meaning of a byte where words are quoted. In a text in the script double
quotes have one only between braces. -/
def isQuotable (inDocument : Bool) (mode : Mode) (b : UInt8) : Bool :=
  (Utf8.encode "\\`$").contains b ||
    (b == byte '"' && !(mode == .document || inDocument && mode == .arithmetic)) ||
    (b == byte '}' && (mode == .braces true || mode == .quoted true))

/-- The parts that double quotes around a word make. They are a field even around nothing, but not around
all parameters and nothing else. -/
def quotedParts : Word → Word
  | [.parameter true [0x40] .nothing] => [.parameter true [0x40] .nothing]
  | word => .text true [] :: word

/-- Reads what stands behind a backslash. -/
def readEscaped (mode : Mode) (draft : Draft) : Reading Draft := do
  match ← nextByte with
  | none => return draft.add mode.isQuoted [byte '\\']
  | some b =>
    if b = byte '\n' then return draft
    let inDocument := (← get).document.isSome
    if mode.isQuoted && !isQuotable inDocument mode b then return draft.add true [byte '\\', b]
    return draft.add true [b]

/-- Reads the commands in a text between backquotes. -/
def readBackquotes (command : Reading Command) (quoted : Bool) : Reading Part := do
  let text ← readBackquoted quoted
  return .output quoted (← within text 1 command)

/-- The end of a script in the middle of a word. -/
def endInside (mode : Mode) (draft : Draft) : Reading (Draft ⊕ Word) :=
  match mode with
  | .bare | .mark | .document => return .inr draft.toWord
  | .quoted _ | .braces true => endQuoted
  | .braces false => fault "Missing '\x7d'"
  | .arithmetic => fault "Missing '))'"

/-- Reads the next piece of a word. `list` reads commands up to a closing parenthesis, `command` those up to
the end of a text. -/
def readPiece (inner : Mode → Reading Word) (list command : Reading Command) (mode : Mode) (draft : Draft) :
    Reading (Draft ⊕ Word) := do
  let quoted := mode.isQuoted
  match ← nextInside with
  | none => endInside mode draft
  | some b =>
    let literal := fun () => do
      if b = byte '\n' then startLine
      return (.inl (draft.add quoted [b]) : Draft ⊕ Word)
    if b = byte '\\' then return .inl (← readEscaped mode draft)
    else if b = byte '$' && mode != .mark then
      return .inl (draft.append [← readDollar inner list quoted])
    else if b = byte '`' && mode != .mark then
      return .inl (draft.append [← readBackquotes command quoted])
    else
      match mode with
      | .bare | .mark =>
        if endsWord b then
          putBack (some b)
          return .inr draft.toWord
        else if b = byte '\'' then return .inl (draft.add true (← readSingle))
        else if b = byte '"' then return .inl (draft.append (quotedParts (← inner (.quoted false))))
        else literal ()
      | .quoted _ => if b = byte '"' then return .inr draft.toWord else literal ()
      | .document => literal ()
      | .braces false =>
        if b = byte '}' then return .inr draft.toWord
        else if b = byte '\'' then return .inl (draft.add true (← readSingle))
        else if b = byte '"' then return .inl (draft.append (quotedParts (← inner (.quoted true))))
        else literal ()
      | .braces true =>
        if b = byte '"' then return .inl { draft with inQuotes := !draft.inQuotes }
        else if b = byte '}' && !draft.inQuotes then return .inr draft.toWord
        else literal ()
      | .arithmetic =>
        if b = byte '(' then return .inl { draft.add true [b] with depth := draft.depth + 1 }
        else if b = byte ')' then
          if 0 < draft.depth then return .inl { draft.add true [b] with depth := draft.depth - 1 }
          let following ← nextJoined
          if following = some (byte ')') then return .inr draft.toWord
          putBack following
          literal ()
        else literal ()

/-- Reads the parts of a word. Given the same for what stands inside of it, `list` reads commands up to a
closing parenthesis, and `command` those up to the end of a text. -/
def readParts (list command : (Mode → Reading Word) → Reading Command) : Nat → Mode → Reading Word
  | 0, _ => fault "Script too deep"
  | fuel + 1, mode =>
    let inner := readParts list command fuel
    repeatStep (readPiece inner (list inner) (command inner) mode) {}

/-! ### Texts in the script -/

/-- Reads the bytes of a text in the script that is literal. -/
def readLiteral : Reading Bytes := do
  startLine
  repeatStep (fun (read : Bytes) => do
    match ← nextInside with
    | none => return .inr read.reverse
    | some b =>
      if b = byte '\n' then startLine
      return .inl (b :: read)) []

/-- Reads the text that has been announced. One that is not literal is a word. -/
def readDocument (parts : Mode → Reading Word) (announcement : Announcement) : Reading Unit := do
  let outer := (← get).document
  let document : Document := { mark := announcement.mark, stripTabs := announcement.stripTabs }
  modify fun source => { source with document := some document }
  let word ←
    if announcement.literal then pure [Part.text true (← readLiteral)]
    else do
      startLine
      parts .document
  modify fun source =>
    { source with document := outer, documents := source.documents.set announcement.number word }

/-- Reads the texts that have been announced. -/
def readDocuments (parts : Mode → Reading Word) : Reading Unit := do
  let announced := (← get).announced
  modify fun source => { source with announced := [] }
  announced.forM (readDocument parts)

/-- Reads commands inside a word. Texts that are announced in them have to come in them. -/
def readInside (parts : Mode → Reading Word) (commands : Reading Command) : Reading Command := do
  let { announced, document, .. } ← get
  modify fun source => { source with announced := [], document := none }
  let read ← commands
  within [] (← get).line (readDocuments parts)
  modify fun source => { source with announced, document }
  return read

/-! ### Tokens -/

/-- The words with a meaning where a command starts. -/
def keywords : List String :=
  ["!", "case", "do", "done", "elif", "else", "esac", "fi", "for", "if", "in", "then", "until", "while",
    "\x7b", "\x7d"]

/-- The keywords that end a list of commands. -/
def closingKeywords : List String :=
  ["do", "done", "elif", "else", "esac", "fi", "then", "\x7d"]

namespace Token

/-- What a token is called in complaints. -/
def name : Token → String
  | .endOfFile => "end of file"
  | .operator sign => if sign = "\n" then "newline" else "\"" ++ sign ++ "\""
  | .redirection .. => "redirection"
  | .word .. => "word"
  | .keyword text => "\"" ++ text ++ "\""

/-- Whether a unit is a certain operator. -/
def isOperator (token : Token) (sign : String) : Bool :=
  match token with
  | .operator found => found == sign
  | _ => false

/-- Whether a unit is a certain keyword. -/
def isKeyword (token : Token) (text : String) : Bool :=
  match token with
  | .keyword found => found == text
  | _ => false

/-- Whether a token ends a list of commands. -/
def endsList : Token → Bool
  | .endOfFile => true
  | .operator sign => sign == ")" || sign == ";;"
  | .keyword text => closingKeywords.contains text
  | _ => false

end Token

/-- Reads an operator of one or two equal bytes. -/
def readOperator (b : UInt8) : Reading Token := do
  let single := String.ofList [Char.ofNat b.toNat]
  if !(Utf8.encode "&|;").contains b then return .operator single
  let following ← nextJoined
  if following = some b then return .operator (single ++ single)
  putBack following
  return .operator single

/-- Reads the sign of a redirection from its first byte on. -/
def readRedirection (digits : Bytes) (b : UInt8) : Reading Token := do
  let descriptor := (digits.head?.map fun digit => (digit - byte '0').toNat).getD
    (if b = byte '<' then 0 else 1)
  let following ← nextJoined
  let sign ←
    if b = byte '>' then
      if following = some (byte '>') then pure (RedirectionSign.file .append)
      else if following = some (byte '|') then pure (.file .replace)
      else if following = some (byte '&') then pure .copy
      else do
        putBack following
        pure (.file .write)
    else if following = some (byte '<') then do
      let behind ← nextJoined
      if behind = some (byte '-') then pure (.document true)
      else do
        putBack behind
        pure (.document false)
    else if following = some (byte '&') then pure .copy
    else if following = some (byte '>') then pure (.file .both)
    else do
      putBack following
      pure (.file .read)
  return .redirection descriptor sign

/-- Skips what stands between two tokens: gaps and comments. The next byte is given. -/
def skipGaps : Reading (Option UInt8) :=
  repeatStep (fun () => do
    match ← nextJoined with
    | none => return .inr none
    | some b =>
      if b = byte ' ' || b = byte '\t' then return .inl ()
      else if b = byte '#' then
        let ending ← repeatStep (fun () => do
          let c ← nextByte
          if c = none || c = some (byte '\n') then return .inr c else return .inl ()) ()
        putBack ending
        return .inl ()
      else return .inr (some b)) ()

/-- Reads a word, or a redirection if the word is its descriptor. -/
def readWord (parts : Mode → Reading Word) (mode : Mode) : Reading Token := do
  let word ← parts mode
  let digits := word.plain?.getD [byte '-']
  match ← peekByte with
  | some b =>
    if (b = byte '<' || b = byte '>') && (digits.isEmpty || digits.length = 1 && digits.all isDigit) then
      let _ ← nextByte
      readRedirection digits b
    else return .word word
  | none => return .word word

/-- Reads a token, whatever its words stand for. -/
def readRaw (parts : Mode → Reading Word) (mode : Mode) : Reading Token := do
  if (← get).again then
    modify fun source => { source with again := false }
    return (← get).last
  let token ← match ← skipGaps with
    | none => pure Token.endOfFile
    | some b =>
      if (Utf8.encode "\n;&|()").contains b then readOperator b
      else do
        putBack (some b)
        readWord parts mode
  modify fun source => { source with last := token }
  return token

/-- The text of an alias that a word may be replaced with: not one whose text the word comes from. -/
def Source.alias? (source : Source) (name : Bytes) : Option Bytes :=
  if source.usedAliases.contains name then none else source.aliases.lookup name

/-- Puts the text of an alias in front of what is left of a script. -/
def Source.useAlias (source : Source) (name replacement : Bytes) : Source :=
  let text : AliasText :=
    { name
      rest := replacement
      endsInGap := replacement.getLast?.any fun b => b == byte ' ' || b == byte '\t'
      before := source.endedAliases }
  { source with aliasTexts := text :: source.aliasTexts, endedAliases := [] }

/-- Reads a token with the checks that are due. `mode` is the mode for a word. -/
def readTokenIn (parts : Mode → Reading Word) (mode : Mode) : Reading Token := do
  let due := (← get).checks
  repeatStep (fun (due : Checks) => do
    let mut token ← readRaw parts mode
    if due.newlines then
      token ← repeatStep (fun (token : Token) => do
        if !token.isOperator "\n" then return .inr token
        readDocuments parts
        modify fun source => { source with checks := {} }
        return .inl (← readRaw parts mode)) token
    let source ← get
    let due := due.or source.checks
    set { source with checks := {} }
    match token with
    | .word word =>
      match word.plain? with
      | none => return .inr token
      | some text =>
        match keywords.find? (Utf8.encode · == text) with
        | some keyword =>
          if due.keywords then
            let found := Token.keyword keyword
            modify fun source => { source with last := found }
            return .inr found
        | none => pure ()
        let replacement? := if due.aliases then source.alias? text else none
        match replacement? with
        | some replacement =>
          modify (·.useAlias text replacement)
          return .inl due
        | none => return .inr token
    | _ => return .inr token) due

def readToken (parts : Mode → Reading Word) : Reading Token :=
  readTokenIn parts .bare

/-- Lets the token that was read last be read again. -/
def readAgain : Reading Unit :=
  modify fun source => { source with again := true }

/-- Asks for checks of the next token. -/
def check (checks : Checks) : Reading Unit :=
  modify fun source => { source with checks }

/-- The fault of a token in the wrong place. -/
def unexpected {α : Type} (wanted : String := "") : Reading α := do
  let found := (← get).last.name
  fault (if wanted.isEmpty then s!"{found} unexpected" else s!"{found} unexpected (expecting {wanted})")

end LineShell.Machine.Shell
