import LineShell.Machine.Shell.Token

/-!
# The grammar

How tokens make up commands.

* `ListEnd`: where a list of commands may end.
* `readList`, `readAndOr`, `readPipeline`, `readCommand`, `readSimple`: the levels of the grammar.
* `readNext`: the next complete command of a script.
-/

namespace LineShell.Machine.Shell

/-- Where a list of commands ends: with the line, or with a token that cannot start another command. With
`mayBeEmpty` it may end before its first command. -/
inductive ListEnd where
  | line
  | token (mayBeEmpty : Bool)
deriving DecidableEq, Repr

/-- How the levels of the grammar read what lies inside of them. -/
structure Inner where
  list : ListEnd → Reading Command
  parts : Mode → Reading Word

/-- Checks for the start of a command, where newlines do not count. -/
def atStart : Checks :=
  { keywords := true, aliases := true, newlines := true }

namespace Inner

/-- Reads the next unit. -/
def token (inner : Inner) : Reading Token :=
  readToken inner.parts

/-- Reads a list of commands inside of another command. -/
def body (inner : Inner) : Reading Command :=
  inner.list (.token false)

/-- Reads a keyword that has to come. -/
def expectKeyword (inner : Inner) (word : String) : Reading Unit := do
  if !(← inner.token).isKeyword word then unexpected s!"\"{word}\""

/-- Reads an operator that has to be next. -/
def expectOperator (inner : Inner) (sign : String) : Reading Unit := do
  if !(← inner.token).isOperator sign then unexpected s!"\"{sign}\""

end Inner

/-! ### Redirections -/

/-- Reads the word behind the sign of a redirection. -/
def readRedirectionWord (inner : Inner) (descriptor : Nat) (sign : RedirectionSign) :
    Reading Redirection := do
  let mode := match sign with
    | .document _ => Mode.mark
    | _ => .bare
  match ← readTokenIn inner.parts mode with
  | .word word =>
    match sign with
    | .file use => return .file descriptor use word
    | .copy => return .copy descriptor word
    | .document stripTabs =>
      let number := (← get).documents.length
      let announcement : Announcement :=
        { number, mark := word.bareText, stripTabs, literal := word.hasQuotes }
      modify fun source =>
        { source with
          announced := source.announced ++ [announcement], documents := source.documents ++ [[]] }
      return .document descriptor number
  | _ => unexpected

/-- Reads the redirections behind a command. -/
def readRedirections (inner : Inner) : Reading (List Redirection) :=
  repeatStep (fun (read : List Redirection) => do
    match ← inner.token with
    | .redirection descriptor sign =>
      return .inl ((← readRedirectionWord inner descriptor sign) :: read)
    | _ =>
      readAgain
      return .inr read.reverse) []

/-! ### Simple commands -/

/-- A simple command that is being read, in reverse. -/
structure SimpleDraft where
  assignments : List Word := []
  words : List Word := []
  redirections : List Redirection := []

/-- The commands that cannot be replaced with functions. -/
def specialNames : List String :=
  [".", ":", "break", "continue", "eval", "exec", "exit", "export", "readonly", "return", "set", "shift",
    "times", "trap", "unset"]

/-- Reads the body of a function behind its name and the opening parenthesis. -/
def readFunction (inner : Inner) (command : Reading Command) (name : Word) : Reading Command := do
  inner.expectOperator ")"
  match name.plain? with
  | none => fault "Bad function name"
  | some text =>
    if !isName text || specialNames.any (Utf8.encode · == text) then fault "Bad function name"
    check atStart
    return .function text (← command)

/-- Reads a simple command, or the definition of a function. Before its first word there may be
assignments, and aliases count. -/
def readSimple (inner : Inner) (command : Reading Command) : Reading Command := do
  let line := (← get).line
  repeatStep (fun (draft : SimpleDraft) => do
    check { aliases := draft.words.isEmpty }
    match ← inner.token with
    | .word word =>
      if draft.words.isEmpty && word.assignment?.isSome then
        return .inl { draft with assignments := word :: draft.assignments }
      return .inl { draft with words := word :: draft.words }
    | .redirection descriptor sign =>
      let redirection ← readRedirectionWord inner descriptor sign
      return .inl { draft with redirections := redirection :: draft.redirections }
    | token =>
      match token.isOperator "(", draft with
      | true, { assignments := [], words := [name], redirections := [] } =>
        return .inr (← readFunction inner command name)
      | _, _ =>
        readAgain
        return .inr (.simple line draft.assignments.reverse draft.words.reverse
          draft.redirections.reverse)) {}

/-! ### Compound commands -/

/-- Reads what comes behind the condition of a choice. -/
def readChoice (inner : Inner) : Reading Command := do
  let condition ← inner.body
  inner.expectKeyword "then"
  let body ← inner.body
  let rest ← repeatStep (fun (read : List (Command × Command)) => do
    let token ← inner.token
    if token.isKeyword "elif" then
      let condition ← inner.body
      inner.expectKeyword "then"
      return .inl ((condition, ← inner.body) :: read)
    let last ←
      if token.isKeyword "else" then inner.body
      else do
        readAgain
        pure Command.nothing
    return .inr (read.foldl (fun otherwise arm => .choice arm.1 arm.2 otherwise) last)) []
  inner.expectKeyword "fi"
  return .choice condition body rest

/-- Reads a loop behind its first keyword. -/
def readLoop (inner : Inner) (wanted : Bool) : Reading Command := do
  let condition ← inner.body
  inner.expectKeyword "do"
  let body ← inner.body
  inner.expectKeyword "done"
  return .loop wanted condition body

/-- All parameters, each as a word of its own. -/
def allParameters : Word :=
  [.parameter true [byte '@'] .nothing]

/-- Reads an iteration. Without words it goes over all parameters. -/
def readIteration (inner : Inner) (line : Nat) : Reading Command := do
  let name ← match ← inner.token with
    | .word word =>
      match word.plain? with
      | some text => if isName text then pure text else fault "Bad for loop variable"
      | none => fault "Bad for loop variable"
    | _ => fault "Bad for loop variable"
  check atStart
  let token ← inner.token
  let words ←
    if token.isKeyword "in" then
      repeatStep (fun (read : List Word) => do
        match ← inner.token with
        | .word word => return .inl (word :: read)
        | token =>
          if token.isOperator "\n" || token.isOperator ";" then return .inr read.reverse
          unexpected) []
    else do
      if !token.isOperator ";" then readAgain
      pure [allParameters]
  check atStart
  inner.expectKeyword "do"
  let body ← inner.body
  inner.expectKeyword "done"
  return .iteration line name words body

/-- The word that a token is read as where a pattern is due. -/
def Token.asPattern : Token → Word
  | .word parts => parts
  | .keyword text => [.text false (Utf8.encode text)]
  | _ => []

/-- Reads an arm of a selection from its first token on. -/
def readArm (inner : Inner) (first : Token) : Reading (List Word × Command) := do
  let start ← if first.isOperator "(" then inner.token else pure first
  let patterns ← repeatStep (fun (read : List Word × Token) => do
    let patterns := read.2.asPattern :: read.1
    if (← inner.token).isOperator "|" then return .inl (patterns, ← inner.token)
    return .inr patterns.reverse) ([], start)
  if !(← get).last.isOperator ")" then unexpected "\")\""
  return (patterns, ← inner.list (.token true))

/-- Reads a choice among patterns behind its first keyword. -/
def readSelection (inner : Inner) (line : Nat) : Reading Command := do
  match ← inner.token with
  | .word subject =>
    check atStart
    inner.expectKeyword "in"
    repeatStep (fun (read : List (List Word × Command)) => do
      check { keywords := true, newlines := true }
      let token ← inner.token
      if token.isKeyword "esac" then return .inr (.selection line subject read.reverse)
      let arm ← readArm inner token
      check { keywords := true, newlines := true }
      let ending ← inner.token
      if ending.isKeyword "esac" then return .inr (.selection line subject (arm :: read).reverse)
      if !ending.isOperator ";;" then unexpected "\";;\""
      return .inl (arm :: read)) []
  | _ => unexpected "word"

/-- Reads a command. Redirections may stand behind a compound one. -/
def readCommand (inner : Inner) : Nat → Reading Command
  | 0 => fault "Script too deep"
  | fuel + 1 => do
    let token ← inner.token
    let line := (← get).line
    let compound ← match token with
      | .keyword "if" => some <$> readChoice inner
      | .keyword "while" => some <$> readLoop inner true
      | .keyword "until" => some <$> readLoop inner false
      | .keyword "for" => some <$> readIteration inner line
      | .keyword "case" => some <$> readSelection inner line
      | .keyword "\x7b" => do
        let body ← inner.body
        inner.expectKeyword "\x7d"
        pure (some body)
      | .operator "(" => do
        let body ← inner.body
        inner.expectOperator ")"
        pure (some (.subshell line body []))
      | .word _ | .redirection .. => pure none
      | _ => unexpected
    match compound with
    | none =>
      readAgain
      readSimple inner (readCommand inner fuel)
    | some body =>
      check { keywords := true, aliases := true }
      let redirections ← readRedirections inner
      match body with
      | .subshell line body [] => return .subshell line body redirections
      | _ => return if redirections.isEmpty then body else .redirected line body redirections

/-- Reads a pipeline, which an exclamation mark in front negates. -/
def readPipeline (inner : Inner) : Reading Command := do
  let negated := (← inner.token).isKeyword "!"
  if negated then check { keywords := true, aliases := true } else readAgain
  let command := readCommand inner maxRepetitions
  let first ← command
  let commands ← repeatStep (fun (read : List Command) => do
    if (← inner.token).isOperator "|" then
      check atStart
      return .inl ((← command) :: read)
    readAgain
    return .inr read.reverse) [first]
  let body := match commands with
    | [only] => only
    | several => .pipeline several
  return if negated then .negation body else body

/-- Reads pipelines with `&&` and `||` between them. -/
def readAndOr (inner : Inner) : Reading Command := do
  let first ← readPipeline inner
  repeatStep (fun (read : Command) => do
    let token ← inner.token
    if token.isOperator "&&" then
      check atStart
      return .inl (.both read (← readPipeline inner))
    if token.isOperator "||" then
      check atStart
      return .inl (.either read (← readPipeline inner))
    readAgain
    return .inr read) first

/-- A list of commands that is being read. -/
structure ListDraft where
  command : Command := .nothing
  started : Bool := false

/-- Adds a command to a list. -/
def ListDraft.add (draft : ListDraft) (command : Command) : ListDraft :=
  match draft.started with
  | true => { command := .sequence draft.command command, started := true }
  | false => { command, started := true }

/-- Reads a list of commands. -/
def readList (inner : Inner) (ending : ListEnd) : Reading Command :=
  repeatStep (fun (draft : ListDraft) => do
    check { atStart with newlines := ending != .line }
    let token ← inner.token
    if ending = .line && token.isOperator "\n" then
      readDocuments inner.parts
      return .inr draft.command
    if let .endOfFile := token then
      readDocuments inner.parts
      readAgain
      return .inr draft.command
    readAgain
    if ending != .line && token.endsList && (draft.started || ending = .token true) then
      return .inr draft.command
    let command ← readAndOr inner
    let separator ← inner.token
    let added := draft.add (if separator.isOperator "&" then .background command else command)
    if let .endOfFile := separator then
      readDocuments inner.parts
      readAgain
      return .inr added.command
    if separator.isOperator "\n" then
      readAgain
      return .inl added
    if separator.isOperator "&" || separator.isOperator ";" then return .inl added
    if ending = .line then unexpected
    readAgain
    return .inr added.command) {}

/-- The levels of the grammar inside of each other. -/
def levels : Nat → Inner
  | 0 => { list := fun _ => fault "Script too deep", parts := fun _ => fault "Script too deep" }
  | fuel + 1 =>
    let list := fun ending => readList (levels fuel) ending
    let closed := fun (parts : Mode → Reading Word) => readInside parts do
      let commands ← list (.token true)
      if !(← readToken parts).isOperator ")" then unexpected "\")\""
      return commands
    let whole := fun (parts : Mode → Reading Word) => readInside parts (list (.token true))
    { list, parts := readParts closed whole fuel }

/-- Reads the next complete command of a script; `none` at its end. -/
def readNext : Reading (Option Command) := do
  modify fun source => { source with again := false, checks := {}, announced := [], asked := source.line }
  let inner := levels maxRepetitions
  let command ← inner.list .line
  match command, (← get).last with
  | .nothing, .endOfFile => return none
  | _, _ => return some command

/-- The words of an arithmetic expression or another text that is looked up like one between double
quotes. -/
def readQuotedText (text : Bytes) (line : Nat) : Reading Word :=
  within text line ((levels maxRepetitions).parts .document)

end LineShell.Machine.Shell
