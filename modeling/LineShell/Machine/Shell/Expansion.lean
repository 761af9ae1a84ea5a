import LineShell.Machine.Shell.Arithmetic
import LineShell.Machine.Shell.Pattern
import LineShell.Machine.Shell.State
import LineShell.Machine.Utility.Echo

/-!
# Expansion

What the words of a command stand for. The parts of a word are looked up first; what was looked up outside
quotes is then split into fields, and fields with patterns stand for the files that they match.

* `Piece`, `expandPart`, `expandParts`: looking up.
* `split`: fields.
* `matchingPaths`: the files that a pattern stands for.
* `expandFields`, `expandText`, `expandPattern`: the uses of words.
-/

namespace LineShell.Machine.Shell

/-- A piece of a word that has been looked up: a byte, quoted or not, which ends a field if it `splits` and
separates; quotes, which make a field even around nothing; and the border between two parameters. -/
inductive Piece where
  | byte (b : UInt8) (quoted splits : Bool)
  | quotes
  | border
deriving DecidableEq, Repr

/-- The pieces of a text in a script. -/
def literalPieces (quoted : Bool) (bytes : Bytes) : List Piece :=
  if quoted && bytes.isEmpty then [.quotes] else bytes.map (.byte · quoted false)

/-- The pieces of a value that has been looked up. -/
def valuePieces (quoted : Bool) (bytes : Bytes) : List Piece :=
  bytes.map (.byte · quoted (!quoted))

/-- The bytes of pieces that make up one text. -/
def textOf (pieces : List Piece) : Bytes :=
  pieces.flatMap fun
    | .byte b _ _ => [b]
    | .border => [byte ' ']
    | .quotes => []

/-- The bytes of pieces with the marks that a pattern needs. -/
def markedOf (pieces : List Piece) : List Marked :=
  pieces.flatMap fun
    | .byte b quoted _ => [(b, quoted)]
    | .border => [(byte ' ', false)]
    | .quotes => []

/-! ### Home directories -/

/-- A word with the home directory in the place of a tilde at its front. -/
def expandTilde (home : Option Bytes) (inAssignment : Bool) : Word → Word
  | .text false bytes :: rest =>
    let endsName := fun (b : UInt8) => b == byte '/' || (inAssignment && b == byte ':')
    match home, bytes with
    | some home, tilde :: behind =>
      if tilde = byte '~' && (behind.head?.any endsName || (behind.isEmpty && rest.isEmpty)) then
        .text true home :: (if behind.isEmpty then rest else .text false behind :: rest)
      else .text false bytes :: rest
    | _, _ => .text false bytes :: rest
  | word => word

/-- The texts between the colons of an assignment, with home directories in the place of tildes at their
fronts; at the front of the first one only if `atFront` says so. `rest` stands behind the last one. -/
def expandSegments (home : Option Bytes) (rest : Word) (atFront : Bool) : List Bytes → Word
  | [] => rest
  | [last] =>
    if atFront then expandTilde home true (.text false last :: rest) else .text false last :: rest
  | segment :: segments =>
    (if atFront then expandTilde home true [.text false segment] else [.text false segment]) ++
      .text false [byte ':'] :: expandSegments home rest true segments

/-- The value of an assignment with home directories in the place of tildes at its front and behind
colons. -/
def expandTildes (home : Option Bytes) (atFront : Bool) : Word → Word
  | [] => []
  | .text false bytes :: rest =>
    expandSegments home (expandTildes home false rest) atFront (bytes.splitOn (byte ':'))
  | part :: rest => part :: expandTildes home false rest

/-! ### Parameters -/

/-- What a parameter holds: one value, or all parameters, which `$*` joins with a separator. -/
inductive Value where
  | one (value : Option Bytes)
  | all (joined : Bool)
deriving DecidableEq, Repr

/-- The letters of the switches that are on, the last one in the list first. -/
def State.letters (state : State) : String :=
  String.ofList ((Switch.all.filter (isOn state)).reverse.filterMap (·.letter?))

/-- The value of a parameter. -/
def State.value (state : State) (name : Bytes) : Value :=
  match name with
  | [b] =>
    if b = byte '@' then .all false
    else if b = byte '*' then .all true
    else if b = byte '#' then .one (some (decimal state.parameters.length))
    else if b = byte '?' then .one (some (decimal state.status))
    else if b = byte '-' then .one (some (Utf8.encode state.letters))
    else if b = byte '$' then .one (some (decimal ownProcess))
    else if b = byte '!' then .one (state.background.map decimal)
    else if isDigit b then .one (positional name)
    else .one (state.lookup? name)
  | _ => if name.head?.any isDigit then .one (positional name) else .one (state.lookup? name)
where
  positional (name : Bytes) : Option Bytes :=
    match numberOf 10 name with
    | 0 => some state.name
    | n + 1 => state.parameters[n]?

/-- What `$*` has between any two parameters. -/
def State.joiner (state : State) : Bytes :=
  match state.lookup? (Utf8.encode "IFS") with
  | none => [byte ' ']
  | some separators => separators.take 1

/-- What stands between two parameters: a zero byte, which no text holds, where they become fields of their
own. -/
def State.separator (state : State) (fields quoted joined : Bool) : Bytes :=
  if !fields || (quoted && joined) then state.joiner
  else if quoted || (state.lookup? (Utf8.encode "IFS")).isSome then [0]
  else [byte ' ']

/-- The pieces of a text in which zero bytes are borders. -/
def borderedPieces (quoted : Bool) (bytes : Bytes) : List Piece :=
  let marks := if quoted then [Piece.quotes] else []
  marks ++ bytes.flatMap fun b => if b = 0 then Piece.border :: marks else valuePieces quoted [b]

/-! ### Looking up -/

/-- A text without the newlines at its end. -/
def dropNewlines (bytes : Bytes) : Bytes :=
  (bytes.reverse.dropWhile (· == byte '\n')).reverse

/-- What commands write to the output. -/
def outputOf (evaluate : Command → Run Unit) (script : Command) : Run Bytes := do
  let before ← get
  onProcess (·.attach 1 { channel := .pipe [] })
  let number := ((← get).process.descriptors.lookup 1).getD 0
  makeRoom
  inSubshell (evaluate script)
  let state ← get
  set { state with
    process := { state.process with descriptors := before.process.descriptors }
    status := before.status
    substituted := state.status }
  let bytes := match state.process.system.openings[number]? with
    | some { channel := .pipe content, .. } => content
    | _ => []
  return dropNewlines (bytes.filter (· != 0))

/-- The value of an arithmetic expression. -/
def evaluateText (text : Bytes) : Run Int := do
  let state ← get
  let valueOf := fun (name : Bytes) =>
    let value := (state.lookup? name).getD []
    if value.all isSpacing then .ok 0
    else
      match integer? .any value with
      | some n => .ok n
      | none => .error (ArithmeticFault.illegalNumber value)
  let (result, assigned) := ((Expression.ofText text).evaluate valueOf).run []
  for entry in assigned.reverse do
    assign entry.1 (Utf8.encode (toString entry.2))
  match result with
  | .ok value => return value
  | .error (.illegalNumber value) => fail (Utf8.encode "Illegal number: " ++ value)
  | .error wrong =>
    fail (Utf8.encode s!"arithmetic expression: {wrong.reason}: \"" ++ text ++ [byte '"'])

/-- The pieces of a word that stands in a parameter: what is not quoted may be split. -/
def asValue (pieces : List Piece) : List Piece :=
  pieces.map fun
    | .byte b false _ => .byte b false true
    | piece => piece

/-- Complains about a parameter that is not set. -/
def failUnset {α : Type} (name : Bytes) (text : Bytes) : Run α :=
  fail (name ++ Utf8.encode ": " ++ text)

/-- The pieces of a parameter. `inner` looks up the words that stand in it, for fields or for a text. -/
def expandParameter (inner : Bool → Word → Run (List Piece)) (fields quoted : Bool) (name : Bytes)
    (change : Change) : Run (List Piece) := do
  let state ← get
  let value := state.value name
  let (held, bordered) := match value with
    | .one value => (value, false)
    | .all joined =>
      let separator := state.separator fields quoted joined
      (some (separator.intercalate state.parameters), separator = [0] && !state.parameters.isEmpty)
  let pieces := fun (text : Bytes) => if bordered then borderedPieces quoted text else valuePieces quoted text
  let check : Run Unit := do
    if value = .one none && isOn state .nounset then failUnset name (Utf8.encode "parameter not set")
  match change with
  | .nothing => do
    check
    return pieces (held.getD [])
  | .length => do
    check
    return valuePieces quoted (decimal (held.getD []).length)
  | .trim atEnd longest pattern => do
    check
    match held with
    | none => return pieces []
    | some value =>
      let pattern := Pattern.ofMarked (markedOf (← inner false pattern))
      let cut := if atEnd then pattern.cutBack longest else pattern.cutFront longest
      return pieces (cut value)
  | .fallback kind orEmpty word =>
    let isSet := match held with
      | none => false
      | some value => !(orEmpty && value.isEmpty)
    match kind, isSet with
    | .replace, true | .use, false => return asValue (← inner fields word)
    | .replace, false => return []
    | _, true => return pieces (held.getD [])
    | .assign, false =>
      let value := textOf (← inner false word)
      if !isName name then failUnset name (Utf8.encode "bad variable name")
      assign name value
      return valuePieces quoted value
    | .complain, false =>
      let text := textOf (← inner false word)
      let standard := if orEmpty then "parameter not set or null" else "parameter not set"
      failUnset name (if word.isEmpty then Utf8.encode standard else text)
  | .unknown => fail (Utf8.encode "Bad substitution")

/-- The pieces of a part. -/
def expandPart (evaluate : Command → Run Unit) (inner : Bool → Word → Run (List Piece)) (fields : Bool) :
    Part → Run (List Piece)
  | .text quoted bytes => return literalPieces quoted bytes
  | .parameter quoted name change => expandParameter inner fields quoted name change
  | .output quoted script => return valuePieces quoted (← outputOf evaluate script)
  | .arithmetic quoted expression => do
    let value ← evaluateText (textOf (← inner false expression))
    return valuePieces quoted (Utf8.encode (toString value))

/-- The pieces of a word. `fuel` bounds how deep words stand in one another. -/
def expandParts (evaluate : Command → Run Unit) : Nat → Bool → Word → Run (List Piece)
  | 0, _, _ => return []
  | fuel + 1, fields, word => do
    let home := (← get).lookup? (Utf8.encode "HOME")
    let inner := fun fields word => expandParts evaluate fuel fields (expandTilde home false word)
    let pieces ← word.mapM (expandPart evaluate inner fields)
    return pieces.flatten

/-- How deep words may stand in one another. -/
def maxNesting : Nat := 100000

/-! ### Fields -/

/-- Fields that are being split: those that are complete, the newest first; the current one, in reverse;
and whether it was a gap that ended the last one. -/
structure Fields where
  complete : List (List Marked) := []
  current : Option (List Marked) := none
  endedByGap : Bool := false

namespace Fields

/-- Ends the current field. -/
def close (fields : Fields) : Fields :=
  match fields.current with
  | none => fields
  | some field => { complete := field.reverse :: fields.complete }

/-- Adds a piece. Several gaps count as one, and so does another separator with the gaps around it. -/
def add (separators : Bytes) (fields : Fields) : Piece → Fields
  | .byte b quoted splits =>
    if splits && separators.contains b then
      if isWordGap b then
        if fields.current.isSome then { fields.close with endedByGap := true } else fields
      else if fields.current.isSome then fields.close
      else if fields.endedByGap then { fields with endedByGap := false }
      else { fields with complete := [] :: fields.complete }
    else { fields with current := some ((b, quoted) :: fields.current.getD []), endedByGap := false }
  | .quotes => { fields with current := some (fields.current.getD []), endedByGap := false }
  | .border => if fields.current.isSome then { fields.close with endedByGap := true } else fields

end Fields

/-- The fields of a word that has been looked up. -/
def split (separators : Bytes) (pieces : List Piece) : List (List Marked) :=
  (pieces.foldl (Fields.add separators) {}).close.complete.reverse

/-! ### Files -/

/-- The names in a directory, with the two that every directory has as long as it has not been removed. -/
def namesIn (process : Process) (path : Bytes) : List Bytes :=
  match process.tree.resolve process.here (if path.isEmpty then [byte '.'] else path) with
  | .error _ => []
  | .ok i =>
    if process.tree.isDirectory i && process.tree.isLinked i then
      [Utf8.encode ".", Utf8.encode ".."] ++ (process.tree.entries i).map (·.1)
    else []

/-- Whether there is anything at a path. -/
def isThere (process : Process) (path : Bytes) : Bool :=
  match Tree.checkPath path with
  | .error _ => false
  | .ok () =>
    (process.tree.walk false maxLinks (Tree.origin process.here path) (names path)).toOption.isSome

/-- The paths that the components of a pattern stand for. A name with a dot in front matches only a pattern
with a dot in front. -/
def matchingFrom (process : Process) (before : Bytes) : List (List Marked) → List Bytes
  | [] => []
  | component :: rest =>
    let pattern := Pattern.ofMarked component
    let slash := if rest.isEmpty then [] else [byte '/']
    let dotted := component.head?.any (·.1 == byte '.')
    let candidates :=
      if pattern.isOpen then
        (namesIn process before).filter fun name =>
          (dotted || name.head? != some (byte '.')) && pattern.matchesText name
      else [component.map (·.1)]
    let paths := candidates.map (before ++ · ++ slash)
    if rest.isEmpty then paths.filter (isThere process)
    else paths.flatMap fun path => matchingFrom process path rest

/-- The paths that a pattern stands for, in order. -/
def matchingPaths (process : Process) (pattern : List Marked) : List Bytes :=
  let components := pattern.splitBy fun left _ => left.1 != byte '/'
  let cut := components.map fun component =>
    if component.getLast?.any (·.1 == byte '/') then component.dropLast else component
  let closed :=
    if pattern.getLast?.any (·.1 == byte '/') then cut ++ [[]] else cut
  (matchingFrom process [] closed).mergeSort fun left right => left ≤ right

/-! ### The uses of words -/

/-- The fields of a word. -/
def expandField (evaluate : Command → Run Unit) (word : Word) : Run (List Bytes) := do
  let home := (← get).lookup? (Utf8.encode "HOME")
  let pieces ← expandParts evaluate maxNesting true (expandTilde home false word)
  let state ← get
  let fields := split state.separators pieces
  return fields.flatMap fun field =>
    let text := field.map (·.1)
    if isOn state .noglob || !(Pattern.ofMarked field).isOpen then [text]
    else
      match matchingPaths state.process field with
      | [] => [text]
      | paths => paths

/-- The fields of words. -/
def expandFields (evaluate : Command → Run Unit) (words : List Word) : Run (List Bytes) := do
  return (← words.mapM (expandField evaluate)).flatten

/-- The text of a word that is not split. -/
def expandText (evaluate : Command → Run Unit) (word : Word) : Run Bytes := do
  let home := (← get).lookup? (Utf8.encode "HOME")
  return textOf (← expandParts evaluate maxNesting false (expandTilde home false word))

/-- The value of an assignment. -/
def expandValue (evaluate : Command → Run Unit) (word : Word) : Run Bytes := do
  let home := (← get).lookup? (Utf8.encode "HOME")
  return textOf (← expandParts evaluate maxNesting false (expandTildes home true word))

/-- The pattern of a word. -/
def expandPattern (evaluate : Command → Run Unit) (word : Word) : Run Pattern := do
  let home := (← get).lookup? (Utf8.encode "HOME")
  return Pattern.ofMarked (markedOf (← expandParts evaluate maxNesting false (expandTilde home false word)))

end LineShell.Machine.Shell
