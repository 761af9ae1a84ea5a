import LineShell.Machine.Number
import LineShell.Machine.Utility.Options
import LineShell.Machine.Utility.Quoting

/-!
# Touch

`touch` makes files where there are none. Times are not kept, so nothing else becomes of a file, but what is said
about them has to make sense.

* `isTime`: the digits of a time.
* `TimeFault`, `checkTimes`: what can be wrong with times.
* `runTouch`: the utility.
-/

namespace LineShell.Machine.Utility

/-! ### Times -/

/-- How many days a month of a year has. -/
def daysIn (year month : Nat) : Nat :=
  if month = 2 then if year % 4 = 0 && (year % 100 != 0 || year % 400 = 0) then 29 else 28
  else if [4, 6, 9, 11].contains month then 30
  else 31

/-- The numbers that each two digits stand for. -/
def pairs : Bytes → List Nat
  | high :: low :: rest => numberOf 10 [high, low] :: pairs rest
  | _ => []

/-- Whether a day and a time of day are in the calendar. -/
def isInCalendar (year : Nat) : List Nat → Bool
  | [month, day, hour, minute] =>
    1 ≤ month && month ≤ 12 && 1 ≤ day && day ≤ daysIn year month && hour < 24 && minute < 60
  | _ => false

/-- Whether digits are a time: month, day, hour and minute, with two or four digits of a year in front if it is
not the present one, which is taken for a common one. -/
def isMinute (digits : Bytes) : Bool :=
  match digits.length, pairs digits with
  | 8, time => isInCalendar 1 time
  | 10, year :: time => isInCalendar (2000 + year) time
  | 12, century :: year :: time => isInCalendar (100 * century + year) time
  | _, _ => false

/-- Whether a text is a time, with seconds behind a point or without. A minute may have one second more. -/
def isTime (text : Bytes) : Bool :=
  let digits := text.takeWhile isDigit
  isMinute digits && match text.drop digits.length with
    | [] => true
    | [point, high, low] => point == byte '.' && isDigit high && isDigit low && numberOf 10 [high, low] ≤ 60
    | _ => false

/-- The names of the times of a file; the first ones of each line are the same, and so are the last ones. -/
def timeNames : List (List String) :=
  [["atime", "access", "use"], ["mtime", "modify"]]

/-- What can be wrong with the times that are given. -/
inductive TimeFault where
  | noTime (text : Bytes)
  | noName (text : Bytes)
  | ambiguousName (text : Bytes)
  | twoSources
deriving DecidableEq, Repr

/-- What is said about a fault. -/
def TimeFault.message : TimeFault → Bytes
  | .noTime text => Utf8.encode "invalid date format " ++ Quoting.plain text
  | .noName text => Utf8.encode "invalid" ++ choices text
  | .ambiguousName text => Utf8.encode "ambiguous" ++ choices text
  | .twoSources => Utf8.encode "cannot specify times from more than one source"
where
  choices (text : Bytes) : Bytes :=
    let line := fun (same : List String) =>
      Utf8.encode ("\n  - " ++ ", ".intercalate (same.map fun word => "'" ++ word ++ "'"))
    Utf8.encode " argument " ++ Quoting.plain text ++ Utf8.encode " for '--time'\nValid arguments are:" ++
      timeNames.flatMap line

/-- Whether it is advised how `touch` is used. -/
def TimeFault.needsAdvice : TimeFault → Bool
  | .noTime _ => false
  | _ => true

/-- Finds what is wrong with the name of a time: a beginning is enough if it means one time only. -/
def checkTimeName (text : Bytes) : Except TimeFault Unit :=
  if timeNames.any (·.any (Utf8.encode · == text)) then .ok ()
  else
    match (timeNames.filter (·.any fun word => text.isPrefixOf (Utf8.encode word))).length with
    | 0 => .error (.noName text)
    | 1 => .ok ()
    | _ => .error (.ambiguousName text)

/-- Finds what is wrong with the times that are given. -/
def checkTimes (found : Arguments) : Except TimeFault Unit := do
  for (option, text) in found.options do
    if option = "t" && !isTime text then throw (.noTime text)
    if option = "time" then checkTimeName text
  if found.has "t" && (found.has "date" || found.has "reference") then throw .twoSources

/-! ### Files -/

/-- How files are touched: without making any, and without following a link at the end of a path. -/
structure Touching where
  create : Bool
  follow : Bool
deriving DecidableEq, Repr

/-- Touches a file, or the one that the output goes to for a `-`. The file is opened first, which makes it; then its times are set, for which it has to
be there. -/
def touchFile (name : Bytes) (touching : Touching) (process : Process) (path : Bytes) : Process × Bool :=
  if path = Utf8.encode "-" then
    if touching.create && (process.opening? 1).isNone then fail process "setting times of " .EBADF
    else (process, true)
  else
    let opened :=
      if touching.create && touching.follow then (process.openToWrite path false).map (·.1)
      else .ok process
    let ready := match opened with
      | .ok after => after
      | .error _ => process
    let reached := do
      Tree.checkPath path
      ready.tree.walk touching.follow maxLinks (Tree.origin ready.here path) (names path)
    match reached, opened with
    | .ok _, _ => (ready, true)
    | .error code, .error refusal =>
      -- A refusal because of a directory says nothing about what is wrong with the path.
      if refusal = .EISDIR then fail ready "setting times of " code
      else fail ready "cannot touch " refusal
    | .error code, .ok _ =>
      if !touching.create && code = .ENOENT then (ready, true)
      else fail ready "setting times of " code
where
  fail (process : Process) (what : String) (code : Errno) : Process × Bool :=
    (complain name (Utf8.encode what ++ Quoting.shell path ++ Utf8.encode s!": {code.text}") process,
      false)

/-- The options of `touch`. -/
def touchRules : List OptionRule :=
  [{ word := "time", arity := .required }, { letter := some 'c', word := "no-create" },
    { letter := some 'd', word := "date", arity := .required },
    { letter := some 'r', word := "reference", arity := .required },
    { letter := some 'h', word := "no-dereference" }, { letter := some 'a' }, { letter := some 'f' },
    { letter := some 'm' }, { letter := some 't', arity := .required }]

/-- Runs `touch`. -/
def runTouch (name : Bytes) (arguments : List Bytes) (process : Process) : Exit :=
  withArguments touchRules true 1 name arguments process fun found =>
    let touching : Touching :=
      { create := !found.has "no-create", follow := !found.has "no-dereference" }
    let reference := (found.get? "reference").map fun path => (path, process.tree.resolve process.here path)
    match checkTimes found, reference with
    | .error fault, _ =>
      if fault.needsAdvice then usageFault name fault.message 1 process
      else (complain name fault.message process, 1)
    | .ok (), some (path, .error code) =>
      (complain name (Utf8.encode "failed to get attributes of " ++ Quoting.shell path ++
        Utf8.encode s!": {code.text}") process, 1)
    | .ok (), _ =>
      if found.operands.isEmpty then usageFault name (Utf8.encode "missing file operand") 1 process
      else forEach (touchFile name touching) found.operands process

end LineShell.Machine.Utility
