import LineShell.Machine.Shell.State

/-!
# Settings of switches

How arguments set the switches of a shell, when it starts and by `set`.

* `setSwitch`: the setting of one switch.
* `listSwitches`: how all of them are set.
* `setLetters`: the switches of one argument.
-/

namespace LineShell.Machine.Shell

/-- Sets a switch. -/
def setSwitch (switch : Switch) (on : Bool) : Run Unit :=
  modify fun state => { state with switches := setEntry switch on state.switches }

/-- Sets the switch of a letter. There is one line editor at most. -/
def setLetter (letter : UInt8) (on : Bool) : Run Unit := do
  match Switch.ofLetter? letter with
  | none => fail (Utf8.encode "Illegal option -" ++ [letter])
  | some switch =>
    setSwitch switch on
    if on && switch = .vi then setSwitch .emacs false
    if on && switch = .emacs then setSwitch .vi false

/-- Sets the switch of a name. -/
def setNamed (name : Bytes) (on : Bool) : Run Unit := do
  match Switch.ofName? name with
  | some switch => setSwitch switch on
  | none => fail (Utf8.encode "Illegal option -o " ++ name)

/-- Lists how switches are set, or the commands that set them so. While a shell starts those that nothing was
said about count as on. -/
def listSwitches (starting asCommands : Bool) : Run Unit := do
  let state ← get
  if !asCommands then writeLine (Utf8.encode "Current option settings")
  for switch in Switch.all do
    let name := switch.name
    let on := (state.switches.lookup switch).getD starting
    let blanks := String.ofList (List.replicate (16 - name.length) ' ')
    let command := if on then "set -o " else "set +o "
    writeLine (Utf8.encode (if asCommands then command ++ name else name ++ blanks ++ if on then "on" else "off"))

/-- Sets the switches of the letters in an argument. Behind `o` the name of a switch comes in an argument of its
own; what is left of the arguments behind is given. -/
def setLetters (starting on : Bool) : Bytes → List Bytes → Run (List Bytes)
  | [], rest => return rest
  | letter :: letters, rest => do
    if letter = byte 'o' then
      match rest with
      | name :: behind =>
        setNamed name on
        setLetters starting on letters behind
      | [] =>
        listSwitches starting !on
        setLetters starting on letters []
    else
      setLetter letter on
      setLetters starting on letters rest

/-- Gives up the control of jobs, for which there is no terminal. -/
def dropJobControl : Run Unit := do
  if isOn (← get) .monitor then
    complain (Utf8.encode "can't access tty; job control turned off")
    setSwitch .monitor false

end LineShell.Machine.Shell
