/-!
# Styled text

A style opens with an escape sequence, shows a text, and closes with a reset. The sequences take no room
on the screen.

* `Hue`, `Style`: what a terminal is asked for.
* `Style.paint`: a text between the codes of a style.
* `erase`: a text without its escape sequences, which is what the reader of the screen sees.
-/

namespace LineShell.Ansi

/-- The colours in use. -/
inductive Hue where
  | red
  | green
  | yellow
  | cyan
  | grey
deriving DecidableEq, Repr

/-- The character that opens every escape sequence. -/
def escape : Char := '\x1b'

/-- The escape sequence with the given parameters: `ESC [ parameters m`. -/
def code (parameters : String) : List Char :=
  escape :: '[' :: (parameters.toList ++ ['m'])

/-- The parameters that select a foreground colour; grey is the RGB colour (128, 128, 128). -/
def Hue.parameters : Hue → String
  | .red => "31"
  | .green => "32"
  | .yellow => "33"
  | .cyan => "36"
  | .grey => "38;2;128;128;128"

/-- A foreground colour, bold or not. -/
structure Style where
  hue : Hue
  bold : Bool := false
deriving DecidableEq, Repr

/-- The codes that switch a style on: the colour, then bold. -/
def Style.opening (style : Style) : List Char :=
  code style.hue.parameters ++ if style.bold then code "1" else []

/-- The code that switches every style off. -/
def reset : List Char := code "0"

/-- The characters of a text in a style. -/
def Style.paintChars (style : Style) (text : List Char) : List Char :=
  style.opening ++ text ++ reset

/-- A text in a style. -/
def Style.paint (style : Style) (text : String) : String :=
  String.ofList (style.paintChars text.toList)

/-- The characters after the first `m`; nothing when there is none. -/
def afterM (cs : List Char) : List Char :=
  (cs.dropWhile (· != 'm')).drop 1

theorem length_afterM_le (cs : List Char) : (afterM cs).length ≤ cs.length := by
  have h := (List.dropWhile_suffix (l := cs) (· != 'm')).length_le
  simp only [afterM, List.length_drop]
  omega

/-- A text without its sequences `ESC [ … m`. A sequence reaches up to the next `m`. -/
def erase : List Char → List Char
  | [] => []
  | [c] => [c]
  | c :: d :: rest =>
    if c = escape ∧ d = '[' then erase (afterM rest) else c :: erase (d :: rest)
termination_by cs => cs.length
decreasing_by
  · have := length_afterM_le rest
    simp only [List.length_cons]
    omega
  · simp

end LineShell.Ansi
