import LineShell.Editor
import LineShell.Text.Cut

/-!
# Keyboards

At a machine lines are typed on a keyboard. Its line editor knows a few keys: Up recalls the lines of the history,
Tab completes the line, and others leave the prompt.

* `History.kept`, `History.recalled`: which lines can be recalled.
* `Keys`: the keys that are pressed at one prompt.
* `Keys.entry`: what comes of them.
-/

namespace LineShell.Machine

namespace History

/-- How many lines are kept. -/
def capacity : Nat := 100

/-- The kept lines with one line more; a line that equals the newest one is not kept again, and the oldest line
goes when there are too many. -/
def keep (line : String) (kept : History) : History :=
  if kept.head? = some line then kept else (line :: kept).take capacity

/-- The lines of a history that are kept. -/
def kept (history : History) : History :=
  history.foldr keep []

/-- The line that pressing Up `n` times recalls. Beyond the oldest line it stays there, and without pressing it,
or without a history, there is nothing. -/
def recalled (history : History) (n : Nat) : String :=
  match n with
  | 0 => ""
  | n + 1 => ((kept history)[min n ((kept history).length - 1)]?).getD ""

end History

/-- The keys pressed at one prompt: Up some times, a text, Tab some times, more text; then Enter, or a way to leave
the prompt without a line. -/
structure Keys where
  up : Nat := 0
  text : String := ""
  tabs : Nat := 0
  more : String := ""
  leave : Option EditorFault := none
deriving DecidableEq, Repr

namespace Keys

/-- What `n` presses of Tab show for a line with the cursor at its end. The presses go round through the candidates
and the line as it was typed. -/
def complete (complete : String → Nat → Completion) (line : String) (n : Nat) : String :=
  let completion := complete line line.utf8ByteSize
  let count := completion.candidates.length
  if n = 0 ∨ count = 0 then line
  else
    match completion.candidates[(n - 1) % (count + 1)]? with
    | some candidate =>
      String.ofList (Text.takeBytes completion.start line.toList) ++ candidate.replacement
    | none => line

/-- What comes of the keys. They do not depend on the prompt. -/
def entry (keys : Keys) : Entry where
  leave := keys.leave
  line complete _ history :=
    Keys.complete complete (History.recalled history keys.up ++ keys.text) keys.tabs ++ keys.more

end Keys

end LineShell.Machine
