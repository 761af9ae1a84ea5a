import LineShell.Completion

/-!
# The line editor

On a terminal, lines come from an editor with a history and with completion. What it makes of the keys that are
pressed is its own affair, so sessions are defined over every editor, one prompt after another.

* `History`: the lines that an editor was handed.
* `Entry`: what comes of one prompt.
* `Editor`: what comes of all prompts.
* `Editor.answer`: what a session is told at a prompt.
-/

namespace LineShell

/-- The lines that an editor was handed to be recalled, the newest first. How many it keeps, and whether it keeps
one that it has, it decides itself. -/
abbrev History := List String

/-- What comes of one prompt: it is left without a line, or there is one. The line may depend on how lines are
completed at each position, on the prompt that is shown, and on the history. -/
structure Entry where
  leave : Option EditorFault := none
  line : (complete : String → Nat → Completion) → (prompt : String) → History → String

namespace Entry

/-- A line that is typed as it stands. -/
def ofText (text : String) : Entry :=
  { line := fun _ _ _ => text }

/-- A prompt that is left without a line. -/
def leaving (fault : EditorFault) : Entry :=
  { ofText "" with leave := some fault }

end Entry

/-- A line editor: what is going to come of its prompts, one entry a prompt, and its history. -/
structure Editor where
  entries : List Entry := []
  history : History := []

namespace Editor

/-- What the editor answers at a prompt: what comes of its next entry, or the end of the file when there is none
left. -/
def answer {W : Type} [Host W] (editor : Editor) (world : W) (prompt : String) :
    Except EditorFault String :=
  match editor.entries with
  | [] => .error .endOfFile
  | entry :: _ =>
    match entry.leave with
    | some fault => .error fault
    | none => .ok (entry.line (Completion.ofLine world) prompt editor.history)

/-- The editor after a prompt. -/
def afterRead (editor : Editor) : Editor :=
  { editor with entries := editor.entries.tail }

/-- The editor after a line was handed to its history. -/
def remember (editor : Editor) (line : String) : Editor :=
  { editor with history := line :: editor.history }

@[simp] theorem entries_remember (editor : Editor) (line : String) :
    (editor.remember line).entries = editor.entries := rfl

end Editor

end LineShell
