import LineShell.Path
import LineShell.Session.Basic

/-!
# The working directory

A session keeps the current directory as text and shows that text, so the system is asked only when the
directory may have changed.

* `Directory.read`: the current directory as text.
* `Session.refresh`: reads it again.
* `Session.moveTo`: changes it, and reads it again.
-/

namespace LineShell

variable {W : Type}

namespace Directory

/-- The length in bytes that the text of a directory may have. -/
def maxLength : Nat := 4096

/-- A directory whose text is too long to be kept. -/
def tooLong : IoFault :=
  .own .other s!"working directory is longer than {maxLength} bytes"

/-- The current directory as text, bytes that are no text being replaced. -/
def read [Host W] (world : W) : Except IoFault String :=
  match Host.here world with
  | .error cause => .error cause
  | .ok path =>
    let text := Utf8.decodeLossy path
    if maxLength < text.utf8ByteSize then .error tooLong else .ok text

end Directory

namespace Session

/-- Reads the current directory again. A failed reading leaves the text that was read before. -/
def refresh [Host W] : Act W (Except IoFault Unit) := do
  match Directory.read (← get).world with
  | .error cause => return .error cause
  | .ok text =>
    modify fun session => { session with directory := text }
    debug s!"working directory is {text}"
    return .ok ()

/-- Makes the directory at a path the current one. -/
def enter [Host W] (path : Bytes) : Act W (Except IoFault Unit) := do
  match Host.enter (← get).world path with
  | .error cause => return .error cause
  | .ok world =>
    modify fun session => { session with world, trace := .entered path :: session.trace }
    return .ok ()

/-- Changes to the directory that was typed and reads it again. A directory that does not exist is
reported in plain words, any other failure with its error. -/
def moveTo [Host W] (target : String) : Act W (Except CommandFault Unit) := do
  match Path.expand? (Host.home (← get).world) target with
  | none => return .error .noHome
  | some path =>
    match ← enter path with
    | .error cause =>
      if cause.isNotFound then return .error (.noSuchDirectory target)
      else return .error (.directory target cause)
    | .ok () =>
      match ← refresh with
      | .error cause => return .error (.directory target cause)
      | .ok () => return .ok ()

/-! ### None of this reads input -/

open Act

theorem keepsInput_refresh [Host W] : KeepsInput (refresh : Act W (Except IoFault Unit)) := by
  refine .bind .get fun session => ?_
  split
  · exact .pure _
  · exact .bind (.modify fun _ => Nat.le_refl _) fun _ => .bind (keepsInput_debug _) fun _ => .pure _

theorem keepsInput_enter [Host W] (path : Bytes) :
    KeepsInput (enter path : Act W (Except IoFault Unit)) := by
  refine .bind .get fun session => ?_
  split
  · exact .pure _
  · exact .bind (.modify fun _ => Nat.le_refl _) fun _ => .pure _

theorem keepsInput_moveTo [Host W] (target : String) :
    KeepsInput (moveTo target : Act W (Except CommandFault Unit)) := by
  refine .bind .get fun session => ?_
  split
  · exact .pure _
  · refine .bind (keepsInput_enter _) fun entered => ?_
    split
    · split <;> exact .pure _
    · refine .bind keepsInput_refresh fun refreshed => ?_
      split <;> exact .pure _

end Session

end LineShell
