import LineShell.Session.Command

/-!
# The loop

A session prompts with its working directory, reads a line and carries it out, until a line asks to leave
or the session is at fault. Every turn takes input, so the loop comes to an end.

* `Session.start`: a session in the current directory of its world.
* `Session.turn`: one turn of the loop.
* `Session.run`: the loop.
* `Session.run_of_fault`, `run_of_end`, `run_of_turn`: what a turn does to the rest of the run.
-/

namespace LineShell

variable {W : Type}

namespace Session

/-- Reads the working directory for the first time. -/
def start [Host W] : Act W Unit := do
  match ← refresh with
  | .ok () => return ()
  | .error cause => throw (.io cause)

/-- Starts anew: the working directory is read, and there are no aliases. Where it cannot be read, the
session stays as it was. -/
def reset [Host W] : Act W (Except IoFault Unit) := do
  match ← refresh with
  | .error cause => return .error cause
  | .ok () =>
    modify fun session => { session with aliases := {} }
    return .ok ()

/-- What is written in front of a command line. -/
def prompt (session : Session W) : String :=
  s!"{session.directory} > "

/-- One turn of the loop: whether the session is over after it. Blank lines only prompt again. -/
def turn [Host W] : Act W Bool := do
  let line ← readLine (← get).prompt
  if Text.allBlank line then return false
  match ← executeLine line with
  | .exit =>
    debug "exit requested, leaving the loop"
    return true
  | _ => return false

/-- A turn after which the session goes on has taken input. -/
theorem turn_lt [Host W] {session after : Session W} {ended : Bool}
    (h : turn.on session = (.ok ended, after)) : after.pending < session.pending := by
  simp only [turn, Act.on_bind, Act.on_get] at h
  split at h
  · next line between read =>
    -- The line was taken off the input, and nothing that follows puts it back.
    have less := readLine_lt read
    split at h
    · simp only [Act.on_pure, Prod.mk.injEq] at h
      exact h.2 ▸ less
    · have kept := keepsInput_executeLine (W := W) line between
      simp only [Act.on_bind] at h
      split at h
      · next eq =>
        rw [eq] at kept
        split at h
        · simp only [debug, record, Act.on_bind, Act.on_modify, Act.on_pure, Prod.mk.injEq] at h
          exact h.2 ▸ Nat.lt_of_le_of_lt kept less
        · simp only [Act.on_pure, Prod.mk.injEq] at h
          exact h.2 ▸ Nat.lt_of_le_of_lt kept less
      · simp at h
  · simp at h

/-- Runs a session to its end: what ended it, and the session that is left. -/
def run [Host W] (session : Session W) : Except SessionFault Unit × Session W :=
  match _turned : turn.on session with
  | (.error fault, after) => (.error fault, after)
  | (.ok true, after) => (.ok (), after)
  | (.ok false, after) => run after
termination_by session.pending
decreasing_by exact turn_lt _turned

/-! ### The loop, turn by turn -/

theorem run_of_fault [Host W] {session after : Session W} {fault : SessionFault}
    (h : turn.on session = (.error fault, after)) : run session = (.error fault, after) := by
  rw [run]
  split <;> simp_all

theorem run_of_end [Host W] {session after : Session W}
    (h : turn.on session = (.ok true, after)) : run session = (.ok (), after) := by
  rw [run]
  split <;> simp_all

theorem run_of_turn [Host W] {session after : Session W}
    (h : turn.on session = (.ok false, after)) : run session = run after := by
  rw [run]
  split <;> simp_all

end Session

end LineShell
