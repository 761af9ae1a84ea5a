import LineShell.Alias
import LineShell.Editor
import LineShell.Highlight
import LineShell.Reader
import LineShell.Session.Event

/-!
# Sessions

A session is the state that lasts from one command to the next, and an act is a step of it. An act always
leaves a session behind, also when it ends with a fault.

* `Input`, `Console`: where lines come from, and how much the output streams still take.
* `Session`: the state.
* `Act`: steps, with `Act.on` to carry one out.
* `Session.write`, `print`, `printLine`, `debug`: the elementary acts of output.
* `Act.KeepsInput`: acts after which no more input is pending than before.
-/

namespace LineShell

/-! ### Consoles -/

/-- Where lines come from. -/
inductive Input where
  | reader (reader : Reader)
  | editor (editor : Editor)

namespace Input

/-- How much there is left to read. -/
def pending : Input → Nat
  | reader r => r.unread.length
  | editor e => e.entries.length

/-- The bytes that a program finds on its input. -/
def source : Input → Bytes
  | reader r => r.source
  | editor _ => []

/-- The input after a program has taken bytes off it. -/
def afterProgram : Input → Nat → Input
  | reader r, taken => reader (r.afterProgram taken)
  | editor e, _ => editor e

theorem pending_afterProgram_le (input : Input) (taken : Nat) :
    (input.afterProgram taken).pending ≤ input.pending := by
  cases input with
  | reader r => exact r.length_unread_afterProgram_le taken
  | editor e => exact Nat.le_refl _

end Input

/-- The input and the two output streams. A stream takes any number of bytes, or only so many more. -/
structure Console where
  input : Input
  outRoom : Option Nat := none
  errRoom : Option Nat := none

namespace Console

/-- How many more bytes a stream takes; `none` is any number. -/
def room (console : Console) : Stream → Option Nat
  | .out => console.outRoom
  | .err => console.errRoom

/-- The part of the bytes that still fits on a stream. -/
def fitting (console : Console) (stream : Stream) (bytes : Bytes) : Bytes :=
  match console.room stream with
  | none => bytes
  | some n => bytes.take n

/-- The console after `n` bytes on a stream. -/
def spend (console : Console) (stream : Stream) (n : Nat) : Console :=
  match stream with
  | .out => { console with outRoom := console.outRoom.map (· - n) }
  | .err => { console with errRoom := console.errRoom.map (· - n) }

@[simp] theorem input_spend (console : Console) (stream : Stream) (n : Nat) :
    (console.spend stream n).input = console.input := by
  cases stream <;> rfl

end Console

/-! ### Sessions and acts -/

/-- The state of a shell on a host. The current directory is kept as the text that was read last; it is
empty before the first reading. -/
structure Session (W : Type) where
  console : Console
  world : W
  outHighlighter : Highlighter := .plain
  errHighlighter : Highlighter := .plain
  directory : String := ""
  aliases : AliasTable := {}
  trace : Trace := []

variable {W α β : Type}

/-- How much input there is left to read. -/
def Session.pending (session : Session W) : Nat :=
  session.console.input.pending

/-- A step of a session, which ends with a value or with the fault that ends the session. -/
abbrev Act (W α : Type) := ExceptT SessionFault (StateM (Session W)) α

/-- Carries out an act. -/
def Act.on (act : Act W α) (session : Session W) : Except SessionFault α × Session W :=
  StateT.run (m := Id) (ExceptT.run act) session

/-- How a command ended. Only `exit` ends the session. -/
inductive Status where
  | success
  | failure
  | exit
deriving DecidableEq, Repr

namespace Session

/-- Adds an event to the trace. -/
def record (event : Event) : Act W Unit :=
  modify fun session => { session with trace := event :: session.trace }

/-- Logs a diagnostic. -/
def debug (message : String) : Act W Unit :=
  record (.logged { level := .debug, message })

/-- Writes bytes to a stream. Where they do not all fit, those that do are written, and the session is at
fault. -/
def write (stream : Stream) (bytes : Bytes) : Act W Unit := do
  let fitting := (← get).console.fitting stream bytes
  -- What fits is written even if the rest does not.
  modify fun session => { session with
    console := session.console.spend stream fitting.length
    trace := .wrote stream fitting :: session.trace }
  if fitting.length < bytes.length then throw (.io .closed)

/-- Writes a text. -/
def print (stream : Stream) (text : String) : Act W Unit :=
  write stream (Utf8.encode text)

/-- Writes a text and a newline. -/
def printLine (stream : Stream) (text : String) : Act W Unit :=
  print stream (text ++ "\n")

end Session

/-! ### Acts and pending input -/

namespace Act

@[simp] theorem on_pure (x : α) (session : Session W) :
    Act.on (pure x : Act W α) session = (.ok x, session) := rfl

@[simp] theorem on_throw (fault : SessionFault) (session : Session W) :
    Act.on (throw fault : Act W α) session = (.error fault, session) := rfl

@[simp] theorem on_get (session : Session W) :
    Act.on (get : Act W (Session W)) session = (.ok session, session) := rfl

@[simp] theorem on_modify (f : Session W → Session W) (session : Session W) :
    Act.on (modify f : Act W Unit) session = (.ok (), f session) := rfl

/-- One act after another: the second sees the value and the session that the first leaves, and does not
happen after a fault. -/
theorem on_bind (act : Act W α) (next : α → Act W β) (session : Session W) :
    (act >>= next).on session =
      match act.on session with
      | (.ok x, after) => (next x).on after
      | (.error fault, after) => (.error fault, after) := by
  -- The state monad hides the pair that its first step gives; it is brought out by `change`.
  show StateT.run (m := Id) (ExceptT.run (act >>= next)) session = _
  simp only [ExceptT.run_bind, StateT.run_bind, Act.on]
  change (match (StateT.run (m := Id) (ExceptT.run act) session) with | (x, after) => _) = _
  rcases StateT.run (m := Id) (ExceptT.run act) session with ⟨_ | _, after⟩ <;> rfl

/-- After the act, no more input is pending than before. -/
def KeepsInput (act : Act W α) : Prop :=
  ∀ session, (act.on session).2.pending ≤ session.pending

theorem KeepsInput.pure (x : α) : KeepsInput (Pure.pure x : Act W α) :=
  fun _ => Nat.le_refl _

theorem KeepsInput.throw (fault : SessionFault) : KeepsInput (throw fault : Act W α) :=
  fun _ => Nat.le_refl _

theorem KeepsInput.get : KeepsInput (get : Act W (Session W)) :=
  fun _ => Nat.le_refl _

theorem KeepsInput.modify {f : Session W → Session W}
    (h : ∀ session, (f session).pending ≤ session.pending) :
    KeepsInput (modify f : Act W Unit) :=
  h

theorem KeepsInput.bind {act : Act W α} {next : α → Act W β} (first : act.KeepsInput)
    (second : ∀ x, (next x).KeepsInput) : (act >>= next).KeepsInput := by
  intro session
  have before := first session
  rw [on_bind]
  split
  · next x after eq =>
    rw [eq] at before
    exact Nat.le_trans (second x after) before
  · next eq => rwa [eq] at before

end Act

namespace Session

open Act

theorem keepsInput_record (event : Event) : KeepsInput (record event : Act W Unit) :=
  fun _ => Nat.le_refl _

theorem keepsInput_debug (message : String) : KeepsInput (debug message : Act W Unit) :=
  keepsInput_record _

theorem keepsInput_write (stream : Stream) (bytes : Bytes) :
    KeepsInput (write stream bytes : Act W Unit) := by
  refine .bind .get fun session => .bind (.modify fun session => ?_) fun _ => ?_
  · simp [pending]
  · split
    · exact .throw _
    · exact .pure _

theorem keepsInput_print (stream : Stream) (text : String) :
    KeepsInput (print stream text : Act W Unit) :=
  keepsInput_write _ _

theorem keepsInput_printLine (stream : Stream) (text : String) :
    KeepsInput (printLine stream text : Act W Unit) :=
  keepsInput_print _ _

end Session

end LineShell
