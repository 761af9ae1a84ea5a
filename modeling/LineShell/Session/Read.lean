import LineShell.Session.Basic
import LineShell.Text.Blank

/-!
# Reading

A session reads command lines and answers to questions, both from the one input of its console.

* `Session.readEntry`: an answer, or `none` when the prompt was interrupted.
* `Session.readLine`: a command line, recorded in the history of the editor.
* `Session.readLine_lt`: a command line that was read is no longer pending.
-/

namespace LineShell

variable {W : Type}

/-- The text of a piece of input, without its terminators. -/
def lineOfPiece (piece : Bytes) : Except SessionFault String :=
  if piece.isEmpty then .error .endOfInput
  else
    match Utf8.decode? piece with
    | none => .error (.io .malformedText)
    | some text => .ok (String.ofList (stripEnd text.toList))

namespace Session

/-- Takes the next piece off a reader. -/
def readPiece (reader : Reader) : Act W (Option String) := do
  let cut := reader.piece
  modify fun session => { session with
    console := { session.console with input := .reader cut.2 }
    trace := .took cut.1 :: session.trace }
  match lineOfPiece cut.1 with
  | .ok line => return some line
  | .error fault => throw fault

/-- Shows a prompt in an editor and takes its answer. An interrupted prompt is no answer, and no fault either. -/
def readEditor [Host W] (editor : Editor) (prompt : String) : Act W (Option String) := do
  let answer := editor.answer (← get).world prompt
  modify fun session => { session with
    console := { session.console with input := .editor editor.afterRead }
    trace := .answered prompt answer :: session.trace }
  match answer with
  | .ok line => return some line
  | .error .interrupted =>
    debug "prompt interrupted, discarding line"
    return none
  | .error fault => throw (.ofEditor fault)

/-- Reads the answer to a prompt; `none` when the prompt was interrupted. The editor shows the prompt
itself, in front of other input it is written to the output stream. -/
def readEntry [Host W] (prompt : String) : Act W (Option String) := do
  match (← get).console.input with
  | .editor editor => readEditor editor prompt
  | .reader reader =>
    print .out prompt
    readPiece reader

/-- Hands a line to the history of the editor; other input has none. -/
def remember (line : String) : Act W Unit :=
  modify fun session =>
    match session.console.input with
    | .reader _ => session
    | .editor editor =>
      { session with
        console := { session.console with
          input := .editor (editor.remember line) }
        trace := .recorded line :: session.trace }

/-- Reads a command line. An interrupted prompt gives an empty one, and a line that is not blank is
remembered. -/
def readLine [Host W] (prompt : String) : Act W String := do
  let line := (← readEntry prompt).getD ""
  if !Text.allBlank line then remember line
  return line

/-! ### Reading takes input -/

open Act

theorem pending_readPiece (reader : Reader) (session : Session W) :
    ((readPiece reader).on session).2.pending = reader.piece.2.unread.length := by
  simp only [readPiece, on_bind, on_modify]
  split <;> rfl

/-- A piece that holds a line is not empty, so the reader has less to hand out. -/
theorem unread_lt_of_readPiece {reader : Reader} {session after : Session W} {line : Option String}
    (h : (readPiece reader).on session = (.ok line, after)) :
    after.pending < reader.unread.length := by
  have lengths := congrArg List.length reader.piece_append_unread
  have pending := pending_readPiece reader session
  rw [h] at pending
  -- An empty piece is the end of the input, which is no line.
  have notEmpty : reader.piece.1 ≠ [] := by
    intro empty
    simp [readPiece, on_bind, lineOfPiece, empty] at h
  have := List.length_pos_iff.mpr notEmpty
  simp only [List.length_append] at lengths
  simp only at pending
  omega

theorem keepsInput_remember (line : String) : KeepsInput (remember line : Act W Unit) := by
  refine .modify fun session => ?_
  split
  · exact Nat.le_refl _
  · next editor eq => simp [pending, Input.pending, eq]

theorem pending_readEditor_le [Host W] (editor : Editor) (prompt : String) (session : Session W) :
    ((readEditor editor prompt).on session).2.pending ≤ editor.entries.length := by
  simp only [readEditor, on_bind, on_get, on_modify]
  have tail : editor.entries.tail.length ≤ editor.entries.length := by simp
  split <;> exact tail

theorem readEditor_lt [Host W] {editor : Editor} {prompt : String} {session after : Session W}
    {line : Option String} (h : (readEditor editor prompt).on session = (.ok line, after)) :
    after.pending < editor.entries.length := by
  cases entries : editor.entries with
  | nil => simp [readEditor, on_bind, Editor.answer, entries] at h
  | cons entry rest =>
    have shorter : editor.afterRead.entries.length < (entry :: rest).length := by
      simp [Editor.afterRead, entries]
    simp only [readEditor, on_bind, on_get, on_modify] at h
    split at h <;> simp only [debug, record, on_bind, on_modify, on_pure, on_throw, Prod.mk.injEq,
      reduceCtorEq, false_and] at h <;> exact h.2 ▸ shorter

theorem keepsInput_readEntry [Host W] (prompt : String) :
    KeepsInput (readEntry prompt : Act W (Option String)) := by
  intro session
  simp only [readEntry, on_bind, on_get]
  split
  · next editor eq =>
    have := pending_readEditor_le editor prompt session
    simpa [pending, Input.pending, eq] using this
  · next reader eq =>
    simp only [on_bind]
    have printed := keepsInput_print (W := W) .out prompt session
    split
    · next after _ =>
      have lengths := congrArg List.length reader.piece_append_unread
      simp only [List.length_append] at lengths
      rw [pending_readPiece]
      simp only [pending, Input.pending, eq]
      omega
    · next h => rwa [h] at printed

/-- A read that gives an answer takes input. -/
theorem readEntry_lt [Host W] {prompt : String} {session after : Session W} {line : Option String}
    (h : (readEntry prompt).on session = (.ok line, after)) : after.pending < session.pending := by
  simp only [readEntry, on_bind, on_get] at h
  split at h
  · next editor eq =>
    have := readEditor_lt h
    simpa [pending, Input.pending, eq] using this
  · next reader eq =>
    simp only [on_bind] at h
    split at h
    · have := unread_lt_of_readPiece h
      simpa [pending, Input.pending, eq] using this
    · simp at h

/-- A command line that was read is no longer pending. -/
theorem readLine_lt [Host W] {prompt : String} {session after : Session W} {line : String}
    (h : (readLine prompt).on session = (.ok line, after)) : after.pending < session.pending := by
  simp only [readLine, on_bind] at h
  split at h
  · next answer between read =>
    have less := readEntry_lt read
    split at h
    · have kept := keepsInput_remember (W := W) (answer.getD "") between
      simp only [on_bind] at h
      split at h
      · next eq =>
        simp only [on_pure, Prod.mk.injEq] at h
        rw [eq, h.2] at kept
        exact Nat.lt_of_le_of_lt kept less
      · simp at h
    · simp only [on_pure, Prod.mk.injEq] at h
      exact h.2 ▸ less
  · simp at h

end Session

end LineShell
