import LineShell.Proofs.Session.Footprint

/-!
# Reads

In front of a reader a read is a prompt and a piece of the input, and nothing else happens. In front of an
editor it is the editor's answer.

* `Session.afterRead`: the session after a read from a reader.
* `Session.on_readEntry_of_fits`, `on_readLine_of_fits`: what such a read gives.
* `Session.written_readLine`: what it writes.
* `Session.on_readEditor`, `on_remember_of_editor`: what an editor answers, and what it keeps.
-/

namespace LineShell

variable {W : Type}

namespace Session

open Act

/-- The session after a prompt that was written and a piece that was taken. -/
def afterRead (session : Session W) (prompt : String) (reader : Reader) : Session W :=
  (session.afterWrite .out (Utf8.encode prompt)).afterPiece reader

/-- Whether the output stream still takes all of a text. -/
def Fits (session : Session W) (text : String) : Prop :=
  session.console.fitting .out (Utf8.encode text) = Utf8.encode text

/-- A stream without a limit takes every text. -/
theorem fits_of_room {session : Session W} (room : session.console.outRoom = none)
    (text : String) : session.Fits text := by
  have room' : session.console.room .out = none := room
  exact fitting_of_room room' _

/-- What a write adds to the streams. -/
theorem written_afterWrite (session : Session W) (stream target : Stream) (bytes : Bytes) :
    (session.afterWrite stream bytes).written target = session.written target ++
      if stream = target then session.console.fitting stream bytes else [] := by
  rw [written_eq_of_trace [.wrote stream _] rfl]
  simp [Event.console]

/-- What a read adds to the streams: its prompt. -/
theorem written_afterRead (session : Session W) (prompt : String) (reader : Reader) :
    (session.afterRead prompt reader).written .out =
      session.written .out ++ session.console.fitting .out (Utf8.encode prompt) := by
  have piece : (session.afterRead prompt reader).written .out =
      (session.afterWrite .out (Utf8.encode prompt)).written .out := by
    rw [afterRead, written_eq_of_trace [.took reader.piece.1] rfl]
    simp [Event.console]
  rw [piece, written_afterWrite, if_pos rfl]

/-- What a read takes: its piece. -/
theorem taken_afterRead (session : Session W) (prompt : String) (reader : Reader) :
    (session.afterRead prompt reader).taken = session.taken ++ [reader.piece.1] :=
  taken_eq_of_trace [.took _, .wrote .out _] rfl

section
variable [Host W] {session : Session W} {reader : Reader}

/-! ## Readers -/

theorem on_readEntry_of_reader (here : session.console.input = .reader reader) (prompt : String) :
    (readEntry prompt).on session = (print .out prompt >>= fun _ => readPiece reader).on session := by
  rw [readEntry, on_bind, on_get]
  simp only [here]

theorem on_readEntry_of_fits (here : session.console.input = .reader reader) {prompt : String}
    (fits : session.Fits prompt) :
    (readEntry prompt).on session =
      ((lineOfPiece reader.piece.1).map some, session.afterRead prompt reader) := by
  have put := on_write .out (Utf8.encode prompt) session
  rw [fits, if_neg (Nat.lt_irrefl _)] at put
  simp only [readEntry, on_bind, on_get, here, print, put, on_readPiece]
  rfl

theorem on_readEntry_of_not_fits (here : session.console.input = .reader reader) {prompt : String}
    (cut : ¬session.Fits prompt) :
    (readEntry prompt).on session =
      (.error (.io .closed), session.afterWrite .out (Utf8.encode prompt)) := by
  have put := on_write .out (Utf8.encode prompt) session
  split at put
  · simp only [readEntry, on_bind, on_get, here, print, put]
  · exact absurd (write_ok put).1 cut

/-- A command line from a reader is the text of a piece. -/
theorem on_readLine_of_fits (here : session.console.input = .reader reader) {prompt : String}
    (fits : session.Fits prompt) :
    (readLine prompt).on session =
      (lineOfPiece reader.piece.1, session.afterRead prompt reader) := by
  rw [readLine, on_bind, on_readEntry_of_fits here fits]
  cases lineOfPiece reader.piece.1 with
  | error fault => rfl
  | ok line =>
    simp only [Except.map, Option.getD_some]
    split <;> rfl

theorem on_readLine_of_not_fits (here : session.console.input = .reader reader) {prompt : String}
    (cut : ¬session.Fits prompt) :
    (readLine prompt).on session =
      (.error (.io .closed), session.afterWrite .out (Utf8.encode prompt)) := by
  rw [readLine, on_bind, on_readEntry_of_not_fits here cut]

/-- Whatever the read comes to, its prompt is written as far as it fits. -/
theorem written_readLine (here : session.console.input = .reader reader) (prompt : String) :
    ((readLine prompt).on session).2.written .out =
      session.written .out ++ session.console.fitting .out (Utf8.encode prompt) := by
  by_cases fits : session.Fits prompt
  · rw [on_readLine_of_fits here fits, written_afterRead]
  · rw [on_readLine_of_not_fits here fits, written_afterWrite, if_pos rfl]

omit [Host W] in
/-- A reader remembers nothing. -/
theorem on_remember_of_reader (here : session.console.input = .reader reader) (line : String) :
    (remember line).on session = (.ok (), session) := by
  rw [remember, on_modify]
  simp only [here]

/-! ## Editors -/

theorem on_readEntry_of_editor {editor : Editor} (here : session.console.input = .editor editor)
    (prompt : String) : (readEntry prompt).on session = (readEditor editor prompt).on session := by
  rw [readEntry, on_bind, on_get]
  simp only [here]

theorem on_readEditor (editor : Editor) (prompt : String) (session : Session W) :
    (readEditor editor prompt).on session =
      match editor.answer session.world prompt with
      | .ok line => (.ok (some line), session.afterAnswer editor prompt)
      | .error .interrupted => (.ok none, (session.afterAnswer editor prompt).afterEvent
          (.logged { level := .debug, message := "prompt interrupted, discarding line" }))
      | .error cause => (.error (.ofEditor cause), session.afterAnswer editor prompt) := by
  simp only [readEditor, on_bind, on_get, on_modify, afterAnswer]
  generalize editor.answer session.world prompt = answer
  cases answer with
  | ok line => rfl
  | error cause => cases cause <;> rfl

omit [Host W] in
/-- What an answer of an editor gives. -/
def answered (answer : Except EditorFault String) (session : Session W) :
    Except SessionFault (Option String) × Session W :=
  match answer with
  | .ok line => (.ok (some line), session)
  | .error .interrupted => (.ok none, session.afterEvent
      (.logged { level := .debug, message := "prompt interrupted, discarding line" }))
  | .error cause => (.error (.ofEditor cause), session)

/-- It is all that a read does with it. -/
theorem on_readEntry_answered {editor : Editor} (here : session.console.input = .editor editor)
    (prompt : String) :
    (readEntry prompt).on session =
      answered (editor.answer session.world prompt) (session.afterAnswer editor prompt) := by
  rw [on_readEntry_of_editor here, on_readEditor]
  rfl

/-- Whatever the answer, a read is the answer and what is done with it. -/
theorem steps_behind_answer {editor : Editor} (here : session.console.input = .editor editor)
    {prompt : String} : Steps Effect.all (session.afterAnswer editor prompt)
      ((readLine prompt).on session).2 := by
  have behind : ∀ (answer : Option String),
      Within Effect.all (do
        let line := answer.getD ""
        if !Text.allBlank line then remember line
        return line : Act W String) := by
    intro answer
    dsimp only
    split
    · exact .bind ((within_remember _).mono (by simp [Effect.all])) fun _ => .pure _
    · exact .pure _
  rw [readLine, on_bind, on_readEntry_answered here]
  cases editor.answer session.world prompt with
  | ok line => exact (behind _ _).steps
  | error cause =>
    cases cause with
    | interrupted =>
      have logged : Steps Effect.all (session.afterAnswer editor prompt) _ :=
        .single (.log { level := .debug, message := "prompt interrupted, discarding line" }) (by decide)
      exact logged.trans (behind _ _).steps
    | _ => exact .refl

omit [Host W] in
theorem on_remember_of_editor {editor : Editor} (here : session.console.input = .editor editor)
    (line : String) : (remember line).on session = (.ok (), session.afterRecorded editor line) := by
  rw [remember, on_modify]
  simp only [here]
  rfl

end

end Session

end LineShell
