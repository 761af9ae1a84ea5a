import LineShell.Proofs.Line
import LineShell.Proofs.Session.Script
import LineShell.Proofs.Session.Simulation

/-!
# Terminators of lines

A session sees of its script the lines that the pieces hold. Scripts that hold the same lines are run alike,
whatever terminators stand in them.

* `IgnoresInput`: programs that do not look at their input.
* `Session.Relined`: two sessions in front of the same lines that have done the same.
* `Session.simulation_relined`: they go on alike.
* `Session.run_of_reterminates`: scripts that differ in terminators.
-/

namespace LineShell

variable {W : Type}

/-- Programs do the same whatever their input is, and take nothing off it. -/
def IgnoresInput (W : Type) [Host W] : Prop :=
  TakesNothing W ∧ ∀ (world : W) program args input,
    Host.launch world program args input = Host.launch world program args []

/-- What a reader hands out holds its first line, and what it keeps holds the others. -/
theorem Reader.linesOf_unread_piece (reader : Reader) :
    lineOfPiece reader.piece.1 = (linesOf reader.unread).headD (.error .endOfInput) ∧
      linesOf reader.piece.2.unread = (linesOf reader.unread).tail := by
  obtain ⟨first, rest⟩ := reader.pieces_unread_piece
  unfold linesOf
  rw [first, rest]
  cases pieces reader.unread with
  | nil => exact ⟨rfl, rfl⟩
  | cons piece others => exact ⟨rfl, rfl⟩

/-- An event, whatever piece of the input was taken. -/
def Event.unpieced : Event → Event
  | took _ => took []
  | event => event

@[simp] theorem Event.console_unpieced (event : Event) (stream : Stream) :
    event.unpieced.console stream = event.console stream := by
  cases event <;> rfl

namespace Session

open Act

section
variable [Host W]

/-! ## Two sessions in front of the same lines -/

/-- No program moves the reader, or sees what it holds. -/
def Untouched (W : Type) [Host W] (reader : Reader) : Prop :=
  reader.source = [] ∨ IgnoresInput W

theorem Untouched.piece {reader : Reader} (untouched : Untouched W reader) :
    Untouched W reader.piece.2 :=
  untouched.imp_left Reader.source_piece

/-- Two sessions that differ in the terminators of what they read, and in nothing else so far. -/
inductive Relined : Session W → Session W → Prop
  | intro (session : Session W) (reader reader' : Reader) (trace trace' : Trace) :
      linesOf reader.unread = linesOf reader'.unread → Untouched W reader → Untouched W reader' →
      trace.map Event.unpieced = trace'.map Event.unpieced →
      Relined (session.reading (.reader reader) trace) (session.reading (.reader reader') trace')

variable {first second : Session W}

/-- What does not look at the input happens in both sessions alike. -/
theorem Relined.step (near : Relined first second) (change : Session W → Session W)
    (new : Session W → List Event)
    (commutes : ∀ session input trace,
      change (session.reading input trace) = (change session).reading input (new session ++ trace)) :
    Relined (change first) (change second) := by
  cases near with
  | intro session reader reader' trace trace' lines untouched untouched' told =>
    rw [commutes, commutes]
    apply Relined.intro _ _ _ _ _ lines untouched untouched'
    rw [List.map_append, List.map_append, told]

/-- Both read the same line. -/
theorem Relined.piece (near : Relined first second) {reader reader' : Reader}
    (here : first.console.input = .reader reader) (here' : second.console.input = .reader reader') :
    lineOfPiece reader.piece.1 = lineOfPiece reader'.piece.1 ∧
      Relined (first.afterPiece reader) (second.afterPiece reader') := by
  cases near with
  | intro session reader reader' trace trace' lines untouched untouched' told =>
    cases here
    cases here'
    obtain ⟨line, rest⟩ := reader.linesOf_unread_piece
    obtain ⟨line', rest'⟩ := reader'.linesOf_unread_piece
    refine ⟨by rw [line, line', lines], ?_⟩
    apply Relined.intro session _ _ (.took reader.piece.1 :: trace) (.took reader'.piece.1 :: trace')
    · rw [rest, rest', lines]
    · exact untouched.piece
    · exact untouched'.piece
    · rw [List.map_cons, List.map_cons, told]
      rfl

/-- A program does the same in both. -/
theorem Relined.launch (near : Relined first second) (program : String) (args : List String) :
    (first.launched program args).result = (second.launched program args).result ∧
      Relined (first.afterLaunch program args) (second.afterLaunch program args) := by
  cases near with
  | intro session reader reader' trace trace' lines untouched untouched' told =>
    have done : ∀ {reader : Reader}, Untouched W reader → ∀ trace,
        (session.reading (.reader reader) trace).launched program args =
          Host.launch session.world program args [] ∧
        (session.reading (.reader reader) trace).afterLaunch program args =
          ({ session with world := (Host.launch session.world program args []).world } :
            Session W).reading (.reader reader)
          (((Host.launch session.world program args []).output.map fun part =>
              Event.emitted part.1 part.2).reverse ++ .launched program args [] :: trace) := by
      intro reader untouched trace
      have same : (session.reading (.reader reader) trace).launched program args =
          Host.launch session.world program args [] := by
        rcases untouched with empty | ignores
        · exact congrArg (Host.launch session.world program args) empty
        · exact ignores.2 session.world program args reader.source
      have idle : reader.source = [] ∨ (Host.launch session.world program args []).taken = 0 :=
        untouched.imp_right fun ignores => ignores.1 session.world program args []
      have still : (Input.reader reader).afterProgram
          (Host.launch session.world program args []).taken = .reader reader :=
        congrArg Input.reader (Reader.afterProgram_eq_self idle)
      have fed : reader.source.take (Host.launch session.world program args []).taken = [] := by
        rcases idle with empty | none
        · rw [empty, List.take_nil]
        · rw [none, List.take_zero]
      refine ⟨same, ?_⟩
      rw [afterLaunch, same]
      simp only [reading, Input.source, still, fed]
    obtain ⟨launched, after⟩ := done untouched trace
    obtain ⟨launched', after'⟩ := done untouched' trace'
    rw [launched, launched', after, after']
    refine ⟨rfl, .intro _ _ _ _ _ lines untouched untouched' ?_⟩
    rw [List.map_append, List.map_append, List.map_cons, List.map_cons, told]

theorem related_write_relined (stream : Stream) (bytes : Bytes) :
    Related (Relined (W := W)) Never (write stream bytes) (write stream bytes) where
  steps := (within_write stream bytes).steps_all
  meets := by
    intro first second near
    have fitting : first.console.fitting stream bytes = second.console.fitting stream bytes := by
      cases near
      cases stream <;> rfl
    rw [on_write, on_write, fitting]
    apply Meets.together
    apply near.step (afterWrite · stream bytes) fun session =>
      [.wrote stream (session.console.fitting stream bytes)]
    intro session input trace
    cases stream <;> rfl

theorem related_readEntry_relined (prompt : String) :
    Related (Relined (W := W)) Never (readEntry prompt) (readEntry prompt) where
  steps := (within_readEntry prompt).steps_all
  meets := by
    intro first second near
    have here : ∃ reader reader', first.console.input = .reader reader ∧
        second.console.input = .reader reader' := by
      cases near
      exact ⟨_, _, rfl, rfl⟩
    obtain ⟨reader, reader', here, here'⟩ := here
    rw [on_readEntry_of_reader here, on_readEntry_of_reader here']
    -- The prompt moves neither reader.
    have still : ∀ {session after : Session W} {reader x}, session.console.input = .reader reader →
        (print .out prompt).on session = (.ok x, after) → after.console.input = .reader reader := by
      intro session after reader _ here put
      rw [(write_ok put).2, afterWrite, Console.input_spend, here]
    apply ((related_write_relined .out (Utf8.encode prompt)).meets near).bind
    · intro x between put
      rw [on_readPiece]
      exact .single (.piece reader' (still here' put)) (Effect.mem_all _)
    · intro x between between' put put' near'
      obtain ⟨line, behind⟩ := near'.piece (still here put) (still here' put')
      rw [on_readPiece, on_readPiece, line]
      exact .together _ behind

/-- Sessions in front of the same lines do the same. -/
theorem simulation_relined : Simulation (Relined (W := W)) Never := by
  have print : ∀ stream text,
      Related (Relined (W := W)) Never (print stream text) (print stream text) :=
    fun stream text => related_write_relined stream _
  have style : ∀ {first second : Session W}, Relined first second →
      first.outHighlighter = second.outHighlighter := by
    intro first second near
    cases near
    rfl
  constructor
  case' toSimulationUpToListing => constructor
  case sees_world =>
    intro first second near
    cases near
    rfl
  case sees_directory =>
    intro first second near
    cases near
    rfl
  case after_log =>
    intro first second near record
    exact near.step (afterEvent · (.logged record)) (fun _ => [.logged record]) fun _ _ _ => rfl
  case after_enter =>
    intro first second near path world _
    exact near.step (afterEnter · path world) (fun _ => [.entered path]) fun _ _ _ => rfl
  case after_refresh =>
    intro first second near text _
    exact near.step (withDirectory · text) (fun _ => []) fun _ _ _ => rfl
  case after_store =>
    intro first second near name value
    exact near.step (afterStore · name value) (fun _ => [.stored name value]) fun _ _ _ => rfl
  case after_launch =>
    intro first second near program args
    exact near.launch program args
  case on_print => exact print .out
  case on_readEntry => exact related_readEntry_relined
  case on_remember =>
    intro line
    constructor
    · exact (within_remember line).steps_all
    · intro first second near
      have here : ∃ reader reader', first.console.input = .reader reader ∧
          second.console.input = .reader reader' := by
        cases near
        exact ⟨_, _, rfl, rfl⟩
      obtain ⟨reader, reader', here, here'⟩ := here
      rw [on_remember_of_reader here, on_remember_of_reader here']
      exact .together _ near
  case on_logo => exact related_printLogo (print .out) style
  case on_help => exact related_help (print .out) style
  case on_listing =>
    apply related_listAliases (print .out)
    intro first second near
    cases near
    rfl
  case on_report =>
    apply related_report (print .err)
    intro first second near
    cases near
    rfl

/-! ## Runs -/

/-- Two runs that differ in the terminators of what they read, and in nothing else. -/
structure EndAlike (outcome outcome' : Except SessionFault Unit × Session W) : Prop where
  result : outcome.1 = outcome'.1
  written : ∀ stream, outcome.2.written stream = outcome'.2.written stream
  aliases : outcome.2.aliases = outcome'.2.aliases
  directory : outcome.2.directory = outcome'.2.directory
  world : outcome.2.world = outcome'.2.world
  /-- The same happened in the same order, up to the pieces that were taken. -/
  told : outcome.2.trace.map Event.unpieced = outcome'.2.trace.map Event.unpieced
  /-- The same lines are left unread. -/
  left : ∃ reader reader', outcome.2.console.input = .reader reader ∧
    outcome'.2.console.input = .reader reader' ∧ linesOf reader.unread = linesOf reader'.unread

omit [Host W] in
/-- What is written does not depend on the pieces that were taken. -/
theorem written_of_unpieced {session session' : Session W}
    (told : session.trace.map Event.unpieced = session'.trace.map Event.unpieced) (stream : Stream) :
    session.written stream = session'.written stream := by
  have unpieced : ∀ session : Session W, session.written stream =
      (session.trace.map Event.unpieced).reverse.flatMap (Event.console stream) := by
    intro session
    rw [← List.map_reverse, List.flatMap_map]
    simp only [Event.console_unpieced]
    rfl
  rw [unpieced, unpieced, told]

/-- **Terminators of lines make no difference.** A script with more carriage returns in front of its newlines,
or with a newline behind its last line, is run alike, whatever state the session is in, whatever its streams
take and however the script is buffered: the session ends alike, writes the same, and leaves the same aliases,
the same directory and the same lines. -/
theorem run_of_reterminates (session : Session W) {reader reader' : Reader}
    (more : Relation.ReflTransGen Reterminates reader.unread reader'.unread)
    (untouched : Untouched W reader) (untouched' : Untouched W reader') :
    EndAlike (run (session.withInput (.reader reader))) (run (session.withInput (.reader reader'))) := by
  have near : Relined (session.withInput (.reader reader)) (session.withInput (.reader reader')) :=
    .intro session reader reader' session.trace session.trace
      (linesOf_eq_of_reterminates more) untouched untouched' rfl
  obtain ⟨result, last, last', run, run', still⟩ := (simulation_relined.meets_run near).of_never
  rw [run, run']
  cases still with
  | intro final left left' trace trace' lines _ _ told =>
    constructor
    · rfl
    · exact written_of_unpieced told
    · rfl
    · rfl
    · rfl
    · exact told
    · exact ⟨left, left', rfl, rfl, lines⟩

end

end Session

namespace Machine

open Session in
/-- A session is left on a line that ends in a carriage return and a newline. -/
theorem run_of_reterminates_exit :
    Relation.ReflTransGen Reterminates (Utf8.encode "exit\n") (Utf8.encode "exit\r\n") ∧
      (run (scriptSession.withInput (.reader (.ofScript (Utf8.encode "exit\r\n"))))).1 = .ok () := by
  have spelled : Utf8.encode "exit\n" = Utf8.encode "exit" ++ newline :: [] ∧
      Utf8.encode "exit\r\n" = Utf8.encode "exit" ++ carriageReturn :: newline :: [] := by
    decide +kernel
  have more : Relation.ReflTransGen Reterminates (Utf8.encode "exit\n")
      (Utf8.encode "exit\r\n") := by
    rw [spelled.1, spelled.2]
    exact .single (.insert (Utf8.encode "exit") [])
  refine ⟨more, ?_⟩
  have unread : ∀ script, (Reader.ofScript script).unread = script := fun _ => List.append_nil _
  have alike : EndAlike
      (run (scriptSession.withInput (.reader (.ofScript (Utf8.encode "exit\n")))))
      (run (scriptSession.withInput (.reader (.ofScript (Utf8.encode "exit\r\n"))))) :=
    run_of_reterminates scriptSession (by rwa [unread, unread]) (.inl rfl) (.inl rfl)
  rw [← alike.result]
  have one : pieces (Utf8.encode "exit\n") = [Utf8.encode "exit\n"] := by
    decide +kernel
  have scripted : Scripted (scriptSession.withInput (.reader (.ofScript (Utf8.encode "exit\n"))))
      [Utf8.encode "exit\n"] :=
    ⟨⟨.ofScript (Utf8.encode "exit\n"), rfl, one, .inl rfl⟩, rfl, rfl⟩
  obtain ⟨rest, interprets, _⟩ := interpret_run _ scripted
  rw [interpret_exit] at interprets
  exact (Reading.mk.inj interprets).2.1.symm

end Machine

end LineShell
