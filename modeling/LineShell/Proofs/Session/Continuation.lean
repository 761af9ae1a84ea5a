import LineShell.Proofs.Session.Script
import LineShell.Proofs.Session.Simulation

/-!
# Scripts that go on

What a session does on a script of whole lines does not depend on what follows the script, up to the read
that finds the script at its end.

* `WholeLines`: a script whose last line has its newline.
* `Session.Longer`: two sessions that differ in what follows the script only.
* `Session.simulation_longer`: they do the same, up to the end of the shorter script.
* `Session.run_onScript_append`: so the run on the longer script begins with the other run.
-/

namespace LineShell

variable {W : Type}

/-! ## Whole lines -/

/-- The script is empty, or its last line has its newline. -/
def WholeLines (script : Bytes) : Prop :=
  ∀ b, script.getLast? = some b → b = newline

/-- What follows whole lines does not change the first of them, and behind it there are whole lines. -/
theorem WholeLines.cut {script : Bytes} (whole : WholeLines script) (some : script ≠ []) :
    newline ∈ script ∧ WholeLines (cutLine script).2 ∧ ∀ more,
      cutLine (script ++ more) = ((cutLine script).1, (cutLine script).2 ++ more) := by
  have last : script.getLast? = .some newline := by
    have there := List.getLast?_eq_some_getLast some
    rw [whole _ there] at there
    exact there
  have mem : newline ∈ script := List.mem_of_getLast? last
  refine ⟨mem, ?_, ?_⟩
  · intro b behind
    apply whole
    rw [← cutLine_append script, List.getLast?_append, behind]
    rfl
  · intro more
    have first := cutLine_append_of_mem mem more
    have all : (cutLine (script ++ more)).1 ++ (cutLine (script ++ more)).2 =
        (cutLine script).1 ++ ((cutLine script).2 ++ more) := by
      rw [cutLine_append, ← List.append_assoc, cutLine_append]
    rw [first] at all
    exact Prod.ext first (List.append_cancel_left all)

/-- The reader with more behind what it holds. -/
def Reader.append (reader : Reader) (more : Bytes) : Reader :=
  { reader with held := reader.held ++ more }

theorem Reader.piece_of_mem {reader : Reader} (mem : newline ∈ reader.held) :
    reader.piece = ((cutLine reader.held).1, { reader with held := (cutLine reader.held).2 }) := by
  rw [piece, if_pos mem]

/-- Where a reader holds whole lines, the next piece is the same with more behind them. -/
theorem Reader.piece_append {reader : Reader} (whole : WholeLines reader.held)
    (some : reader.held ≠ []) (more : Bytes) :
    (reader.append more).piece = (reader.piece.1, reader.piece.2.append more) ∧
      WholeLines reader.piece.2.held := by
  obtain ⟨mem, behind, cut⟩ := whole.cut some
  have mem' : newline ∈ (reader.append more).held := List.mem_append_left more mem
  have held : (reader.append more).held = reader.held ++ more := rfl
  rw [piece_of_mem mem', piece_of_mem mem, held, cut]
  exact ⟨rfl, behind⟩

/-- What lasts behind a session: a program was started, the directory was changed, an alias was stored. -/
def Event.lasts : Event → Bool
  | launched .. | entered _ | stored .. => true
  | _ => false

namespace Session

open Act

/-- What a session has done that lasts, in order. -/
def deeds (session : Session W) : List Event :=
  session.trace.reverse.filter Event.lasts

/-- The session in front of a script. -/
def onScript (session : Session W) (script : Bytes) : Session W :=
  session.withInput (.reader (.ofScript script))

/-! ## Two sessions that differ in what follows -/

/-- The first session reads whole lines, and the second is the same with more behind them. -/
inductive Longer (more : Bytes) : Session W → Session W → Prop
  | intro (session : Session W) (reader : Reader) : session.console.input = .reader reader →
      reader.source = [] → WholeLines reader.held →
      Longer more session (session.withInput (.reader (reader.append more)))

/-- The first session has found the script at its end, and has done nothing else since they were alike. -/
inductive RunsOut : SessionFault → Session W → Session W → Prop
  | intro (first split : Session W) : first.trace = .took [] :: split.trace →
      RunsOut .endOfInput first split

theorem afterWrite_withInput (session : Session W) (input : Input) (stream : Stream) (bytes : Bytes) :
    (session.withInput input).afterWrite stream bytes =
      (session.afterWrite stream bytes).withInput input := by
  cases stream <;> rfl

/-- What does not look at the input keeps the sessions alike. -/
theorem Longer.step {more : Bytes} {first second : Session W} (longer : Longer more first second)
    (change : Session W → Session W)
    (keeps : ∀ session, (change session).console.input = session.console.input)
    (commutes : ∀ session input, change (session.withInput input) = (change session).withInput input) :
    Longer more (change first) (change second) := by
  cases longer with
  | intro reader here untouched whole =>
    rw [commutes]
    exact .intro _ reader ((keeps first).trans here) untouched whole

theorem Longer.afterWrite {more : Bytes} {first second : Session W} (longer : Longer more first second)
    (stream : Stream) (bytes : Bytes) :
    Longer more (first.afterWrite stream bytes) (second.afterWrite stream bytes) := by
  apply longer.step (Session.afterWrite · stream bytes)
  · intro session
    exact Console.input_spend ..
  · intro session input
    exact afterWrite_withInput session input stream bytes

section
variable [Host W] {more : Bytes}

theorem related_write_longer (stream : Stream) (bytes : Bytes) :
    Related (Longer more) RunsOut (write stream bytes : Act W Unit) (write stream bytes) where
  steps := (within_write stream bytes).steps_all
  meets := by
    intro first second longer
    have after := longer.afterWrite stream bytes
    have same : second.console.fitting stream bytes = first.console.fitting stream bytes := by
      cases longer
      cases stream <;> rfl
    rw [on_write, on_write, same]
    exact .together _ after

/-- A program sees neither script. -/
theorem Longer.launch {first second : Session W} (longer : Longer more first second)
    (program : String) (args : List String) :
    (first.launched program args).result = (second.launched program args).result ∧
      Longer more (first.afterLaunch program args) (second.afterLaunch program args) := by
  cases longer with
  | intro reader here untouched whole =>
    have source : first.console.input.source = [] := by
      rw [here]
      exact untouched
    have source' : (first.withInput (.reader (reader.append more))).console.input.source = [] :=
      untouched
    have same : (first.withInput (.reader (reader.append more))).launched program args =
        first.launched program args := by
      unfold launched
      rw [source, source']
      rfl
    refine ⟨by rw [same], ?_⟩
    have after : (first.withInput (.reader (reader.append more))).afterLaunch program args =
        (first.afterLaunch program args).withInput
          (.reader ((reader.afterProgram (first.launched program args).taken).append more)) := by
      unfold afterLaunch
      rw [same, source, source']
      rfl
    rw [after]
    refine .intro _ _ ?_ ?_ whole
    · simp only [afterLaunch, here]
      rfl
    · simp only [Reader.afterProgram, untouched, List.drop_nil]

/-- A read gives both the same line, unless the shorter script is at its end. -/
theorem related_readEntry_longer (prompt : String) :
    Related (Longer more) RunsOut (readEntry prompt : Act W _) (readEntry prompt) where
  steps := (within_readEntry prompt).steps_all
  meets := by
    intro first second longer
    have wrote := longer.afterWrite .out (Utf8.encode prompt)
    cases longer with
    | intro reader here untouched whole =>
      have here' : (first.withInput (.reader (reader.append more))).console.input =
        .reader (reader.append more) := rfl
      by_cases fits : first.Fits prompt
      · have fits' : (first.withInput (.reader (reader.append more))).Fits prompt := fits
        rw [on_readEntry_of_fits here fits, on_readEntry_of_fits here' fits']
        by_cases atEnd : reader.held = []
        · -- The shorter script is at its end, and the other session reads on behind the prompt.
          have piece : reader.piece.1 = [] := by
            rw [(reader.piece_eq_cutLine).1, Reader.unread, atEnd, untouched]
            rfl
          rw [piece]
          refine .parted .endOfInput _ (.intro _ _ ?_) (.single (.piece _ ?_) (Effect.mem_all _))
          · rw [afterWrite_withInput, afterRead, afterPiece, piece]
            rfl
          · exact Console.input_spend ..
        · obtain ⟨same, behind⟩ := Reader.piece_append whole atEnd more
          have line : (reader.append more).piece.1 = reader.piece.1 := by rw [same]
          have after : (first.withInput (.reader (reader.append more))).afterRead prompt
              (reader.append more) =
              (first.afterRead prompt reader).withInput (.reader (reader.piece.2.append more)) := by
            rw [afterRead, afterWrite_withInput, afterPiece, same]
            rfl
          rw [line, after]
          exact .together _ (.intro _ _ rfl (Reader.source_piece untouched) behind)
      · have cut : ¬(first.withInput (.reader (reader.append more))).Fits prompt := fits
        rw [on_readEntry_of_not_fits here fits, on_readEntry_of_not_fits here' cut]
        exact .together _ wrote

/-- Sessions that differ in what follows their scripts do the same, up to the end of the shorter one. -/
theorem simulation_longer : Simulation (W := W) (Longer more) RunsOut := by
  have print : ∀ stream text,
      Related (Longer more) RunsOut (print stream text : Act W Unit) (print stream text) :=
    fun stream text => related_write_longer stream _
  have style : ∀ {first second : Session W}, Longer more first second →
      first.outHighlighter = second.outHighlighter := by
    intro first second longer
    cases longer
    rfl
  constructor
  case' toSimulationUpToListing => constructor
  case sees_world =>
    intro first second longer
    cases longer
    rfl
  case sees_directory =>
    intro first second longer
    cases longer
    rfl
  case after_log =>
    intro first second longer record
    exact longer.step (afterEvent · (.logged record)) (fun _ => rfl) fun _ _ => rfl
  case after_enter =>
    intro first second longer path world _
    exact longer.step (afterEnter · path world) (fun _ => rfl) fun _ _ => rfl
  case after_refresh =>
    intro first second longer text _
    exact longer.step (withDirectory · text) (fun _ => rfl) fun _ _ => rfl
  case after_store =>
    intro first second longer name value
    exact longer.step (afterStore · name value) (fun _ => rfl) fun _ _ => rfl
  case after_launch =>
    intro first second longer program args
    exact longer.launch program args
  case on_print => exact print .out
  case on_readEntry => exact related_readEntry_longer
  case on_remember =>
    intro line
    constructor
    · exact (within_remember line).steps_all
    · intro first second longer
      cases longer with
      | intro reader here untouched whole =>
        rw [on_remember_of_reader here, on_remember_of_reader rfl]
        exact .together _ (.intro _ reader here untouched whole)
  case on_logo => exact related_printLogo (print .out) style
  case on_help => exact related_help (print .out) style
  case on_listing =>
    apply related_listAliases (print .out)
    intro first second longer
    cases longer
    rfl
  case on_report =>
    apply related_report (print .err)
    intro first second longer
    cases longer
    rfl

/-! ## Runs -/

/-- What a longer script makes of a run on whole lines. -/
structure Continued (more : Bytes) (short long : Except SessionFault Unit × Session W) : Prop where
  /-- A run that does not come to the end of its script is the same run with more left to read. -/
  same : short.1 ≠ .error .endOfInput → long.1 = short.1 ∧
    (∀ stream, long.2.written stream = short.2.written stream) ∧
    ∃ reader, short.2.console.input = .reader reader ∧
      long.2 = short.2.withInput (.reader (reader.append more)) ∧
      (reader.append more).unread = reader.unread ++ more
  /-- A run that does is the beginning of the longer one: of what is written, and of what lasts. -/
  begins : short.1 = .error .endOfInput →
    (∀ stream, short.2.written stream <+: long.2.written stream) ∧ short.2.deeds <+: long.2.deeds

/-- What was done behind the parting comes after what both have done. -/
theorem RunsOut.begins {fault : SessionFault} {first split later : Session W}
    (out : RunsOut fault first split) (steps : Steps Effect.all split later) :
    (∀ stream, first.written stream <+: later.written stream) ∧ first.deeds <+: later.deeds := by
  cases out with
  | intro _ _ trace =>
    constructor
    · intro stream
      have written : first.written stream = split.written stream := by
        rw [written_eq_of_trace [.took []] trace]
        exact List.append_nil _
      rw [written]
      exact steps.written_prefix stream
    · obtain ⟨events, trace', _⟩ := steps.trace
      unfold deeds
      rw [trace, trace', List.reverse_cons, List.reverse_append, List.filter_append,
        List.filter_append]
      show split.trace.reverse.filter Event.lasts ++ [] <+: _
      rw [List.append_nil]
      exact List.prefix_append _ _

/-- **What follows a script of whole lines changes nothing before it is read.** A run that ends before its
script does is the same run on every longer script. A run that comes to the end of its script is the beginning
of the run on every longer script. -/
theorem run_onScript_append (session : Session W) {script : Bytes} (whole : WholeLines script)
    (more : Bytes) :
    Continued more (run (session.onScript script)) (run (session.onScript (script ++ more))) := by
  have longer : Longer more (session.onScript script) (session.onScript (script ++ more)) :=
    .intro _ (.ofScript script) rfl rfl whole
  have meets := simulation_longer.meets_run longer
  generalize run (session.onScript script) = short at meets ⊢
  generalize run (session.onScript (script ++ more)) = long at meets ⊢
  cases meets with
  | together result longer =>
    cases longer with
    | intro reader here untouched _ =>
      constructor
      · intro _
        refine ⟨rfl, fun _ => rfl, reader, here, rfl, ?_⟩
        simp only [Reader.unread, Reader.append, untouched, List.append_nil]
      · intro _
        exact ⟨fun _ => List.prefix_refl _, List.prefix_refl _⟩
  | parted fault _ split goes =>
    constructor
    · intro other
      cases split
      exact absurd rfl other
    · intro _
      exact split.begins goes

end

end Session

namespace Machine

open Session in
/-- A session that is left on the first line is left, and leaves unread what follows. -/
theorem run_onScript_append_exit : WholeLines (Utf8.encode "exit\n") ∧
    (run (scriptSession.onScript (Utf8.encode "exit\n" ++ Utf8.encode "left"))).1 = .ok () ∧
    ∃ reader : Reader, reader.unread = Utf8.encode "left" ∧
      (run (scriptSession.onScript (Utf8.encode "exit\n" ++ Utf8.encode "left"))).2.console.input =
        .reader reader := by
  have whole : WholeLines (Utf8.encode "exit\n") := by
    unfold WholeLines
    decide +kernel
  have one : pieces (Utf8.encode "exit\n") = [Utf8.encode "exit\n"] := by
    decide +kernel
  have scripted : Scripted (scriptSession.onScript (Utf8.encode "exit\n")) [Utf8.encode "exit\n"] :=
    ⟨⟨.ofScript (Utf8.encode "exit\n"), rfl, one, .inl rfl⟩, rfl, rfl⟩
  obtain ⟨rest, interprets, took, _⟩ := interpret_run _ scripted
  rw [interpret_exit] at interprets
  obtain ⟨_, left, behind⟩ := Reading.mk.inj interprets
  obtain ⟨last, here, still, _⟩ := took.scripted.input
  have nothing : last.unread = [] := by
    rw [← flatten_pieces last.unread, still, ← behind]
    rfl
  have continued := run_onScript_append scriptSession whole (Utf8.encode "left")
  obtain ⟨same, _, reader, here', long, unread⟩ := continued.same (by rw [← left]; simp)
  cases here.symm.trans here'
  refine ⟨whole, same.trans left.symm, last.append (Utf8.encode "left"), ?_, ?_⟩
  · rw [unread, nothing, List.nil_append]
  · rw [long]
    rfl

end Machine

end LineShell
