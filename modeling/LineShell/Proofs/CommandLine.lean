import LineShell.CommandLine
import LineShell.Proofs.Flag
import LineShell.Proofs.Session.Continuation
import LineShell.Proofs.Session.DirectoryCache
import LineShell.Proofs.Session.Outcome
import LineShell.Proofs.Session.Turns

/-!
# Outcomes of the program

What the program comes to is decided by the flags that it is started with, in whatever order they are, and by the
session where they ask for one.

* `Trace.ReportsLines`, `Session.reportsLines_run`: a session writes whole lines to the error stream.
* `Trace.LeftOpen`, `Trace.wholeLines_iff`: only a program leaves the last line of the descriptor open.
* `Report.Tells`: what the report of a session tells of it.
* `Surroundings.run_by_flags`: the outcome for every argument list.
* `fault_behind_open_line`: the text of a fault need not stand on a line of its own.
-/

namespace LineShell

variable {W : Type}

/-! ## Whole lines -/

/-- A text with a newline behind it is a whole line. -/
theorem wholeLines_encode (text : String) : WholeLines (Utf8.encode (text ++ "\n")) := by
  intro b last
  have ends : Utf8.encode "\n" = [newline] := by decide
  rw [Utf8.encode_append, ends, List.getLast?_concat] at last
  exact (Option.some.inj last).symm

theorem wholeLines_nil : WholeLines [] := by
  intro b last
  cases last

/-- Every diagnostic is a whole line. -/
theorem Log.Settings.wholeLines_line (settings : Log.Settings) (record : Log.Record) :
    WholeLines (Utf8.encode (settings.line record)) := by
  rw [line]
  split
  · exact wholeLines_encode _
  · exact wholeLines_nil

/-- All that a session has written to the error stream of its console are whole lines. -/
def Trace.ReportsLines (trace : Trace) : Prop :=
  ∀ event ∈ trace, WholeLines (event.console .err)

namespace Session

open Act

section
variable [Host W]

theorem Steps.reportsLines {effects : List Effect} {session after : Session W}
    (steps : Steps effects session after) (silent : .write .err ∉ effects)
    (lines : Trace.ReportsLines session.trace) : Trace.ReportsLines after.trace := by
  obtain ⟨events, eq, kinds⟩ := steps.trace
  rw [eq]
  intro event mem
  rcases List.mem_append.mp mem with new | old
  · rw [Event.console_eq_nil fun write => silent (write ▸ kinds event new)]
    exact wholeLines_nil
  · exact lines event old

/-- What a line gets wrong is reported as a whole line. -/
theorem reportsLines_executeLine {session : Session W} (room : session.console.errRoom = none)
    (lines : Trace.ReportsLines session.trace) (line : String) :
    Trace.ReportsLines ((executeLine line).on session).2.trace := by
  cases wrong : session.fault? (Token.tokens line) with
  | none => exact (executeLine_of_no_fault wrong).1.reportsLines (by decide) lines
  | some fault =>
    obtain ⟨between, steps, on⟩ := executeLine_of_fault wrong
    have room' := steps.room_eq_none .err room
    rw [on, on_report_of_room room', afterWrite_of_room room']
    intro event mem
    rcases List.mem_cons.mp mem with rfl | old
    · exact wholeLines_encode _
    · exact steps.reportsLines (by decide) lines event old

theorem reportsLines_turn {session : Session W} (room : session.console.errRoom = none)
    (lines : Trace.ReportsLines session.trace) :
    Trace.ReportsLines (turn.on session).2.trace := by
  have asks := (within_readLine session.prompt session).steps
  have asked := asks.reportsLines (by decide) lines
  have finish : session.nextTurn.finish = (turn.on session).2 := rfl
  rw [← finish]
  rcases nextTurn_cases session with ⟨-, same⟩ | ⟨line, -, logged⟩
  · rw [same]
    exact asked
  · exact logged.reportsLines (by decide)
      (reportsLines_executeLine (asks.room_eq_none .err room) asked line)

theorem reportsLines_run {session : Session W} (room : session.console.errRoom = none)
    (lines : Trace.ReportsLines session.trace) : Trace.ReportsLines (run session).2.trace := by
  revert room lines
  refine turns_induction (motive := fun session outcome _ => session.console.errRoom = none →
    Trace.ReportsLines session.trace → Trace.ReportsLines outcome.2.trace) ?_ ?_ session
  · intro session result after turned _ room lines
    have one := reportsLines_turn room lines
    rwa [turned] at one
  · intro session after turned rest room lines
    have one := reportsLines_turn room lines
    have steps := (within_turn session).steps
    rw [turned] at one steps
    exact rest (steps.room_eq_none .err room) one

end

end Session

/-! ## Lines that are left open -/

/-- The last to write to the error descriptor was a program, and it has not ended its line. -/
def Trace.LeftOpen (settings : Log.Settings) (trace : Trace) : Prop :=
  ∃ newer part older, trace = newer ++ .emitted .err part :: older ∧ ¬WholeLines part ∧
    ∀ event ∈ newer, event.attached settings .err = []

theorem Trace.leftOpen_cons {settings : Log.Settings} {event : Event} {trace : Trace} :
    Trace.LeftOpen settings (event :: trace) ↔
      (∃ part, event = .emitted .err part ∧ ¬WholeLines part) ∨
        event.attached settings .err = [] ∧ trace.LeftOpen settings := by
  constructor
  · rintro ⟨newer, part, older, eq, unended, quiet⟩
    cases newer with
    | nil => exact .inl ⟨part, (List.cons.inj eq).1, unended⟩
    | cons first newer =>
      obtain ⟨rfl, rfl⟩ := List.cons.inj eq
      refine .inr ⟨quiet event List.mem_cons_self, newer, part, older, rfl, unended, ?_⟩
      exact fun other mem => quiet other (List.mem_cons_of_mem _ mem)
  · rintro (⟨part, rfl, unended⟩ | ⟨silent, newer, part, older, rfl, unended, quiet⟩)
    · exact ⟨[], part, trace, rfl, unended, by simp⟩
    · exact ⟨event :: newer, part, older, rfl, unended, List.forall_mem_cons.mpr ⟨silent, quiet⟩⟩

theorem wholeLines_append {front part : Bytes} (some : part ≠ []) :
    WholeLines (front ++ part) ↔ WholeLines part := by
  rw [WholeLines, WholeLines, List.getLast?_append_of_ne_nil _ some]

/-- What is not written by a program is written in whole lines. -/
theorem Event.wholeLines_attached (settings : Log.Settings) {event : Event}
    (line : WholeLines (event.console .err)) (own : ∀ part, event ≠ .emitted .err part) :
    WholeLines (event.attached settings .err) := by
  cases event with
  | wrote stream bytes => simpa [attached, descriptor] using line
  | logged record => simpa [attached, descriptor, console] using settings.wholeLines_line record
  | emitted stream part =>
    cases stream with
    | out => exact wholeLines_nil
    | err => exact absurd rfl (own part)
  | _ => exact wholeLines_nil

/-- Where the session writes whole lines, there are whole lines on the descriptor unless a program has left one
open. -/
theorem Trace.wholeLines_iff (settings : Log.Settings) {trace : Trace} (lines : trace.ReportsLines) :
    WholeLines (trace.bytes (Event.attached settings .err)) ↔ ¬trace.LeftOpen settings := by
  induction trace with
  | nil =>
    refine ⟨?_, fun _ => wholeLines_nil⟩
    rintro - ⟨newer, part, older, eq, -⟩
    simp at eq
  | cons event trace ih =>
    obtain ⟨first, rest⟩ := List.forall_mem_cons.mp lines
    have told : Trace.bytes (Event.attached settings .err) (event :: trace) =
        Trace.bytes (Event.attached settings .err) trace ++ event.attached settings .err := by
      simp [Trace.bytes]
    rw [told, leftOpen_cons]
    by_cases program : ∃ part, event = .emitted .err part
    · obtain ⟨part, rfl⟩ := program
      have shown : (Event.emitted .err part).attached settings .err = part := by
        simp [Event.attached, Event.console, Event.descriptor]
      rw [shown]
      by_cases none : part = []
      · simp [none, ih rest, wholeLines_nil]
      · simp [none, wholeLines_append none]
    · have own : ∀ part, event ≠ .emitted .err part := fun part eq => program ⟨part, eq⟩
      have whole := Event.wholeLines_attached settings first own
      by_cases silent : event.attached settings .err = []
      · rw [silent, List.append_nil, ih rest]
        simp [own]
      · rw [wholeLines_append silent]
        simp [silent, whole, own]

/-! ## Reports -/

/-- The report of a session that has ended: its input and its output, and behind a fault the text of the fault.
The text is the last line of the error descriptor, and stands there alone unless a program has left that line
open. -/
structure Report.Tells (settings : Log.Settings) (result : Except SessionFault Unit) (last : Session W)
    (report : Report) : Prop where
  left : report.left = last.console.input
  out : report.stream .out = last.trace.bytes (Event.attached settings .out)
  ended : (result = .ok () ∧ report.code = 0 ∧
      report.stream .err = last.trace.bytes (Event.attached settings .err)) ∨
    ∃ fault before, result = .error fault ∧ report.code = 1 ∧
      report.stream .err = before ++ Utf8.encode s!"shoal: {fault.message}\n" ∧
      before = last.trace.bytes (Event.attached settings .err) ∧
      (WholeLines before ↔ ¬last.trace.LeftOpen settings)

/-- What an event writes to both descriptors, seen on one of them. -/
theorem Event.flatMap_outputs (settings : Log.Settings) (stream : Stream) (event : Event) :
    ((event.outputs settings).flatMap fun part => if part.1 = stream then part.2 else []) =
      event.attached settings stream := by
  by_cases out : event.attached settings .out = [] <;>
    by_cases err : event.attached settings .err = [] <;>
      cases stream <;> simp [outputs, out, err]

namespace Surroundings

/-- The report of a session tells how it ended. -/
theorem tells_report {settings : Log.Settings} {last : Session W}
    (lines : Trace.ReportsLines last.trace) (result : Except SessionFault Unit) :
    (report result (last.trace.reverse.flatMap (Event.outputs settings)) last.console.input).Tells
      settings result last := by
  have seen : ∀ stream, ((last.trace.reverse.flatMap (Event.outputs settings)).flatMap fun part =>
      if part.1 = stream then part.2 else []) = Trace.bytes (Event.attached settings stream) last.trace := by
    intro stream
    simp only [List.flatMap_assoc, Event.flatMap_outputs, Trace.bytes]
  cases result with
  | ok done =>
    refine ⟨rfl, ?_, .inl ⟨rfl, rfl, ?_⟩⟩
    · simp only [report, Report.stream, seen]
    · simp only [report, Report.stream, seen]
  | error fault =>
    refine ⟨rfl, ?_, .inr ⟨fault, _, rfl, rfl, ?_, rfl, Trace.wholeLines_iff settings lines⟩⟩
    · simp [report, Report.stream, List.flatMap_append, seen]
    · simp [report, Report.stream, List.flatMap_append, seen]

section
variable [Host W]

theorem runSession_ok_iff {session : Session W} :
    (runSession session).1 = .ok () ↔
      ∃ begun, Session.start.on session = (.ok (), begun) ∧ begun.run.1 = .ok () := by
  unfold runSession
  split
  · next fault after started => simp [started]
  · next begun started => simp [started]

/-- A session writes whole lines from its start to its end. -/
theorem reportsLines_runSession {session : Session W} (room : session.console.errRoom = none)
    (lines : Trace.ReportsLines session.trace) :
    Trace.ReportsLines (runSession session).2.trace := by
  cases read : Directory.read session.world with
  | error cause =>
    have started : Session.start.on session = (.error (.io cause), session) := by
      simp only [Session.start, Act.on_bind, Session.on_refresh_of_error read, Act.on_throw]
    rw [runSession, started]
    exact lines
  | ok text =>
    rw [runSession, Session.on_start_of_ok read]
    refine Session.reportsLines_run room fun event mem => ?_
    rcases List.mem_cons.mp mem with rfl | old
    · exact wholeLines_nil
    · exact lines event old

/-! ## Arguments -/

section
variable (surroundings : Surroundings W) {args : List String}

/-- An unknown flag ends the program before anything else. -/
theorem run_of_unknown {arg : String} (unknown : (Flags.parse {} args).unknown = some arg) :
    surroundings.run args =
      { code := 1
        output := [(.err, Utf8.encode s!"shoal: Flag error: unknown flag {arg}\n")]
        left := surroundings.input } := by
  simp only [run, unknown]
  rfl

theorem run_of_help (known : (Flags.parse {} args).unknown = none)
    (help : (Flags.parse {} args).flags.help = true) :
    surroundings.run args =
      { code := 0, output := [(.out, Utf8.encode Flags.usage)], left := surroundings.input } := by
  simp only [run, known, help, if_true, report]

theorem run_of_version (known : (Flags.parse {} args).unknown = none)
    (noHelp : (Flags.parse {} args).flags.help = false)
    (asked : (Flags.parse {} args).flags.version = true) :
    surroundings.run args =
      { code := 0, output := [(.out, Utf8.encode s!"shoal {version}\n")], left := surroundings.input } := by
  simp only [run, known, noHelp, asked, Bool.false_eq_true, if_false, if_true, report]

/-- Any other flags ask for a session. -/
theorem tells_run (known : (Flags.parse {} args).unknown = none)
    (noHelp : (Flags.parse {} args).flags.help = false)
    (noVersion : (Flags.parse {} args).flags.version = false) :
    let flags := (Flags.parse {} args).flags
    let ended := runSession (surroundings.session flags)
    (surroundings.run args).Tells (surroundings.logSettings flags) ended.1 ended.2 := by
  intro flags ended
  have lines : Trace.ReportsLines ended.2.trace :=
    reportsLines_runSession rfl fun event mem => by cases mem
  simp only [run, known, noHelp, noVersion, Bool.false_eq_true, if_false]
  exact tells_report lines ended.1

end

/-- **The outcome of the program is decided by its flags.** The first unknown flag ends it, whatever other flags
there are. Otherwise help goes before the version, and both before the session, which alone touches the input;
and the order and the number of the flags do not matter, nor do positional arguments. -/
theorem run_by_flags (surroundings : Surroundings W) (args : List String) :
    (∀ before arg behind, args = before ++ arg :: behind → Flags.Unknown arg →
      (∀ earlier ∈ before, ¬Flags.Unknown earlier) →
      surroundings.run args =
        { code := 1
          output := [(.err, Utf8.encode s!"shoal: Flag error: unknown flag {arg}\n")]
          left := surroundings.input }) ∧
      ((∀ arg ∈ args, ¬Flags.Unknown arg) →
        (Flag.help.AskedIn args → surroundings.run args =
          { code := 0, output := [(.out, Utf8.encode Flags.usage)], left := surroundings.input }) ∧
        (¬Flag.help.AskedIn args → Flag.version.AskedIn args → surroundings.run args =
          { code := 0
            output := [(.out, Utf8.encode s!"shoal {version}\n")]
            left := surroundings.input }) ∧
        (¬Flag.help.AskedIn args → ¬Flag.version.AskedIn args →
          ∃ flags : Flags, (∀ flag, flags.has flag = true ↔ flag.AskedIn args) ∧
            ∃ result last, runSession (surroundings.session flags) = (result, last) ∧
              (result = .ok () ↔ ∃ begun,
                Session.start.on (surroundings.session flags) = (.ok (), begun) ∧
                  begun.run.1 = .ok ()) ∧
              (surroundings.run args).Tells (surroundings.logSettings flags) result last) ∧
        ∀ args', Flags.SameFlags args args' → surroundings.run args' = surroundings.run args) := by
  refine ⟨?_, fun known => ?_⟩
  · rintro before arg behind rfl unknown earlier
    apply run_of_unknown
    rw [Flags.unknown_parse, List.find?_append, List.find?_eq_none.mpr (by simpa using earlier)]
    simp [unknown]
  have none := Flags.unknown_parse_of_known known {}
  have asked := Flags.has_parse_of_known known
  refine ⟨fun help => ?_, fun noHelp version => ?_, fun noHelp noVersion => ?_, fun args' same => ?_⟩
  · exact run_of_help surroundings none ((asked .help).mpr help)
  · rw [← asked, Bool.not_eq_true] at noHelp
    exact run_of_version surroundings none noHelp ((asked .version).mpr version)
  · rw [← asked, Bool.not_eq_true] at noHelp noVersion
    exact ⟨_, asked, _, _, rfl, runSession_ok_iff, tells_run surroundings none noHelp noVersion⟩
  · have none' := Flags.unknown_parse_of_known (same.known known) {}
    simp only [run, none, none', Flags.flags_parse_of_sameFlags same known]

end

end Surroundings

/-! ## A program that leaves its line open -/

/-- A host on which every program writes a letter to the error descriptor, and no newline. -/
structure Mumbling

instance : Host Mumbling where
  enter _ _ := .error (.os .ENOENT)
  here _ := .ok (Utf8.encode "/")
  home _ := none
  launch world _ _ _ := { world, output := [(.err, Utf8.encode "x")], result := .exited 2 (.code 0) }
  entries _ _ := none
  stat _ _ := .ok false

/-- One program is started there, and then the input is at its end. -/
def Mumbling.surroundings : Surroundings Mumbling :=
  { input := .reader (.ofPipe (Utf8.encode "mumble\n")), world := {} }

theorem Mumbling.run_surroundings : (surroundings.run []).code = 1 ∧
    (surroundings.run []).stream .err = Utf8.encode "xshoal: end of input\n" := by
  decide +kernel

/-- **The text of a fault need not stand on a line of its own**: what a program has left on the last line of the
error descriptor stands in front of it. -/
theorem fault_behind_open_line : ¬∀ surroundings : Surroundings Mumbling,
    (surroundings.run []).code ≠ 0 → ∃ (fault : SessionFault) (before : Bytes), WholeLines before ∧
      (surroundings.run []).stream .err = before ++ Utf8.encode s!"shoal: {fault.message}\n" := by
  intro alone
  obtain ⟨code, shown⟩ := Mumbling.run_surroundings
  obtain ⟨fault, before, whole, eq⟩ := alone Mumbling.surroundings (by rw [code]; decide)
  have text : Utf8.encode s!"shoal: {fault.message}\n" =
      Utf8.encode "shoal: " ++ Utf8.encode fault.message ++ Utf8.encode "\n" := by
    simp only [Utf8.encode_append]
    rfl
  rw [shown, text] at eq
  -- The only newline is the last byte, so there is no whole line in front of the text.
  have one : (Utf8.encode "xshoal: end of input\n").count newline = 1 := by decide
  have last : (Utf8.encode "\n").count newline = 1 := by decide
  rw [eq, List.count_append, List.count_append, last] at one
  have none : newline ∉ before := List.count_eq_zero.mp (by omega)
  have empty : before = [] := by
    by_contra some
    have ends := List.getLast?_eq_some_getLast some
    exact none (whole _ ends ▸ List.getLast_mem some)
  have first := congrArg List.head? eq
  have x : (Utf8.encode "xshoal: end of input\n").head? = some 120 := by decide
  have s : Utf8.encode "shoal: " = 115 :: Utf8.encode "hoal: " := by decide
  rw [empty, x, s] at first
  simp at first

end LineShell
