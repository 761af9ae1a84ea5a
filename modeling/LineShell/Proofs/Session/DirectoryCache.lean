import LineShell.Proofs.Session.ChangeDirectory
import LineShell.Proofs.Session.Read
import LineShell.Proofs.Session.Turns

/-!
# The kept directory

A session shows the text of the directory that it read last, and reads it at its start and in `cd` only.

* `Session.Moves`: the lines that read the directory, with the results that say so.
* `Session.prompting`, `told_prompting`: every turn begins with the prompt that shows it.
* `Session.Reaches`: the sessions that there can be while others change the world as they like.
* `Session.reaches_turns`: the sessions of a run are among them.
* `Session.read_of_reaches`: the text is that of the last reading.
* `Session.directory_of_reaches`: where the text comes from, what else keeps it, and what shows it.
-/

namespace LineShell

variable {W : Type}

/-- The text of a directory that was read. -/
theorem Directory.read_eq_ok_iff [Host W] {world : W} {text : String} :
    read world = .ok text ↔ ∃ path, Host.here world = .ok path ∧ text = Utf8.decodeLossy path ∧
      text.utf8ByteSize ≤ maxLength := by
  unfold read
  cases Host.here world with
  | error cause => simp
  | ok path =>
    simp only [Except.ok.injEq, exists_eq_left']
    constructor
    · intro h
      split at h
      · cases h
      · next short =>
        cases h
        exact ⟨rfl, Nat.not_lt.mp short⟩
    · rintro ⟨rfl, short⟩
      rw [if_neg (Nat.not_lt.mpr short)]

namespace Session

open Act

/-- The line is a `cd`, and it succeeded. -/
def Moves (line : String) (result : Except SessionFault Status) : Prop :=
  (Token.tokens line).head? = some Builtin.cd.name ∧ result = .ok .success

section
variable [Host W]

/-! ## Lines that keep the directory -/

/-- No command but `cd` reads the directory. -/
theorem refresh_notMem_footprint {tokens : List String}
    (other : tokens.head? ≠ some Builtin.cd.name) : .refresh ∉ footprint tokens := by
  cases tokens with
  | nil => simp [footprint]
  | cons name args =>
    simp only [footprint]
    split
    · simp
    · simp
    · next named =>
      exact absurd (congrArg some (Builtin.eq_name_of_lookup? named)) other
    · split <;> simp
    · simp

/-- A report keeps the directory. -/
theorem directory_report (fault : CommandFault) (session : Session W) :
    ((report fault).on session).2.directory = session.directory :=
  (within_report fault session).steps.directory_eq (by simp)

/-- A `cd` that did not succeed keeps the directory; one that did has read it in the world that is left. -/
theorem directory_cd (name : String) (args : List String) (session : Session W) :
    (∃ after, (cd (name :: args)).on session = (.ok .success, after) ∧
        Directory.read after.world = .ok after.directory) ∨
      ((cd (name :: args)).on session).1 ≠ .ok .success ∧
        ((cd (name :: args)).on session).2.directory = session.directory := by
  have failed : ∀ fault (between : Session W),
      ((report fault).on between).1 ≠ .ok .success := by
    intro fault between
    cases eq : (report fault).on between with
    | mk result after =>
      rintro rfl
      cases (report_ok eq).1
  rcases cd_cases name args session with ⟨target, after, _, moved, eq⟩ |
      ⟨target, fault, between, _, ended, eq⟩ | ⟨_, eq⟩
  · cases moved with
    | moved path world text _ _ read => exact .inl ⟨_, eq, read⟩
  · rw [eq, directory_report, ended.kept.1]
    exact .inr ⟨failed _ _, rfl⟩
  · rw [eq, directory_report]
    exact .inr ⟨failed _ _, rfl⟩

/-- A line that does not move keeps the directory, whatever it comes to. -/
theorem directory_executeLine {line : String} {session : Session W}
    (stays : ¬Moves line ((executeLine line).on session).1) :
    ((executeLine line).on session).2.directory = session.directory := by
  by_cases first : (Token.tokens line).head? = some Builtin.cd.name
  · obtain ⟨args, tokens⟩ := List.head?_eq_some_iff.mp first
    obtain ⟨begun, logged, on⟩ :=
      executeLine_builtin tokens (Builtin.lookup?_name .cd) session
    have same : begun.directory = session.directory := logged.directory_eq (by simp)
    rw [on] at stays ⊢
    rcases directory_cd Builtin.cd.name args begun with ⟨after, eq, _⟩ | ⟨_, kept⟩
    · exact absurd ⟨first, congrArg Prod.fst eq⟩ stays
    · exact kept.trans same
  · exact (within_executeLine line session).steps.directory_eq (refresh_notMem_footprint first)

/-- A line that moves has read the directory in the world that is left. -/
theorem read_of_moves {line : String} {session : Session W}
    (moves : Moves line ((executeLine line).on session).1) :
    Directory.read ((executeLine line).on session).2.world =
      .ok ((executeLine line).on session).2.directory := by
  obtain ⟨first, success⟩ := moves
  obtain ⟨args, tokens⟩ := List.head?_eq_some_iff.mp first
  obtain ⟨begun, _, on⟩ := executeLine_builtin tokens (Builtin.lookup?_name .cd) session
  rw [on] at success ⊢
  rcases directory_cd Builtin.cd.name args begun with ⟨after, eq, read⟩ | ⟨failed, _⟩
  · exact (congrArg Prod.snd eq).symm ▸ read
  · exact absurd success failed

/-! ## What shows the directory -/

omit [Host W] in
/-- The line that `pwd` prints. -/
theorem on_pwd (session : Session W) :
    ((pwd : Act W Status).on session).2 =
      session.afterWrite .out (Utf8.encode (session.directory ++ "\n")) := by
  have put := on_write .out (Utf8.encode (session.directory ++ "\n")) session
  simp only [pwd, printLine, print, on_bind, on_get, put]
  split <;> simp_all

theorem written_pwd {line : String} {args : List String} {session : Session W}
    (h : Token.tokens line = Builtin.pwd.name :: args) :
    ((executeLine line).on session).2.written .out = session.written .out ++
      session.console.fitting .out (Utf8.encode (session.directory ++ "\n")) := by
  obtain ⟨begun, logged, on⟩ := executeLine_builtin h (Builtin.lookup?_name .pwd) session
  have directory : begun.directory = session.directory := logged.directory_eq (by simp)
  have written : begun.written .out = session.written .out := logged.written_eq (by simp)
  rw [on, runBuiltin, on_pwd, written_afterWrite, if_pos rfl, logged.console_eq, directory, written]

/-- The event in which a session shows its prompt. On an editor it is that of the answer. -/
def prompting (session : Session W) : Event :=
  match session.console.input with
  | .reader _ => .wrote .out (session.console.fitting .out (Utf8.encode session.prompt))
  | .editor editor => .answered session.prompt (editor.answer session.world session.prompt)

theorem prompting_of_reader {session : Session W} {reader : Reader}
    (here : session.console.input = .reader reader) : session.prompting =
      .wrote .out (session.console.fitting .out (Utf8.encode session.prompt)) := by
  rw [prompting, here]

theorem prompting_of_editor {session : Session W} {editor : Editor}
    (here : session.console.input = .editor editor) : session.prompting =
      .answered session.prompt (editor.answer session.world session.prompt) := by
  rw [prompting, here]

/-- A read begins with the prompt. -/
theorem trace_readLine (session : Session W) :
    ∃ later, ((readLine session.prompt).on session).2.trace =
      later ++ session.prompting :: session.trace := by
  cases here : session.console.input with
  | reader reader =>
    rw [prompting_of_reader here]
    by_cases fits : session.Fits session.prompt
    · rw [on_readLine_of_fits here fits]
      exact ⟨[.took reader.piece.1], rfl⟩
    · rw [on_readLine_of_not_fits here fits]
      exact ⟨[], rfl⟩
  | editor editor =>
    rw [prompting_of_editor here]
    obtain ⟨later, eq, -⟩ := (steps_behind_answer here).trace
    exact ⟨later, eq⟩

/-- So does a turn. -/
theorem told_prompting (session : Session W) :
    session.nextTurn.told.head? = some session.prompting := by
  obtain ⟨later, asked⟩ := trace_readLine session
  obtain ⟨events, trace, -⟩ := (steps_behind_read session).trace
  have whole : session.nextTurn.finish.trace =
      (events ++ later ++ [session.prompting]) ++ session.trace := by
    rw [trace, nextTurn, asked]
    simp
  rw [told_nextTurn rfl whole]
  simp

/-! ## Reachable sessions -/

/-- The sessions that there can be, each with the world in which its directory was read last. Between two
steps others may put the world into any state; what they do within a line is part of what the host
answers. -/
inductive Reaches : Session W → W → Prop
  | start {fresh session : Session W} : start.on fresh = (.ok (), session) →
      Reaches session session.world
  | change {session : Session W} {reading : W} (world : W) : Reaches session reading →
      Reaches { session with world } reading
  | prompt {session : Session W} {reading : W} : Reaches session reading →
      Reaches ((readLine session.prompt).on session).2 reading
  | moved {session : Session W} {reading : W} (line : String) : Reaches session reading →
      Moves line ((executeLine line).on session).1 →
      Reaches ((executeLine line).on session).2 ((executeLine line).on session).2.world
  | stayed {session : Session W} {reading : W} (line : String) : Reaches session reading →
      ¬Moves line ((executeLine line).on session).1 →
      Reaches ((executeLine line).on session).2 reading
  | noted {session : Session W} {reading : W} (message : String) : Reaches session reading →
      Reaches ((debug message).on session).2 reading

/-- A session starts where the directory can be read. -/
theorem on_start_of_ok {fresh : Session W} {text : String}
    (read : Directory.read fresh.world = .ok text) :
    start.on fresh = (.ok (), fresh.afterReading text) := by
  simp only [start, on_bind, on_refresh_of_ok read, on_pure]

theorem start_ok {fresh session : Session W} (h : start.on fresh = (.ok (), session)) :
    Directory.read session.world = .ok session.directory := by
  cases read : Directory.read fresh.world with
  | error cause =>
    simp only [start, on_bind, on_refresh_of_error read] at h
    cases h
  | ok text =>
    rw [on_start_of_ok read] at h
    cases h
    exact read

/-- The kept text is that of the last reading: one step after another. -/
theorem read_of_reaches {session : Session W} {reading : W} (reaches : Reaches session reading) :
    Directory.read reading = .ok session.directory := by
  induction reaches with
  | start started => exact start_ok started
  | change _ _ ih => exact ih
  | prompt _ ih =>
    rw [(within_readLine _ _).steps.directory_eq (by simp)]
    exact ih
  | moved line _ moves _ => exact read_of_moves moves
  | stayed line _ stays ih =>
    rw [directory_executeLine stays]
    exact ih
  | noted message _ ih => exact ih

/-- A line can always be carried out. -/
theorem Reaches.executeLine {session : Session W} {reading : W} (reaches : Reaches session reading)
    (line : String) : ∃ last, Reaches ((Session.executeLine line).on session).2 last := by
  by_cases moves : Moves line ((Session.executeLine line).on session).1
  · exact ⟨_, .moved line reaches moves⟩
  · exact ⟨_, .stayed line reaches moves⟩

/-- A turn of the loop goes through reachable sessions. -/
theorem Reaches.turn {session : Session W} {reading : W} (reaches : Reaches session reading) :
    ∃ last, Reaches (Session.turn.on session).2 last := by
  simp only [Session.turn, on_bind, on_get]
  have prompted := reaches.prompt
  split
  · next line between read =>
    rw [read] at prompted
    split
    · exact ⟨reading, prompted⟩
    · obtain ⟨last, done⟩ := prompted.executeLine line
      rw [on_bind]
      split
      · next status after executed =>
        rw [executed] at done
        split
        · rw [on_bind, on_debug]
          exact ⟨last, done.noted _⟩
        · exact ⟨last, done⟩
      · next executed =>
        rw [executed] at done
        exact ⟨last, done⟩
  · next read =>
    rw [read] at prompted
    exact ⟨reading, prompted⟩

/-- So does a run, and every turn of it begins with the prompt of its session. -/
theorem reaches_turns {session : Session W} {reading : W} (reaches : Reaches session reading) :
    (∀ turn ∈ session.turns, (∃ last, Reaches turn.start last) ∧
        turn.told.head? = some turn.start.prompting) ∧
      ∃ last, Reaches session.run.2 last := by
  refine turns_induction (motive := fun session outcome turns => ∀ reading, Reaches session reading →
    (∀ turn ∈ turns, (∃ last, Reaches turn.start last) ∧
        turn.told.head? = some turn.start.prompting) ∧
      ∃ last, Reaches outcome.2 last) ?_ ?_ session reading reaches
  · intro session result after turned _ reading reaches
    obtain ⟨last, ended⟩ := reaches.turn
    rw [turned] at ended
    refine ⟨fun turn mem => ?_, last, ended⟩
    cases List.mem_singleton.mp mem
    exact ⟨⟨reading, reaches⟩, told_prompting session⟩
  · intro session after turned rest reading reaches
    obtain ⟨last, next⟩ := reaches.turn
    rw [turned] at next
    obtain ⟨others, ended⟩ := rest last next
    refine ⟨fun turn mem => ?_, ended⟩
    rcases List.mem_cons.mp mem with rfl | mem
    · exact ⟨⟨reading, reaches⟩, told_prompting session⟩
    · exact others turn mem

/-- **The kept directory is the one read last.** Where the system reports absolute paths, the text is that of
the path reported at the start or in the `cd` that succeeded last, it is absolute and short enough. A line
changes it only by being such a `cd`, a failed reading does not change the session, and prompts and `pwd`
write exactly this text, as far as it fits. All of this holds at every turn of a run, which begins by showing the
prompt. -/
theorem directory_of_reaches
    (absolute : ∀ (world : W) (path : Bytes), Host.here world = .ok path → path.head? = some 0x2F)
    {session : Session W} {reading : W} (reaches : Reaches session reading) :
    (∃ path, Host.here reading = .ok path ∧ session.directory = Utf8.decodeLossy path) ∧
      session.directory.toList.head? = some '/' ∧
      session.directory.utf8ByteSize ≤ Directory.maxLength ∧
      (∀ line result after, (executeLine line).on session = (result, after) →
        after.directory = session.directory ∨
          (Token.tokens line).head? = some "cd" ∧ result = .ok .success) ∧
      (∀ cause, Directory.read session.world = .error cause →
        refresh.on session = (.ok (.error cause), session)) ∧
      session.prompt = session.directory ++ " > " ∧
      (∀ reader, session.console.input = .reader reader →
        ((readLine session.prompt).on session).2.written .out = session.written .out ++
          session.console.fitting .out (Utf8.encode session.prompt)) ∧
      (∀ editor, session.console.input = .editor editor →
        ∃ later, ((readLine session.prompt).on session).2.trace = later ++
          .answered session.prompt (editor.answer session.world session.prompt) :: session.trace) ∧
      (∀ line args, Token.tokens line = "pwd" :: args →
        ((executeLine line).on session).2.written .out = session.written .out ++
          session.console.fitting .out (Utf8.encode (session.directory ++ "\n"))) ∧
      (∀ turn ∈ session.turns, (∃ last, Reaches turn.start last) ∧
        turn.told.head? = some turn.start.prompting) ∧
      ∃ last, Reaches session.run.2 last := by
  obtain ⟨path, here, text, short⟩ := Directory.read_eq_ok_iff.mp (read_of_reaches reaches)
  refine ⟨⟨path, here, text⟩, ?_, short, ?_, fun _ => on_refresh_of_error, rfl,
    fun _ input => written_readLine input _, fun editor here => ?_, fun _ _ => written_pwd,
    reaches_turns reaches⟩
  · rw [text]
    exact Utf8.head?_decodeLossy (absolute reading path here) (by decide)
  · intro line result after eq
    by_cases moves : Moves line ((executeLine line).on session).1
    · rw [eq] at moves
      exact .inr moves
    · have kept := directory_executeLine moves
      rw [eq] at kept
      exact .inl kept
  · exact prompting_of_editor here ▸ trace_readLine session

end

end Session

namespace Machine

/-- A machine reports absolute paths. -/
theorem absolute_here (machine : Machine) (path : Bytes) (here : Host.here machine = .ok path) :
    path.head? = some 0x2F := by
  simp only [Host.here, currentPath, Tree.pathOf] at here
  split at here
  · next eq =>
    obtain ⟨names, _, rfl⟩ := Option.map_eq_some_iff.mp eq
    cases here
    rfl
  · cases here

/-- A session that is going to be started at the top of the corridor. -/
def topSession : Session Machine :=
  { console := { input := .reader (.ofScript []) }
    world := inCorridor 0 }

theorem read_top : Directory.read (inCorridor 0) = .ok "/" := by
  have text : "/" = Utf8.decodeLossy [0x2F] := by
    simp [Utf8.decodeLossy, Utf8.units_ascii]
  exact Directory.read_eq_ok_iff.mpr ⟨[0x2F], by decide, text, by decide⟩

open Session in
/-- Others put a session where the directory cannot be read, and it keeps the text of its start. -/
theorem directory_of_reaches_corridor : ∃ session : Session Machine,
    Reaches session (inCorridor 0) ∧ session.world = inCorridor 17 ∧
      refresh.on session = (.ok (.error Directory.tooLong), session) ∧
      ∃ path, Host.here (inCorridor 0) = .ok path ∧ session.directory = Utf8.decodeLossy path := by
  have started : start.on topSession = _ := on_start_of_ok read_top
  have reaches : Reaches { topSession.afterReading "/" with world := inCorridor 17 }
      (inCorridor 0) := .change (inCorridor 17) (.start started)
  obtain ⟨path, _, _, _, failed, _⟩ := directory_of_reaches absolute_here reaches
  exact ⟨_, reaches, rfl, failed _ read_corridor, path⟩

end Machine

end LineShell
