import LineShell.Machine.Basic
import LineShell.Proofs.Session.Footprint

/-!
# Changes of directory

A change of directory is two calls, one that enters and one that reads back, and each of them can fail. The
kept text changes only after both.

* `Session.MoveEnd`, `moveTo_cases`: the ways in which a change ends, with everything it did.
* `Session.cd_cases`: what a `cd` does.
* `Session.cd_failure_spares_directory`: after a failed `cd` both copies of the directory are as before, but
  for a directory that can be entered and not read back.
-/

namespace LineShell

variable {W : Type}

namespace Session

open Act

section
variable [Host W]

/-! ## The calls -/

/-- The record of a successful reading. -/
def readingRecord (text : String) : Event :=
  .logged { level := .debug, message := s!"working directory is {text}" }

/-- The session after the current directory was read. -/
def afterReading (session : Session W) (text : String) : Session W :=
  (session.withDirectory text).afterEvent (readingRecord text)

theorem on_refresh_of_error {session : Session W} {cause : IoFault}
    (h : Directory.read session.world = .error cause) :
    refresh.on session = (.ok (.error cause), session) := by
  simp only [refresh, on_bind, on_get, h, on_pure]

theorem on_refresh_of_ok {session : Session W} {text : String}
    (h : Directory.read session.world = .ok text) :
    refresh.on session = (.ok (.ok ()), session.afterReading text) := by
  simp only [refresh, on_bind, on_get, h, on_modify, debug, on_record, on_pure]
  rfl

theorem on_enter_of_error {session : Session W} {path : Bytes} {cause : IoFault}
    (h : Host.enter session.world path = .error cause) :
    (enter path).on session = (.ok (.error cause), session) := by
  simp only [enter, on_bind, on_get, h, on_pure]

theorem on_enter_of_ok {session : Session W} {path : Bytes} {world : W}
    (h : Host.enter session.world path = .ok world) :
    (enter path).on session = (.ok (.ok ()), session.afterEnter path world) := by
  simp only [enter, on_bind, on_get, h, on_modify, on_pure]
  rfl

/-! ## One change -/

/-- The fault of a change that the system refused. -/
def refusal (target : String) (cause : IoFault) : CommandFault :=
  if cause.isNotFound then .noSuchDirectory target else .directory target cause

/-- The ways in which a change to `target` ends: no home directory to expand it with, a refused change, a
change into a directory that cannot be read back, or a change that was read back. -/
inductive MoveEnd (session : Session W) (target : String) :
    Except CommandFault Unit → Session W → Prop
  | homeless : Path.expand? (Host.home session.world) target = none →
      MoveEnd session target (.error .noHome) session
  | refused (path : Bytes) (cause : IoFault) :
      Path.expand? (Host.home session.world) target = some path →
      Host.enter session.world path = .error cause →
      MoveEnd session target (.error (refusal target cause)) session
  | unreadable (path : Bytes) (world : W) (cause : IoFault) :
      Path.expand? (Host.home session.world) target = some path →
      Host.enter session.world path = .ok world → Directory.read world = .error cause →
      MoveEnd session target (.error (.directory target cause)) (session.afterEnter path world)
  | moved (path : Bytes) (world : W) (text : String) :
      Path.expand? (Host.home session.world) target = some path →
      Host.enter session.world path = .ok world → Directory.read world = .ok text →
      MoveEnd session target (.ok ()) ((session.afterEnter path world).afterReading text)

/-- A change never ends the session, and it ends in one of the four ways. -/
theorem moveTo_cases (session : Session W) (target : String) :
    ∃ outcome after, (moveTo target).on session = (.ok outcome, after) ∧
      MoveEnd session target outcome after := by
  cases expanded : Path.expand? (Host.home session.world) target with
  | none =>
    refine ⟨_, _, ?_, .homeless expanded⟩
    simp only [moveTo, on_bind, on_get, expanded, on_pure]
  | some path =>
    cases entered : Host.enter session.world path with
    | error cause =>
      refine ⟨_, _, ?_, .refused path cause expanded entered⟩
      simp only [moveTo, on_bind, on_get, expanded, on_enter_of_error entered, refusal]
      split <;> rfl
    | ok world =>
      cases read : Directory.read world with
      | error cause =>
        refine ⟨_, _, ?_, .unreadable path world cause expanded entered read⟩
        have kept : refresh.on (session.afterEnter path world) = _ := on_refresh_of_error read
        simp only [moveTo, on_bind, on_get, expanded, on_enter_of_ok entered, kept, on_pure]
      | ok text =>
        refine ⟨_, _, ?_, .moved path world text expanded entered read⟩
        have taken : refresh.on (session.afterEnter path world) = _ := on_refresh_of_ok read
        simp only [moveTo, on_bind, on_get, expanded, on_enter_of_ok entered, taken, on_pure]

/-! ## The command -/

/-- The line that reports a failed command, in the style of the session. -/
def reportLine (session : Session W) (fault : CommandFault) : String :=
  session.errHighlighter.error fault.message ++ "\n"

omit [Host W] in
/-- A report that ends without a fault is a failure, and one line of the error stream. -/
theorem report_ok {fault : CommandFault} {session after : Session W} {status : Status}
    (h : (report fault).on session = (.ok status, after)) :
    status = .failure ∧
      session.console.fitting .err (Utf8.encode (session.reportLine fault)) =
        Utf8.encode (session.reportLine fault) ∧
      after = session.afterWrite .err (Utf8.encode (session.reportLine fault)) := by
  obtain ⟨seen, between, look, rest⟩ := on_bind_eq_ok h
  obtain ⟨rfl, rfl⟩ : session = seen ∧ session = between := by simpa using look
  obtain ⟨_, written, put, last⟩ := on_bind_eq_ok rest
  obtain ⟨fits, eq⟩ := write_ok put
  obtain ⟨rfl, rfl⟩ : Status.failure = status ∧ written = after := by simpa using last
  exact ⟨rfl, fits, eq⟩

omit [Host W] in
/-- Where the error stream takes everything, a report is written. -/
theorem on_report_of_room {session : Session W} (room : session.console.errRoom = none)
    (fault : CommandFault) :
    (report fault).on session =
      (.ok .failure, session.afterWrite .err (Utf8.encode (session.reportLine fault))) := by
  have room' : session.console.room .err = none := room
  have put := on_write_of_room room' (Utf8.encode (session.reportLine fault))
  simp only [reportLine] at put
  simp only [report, on_bind, on_get, printLine, print, put, on_pure, reportLine]

/-- A `cd` names one directory and moves there, or it does not and is reported. -/
theorem cd_cases (name : String) (args : List String) (session : Session W) :
    (∃ target after, args = [target] ∧ MoveEnd session target (.ok ()) after ∧
        (cd (name :: args)).on session = (.ok .success, after)) ∨
      (∃ target fault between, args = [target] ∧ MoveEnd session target (.error fault) between ∧
        (cd (name :: args)).on session = (report fault).on between) ∨
      (args.length ≠ 1 ∧
        (cd (name :: args)).on session = (report (.usage "cd <directory>")).on session) := by
  match args with
  | [target] =>
    obtain ⟨outcome, after, move, ended⟩ := moveTo_cases session target
    cases outcome with
    | ok _ =>
      refine .inl ⟨target, after, rfl, ended, ?_⟩
      simp only [cd, on_bind, move, on_pure]
    | error fault =>
      refine .inr (.inl ⟨target, fault, after, rfl, ended, ?_⟩)
      simp only [cd, on_bind, move]
  | [] => exact .inr (.inr ⟨by simp, rfl⟩)
  | _ :: _ :: _ => exact .inr (.inr ⟨by simp, rfl⟩)

/-! ## Both copies of the directory -/

/-- `cd` with these arguments enters a directory that cannot be read back. -/
def EntersUnreadable (world : W) (args : List String) (entered : W) : Prop :=
  ∃ target path cause, args = [target] ∧
    Path.expand? (Host.home world) target = some path ∧
    Host.enter world path = .ok entered ∧ Directory.read entered = .error cause

theorem EntersUnreadable.unique {world a b : W} {args : List String}
    (first : EntersUnreadable world args a) (second : EntersUnreadable world args b) : a = b := by
  obtain ⟨_, _, _, rfl, expanded, entered, _⟩ := first
  obtain ⟨_, _, _, same, expanded', entered', _⟩ := second
  cases same
  rw [expanded] at expanded'
  cases expanded'
  rw [entered] at entered'
  exact Except.ok.inj entered'

/-- A reported change has kept the text of the directory, and has moved only into a directory that cannot be
read back. -/
theorem MoveEnd.kept {session between : Session W} {target : String} {fault : CommandFault}
    (ended : MoveEnd session target (.error fault) between) :
    between.directory = session.directory ∧
      (EntersUnreadable session.world [target] between.world ∨
        between.world = session.world ∧ ¬∃ entered, EntersUnreadable session.world [target] entered) := by
  cases ended with
  | homeless expanded =>
    refine ⟨rfl, .inr ⟨rfl, ?_⟩⟩
    rintro ⟨entered, _, path, _, same, expanded', _⟩
    cases same
    rw [expanded] at expanded'
    cases expanded'
  | refused path cause expanded entered =>
    refine ⟨rfl, .inr ⟨rfl, ?_⟩⟩
    rintro ⟨_, _, _, _, same, expanded', entered', _⟩
    cases same
    rw [expanded] at expanded'
    cases expanded'
    rw [entered] at entered'
    cases entered'
  | unreadable path world cause expanded entered read =>
    exact ⟨rfl, .inl ⟨target, path, cause, rfl, expanded, entered, read⟩⟩

/-- A directory that is entered and cannot be read back is a failure that has moved. -/
theorem dispatch_cd_unreadable {session : Session W} {target : String} {path : Bytes} {world : W}
    {cause : IoFault} (expanded : Path.expand? (Host.home session.world) target = some path)
    (entered : Host.enter session.world path = .ok world)
    (read : Directory.read world = .error cause) (room : session.console.errRoom = none) :
    ∃ after, (dispatch ["cd", target]).on session = (.ok .failure, after) ∧
      after.world = world ∧ after.directory = session.directory := by
  have named : Builtin.lookup? "cd" = some .cd := by decide
  let begun := session.afterEvent
    (.logged { level := .debug, message := s!"builtin {Builtin.cd.name}" })
  have entered' : (enter path).on begun = _ := on_enter_of_ok entered
  have unread : refresh.on (begun.afterEnter path world) = _ := on_refresh_of_error read
  have moved : (moveTo target).on begun =
      (.ok (.error (.directory target cause)), begun.afterEnter path world) := by
    have expanded' : Path.expand? (Host.home begun.world) target = some path := expanded
    simp only [moveTo, on_bind, on_get, expanded', entered', unread, on_pure]
  let between := begun.afterEnter path world
  have room' : between.console.errRoom = none := room
  refine ⟨between.afterWrite .err (Utf8.encode (between.reportLine (.directory target cause))),
    ?_, rfl, rfl⟩
  rw [dispatch_builtin named, on_bind, on_debug]
  simp only [runBuiltin, cd]
  rw [on_bind, moved]
  exact on_report_of_room room' _

/-- **A failed `cd` keeps the text of the directory.** It also leaves the world as it was, unless the
change itself succeeded and only reading the new directory back did not: then the world is the one that was
entered. -/
theorem cd_failure_spares_directory {args : List String} {session after : Session W}
    (failed : (dispatch ("cd" :: args)).on session = (.ok .failure, after)) :
    after.directory = session.directory ∧
      (∀ entered, EntersUnreadable session.world args entered → after.world = entered) ∧
      ((¬∃ entered, EntersUnreadable session.world args entered) → after.world = session.world) := by
  have named : Builtin.lookup? "cd" = some .cd := by decide
  rw [dispatch_builtin named] at failed
  obtain ⟨_, between, logged, ran⟩ := on_bind_eq_ok failed
  obtain rfl : session.afterEvent _ = between := congrArg Prod.snd logged
  rcases cd_cases "cd" args (session.afterEvent _) with ⟨target, moved, _, _, eq⟩ |
      ⟨target, fault, moved, rfl, ended, eq⟩ | ⟨arity, eq⟩
  · cases eq.symm.trans ran
  · obtain ⟨_, _, rfl⟩ := report_ok (eq.symm.trans ran)
    obtain ⟨directory, unreadable | ⟨world, readable⟩⟩ := ended.kept
    · refine ⟨directory, fun entered enters => unreadable.unique enters, fun none => ?_⟩
      exact absurd ⟨_, unreadable⟩ none
    · exact ⟨directory, fun entered enters => absurd ⟨entered, enters⟩ readable, fun _ => world⟩
  · obtain ⟨_, _, rfl⟩ := report_ok (eq.symm.trans ran)
    refine ⟨rfl, fun entered enters => ?_, fun _ => rfl⟩
    obtain ⟨_, _, _, rfl, _⟩ := enters
    exact absurd rfl arity

end

end Session

/-! ## A directory that cannot be read back -/

/-- A path of plain bytes that is too long cannot be kept. -/
theorem Directory.read_of_long [Host W] {world : W} {path : Bytes}
    (here : Host.here world = .ok path) (ascii : ∀ b ∈ path, b < 0x80)
    (long : maxLength < path.length) : read world = .error tooLong := by
  have size := Utf8.length_toList_le (Utf8.decodeLossy path)
  rw [Utf8.toList_decodeLossy, Utf8.units_ascii ascii, List.length_map, List.length_map] at size
  simp only [read, here]
  rw [if_pos (by omega)]

namespace Machine

/-- Directories inside one another, sixteen with the longest name there is and one with a short name. The
path of the sixteenth is just short enough to be kept. -/
def corridor : Tree :=
  ⟨(List.range 18).map fun i => .directory (i - 1)
    (if i < 16 then [(List.replicate maxName (byte 'd'), i + 1)]
      else if i = 16 then [(Utf8.encode "d", 17)] else [])⟩

/-- A machine in one of the directories of the corridor. -/
def inCorridor (i : Ino) : Machine :=
  { tree := corridor, here := i }

theorem resolve_corridor : corridor.resolve 16 (Utf8.encode "d") = .ok 17 := by
  have check : Tree.checkPath (Utf8.encode "d") = .ok () := by decide
  have names : names (Utf8.encode "d") = [Utf8.encode "d"] := by decide
  have origin : Tree.origin 16 (Utf8.encode "d") = 16 := by decide
  have inside : corridor.isDirectory 16 = true := by decide
  have found : corridor.find 16 (Utf8.encode "d") = .ok 17 := by decide +kernel
  have node : corridor.node? 17 = some (.directory 16 []) := by decide
  have named : Utf8.encode "d" ≠ Utf8.encode "." ∧ Utf8.encode "d" ≠ Utf8.encode ".." := by decide
  simp only [Tree.resolve, check, names, origin, bind, Except.bind]
  rw [Tree.walk]
  simp [inside, found, named, node, Tree.walk]

theorem enter_corridor : Host.enter (inCorridor 16) (Utf8.encode "d") = .ok (inCorridor 17) := by
  have zero : (Utf8.encode "d").contains 0 = false := by decide
  have directory : corridor.isDirectory 17 = true := by decide
  simp only [Host.enter, Machine.enter, inCorridor, zero, resolve_corridor, directory]
  rfl

theorem pathOf_corridor : ∃ path, corridor.pathOf 17 = some path ∧ path.length = 4098 ∧
    ∀ b ∈ path, b < 0x80 := by
  have computed : ((corridor.pathOf 17).any fun path =>
      path.length == 4098 && path.all (· < 0x80)) = true := by decide +kernel
  cases eq : corridor.pathOf 17 with
  | none => simp [eq] at computed
  | some path => exact ⟨path, rfl, by simpa [eq] using computed⟩

theorem read_corridor : Directory.read (inCorridor 17) = .error Directory.tooLong := by
  obtain ⟨path, eq, length, ascii⟩ := pathOf_corridor
  have here : Host.here (inCorridor 17) = .ok path := by
    simp [Host.here, currentPath, inCorridor, eq]
  exact Directory.read_of_long here ascii (by rw [length]; decide)

theorem typed_corridor :
    Path.expand? (Host.home (inCorridor 16)) "d" = some (Utf8.encode "d") := by decide

/-- A session in the sixteenth directory of the corridor. -/
def corridorSession : Session Machine :=
  { console := { input := .reader (.ofScript []) }
    world := inCorridor 16
    directory := ((Directory.read (inCorridor 16)).toOption).getD "" }

open Session in
/-- **A failed `cd` can move.** The last directory of the corridor is entered, its path is too long to be
kept, and `cd` fails; the system then is in a directory whose path is not the one before. -/
theorem cd_failure_can_move : ¬∀ (session after : Session Machine) (args : List String),
    (dispatch ("cd" :: args)).on session = (.ok .failure, after) →
      Host.here after.world = Host.here session.world ∧ after.directory = session.directory := by
  intro atomic
  obtain ⟨after, failed, world, _⟩ : ∃ after, (dispatch ["cd", "d"]).on corridorSession = _ ∧ _ :=
    dispatch_cd_unreadable typed_corridor enter_corridor read_corridor rfl
  obtain ⟨same, _⟩ := atomic corridorSession after ["d"] failed
  obtain ⟨path, eq, length, _⟩ := pathOf_corridor
  have short : (corridor.pathOf 16).map List.length = some 4096 := by decide +kernel
  -- Both paths can be read, and they differ in length.
  have before : corridor.pathOf 16 = some path := by
    cases read : corridor.pathOf 16 <;>
      simp_all [Host.here, currentPath, inCorridor, corridorSession]
  rw [before, Option.map_some, length] at short
  cases short

open Session in
theorem cd_failure_spares_directory_corridor : ∃ after,
    (dispatch ["cd", "d"]).on corridorSession = (.ok .failure, after) ∧
      after.directory = corridorSession.directory ∧ after.world = inCorridor 17 := by
  obtain ⟨after, failed, _⟩ : ∃ after, (dispatch ["cd", "d"]).on corridorSession = _ ∧ _ :=
    dispatch_cd_unreadable typed_corridor enter_corridor read_corridor rfl
  have spared := cd_failure_spares_directory failed
  refine ⟨after, failed, spared.1, spared.2.1 _ ?_⟩
  exact ⟨"d", Utf8.encode "d", _, rfl, typed_corridor, enter_corridor, read_corridor⟩

end Machine

end LineShell
