import LineShell.Proofs.Machine.Walk
import LineShell.Proofs.Session.Outcome
import LineShell.Proofs.Token.Words

/-!
# Refused changes of directory

A change of directory is two calls, and the system can refuse each of them with an error number. What was
typed is reported with the name and the number, or in plain words if there is no such directory. A directory
that is gone when it is read back is reported by its number as well.

* `Errno.named`, `name_of_not_named`: the error numbers with a name of their own.
* `Session.RefusesEntry`, `RefusesReading`: the two calls.
* `Session.Reports`: a line that comes to nothing but a report.
* `Session.cd_reports_refusals`: the report of each call.
-/

namespace LineShell

variable {W : Type}

/-! ## The names of error numbers -/

namespace Errno

/-- The numbers that have a name of their own. -/
def named : List Errno :=
  [1, 2, 5, 12, 13, 14, 20, 34, 36, 40]

/-- Every other number is unknown. -/
theorem name_of_not_named {code : Errno} (other : code ∉ named) : code.name = "EUNKNOWN" := by
  have none : names.lookup code = none := by
    rw [List.lookup_eq_none_iff]
    intro entry mem
    have listed : entry.1 ∈ named := (by decide : ∀ entry ∈ names, entry.1 ∈ named) entry mem
    exact bne_iff_ne.mpr fun same => other (same ▸ listed)
  rw [name, none, Option.getD_none]

end Errno

namespace Session

open Act

/-! ## Reports -/

/-- The bytes that a text is reported with, in the style of the session. -/
def reportBytes (session : Session W) (text : String) : Bytes :=
  Utf8.encode (session.errHighlighter.error text ++ "\n")

theorem on_report (fault : CommandFault) (session : Session W) :
    (report fault).on session =
      (if (session.console.fitting .err (session.reportBytes fault.message)).length <
          (session.reportBytes fault.message).length then .error (.io .closed) else .ok .failure,
        session.afterWrite .err (session.reportBytes fault.message)) := by
  have put := on_write .err (session.reportBytes fault.message) session
  by_cases cut : (session.console.fitting .err (session.reportBytes fault.message)).length <
      (session.reportBytes fault.message).length
  · rw [if_pos cut] at put ⊢
    simp only [reportBytes] at put ⊢
    simp only [report, printLine, print, on_bind, on_get, put]
  · rw [if_neg cut] at put ⊢
    simp only [reportBytes] at put ⊢
    simp only [report, printLine, print, on_bind, on_get, put, on_pure]

section
variable [Host W]

/-- The line says nothing but a text, on the error stream and as far as it fits there, and fails. -/
structure Reports (session : Session W) (line text : String) : Prop where
  out : ((executeLine line).on session).2.written .out = session.written .out
  err : ((executeLine line).on session).2.written .err =
    session.written .err ++ session.console.fitting .err (session.reportBytes text)
  failure : session.console.fitting .err (session.reportBytes text) = session.reportBytes text →
    ((executeLine line).on session).1 = .ok .failure

/-- Where something can go wrong, nothing is ever written to the output stream. -/
theorem out_notMem_footprint {session : Session W} {tokens : List String} {fault : CommandFault}
    (wrong : session.fault? tokens = some fault) : .write .out ∉ footprint tokens := by
  cases tokens with
  | nil => cases wrong
  | cons name args =>
    simp only [fault?] at wrong
    simp only [footprint]
    cases named : Builtin.lookup? name with
    | none => simp
    | some builtin =>
      rw [named] at wrong
      cases builtin with
      | cd => simp
      | _ => cases wrong

/-- A line that gets something wrong does nothing to be seen but report it. -/
theorem reports_of_fault? {session : Session W} {line : String} {fault : CommandFault}
    (wrong : session.fault? (Token.tokens line) = some fault) :
    Reports session line fault.message := by
  obtain ⟨between, steps, on⟩ := executeLine_of_fault wrong
  have silent : Effect.write .err ∉ quiet := by decide
  have room : between.console.room .err = session.console.room .err := steps.room_eq silent
  have fits : ∀ bytes, between.console.fitting .err bytes = session.console.fitting .err bytes := by
    intro bytes
    simp only [Console.fitting, room]
  have highlighter : between.errHighlighter = session.errHighlighter :=
    congrArg Prod.snd steps.highlighters_eq
  have style : between.reportBytes fault.message = session.reportBytes fault.message := by
    rw [reportBytes, reportBytes, highlighter]
  have ran := on.trans (on_report fault between)
  rw [fits, style] at ran
  refine ⟨?_, ?_, fun whole => ?_⟩
  · exact (within_executeLine line session).steps.written_eq (out_notMem_footprint wrong)
  · rw [ran, written_afterWrite, if_pos rfl, fits, steps.written_eq silent]
  · rw [ran, whole, if_neg (Nat.lt_irrefl _)]

/-- A change that went wrong is reported by the text of what went wrong. -/
theorem reports_of_moveFault? {session : Session W} {line target : String} {fault : CommandFault}
    (typed : Token.tokens line = [Builtin.cd.name, target])
    (wrong : moveFault? session.world target = some fault) :
    Reports session line fault.message := by
  apply reports_of_fault?
  rw [typed]
  simp only [fault?, Builtin.lookup?_name, cdFault?]
  exact wrong

/-! ## The two calls -/

/-- The system does not make the directory that was typed the current one. -/
def RefusesEntry (world : W) (target : String) (cause : IoFault) : Prop :=
  ∃ path, Path.expand? (Host.home world) target = some path ∧ Host.enter world path = .error cause

/-- It does, and does not tell which directory that is. -/
def RefusesReading (world : W) (target : String) (cause : IoFault) : Prop :=
  ∃ path entered, Path.expand? (Host.home world) target = some path ∧
    Host.enter world path = .ok entered ∧ Host.here entered = .error cause

theorem RefusesEntry.moveFault?_eq {world : W} {target : String} {cause : IoFault}
    (refused : RefusesEntry world target cause) :
    moveFault? world target = some (refusal target cause) := by
  obtain ⟨path, expanded, entered⟩ := refused
  simp only [moveFault?, expanded, entered]

theorem RefusesReading.moveFault?_eq {world : W} {target : String} {cause : IoFault}
    (refused : RefusesReading world target cause) :
    moveFault? world target = some (.directory target cause) := by
  obtain ⟨path, entered, expanded, enters, here⟩ := refused
  have read : Directory.read entered = .error cause := by rw [Directory.read, here]
  simp only [moveFault?, expanded, enters, read]

/-- **A refused change of directory is reported by what the system said.** Where the directory that was typed
cannot be entered because there is none, that is said in plain words; any other number is shown behind its
name, and so is every number with which the reading back is refused. Ten numbers have a name of their own. -/
theorem cd_reports_refusals (session : Session W) {line target : String}
    (typed : Token.tokens line = ["cd", target]) :
    (RefusesEntry session.world target (.os .ENOENT) →
        Reports session line s!"cd: no such directory: {target}") ∧
      (∀ code, code ≠ .ENOENT → RefusesEntry session.world target (.os code) →
        Reports session line s!"cd: {target}: {code.name} (os error {code})") ∧
      (∀ code, RefusesReading session.world target (.os code) →
        Reports session line s!"cd: {target}: {code.name} (os error {code})") ∧
      Errno.named.map Errno.name = ["EPERM", "ENOENT", "EIO", "ENOMEM", "EACCES", "EFAULT", "ENOTDIR",
        "ERANGE", "ENAMETOOLONG", "ELOOP"] ∧
      ∀ code ∉ Errno.named, Errno.name code = "EUNKNOWN" := by
  refine ⟨fun refused => ?_, fun code other refused => ?_, fun code refused => ?_, by decide,
    fun code => Errno.name_of_not_named⟩
  · exact reports_of_moveFault? typed refused.moveFault?_eq
  · have named : refusal target (.os code) = .directory target (.os code) := by
      simp [refusal, IoFault.isNotFound, other]
    have reports := reports_of_moveFault? typed refused.moveFault?_eq
    rwa [named] at reports
  · exact reports_of_moveFault? typed refused.moveFault?_eq

end

end Session

/-! ## A directory that is gone -/

namespace Machine

open Session

/-- A machine in a directory that was removed. -/
def stranded : Machine :=
  { tree := ⟨[.directory 0 [], .directory 0 []]⟩, here := 1 }

/-- A session there, which still shows the directory. -/
def strandedSession : Session Machine :=
  { console := { input := .reader (.ofScript []) }
    world := stranded
    directory := "/gone" }

/-- Staying there is allowed, but the directory has no path any more. -/
theorem refusesReading_stranded : RefusesReading stranded "." (.os .ENOENT) := by
  have stays : Host.enter stranded (Utf8.encode ".") = .ok stranded := enter_dot.mpr ⟨by decide, rfl⟩
  exact ⟨Utf8.encode ".", stranded, by decide, stays, by decide⟩

/-- Nothing is found from there. -/
theorem refusesEntry_stranded : RefusesEntry stranded "d" (.os .ENOENT) := by
  refine ⟨Utf8.encode "d", by decide, ?_⟩
  have check : Tree.checkPath (Utf8.encode "d") = .ok () := by decide
  have names : names (Utf8.encode "d") = [Utf8.encode "d"] := by decide
  have zero : (Utf8.encode "d").contains 0 = false := by decide
  have inside : stranded.tree.isDirectory 1 = true := by decide
  have found : stranded.tree.find 1 (Utf8.encode "d") = .error .ENOENT := by decide
  have named : Utf8.encode "d" ≠ Utf8.encode "." ∧ Utf8.encode "d" ≠ Utf8.encode ".." := by decide
  have resolved : stranded.tree.resolve stranded.here (Utf8.encode "d") = .error .ENOENT := by
    have origin : Tree.origin stranded.here (Utf8.encode "d") = 1 := by decide
    simp only [Tree.resolve, check, names, origin, bind, Except.bind]
    rw [Tree.walk]
    simp [inside, found, named]
  simp only [Host.enter, Machine.enter, zero, resolved]
  rfl

theorem tokens_cd_dot : Token.tokens "cd ." = ["cd", "."] := by
  have words : Token.words "cd .".toList = ["cd".toList, ".".toList] := by decide
  rw [Token.tokens_eq, words]
  rfl

/-- **A directory that is gone is not always reported as one.** In a removed directory, `cd .` changes the
directory and finds none when it reads it back, and that is reported with the name and number of the error. -/
theorem gone_directory_shows_number : ¬∀ (session : Session Machine) (line target : String),
    Token.tokens line = ["cd", target] →
      RefusesEntry session.world target (.os .ENOENT) ∨
        RefusesReading session.world target (.os .ENOENT) →
      Reports session line s!"cd: no such directory: {target}" := by
  intro plain
  have friendly := plain strandedSession "cd ." "." tokens_cd_dot (.inr refusesReading_stranded)
  have shown : Reports strandedSession "cd ." (CommandFault.directory "." (.os .ENOENT)).message :=
    reports_of_moveFault? tokens_cd_dot refusesReading_stranded.moveFault?_eq
  have same := List.append_cancel_left (friendly.err.symm.trans shown.err)
  exact absurd same (by decide)

theorem cd_reports_refusals_stranded :
    Token.tokens "cd ." = ["cd", "."] ∧ RefusesReading stranded "." (.os .ENOENT) ∧
      Reports strandedSession "cd ." "cd: .: ENOENT (os error 2)" ∧
      Token.tokens "cd d" = ["cd", "d"] ∧ RefusesEntry stranded "d" (.os .ENOENT) ∧
      Reports strandedSession "cd d" "cd: no such directory: d" := by
  have words : Token.words "cd d".toList = ["cd".toList, "d".toList] := by decide
  have tokens : Token.tokens "cd d" = ["cd", "d"] := by
    rw [Token.tokens_eq, words]
    rfl
  obtain ⟨-, -, reading, -⟩ := cd_reports_refusals strandedSession tokens_cd_dot
  obtain ⟨entry, -⟩ := cd_reports_refusals strandedSession tokens
  exact ⟨tokens_cd_dot, refusesReading_stranded, reading _ refusesReading_stranded, tokens,
    refusesEntry_stranded, entry refusesEntry_stranded⟩

end Machine

end LineShell
