import LineShell.Proofs.Session.DirectoryCache
import LineShell.Proofs.Session.Outcome
import LineShell.Proofs.Session.Turns

/-!
# The two kinds of faults

What a command gets wrong is one line of the error stream, and the session goes on. Only streams and reads
that fail end it.

* `Session.fails_executeLine`: what puts a session at fault.
* `Session.written_err_executeLine`: what a line adds to the error stream.
* `Session.count_newline_run`: the error stream of a run has a line for each failed command.
* `Session.error_tiers`: the two kinds of faults apart.
-/

namespace LineShell

variable {W : Type}

/-- Nothing but a write or a read fails, and a line always has room for its tokens. -/
theorem Effect.Fails.cases_fault {effect : Effect} {fault : SessionFault} {after : Session W}
    (fails : effect.Fails fault after) :
    ((∃ stream, effect = .write stream) ∨ effect = .read) ∧ ∀ n, fault ≠ .tokenOverflow n := by
  cases fails with
  | write => exact ⟨.inl ⟨_, rfl⟩, fun n eq => by cases eq⟩
  | @piece piece _ _ _ _ line =>
    refine ⟨.inr rfl, fun n eq => ?_⟩
    subst eq
    unfold lineOfPiece at line
    split at line
    · cases line
    · split at line <;> cases line
  | @answer _ cause =>
    refine ⟨.inr rfl, fun n eq => ?_⟩
    cases cause <;> cases eq

namespace Session

open Act

section
variable [Host W]

/-! ## One line -/

/-- Only a stream that takes no more, or a failed answer to `alias`, makes a line end the session. -/
theorem fails_executeLine {line : String} {session after : Session W} {fault : SessionFault}
    (h : (executeLine line).on session = (.error fault, after)) :
    (∀ n, fault ≠ .tokenOverflow n) ∧
      ((∃ stream, (Effect.write stream).Fails fault after) ∨
        Token.tokens line = ["alias"] ∧ Effect.read.Fails fault after) := by
  have failed := (within_executeLine line session).fault
  rw [h] at failed
  obtain ⟨effect, mem, fails⟩ := failed fault rfl
  obtain ⟨⟨stream, rfl⟩ | rfl, room⟩ := fails.cases_fault
  · exact ⟨room, .inl ⟨stream, fails⟩⟩
  · exact ⟨room, .inr ⟨eq_alias_of_read_mem mem, fails⟩⟩

/-- The bytes that report what a list of tokens gets wrong. -/
def reported (session : Session W) (tokens : List String) : Bytes :=
  match session.fault? tokens with
  | none => []
  | some fault => Utf8.encode (session.reportLine fault)

/-- A report is one line, and there is one exactly if something is wrong. -/
theorem count_newline_reported (texts : DescribesInLines W) (session : Session W) (line : String) :
    (session.reported (Token.tokens line)).count newline =
      if (session.fault? (Token.tokens line)).isSome then 1 else 0 := by
  unfold reported
  cases wrong : session.fault? (Token.tokens line) with
  | none => rfl
  | some fault => exact (oneLine_error _ (quotesLines_fault? texts wrong)).count_newline

/-- What a line that ends without a fault adds to the error stream. -/
theorem written_err_executeLine {line : String} {session after : Session W} {status : Status}
    (h : (executeLine line).on session = (.ok status, after)) :
    after.written .err = session.written .err ++ session.reported (Token.tokens line) := by
  unfold reported
  cases wrong : session.fault? (Token.tokens line) with
  | none =>
    have quietly := (executeLine_of_no_fault wrong).1
    rw [h] at quietly
    rw [List.append_nil]
    exact quietly.written_eq (by decide)
  | some fault => exact (executeLine_ok_of_fault wrong h).2

theorem failure_iff_isSome {line : String} {session after : Session W} {status : Status}
    (h : (executeLine line).on session = (.ok status, after)) :
    status = .failure ↔ (session.fault? (Token.tokens line)).isSome := by
  rw [status_executeLine h]
  split
  · next wrong => simp [wrong]
  · next right =>
    simp only [right]
    split <;> simp

/-- A report is never empty. -/
theorem reported_ne_nil_iff (session : Session W) (tokens : List String) :
    session.reported tokens ≠ [] ↔ (session.fault? tokens).isSome := by
  unfold reported
  cases session.fault? tokens with
  | none => simp
  | some fault =>
    have last : (Utf8.encode (session.reportLine fault)) ≠ [] := by
      rw [reportLine, Utf8.encode_append]
      exact List.append_ne_nil_of_right_ne_nil _ (by decide)
    simp [last]

/-! ## A run -/

/-- Whether a line was carried out in the turn and failed. -/
def Turn.failed (turn : Turn W) : Bool :=
  match turn.executed with
  | some (.ok .failure) => true
  | _ => false

omit [Host W] in
theorem Turn.failed_iff (turn : Turn W) : turn.failed ↔ turn.executed = some (.ok .failure) := by
  unfold failed
  split
  · next eq => simp [eq]
  · next other => simpa using other

/-- On an error stream without a limit, a line adds its report whatever it comes to. -/
theorem count_newline_executeLine (texts : DescribesInLines W) {session : Session W}
    (room : session.console.errRoom = none) (line : String) :
    (((executeLine line).on session).2.written .err).count newline =
      (session.written .err).count newline +
        if ((executeLine line).on session).1 = .ok .failure then 1 else 0 := by
  cases eq : (executeLine line).on session with
  | mk result after =>
    cases result with
    | ok status =>
      rw [written_err_executeLine eq, List.count_append, count_newline_reported texts]
      simp only [Except.ok.injEq, failure_iff_isSome eq]
    | error fault =>
      -- A report cannot fail here, so nothing was reported.
      cases wrong : session.fault? (Token.tokens line) with
      | none =>
        have quietly := (executeLine_of_no_fault wrong).1
        rw [eq] at quietly
        have silent : after.written .err = session.written .err := quietly.written_eq (by decide)
        simp [silent]
      | some cause =>
        obtain ⟨between, steps, on⟩ := executeLine_of_fault wrong
        rw [on_report_of_room (steps.room_eq_none .err room)] at on
        cases eq.symm.trans on

theorem count_newline_turn (texts : DescribesInLines W) {session : Session W}
    (room : session.console.errRoom = none) :
    ((turn.on session).2.written .err).count newline =
      (session.written .err).count newline + if session.nextTurn.failed then 1 else 0 := by
  have asks := (within_readLine session.prompt session).steps
  have silent : ((readLine session.prompt).on session).2.written .err = session.written .err :=
    asks.written_eq (by decide)
  have free := asks.room_eq_none .err room
  have finish : session.nextTurn.finish = (turn.on session).2 := rfl
  simp only [← finish, Turn.failed_iff]
  rcases nextTurn_cases session with ⟨idle, same⟩ | ⟨line, executed, logged⟩
  · rw [same, idle]
    exact congrArg (List.count newline) silent
  · have count := count_newline_executeLine texts free line
    have written : session.nextTurn.finish.written .err = _ := logged.written_eq (by simp)
    rw [silent] at count
    simp only [written, executed, Option.some.injEq]
    exact count

/-- The error stream of a run has a line for every line that failed. -/
theorem count_newline_run (texts : DescribesInLines W) (session : Session W)
    (room : session.console.errRoom = none) :
    ((run session).2.written .err).count newline =
      (session.written .err).count newline + (turns session).countP Turn.failed := by
  revert room
  refine turns_induction
    (motive := fun session outcome turns => session.console.errRoom = none →
      (outcome.2.written .err).count newline =
        (session.written .err).count newline + turns.countP Turn.failed) ?_ ?_ session
  · intro session result after turned _ room
    have one := count_newline_turn texts room
    rw [turned] at one
    rw [List.countP_singleton]
    exact one
  · intro session after turned rest room
    have one := count_newline_turn texts room
    have steps := (within_turn session).steps
    rw [turned] at one steps
    rw [rest (steps.room_eq_none .err room), one, List.countP_cons]
    omega

/-- **Two kinds of faults.** A line ends the session only where a stream takes no more, or where it is `alias`
and a read fails, never for anything that it gets wrong itself. Otherwise it is a failure exactly if it adds to
the error stream, and then it adds one line, the text of what it got wrong. So the error stream of a run has
as many lines as lines have failed. -/
theorem error_tiers (texts : DescribesInLines W) :
    (∀ (session : Session W) line fault after,
      (executeLine line).on session = (.error fault, after) →
        (∀ n, fault ≠ .tokenOverflow n) ∧
          ((∃ stream, (Effect.write stream).Fails fault after) ∨
            Token.tokens line = ["alias"] ∧ Effect.read.Fails fault after)) ∧
      (∀ (session : Session W) line status after,
        (executeLine line).on session = (.ok status, after) →
          (status = .failure ↔ after.written .err ≠ session.written .err) ∧
            (status = .failure → ∃ fault, session.fault? (Token.tokens line) = some fault ∧
              after.written .err = session.written .err ++
                Utf8.encode (session.errHighlighter.error fault.message ++ "\n") ∧
              '\n' ∉ (session.errHighlighter.error fault.message).toList)) ∧
      ∀ session : Session W, session.console.errRoom = none →
        ((run session).2.written .err).count newline =
          (session.written .err).count newline + (turns session).countP Turn.failed := by
  refine ⟨fun _ _ _ _ => fails_executeLine, fun session line status after h => ?_,
    count_newline_run texts⟩
  have failure := failure_iff_isSome h
  refine ⟨?_, fun failed => ?_⟩
  · rw [written_err_executeLine h, ne_eq, List.append_right_eq_self, ← ne_eq, reported_ne_nil_iff]
    exact failure
  · obtain ⟨fault, wrong⟩ := Option.isSome_iff_exists.mp (failure.mp failed)
    exact ⟨fault, wrong, (executeLine_ok_of_fault wrong h).2,
      oneLine_error _ (quotesLines_fault? texts wrong)⟩

end

end Session

namespace Machine

/-- A machine describes the programs that it could not run in one line each. -/
theorem describesInLines : Session.DescribesInLines Machine := by
  intro machine program args input cause refused
  simp only [Host.launch, launch] at refused
  split at refused
  · rcases refused with eq | eq <;> cases eq
    exact .of_chars rfl (by decide)
  · split at refused
    · rcases refused with eq | eq <;> cases eq
      trivial
    · rcases refused with eq | eq <;> cases eq

open Session in
/-- A `cd` that names no directory is a failure and one line. -/
theorem error_tiers_top : ∃ after, (executeLine "cd").on topSession = (.ok .failure, after) ∧
    after.written .err ≠ topSession.written .err ∧
      after.written .err = Utf8.encode (topSession.reportLine (.usage "cd <directory>")) := by
  have tokens : Token.tokens "cd" = ["cd"] :=
    Token.tokens_eq_of_tokenize? (by decide : Token.tokenize? "cd" 1 = _)
  have wrong : topSession.fault? (Token.tokens "cd") = some (.usage "cd <directory>") := by
    rw [tokens]
    rfl
  obtain ⟨between, steps, on⟩ := executeLine_of_fault wrong
  rw [on_report_of_room (steps.room_eq_none .err rfl)] at on
  obtain ⟨failure, line⟩ := (error_tiers describesInLines).2.1 _ _ _ _ on
  obtain ⟨fault, same, added, _⟩ := line rfl
  cases wrong.symm.trans same
  exact ⟨_, on, failure.mp rfl, added⟩

end Machine

end LineShell
