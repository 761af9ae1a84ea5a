import LineShell.Proofs.Session.Footprint

/-!
# Turns of the loop

A run is its turns one after another, and a turn ends in one of a few ways.

* `Session.TurnEnd`, `turn_cases`: the ways in which a turn ends.
* `Session.Turn`, `turns`: what each turn of a run did.
* `Session.turns_induction`: what holds of the turns holds of the run.
* `Session.parts_run`: what every turn adds to, a run adds to turn by turn.
* `Turn.told`, `Session.trace_run`: the events of a run are those of its turns.
-/

namespace LineShell

variable {W : Type}

namespace Session

open Act

section
variable [Host W]

/-! ## One turn -/

/-- The record of a session that is left. -/
def leaving : Event :=
  .logged { level := .debug, message := "exit requested, leaving the loop" }

omit [Host W] in
/-- What is left to do behind a line: only `exit` ends the session. -/
def closeTurn (status : Status) : Act W Bool := do
  match status with
  | .exit =>
    debug "exit requested, leaving the loop"
    return true
  | _ => return false

omit [Host W] in
theorem on_closeTurn_exit (session : Session W) :
    (closeTurn .exit).on session = (.ok true, session.afterEvent leaving) := rfl

omit [Host W] in
theorem on_closeTurn_of_ne {status : Status} (going : status ≠ .exit) (session : Session W) :
    (closeTurn status).on session = (.ok false, session) := by
  cases status with
  | exit => exact absurd rfl going
  | success => rfl
  | failure => rfl

/-- The ways in which a turn ends: no line was read, the line was blank, or it was carried out and put the
session at fault, ended it, or let it go on. -/
inductive TurnEnd (session : Session W) : Except SessionFault Bool → Session W → Prop
  | unread (fault : SessionFault) (asked : Session W) :
      (readLine session.prompt).on session = (.error fault, asked) →
      TurnEnd session (.error fault) asked
  | blank (line : String) (asked : Session W) :
      (readLine session.prompt).on session = (.ok line, asked) → Text.allBlank line = true →
      TurnEnd session (.ok false) asked
  | failed (line : String) (asked : Session W) (fault : SessionFault) (after : Session W) :
      (readLine session.prompt).on session = (.ok line, asked) → Text.allBlank line = false →
      (executeLine line).on asked = (.error fault, after) → TurnEnd session (.error fault) after
  | left (line : String) (asked after : Session W) :
      (readLine session.prompt).on session = (.ok line, asked) → Text.allBlank line = false →
      (executeLine line).on asked = (.ok .exit, after) →
      TurnEnd session (.ok true) (after.afterEvent leaving)
  | done (line : String) (asked : Session W) (status : Status) (after : Session W) :
      (readLine session.prompt).on session = (.ok line, asked) → Text.allBlank line = false →
      (executeLine line).on asked = (.ok status, after) → status ≠ .exit →
      TurnEnd session (.ok false) after

/-- A turn is over where no line was read. -/
theorem on_turn_of_fault {session asked : Session W} {fault : SessionFault}
    (read : (readLine session.prompt).on session = (.error fault, asked)) :
    turn.on session = (.error fault, asked) := by
  simp only [turn, on_bind, on_get, read]

/-- A blank line is skipped. -/
theorem on_turn_of_blank {session asked : Session W} {line : String}
    (read : (readLine session.prompt).on session = (.ok line, asked))
    (blank : Text.allBlank line = true) : turn.on session = (.ok false, asked) := by
  simp only [turn, on_bind, on_get, read, blank, if_true, on_pure]

/-- Any other line is carried out. -/
theorem on_turn_of_line {session asked : Session W} {line : String}
    (read : (readLine session.prompt).on session = (.ok line, asked))
    (some : Text.allBlank line = false) :
    turn.on session = (executeLine line >>= closeTurn).on asked := by
  simp only [turn, on_bind, on_get, read, some, Bool.false_eq_true, if_false]
  rfl

theorem turn_cases (session : Session W) :
    TurnEnd session (turn.on session).1 (turn.on session).2 := by
  cases read : (readLine session.prompt).on session with
  | mk result asked =>
    cases result with
    | error fault =>
      rw [on_turn_of_fault read]
      exact .unread fault asked read
    | ok line =>
      cases blank : Text.allBlank line with
      | true =>
        rw [on_turn_of_blank read blank]
        exact .blank line asked read blank
      | false =>
        rw [on_turn_of_line read blank, on_bind]
        cases executed : (executeLine line).on asked with
        | mk outcome after =>
          cases outcome with
          | error fault => exact .failed line asked fault after read blank executed
          | ok status =>
            cases status with
            | exit => exact .left line asked after read blank executed
            | success => exact .done line asked .success after read blank executed (by simp)
            | failure => exact .done line asked .failure after read blank executed (by simp)

/-- A turn is made of effects, as everything that a session does. -/
theorem within_turn : Within Effect.all (turn : Act W Bool) := by
  refine .bind .get fun session => .bind ((within_readLine _).mono (by simp [Effect.all])) fun line => ?_
  split
  · exact .pure _
  · refine .bind ((within_executeLine line).mono fun effect _ => effect.mem_all) fun status => ?_
    split
    · exact .bind ((within_debug _).mono (by simp [Effect.all])) fun _ => .pure _
    · exact .pure _

/-! ## All turns of a run -/

/-- One turn of a run: the session at the prompt, the session behind the read, what the line came to if it
was carried out, and the session that is left. -/
structure Turn (W : Type) where
  start : Session W
  asked : Session W
  executed : Option (Except SessionFault Status)
  finish : Session W

/-- The turn that a session is going to take. -/
def nextTurn (session : Session W) : Turn W where
  start := session
  asked := ((readLine session.prompt).on session).2
  executed :=
    match ((readLine session.prompt).on session).1 with
    | .error _ => none
    | .ok line =>
      if Text.allBlank line then none
      else some ((executeLine line).on ((readLine session.prompt).on session).2).1
  finish := (turn.on session).2

/-- A turn carries out no line and leaves everything as it was behind the read, or it carries out one line
and logs at most that it was the last. -/
theorem nextTurn_cases (session : Session W) :
    (session.nextTurn.executed = none ∧ session.nextTurn.finish = session.nextTurn.asked) ∨
      ∃ line, session.nextTurn.executed = some ((executeLine line).on session.nextTurn.asked).1 ∧
        Steps [.log] ((executeLine line).on session.nextTurn.asked).2 session.nextTurn.finish := by
  have ended := turn_cases session
  unfold nextTurn
  generalize turn.on session = outcome at ended ⊢
  obtain ⟨result, last⟩ := outcome
  cases ended with
  | unread fault asked read => exact .inl (by simp [read])
  | blank line asked read blank => exact .inl (by simp [read, blank])
  | failed line asked fault after read blank executed =>
    refine .inr ⟨line, by simp [read, blank], ?_⟩
    simp only [read, executed]
    exact .refl
  | left line asked after read blank executed =>
    refine .inr ⟨line, by simp [read, blank], ?_⟩
    simp only [read, executed]
    exact .single (.log _) (by simp)
  | done line asked status after read blank executed =>
    refine .inr ⟨line, by simp [read, blank], ?_⟩
    simp only [read, executed]
    exact .refl

/-- Behind the read, a turn takes steps to its end. -/
theorem steps_behind_read (session : Session W) :
    Steps Effect.all session.nextTurn.asked session.nextTurn.finish := by
  rcases nextTurn_cases session with ⟨-, same⟩ | ⟨line, -, logged⟩
  · rw [same]
    exact .refl
  · have executed := (within_executeLine line session.nextTurn.asked).steps
    exact (executed.mono fun effect _ => effect.mem_all).trans
      (logged.mono fun effect _ => effect.mem_all)

/-- The turns of the run of a session. -/
def turns (session : Session W) : List (Turn W) :=
  match _turned : turn.on session with
  | (.ok false, after) => session.nextTurn :: turns after
  | _ => [session.nextTurn]
termination_by session.pending
decreasing_by exact turn_lt _turned

theorem turns_of_turn {session after : Session W} (h : turn.on session = (.ok false, after)) :
    turns session = session.nextTurn :: turns after := by
  rw [turns]
  split <;> simp_all

/-- A turn behind which the session does not go on is the last one. -/
theorem turns_of_last {session after : Session W} {result : Except SessionFault Bool}
    (h : turn.on session = (result, after)) (last : result ≠ .ok false) :
    turns session = [session.nextTurn] ∧ run session = (result.map fun _ => (), after) := by
  constructor
  · rw [turns]
    split
    · next eq =>
      rw [h] at eq
      cases eq
      exact absurd rfl last
    · rfl
  · match result with
    | .error fault => exact run_of_fault h
    | .ok true => exact run_of_end h
    | .ok false => exact absurd rfl last

/-- A run begins with a turn. -/
theorem nextTurn_mem_turns (session : Session W) : session.nextTurn ∈ turns session := by
  rw [turns]
  split <;> exact List.mem_cons_self

/-- What holds where a turn is the last one, and carries over from the run behind a turn to the run with it,
holds of every run and its turns. -/
theorem turns_induction
    {motive : Session W → Except SessionFault Unit × Session W → List (Turn W) → Prop}
    (last : ∀ session result after, turn.on session = (result, after) → result ≠ .ok false →
      motive session (result.map fun _ => (), after) [session.nextTurn])
    (next : ∀ session after, turn.on session = (.ok false, after) →
      motive after (run after) (turns after) →
      motive session (run after) (session.nextTurn :: turns after)) (session : Session W) :
    motive session (run session) (turns session) := by
  fun_induction run session with
  | case1 session cause after turned =>
    rw [(turns_of_last turned (by simp)).1]
    exact last session _ after turned (by simp)
  | case2 session after turned =>
    rw [(turns_of_last turned (by simp)).1]
    exact last session _ after turned (by simp)
  | case3 session after turned ih =>
    rw [turns_of_turn turned]
    exact next session after turned ih

/-- The same for sessions of which something holds that no step puts an end to. -/
theorem turns_induction_of {p : Session W → Prop}
    {motive : Session W → Except SessionFault Unit × Session W → List (Turn W) → Prop}
    (kept : ∀ {session after}, Steps Effect.all session after → p session → p after)
    (last : ∀ session result after, p session → turn.on session = (result, after) →
      result ≠ .ok false → motive session (result.map fun _ => (), after) [session.nextTurn])
    (next : ∀ session after, p session → turn.on session = (.ok false, after) →
      motive after (run after) (turns after) →
      motive session (run after) (session.nextTurn :: turns after))
    (session : Session W) (start : p session) : motive session (run session) (turns session) := by
  refine turns_induction (motive := fun session outcome turns => p session →
    motive session outcome turns) ?_ ?_ session start
  · intro session result after turned ends start
    exact last session result after start turned ends
  · intro session after turned rest start
    have still := kept (within_turn session).steps start
    rw [turned] at still
    exact next session after start turned (rest still)

/-- What every turn adds its own part to, a run adds the parts of its turns to, one after another. -/
theorem parts_run {α β : Type} {p : Session W → Prop}
    (kept : ∀ {session after}, Steps Effect.all session after → p session → p after)
    (value : Session W → α) (part : Turn W → List β) (add : α → List β → α)
    (add_append : ∀ x parts more, add x (parts ++ more) = add (add x parts) more)
    (one : ∀ {session}, p session →
      value (turn.on session).2 = add (value session) (part session.nextTurn))
    (session : Session W) (start : p session) :
    value (run session).2 = add (value session) ((turns session).flatMap part) := by
  refine turns_induction_of (motive := fun session outcome turns =>
    value outcome.2 = add (value session) (turns.flatMap part)) kept ?_ ?_ session start
  · intro session result after start turned _
    have first := one start
    rw [turned] at first
    rw [List.flatMap_singleton]
    exact first
  · intro session after start turned rest
    have first := one start
    rw [turned] at first
    rw [rest, first, List.flatMap_cons, add_append]

/-- A turn of a run is the turn that one of the sessions of the run is going to take. -/
theorem exists_nextTurn_of_mem {session : Session W} {turn : Turn W} (mem : turn ∈ turns session) :
    ∃ before, Steps Effect.all session before ∧ turn = before.nextTurn := by
  refine turns_induction (motive := fun session _ turns => ∀ turn ∈ turns,
    ∃ before, Steps Effect.all session before ∧ turn = before.nextTurn) ?_ ?_ session turn mem
  · intro session result after turned _ turn mem
    exact ⟨session, .refl, List.mem_singleton.mp mem⟩
  · intro session after turned rest turn mem
    rcases List.mem_cons.mp mem with rfl | mem
    · exact ⟨session, .refl, rfl⟩
    · have steps := (within_turn session).steps
      rw [turned] at steps
      obtain ⟨before, more, eq⟩ := rest turn mem
      exact ⟨before, steps.trans more, eq⟩

/-- A run ends as its last turn does. -/
theorem exists_last_turn (session : Session W) :
    ∃ before result, Steps Effect.all session before ∧
      (turns session).getLast? = some before.nextTurn ∧ turn.on before = (result, (run session).2) ∧
      (run session).1 = (result.map fun _ => ()) ∧ result ≠ .ok false := by
  refine turns_induction (motive := fun session outcome turns => ∃ before result,
    Steps Effect.all session before ∧ turns.getLast? = some before.nextTurn ∧
      turn.on before = (result, outcome.2) ∧ outcome.1 = (result.map fun _ => ()) ∧
      result ≠ .ok false) ?_ ?_ session
  · intro session result after turned last
    exact ⟨session, result, .refl, rfl, turned, rfl, last⟩
  · rintro session after turned ⟨before, result, more, last, rest⟩
    have steps := (within_turn session).steps
    rw [turned] at steps
    refine ⟨before, result, steps.trans more, ?_, rest⟩
    rw [List.getLast?_cons, last]
    rfl

/-! ## What happened in a turn -/

/-- The line that was read in a turn. -/
def Turn.line? (turn : Turn W) : Option String :=
  ((readLine turn.start.prompt).on turn.start).1.toOption

/-- The events of a turn, in order. -/
def Turn.told (turn : Turn W) : List Event :=
  (turn.finish.trace.take (turn.finish.trace.length - turn.start.trace.length)).reverse

omit [Host W] in
theorem Turn.told_eq {turn : Turn W} {events : List Event}
    (h : turn.finish.trace = events ++ turn.start.trace) : turn.told = events.reverse := by
  rw [told, h, List.length_append, Nat.add_sub_cancel, List.take_left]

theorem told_nextTurn {session after : Session W} {result : Except SessionFault Bool}
    {events : List Event} (turned : turn.on session = (result, after))
    (trace : after.trace = events ++ session.trace) : session.nextTurn.told = events.reverse :=
  Turn.told_eq ((congrArg (·.2.trace) turned).trans trace)

theorem trace_nextTurn (session : Session W) :
    (turn.on session).2.trace.reverse = session.trace.reverse ++ session.nextTurn.told := by
  obtain ⟨events, trace, _⟩ := (within_turn session).steps.trace
  rw [told_nextTurn rfl trace, trace, List.reverse_append]

/-- The events of a run are those of its turns. -/
theorem trace_run (session : Session W) :
    (run session).2.trace.reverse =
      session.trace.reverse ++ (turns session).flatMap Turn.told := by
  exact parts_run (p := fun _ => True) (fun _ => id) (fun session => session.trace.reverse) Turn.told
    (· ++ ·) (fun _ _ _ => (List.append_assoc ..).symm) (fun {session} _ => trace_nextTurn session)
    session trivial

end

end Session

end LineShell
