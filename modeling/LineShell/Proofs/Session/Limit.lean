import LineShell.Proofs.Session.Simulation

/-!
# Streams with a limit

A session whose streams take only so many bytes does what it does on streams without a limit, up to the first
write that does not fit. What fits of that write is written, and nothing else happens.

* `Session.simulation_withRoom`: sessions that differ in the room of their streams, in front of writes only.
* `Session.WriteFails`, `run_unbounded`: a run in which no write fails is the run without limits.
* `Session.capped`: a session in the middle of a run without limits, on streams that take so much in all.
* `Session.simulation_capped`: a run on such streams follows the run without limits.
* `Session.run_withRoom`: where it leaves it.
-/

namespace LineShell

variable {W : Type}

namespace Session

open Act

/-! ## Streams that take less -/

section
variable [Host W] {Near : Session W → Session W → Prop}
  {Split : SessionFault → Session W → Session W → Prop}

/-- Sessions that differ in the room of their streams do the same, writes apart. -/
theorem simulation_withRoom
    (same : ∀ {first second}, Near first second → ∃ out err, first = second.withRoom out err)
    (step : ∀ {second second' : Session W} {effect : Effect} {out err : Option Nat},
      Near (second.withRoom out err) second → Step second effect second' →
      (∀ stream, effect ≠ .write stream) → Near (second'.withRoom out err) second')
    (writes : ∀ stream bytes, Related Near Split (write stream bytes) (write stream bytes)) :
    Simulation Near Split := by
  have print : ∀ stream text, Related Near Split (print stream text) (print stream text) :=
    fun stream text => writes stream _
  -- Whatever is seen of a session but the room of its streams is seen of both.
  have sees : ∀ {β : Type} (view : Session W → β) {first second}, Near first second →
      (∀ session out err, view (Session.withRoom session out err) = view session) →
      view first = view second := by
    intro β view first second near blind
    obtain ⟨out, err, rfl⟩ := same near
    exact blind second out err
  have world : ∀ {first second}, Near first second → first.world = second.world :=
    fun near => sees (·.world) near fun _ _ _ => rfl
  have input : ∀ {first second}, Near first second → first.console.input = second.console.input :=
    fun near => sees (·.console.input) near fun _ _ _ => rfl
  have style : ∀ {first second}, Near first second → first.outHighlighter = second.outHighlighter :=
    fun near => sees (·.outHighlighter) near fun _ _ _ => rfl
  have log : ∀ {first second}, Near first second → ∀ record,
      Near (first.afterEvent (.logged record)) (second.afterEvent (.logged record)) := by
    intro first second near record
    obtain ⟨out, err, rfl⟩ := same near
    exact step near (.log record) (by simp)
  constructor
  case' toSimulationUpToListing => constructor
  case sees_world => exact world
  case sees_directory => exact fun near => sees (·.directory) near fun _ _ _ => rfl
  case after_log => exact log
  case after_enter =>
    intro first second near path world entered
    obtain ⟨out, err, rfl⟩ := same near
    exact step near (.enter path world entered) (by simp)
  case after_refresh =>
    intro first second near text read
    obtain ⟨out, err, rfl⟩ := same near
    exact step near (.refresh text read) (by simp)
  case after_store =>
    intro first second near name value
    obtain ⟨out, err, rfl⟩ := same near
    exact step near (.store name value) (by simp)
  case after_launch =>
    intro first second near program args
    obtain ⟨out, err, rfl⟩ := same near
    exact ⟨rfl, step near (.launch program args) (by simp)⟩
  case on_print => exact print .out
  case on_readEntry =>
    apply related_readEntry (print .out) world input log
    · intro first second near reader here
      obtain ⟨out, err, rfl⟩ := same near
      exact step near (.piece reader here) (by simp)
    · intro first second near editor prompt here
      obtain ⟨out, err, rfl⟩ := same near
      exact step near (.answer editor prompt here) (by simp)
  case on_remember =>
    apply related_remember input
    intro first second near editor line here
    obtain ⟨out, err, rfl⟩ := same near
    exact step near (.remember editor line here) (by simp)
  case on_logo => exact related_printLogo (print .out) style
  case on_help => exact related_help (print .out) style
  case on_listing =>
    apply related_listAliases (print .out)
    exact fun near => sees (·.aliases) near fun _ _ _ => rfl
  case on_report =>
    apply related_report (print .err)
    exact fun near => sees (·.errHighlighter) near fun _ _ _ => rfl

end

/-! ## Runs in which no write fails -/

/-- A run ended at a write: a stream took no more bytes. -/
def WriteFails (outcome : Except SessionFault Unit × Session W) : Prop :=
  ∃ stream fault, outcome.1 = .error fault ∧ Effect.Fails (.write stream) fault outcome.2

/-- The first session is the second on streams that may have a limit. -/
structure Unbounded (first second : Session W) : Prop where
  same : ∃ out err, first = second.withRoom out err
  free : ∀ stream, second.console.room stream = none

/-- The first session was put at fault by a write. -/
def FailedWrite (fault : SessionFault) (first _ : Session W) : Prop :=
  ∃ stream, Effect.Fails (.write stream) fault first

section
variable [Host W]

/-- A write goes to both, or fails in the first. -/
theorem related_write_unbounded (stream : Stream) (bytes : Bytes) :
    Related Unbounded FailedWrite (write (W := W) stream bytes) (write stream bytes) where
  steps := (within_write stream bytes).steps_all
  meets := by
    rintro _ second ⟨⟨out, err, rfl⟩, free⟩
    have step : Steps Effect.all second (second.afterWrite stream bytes) :=
      .single (.write stream bytes) (Effect.mem_all _)
    have whole : second.console.fitting stream bytes = bytes := fitting_of_room (free stream) bytes
    rw [on_write_of_room (free stream), on_write]
    split
    · next cut =>
      exact .parted _ _ ⟨stream, .write rfl (room_afterWrite stream bytes _ cut)⟩ .refl
    · next fits =>
      have put : (write stream bytes).on (second.withRoom out err) =
          (.ok (), (second.withRoom out err).afterWrite stream bytes) := by
        rw [on_write, if_neg fits]
      have all := (write_ok put).1
      refine .together (.ok ()) ⟨?_, fun target => step.room_eq_none target (free target)⟩
      let left := ((second.withRoom out err).afterWrite stream bytes).console
      refine ⟨left.outRoom, left.errRoom, ?_⟩
      rw [afterWrite, afterWrite, whole]
      cases stream <;> simp only [left, afterWrite, all] <;> rfl

theorem simulation_unbounded : Simulation (Unbounded (W := W)) FailedWrite := by
  refine simulation_withRoom Unbounded.same ?_ related_write_unbounded
  intro second second' effect out err near step _
  have steps : Steps [effect] second second' := .single step (by simp)
  exact ⟨⟨out, err, rfl⟩, fun stream => steps.room_eq_none stream (near.free stream)⟩

/-- A run in which no write fails is the run on streams without a limit, but for the room that is left. -/
theorem run_unbounded (session : Session W) (unfailing : ¬WriteFails (run session)) :
    ∃ out err, run session = ((run (session.withRoom none none)).1,
      (run (session.withRoom none none)).2.withRoom out err) := by
  have near : Unbounded session (session.withRoom none none) :=
    ⟨⟨session.console.outRoom, session.console.errRoom, rfl⟩, fun stream => by cases stream <;> rfl⟩
  have meets := simulation_unbounded.meets_run near
  generalize run session = first at meets unfailing
  generalize run (session.withRoom none none) = second at meets
  cases meets with
  | together result near =>
    obtain ⟨out, err, rfl⟩ := near.same
    exact ⟨out, err, rfl⟩
  | parted fault _ failed _ =>
    obtain ⟨stream, fails⟩ := failed
    exact absurd ⟨stream, fault, rfl, fails⟩ unfailing

/-- Where the streams have no limit, no write fails. -/
theorem not_writeFails_of_room {session : Session W}
    (free : ∀ stream, session.console.room stream = none) : ¬WriteFails (run session) := by
  rintro ⟨stream, fault, -, fails⟩
  cases fails with
  | write _ full => cases ((steps_run session).room_eq_none stream (free stream)).symm.trans full

end

/-! ## The run without limits -/

/-- The session on streams that take so many bytes in all, those counted that are written already. -/
def capped (session : Session W) (limit : Stream → Nat) : Session W :=
  session.withRoom (some (limit .out - (session.written .out).length))
    (some (limit .err - (session.written .err).length))

/-- No more has been written to a stream than it takes in all. -/
def Under (session : Session W) (limit : Stream → Nat) : Prop :=
  ∀ stream, (session.written stream).length ≤ limit stream

/-- What fits on the stream of a capped session. -/
theorem fitting_capped (session : Session W) (limit : Stream → Nat) (stream : Stream) (bytes : Bytes) :
    (session.capped limit).console.fitting stream bytes =
      bytes.take (limit stream - (session.written stream).length) := by
  cases stream <;> rfl

/-- A write that fits leaves the limits as they are. -/
theorem afterWrite_capped {session : Session W} {limit : Stream → Nat} {stream : Stream}
    {bytes : Bytes} (free : session.console.room stream = none)
    (fits : (session.written stream).length + bytes.length ≤ limit stream) :
    (session.capped limit).afterWrite stream bytes =
      (session.afterWrite stream bytes).capped limit := by
  have whole : (session.capped limit).console.fitting stream bytes = bytes := by
    rw [fitting_capped]
    apply List.take_of_length_le
    omega
  have whole' : session.console.fitting stream bytes = bytes := fitting_of_room free bytes
  have written := written_afterWrite session stream
  conv_rhs => rw [capped, written, written]
  unfold afterWrite
  rw [whole, whole']
  cases stream with
  | out => simp [capped, withRoom, Console.spend, Nat.sub_sub]
  | err => simp [capped, withRoom, Console.spend, Nat.sub_sub]

section
variable [Host W] {start : Session W} {limit : Stream → Nat}

/-! ## The two runs side by side -/

/-- A session in the middle of a run without limits, which has written no more than the limits allow. -/
structure Free (start : Session W) (limit : Stream → Nat) (session : Session W) : Prop where
  room : ∀ stream, session.console.room stream = none
  under : session.Under limit
  reached : Steps Effect.all start session

/-- The first session is the second on streams with a limit, which took everything so far. -/
structure Follows (start : Session W) (limit : Stream → Nat) (first second : Session W) : Prop where
  same : first = second.capped limit
  free : Free start limit second

/-- The second session writes more than there is room for, so the first ends with the part that fits. -/
inductive CutOff (start : Session W) (limit : Stream → Nat) :
    SessionFault → Session W → Session W → Prop
  | overflow (between : Session W) (stream : Stream) (bytes : Bytes) :
      Free start limit between → limit stream < (between.written stream).length + bytes.length →
      CutOff start limit (.io .closed) ((between.capped limit).afterWrite stream bytes)
        (between.afterWrite stream bytes)

/-- Whatever both do alike, writes apart, keeps them alike. -/
theorem Free.step {second first' second' : Session W} {effect : Effect}
    (free : Free start limit second) (step : Step second effect second')
    (silent : ∀ stream, effect ≠ .write stream)
    (same : first' = second'.withRoom (second.capped limit).console.outRoom
      (second.capped limit).console.errRoom) :
    Follows start limit first' second' := by
  have steps : Steps [effect] second second' := .single step (by simp)
  have written : ∀ stream, second'.written stream = second.written stream := by
    intro stream
    apply steps.written_eq
    rw [List.mem_singleton]
    exact (silent stream).symm
  refine ⟨?_, ?_, ?_, ?_⟩
  · rw [same, capped, capped, written, written]
    rfl
  · intro stream
    exact steps.room_eq_none stream (free.room stream)
  · intro stream
    rw [written]
    exact free.under stream
  · exact free.reached.trans (.single step effect.mem_all)

/-- A write goes to both, or is cut off in the first. -/
theorem related_write_capped (stream : Stream) (bytes : Bytes) :
    Related (Follows start limit) (CutOff start limit) (write stream bytes) (write stream bytes) where
  steps := (within_write stream bytes).steps_all
  meets := by
    rintro _ second ⟨rfl, free⟩
    have room := free.room stream
    have under := free.under stream
    have step : Steps Effect.all second (second.afterWrite stream bytes) :=
      .single (.write stream bytes) (Effect.mem_all _)
    have whole : second.console.fitting stream bytes = bytes := fitting_of_room room bytes
    rw [on_write_of_room room, on_write, fitting_capped, List.length_take]
    by_cases fits : (second.written stream).length + bytes.length ≤ limit stream
    · rw [if_neg (by omega), afterWrite_capped room fits]
      refine .together (.ok ()) ⟨rfl, ?_, ?_, ?_⟩
      · intro target
        exact step.room_eq_none target (free.room target)
      · intro target
        rw [written_afterWrite, whole, List.length_append]
        split
        · next same => exact same ▸ fits
        · exact free.under target
      · exact free.reached.trans step
    · rw [if_pos (by omega)]
      exact .parted _ _ (.overflow second stream bytes free (by omega)) .refl

/-- Sessions on streams with a limit follow sessions without. -/
theorem simulation_capped : Simulation (Follows start limit) (CutOff start limit) := by
  refine simulation_withRoom ?_ ?_ related_write_capped
  · rintro _ second ⟨rfl, -⟩
    exact ⟨_, _, rfl⟩
  · intro second second' effect out err follows step silent
    have room : out = (second.capped limit).console.outRoom ∧
        err = (second.capped limit).console.errRoom :=
      ⟨congrArg (·.console.outRoom) follows.same, congrArg (·.console.errRoom) follows.same⟩
    exact follows.free.step step silent (by rw [room.1, room.2])

/-! ## Runs -/

/-- What the streams take in all: so much more than what has been written. -/
def limits (session : Session W) (out err : Nat) : Stream → Nat
  | .out => (session.written .out).length + out
  | .err => (session.written .err).length + err

/-- A run was cut off by a write: where the run without limits was then, and what it wrote. -/
structure CutAt (start : Session W) (limit : Stream → Nat) (free cut : Session W)
    (between : Session W) (stream : Stream) (bytes : Bytes) : Prop where
  /-- The run without limits comes to a session that writes these bytes, and goes on from there. -/
  before : Steps Effect.all start between
  behind : Steps Effect.all (between.afterWrite stream bytes) free
  /-- Everything before fits, and this write is the first that does not. -/
  under : between.Under limit
  exceeds : limit stream < (between.written stream).length + bytes.length
  /-- The streams get what was written before, and of this write the part that fits. -/
  written : cut.written stream = between.written stream ++
    bytes.take (limit stream - (between.written stream).length)
  other : ∀ target ≠ stream, cut.written target = between.written target
  /-- That part is the last that happens: nothing is read, started, entered or stored behind it, whatever
  the run without limits does there. -/
  trace : cut.trace =
    .wrote stream (bytes.take (limit stream - (between.written stream).length)) :: between.trace
  later : ∃ later, free.trace = later ++ .wrote stream bytes :: between.trace
  /-- The rest of the session is as it was before the write. -/
  input : cut.console.input = between.console.input
  world : cut.world = between.world
  directory : cut.directory = between.directory
  aliases : cut.aliases = between.aliases

/-- What a run on streams with a limit comes to, beside the run without limits. -/
structure Limited (start : Session W) (limit : Stream → Nat)
    (free cut : Except SessionFault Unit × Session W) : Prop where
  /-- Where everything fits, the runs agree in everything but the room that is left. -/
  agrees : free.2.Under limit → cut.1 = free.1 ∧ cut.2 = free.2.capped limit
  /-- Otherwise the run ends with a fault, at the first write that does not fit. -/
  ends : ¬free.2.Under limit → cut.1 = .error (.io .closed) ∧
    ∃ between stream bytes, CutAt start limit free.2 cut.2 between stream bytes

/-- At the start there is all the room. -/
theorem follows_limits (session : Session W) (out err : Nat) :
    Follows (session.withRoom none none) (session.limits out err)
      (session.withRoom (some out) (some err)) (session.withRoom none none) := by
  have left : ∀ used more : Nat, used + more - used = more := by omega
  refine ⟨?_, ?_, ?_, .refl⟩
  · show session.withRoom (some out) (some err) =
      session.withRoom (some ((session.written .out).length + out - (session.written .out).length))
        (some ((session.written .err).length + err - (session.written .err).length))
    rw [left, left]
  · intro stream
    cases stream <;> rfl
  · intro stream
    cases stream with
    | out => exact Nat.le_add_right _ out
    | err => exact Nat.le_add_right _ err

/-- What was written over the limit stays over it. -/
theorem not_under_of_overflow {between later : Session W} {stream : Stream} {bytes : Bytes}
    (free : Free start limit between)
    (exceeds : limit stream < (between.written stream).length + bytes.length)
    (steps : Steps Effect.all (between.afterWrite stream bytes) later) : ¬later.Under limit := by
  intro under
  have grows := (steps.written_prefix stream).length_le
  have bound := under stream
  have whole : between.console.fitting stream bytes = bytes :=
    fitting_of_room (free.room stream) bytes
  rw [written_afterWrite, if_pos rfl, whole, List.length_append] at grows
  omega

/-- **A stream that takes no more ends the run where it does.** On streams that take so many bytes each, a run
is the run without limits if that writes no more. Otherwise it ends with a fault at the first write that does
not fit, behind the part that does, and nothing happens after it. -/
theorem run_withRoom (session : Session W) (out err : Nat) :
    Limited (session.withRoom none none) (session.limits out err)
      (run (session.withRoom none none)) (run (session.withRoom (some out) (some err))) := by
  have meets := simulation_capped.meets_run (session.follows_limits out err)
  generalize run (session.withRoom (some out) (some err)) = cut at meets ⊢
  generalize run (session.withRoom none none) = free at meets ⊢
  cases meets with
  | together result follows =>
    constructor
    · intro _
      exact ⟨rfl, follows.same⟩
    · intro exceeds
      exact absurd follows.free.under exceeds
  | parted fault _ split goes =>
    cases split with
    | overflow between stream bytes before exceeds =>
      constructor
      · intro under
        exact absurd under (not_under_of_overflow before exceeds goes)
      · intro _
        have whole : between.console.fitting stream bytes = bytes :=
          fitting_of_room (before.room stream) bytes
        refine ⟨rfl, between, stream, bytes, before.reached, goes, before.under, exceeds, ?_, ?_, ?_, ?_,
          ?_, rfl, rfl, rfl⟩
        · rw [written_afterWrite, if_pos rfl, fitting_capped]
          rfl
        · intro target other
          rw [written_afterWrite, if_neg other.symm, List.append_nil]
          rfl
        · rw [afterWrite, fitting_capped]
          rfl
        · obtain ⟨later, trace, _⟩ := goes.trace
          rw [afterWrite, whole] at trace
          exact ⟨later, trace⟩
        · exact Console.input_spend ..

end

end Session

end LineShell
