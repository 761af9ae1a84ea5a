import LineShell.Session.Loop
import Mathlib.Logic.Relation

/-!
# Effects

An act of a session is made of a few elementary effects, and each of them is one step of the state. What a
session keeps is therefore said once for every step, and what an act may do is the list of its effects.

* `Effect`, `Session.Step`: the effects, and what each does to a session.
* `Effect.Fails`: how an effect puts a session at fault.
* `Act.Within`: the acts whose steps and faults come from a list of effects only.
* `Session.Steps.frame`: what no step of some effects changes, no act made of them changes.
-/

namespace LineShell

/-- The kinds of things that a session does. -/
inductive Effect where
  | write (stream : Stream)
  | log
  | read
  | remember
  | launch
  | enter
  | refresh
  | store
deriving DecidableEq, Repr

/-- All effects there are. -/
def Effect.all : List Effect :=
  [.write .out, .write .err, .log, .read, .remember, .launch, .enter, .refresh, .store]

theorem Effect.mem_all (effect : Effect) : effect ∈ all := by
  cases effect with
  | write stream => cases stream <;> decide
  | _ => decide

variable {W α β : Type}

/-- The piece of input that an event took. -/
def Event.piece? : Event → Option Bytes
  | took piece => some piece
  | _ => none

/-- The effect that an event is a trace of. -/
def Event.effect : Event → Effect
  | took _ | answered .. => .read
  | recorded _ => .remember
  | wrote stream _ => .write stream
  | logged _ => .log
  | launched .. | emitted .. => .launch
  | entered _ => .enter
  | stored .. => .store

theorem Event.console_eq_nil {event : Event} {stream : Stream}
    (other : event.effect ≠ .write stream) : event.console stream = [] := by
  cases event with
  | wrote target bytes =>
    have differs : target ≠ stream := fun eq => other (congrArg Effect.write eq)
    exact if_neg differs
  | _ => rfl

theorem Event.piece?_eq_none {event : Event} (other : event.effect ≠ .read) :
    event.piece? = none := by
  cases event with
  | took piece => exact absurd rfl other
  | _ => rfl

/-- Whether lines come from an editor. -/
def Input.edited : Input → Bool
  | reader _ => false
  | editor _ => true

theorem Input.edited_eq_true_iff {input : Input} :
    input.edited = true ↔ ∃ editor, input = .editor editor := by
  cases input with
  | reader reader => simp [edited]
  | editor editor => simp [edited]

theorem Input.edited_eq_false_iff {input : Input} :
    input.edited = false ↔ ∃ reader, input = .reader reader := by
  cases input with
  | reader reader => simp [edited]
  | editor editor => simp [edited]

theorem Input.edited_afterProgram (input : Input) (taken : Nat) :
    (input.afterProgram taken).edited = input.edited := by
  cases input <;> rfl

namespace Session

/-! ## What each effect does -/

/-- The session after an event that changes nothing else. -/
def afterEvent (session : Session W) (event : Event) : Session W :=
  { session with trace := event :: session.trace }

/-- The session after a write, of which only the fitting part reaches the stream. -/
def afterWrite (session : Session W) (stream : Stream) (bytes : Bytes) : Session W :=
  { session with
    console := session.console.spend stream (session.console.fitting stream bytes).length
    trace := .wrote stream (session.console.fitting stream bytes) :: session.trace }

/-- The session after a piece was taken off a reader. -/
def afterPiece (session : Session W) (reader : Reader) : Session W :=
  { session with
    console := { session.console with input := .reader reader.piece.2 }
    trace := .took reader.piece.1 :: session.trace }

/-- The session after an answer of an editor to a prompt. -/
def afterAnswer [Host W] (session : Session W) (editor : Editor) (prompt : String) : Session W :=
  { session with
    console := { session.console with input := .editor editor.afterRead }
    trace := .answered prompt (editor.answer session.world prompt) :: session.trace }

/-- The session after a line was handed to the history of an editor. -/
def afterRecorded (session : Session W) (editor : Editor) (line : String) : Session W :=
  { session with
    console := { session.console with input := .editor (editor.remember line) }
    trace := .recorded line :: session.trace }

/-- What comes of a program that the session starts. -/
def launched [Host W] (session : Session W) (program : String) (args : List String) : Launch W :=
  Host.launch session.world program args session.console.input.source

/-- The session after a program. -/
def afterLaunch [Host W] (session : Session W) (program : String) (args : List String) : Session W :=
  { session with
    world := (session.launched program args).world
    console := { session.console with
      input := session.console.input.afterProgram (session.launched program args).taken }
    trace := ((session.launched program args).output.map fun part =>
        Event.emitted part.1 part.2).reverse ++
      .launched program args
        (session.console.input.source.take (session.launched program args).taken) ::
      session.trace }

/-- The session in the world after a change of directory. -/
def afterEnter (session : Session W) (path : Bytes) (world : W) : Session W :=
  { session with world, trace := .entered path :: session.trace }

/-- The session with another text of the current directory. -/
def withDirectory (session : Session W) (text : String) : Session W :=
  { session with directory := text }

/-- The session after an alias was stored. -/
def afterStore (session : Session W) (name value : String) : Session W :=
  { session with
    aliases := session.aliases.put name value
    trace := .stored name value :: session.trace }

/-- What has been written to a stream. -/
def written (session : Session W) (stream : Stream) : Bytes :=
  Trace.bytes (Event.console stream) session.trace

/-- The pieces of input that have been taken, the oldest first. -/
def taken (session : Session W) : List Bytes :=
  session.trace.reverse.filterMap Event.piece?

theorem written_eq_of_trace {session after : Session W} (events : List Event)
    (h : after.trace = events ++ session.trace) (stream : Stream) :
    after.written stream =
      session.written stream ++ events.reverse.flatMap (Event.console stream) := by
  simp [written, Trace.bytes, h]

theorem taken_eq_of_trace {session after : Session W} (events : List Event)
    (h : after.trace = events ++ session.trace) :
    after.taken = session.taken ++ events.reverse.filterMap Event.piece? := by
  simp [taken, h]

/-- One step of a session by an effect. -/
inductive Step [Host W] (session : Session W) : Effect → Session W → Prop
  | write (stream : Stream) (bytes : Bytes) :
      Step session (.write stream) (session.afterWrite stream bytes)
  | log (record : Log.Record) : Step session .log (session.afterEvent (.logged record))
  | piece (reader : Reader) : session.console.input = .reader reader →
      Step session .read (session.afterPiece reader)
  | answer (editor : Editor) (prompt : String) : session.console.input = .editor editor →
      Step session .read (session.afterAnswer editor prompt)
  | remember (editor : Editor) (line : String) : session.console.input = .editor editor →
      Step session .remember (session.afterRecorded editor line)
  | launch (program : String) (args : List String) :
      Step session .launch (session.afterLaunch program args)
  | enter (path : Bytes) (world : W) : Host.enter session.world path = .ok world →
      Step session .enter (session.afterEnter path world)
  | refresh (text : String) : Directory.read session.world = .ok text →
      Step session .refresh (session.withDirectory text)
  | store (name value : String) : Step session .store (session.afterStore name value)

/-- Any number of steps by some effects. -/
def Steps [Host W] (effects : List Effect) : Session W → Session W → Prop :=
  Relation.ReflTransGen fun before after => ∃ effect ∈ effects, Step before effect after

section
variable [Host W] {effects : List Effect} {session between after : Session W}

theorem Steps.refl : Steps effects session session :=
  Relation.ReflTransGen.refl

theorem Steps.trans (first : Steps effects session between) (second : Steps effects between after) :
    Steps effects session after :=
  Relation.ReflTransGen.trans first second

theorem Steps.single {effect : Effect} (step : Step session effect after) (mem : effect ∈ effects) :
    Steps effects session after :=
  Relation.ReflTransGen.single ⟨effect, mem, step⟩

theorem Steps.mono {more : List Effect} (h : effects ⊆ more) (steps : Steps effects session after) :
    Steps more session after :=
  Relation.ReflTransGen.mono (fun _ _ ⟨effect, mem, step⟩ => ⟨effect, h mem, step⟩) _ _ steps

/-- What every step by the effects keeps true is true after any number of them. -/
theorem Steps.invariant {p : Session W → Prop}
    (keeps : ∀ {before next : Session W} {effect : Effect}, effect ∈ effects →
      Step before effect next → p before → p next)
    (steps : Steps effects session after) (start : p session) : p after := by
  induction steps with
  | refl => exact start
  | tail _ step ih =>
    obtain ⟨effect, mem, step⟩ := step
    exact keeps mem step ih

/-- What no step by the effects changes stays the same over any number of them. -/
theorem Steps.frame {f : Session W → β}
    (keeps : ∀ {before next : Session W} {effect : Effect}, effect ∈ effects →
      Step before effect next → f next = f before)
    (steps : Steps effects session after) : f after = f session :=
  steps.invariant (p := fun s => f s = f session)
    (fun mem step same => (keeps mem step).trans same) rfl

/-- A step adds events of its own effect to the trace. -/
theorem Step.trace {effect : Effect} (step : Step session effect after) :
    ∃ events, after.trace = events ++ session.trace ∧
      ∀ event ∈ events, event.effect = effect := by
  cases step with
  | launch program args =>
    refine ⟨_, List.append_cons .., fun event mem => ?_⟩
    rcases List.mem_append.mp mem with mem | mem
    · obtain ⟨part, _, rfl⟩ := List.mem_map.mp (List.mem_reverse.mp mem)
      rfl
    · rw [List.mem_singleton.mp mem]
      rfl
  | refresh => exact ⟨[], rfl, by simp⟩
  | _ => exact ⟨[_], rfl, fun event mem => by rw [List.mem_singleton.mp mem]; rfl⟩

/-- So do any number of steps. -/
theorem Steps.trace (steps : Steps effects session after) :
    ∃ events, after.trace = events ++ session.trace ∧
      ∀ event ∈ events, event.effect ∈ effects := by
  induction steps with
  | refl => exact ⟨[], rfl, by simp⟩
  | tail _ step ih =>
    obtain ⟨effect, mem, step⟩ := step
    obtain ⟨earlier, eq, kinds⟩ := ih
    obtain ⟨events, eq', kinds'⟩ := step.trace
    refine ⟨events ++ earlier, by rw [eq', eq, List.append_assoc], fun event there => ?_⟩
    rcases List.mem_append.mp there with there | there
    · rw [kinds' event there]
      exact mem
    · exact kinds event there

/-- Nothing that was written is taken back. -/
theorem Steps.written_prefix (steps : Steps effects session after) (stream : Stream) :
    session.written stream <+: after.written stream := by
  obtain ⟨events, eq, _⟩ := steps.trace
  rw [written_eq_of_trace events eq]
  exact List.prefix_append _ _

/-! ## What effects leave alone -/

theorem Steps.directory_eq (none : .refresh ∉ effects) (steps : Steps effects session after) :
    after.directory = session.directory := by
  refine steps.frame fun mem step => ?_
  cases step with
  | refresh => exact absurd mem none
  | _ => rfl

theorem Steps.console_eq (steps : Steps [.log] session after) : after.console = session.console := by
  refine steps.frame fun mem step => ?_
  cases List.mem_singleton.mp mem
  cases step
  rfl

/-- Only writes to a stream use up its room. -/
theorem Steps.room_eq {stream : Stream} (silent : .write stream ∉ effects)
    (steps : Steps effects session after) :
    after.console.room stream = session.console.room stream := by
  refine steps.frame (f := fun s => s.console.room stream) fun mem step => ?_
  cases step with
  | write target bytes =>
    have other : target ≠ stream := fun same => silent (same ▸ mem)
    cases stream <;> cases target <;> first | rfl | exact absurd rfl other
  | _ => rfl

/-- A stream without a limit stays without one. -/
theorem Steps.room_eq_none (steps : Steps effects session after) (stream : Stream)
    (room : session.console.room stream = none) : after.console.room stream = none := by
  refine steps.invariant (p := fun s => s.console.room stream = none) (fun mem step free => ?_) room
  cases step with
  | write target bytes =>
    cases stream <;> cases target <;>
      simp_all [afterWrite, Console.room, Console.spend]
  | _ => exact free

theorem Steps.aliases_eq (none : .store ∉ effects) (steps : Steps effects session after) :
    after.aliases = session.aliases := by
  refine steps.frame fun mem step => ?_
  cases step with
  | store => exact absurd mem none
  | _ => rfl

theorem Steps.world_eq (stays : .enter ∉ effects) (idle : .launch ∉ effects)
    (steps : Steps effects session after) : after.world = session.world := by
  refine steps.frame fun mem step => ?_
  cases step with
  | enter => exact absurd mem stays
  | launch => exact absurd mem idle
  | _ => rfl

theorem Steps.highlighters_eq (steps : Steps effects session after) :
    (after.outHighlighter, after.errHighlighter) =
      (session.outHighlighter, session.errHighlighter) := by
  refine steps.frame (f := fun s => (s.outHighlighter, s.errHighlighter)) fun mem step => ?_
  cases step <;> rfl

/-- Whether lines come from an editor never changes. -/
theorem Steps.edited_eq (steps : Steps effects session after) :
    after.console.input.edited = session.console.input.edited := by
  refine steps.frame (f := (·.console.input.edited)) fun mem step => ?_
  cases step with
  | write stream bytes => exact congrArg Input.edited (Console.input_spend ..)
  | piece reader here =>
    rw [here]
    rfl
  | answer editor prompt here =>
    rw [here]
    rfl
  | remember editor line here =>
    rw [here]
    rfl
  | launch program args => exact Input.edited_afterProgram ..
  | _ => rfl

/-- A session in front of a reader stays there. -/
theorem Steps.still_reader (steps : Steps effects session after)
    (here : ∃ reader, session.console.input = .reader reader) :
    ∃ reader, after.console.input = .reader reader := by
  rw [← Input.edited_eq_false_iff] at here ⊢
  exact steps.edited_eq.trans here

/-- So does a session on an editor. -/
theorem Steps.still_editor (steps : Steps effects session after)
    (here : ∃ editor, session.console.input = .editor editor) :
    ∃ editor, after.console.input = .editor editor := by
  rw [← Input.edited_eq_true_iff] at here ⊢
  exact steps.edited_eq.trans here

theorem Steps.written_eq {stream : Stream} (silent : .write stream ∉ effects)
    (steps : Steps effects session after) : after.written stream = session.written stream := by
  obtain ⟨events, eq, kinds⟩ := steps.trace
  rw [written_eq_of_trace events eq, List.append_right_eq_self, List.flatMap_eq_nil_iff]
  intro event mem
  have kind := kinds event (List.mem_reverse.mp mem)
  exact Event.console_eq_nil fun same => silent (same ▸ kind)

/-- What shows in the events of one effect only is the same without that effect. -/
theorem Steps.filterMap_eq {view : Event → Option β} {shown : Effect}
    (others : ∀ {event}, event.effect ≠ shown → view event = none) (absent : shown ∉ effects)
    (steps : Steps effects session after) :
    after.trace.reverse.filterMap view = session.trace.reverse.filterMap view := by
  obtain ⟨events, eq, kinds⟩ := steps.trace
  rw [eq, List.reverse_append, List.filterMap_append, List.append_right_eq_self,
    List.filterMap_eq_nil_iff]
  intro event mem
  have kind := kinds event (List.mem_reverse.mp mem)
  exact others fun same => absent (same ▸ kind)

theorem Steps.taken_eq (unread : .read ∉ effects) (steps : Steps effects session after) :
    after.taken = session.taken :=
  steps.filterMap_eq Event.piece?_eq_none unread

end

end Session

/-! ## Faults -/

/-- How an effect puts a session at fault: a stream took no more bytes, or the read that was made last gave
no line. Nothing else that a session does can end it. -/
inductive Effect.Fails : Effect → SessionFault → Session W → Prop
  | write {stream : Stream} {part : Bytes} {earlier : Trace} {after : Session W} :
      after.trace = .wrote stream part :: earlier → after.console.room stream = some 0 →
      Effect.Fails (.write stream) (.io .closed) after
  | piece {piece : Bytes} {earlier : Trace} {fault : SessionFault} {after : Session W} :
      after.trace = .took piece :: earlier → lineOfPiece piece = .error fault →
      Effect.Fails .read fault after
  | answer {prompt : String} {cause : EditorFault} {earlier : Trace} {after : Session W} :
      after.trace = .answered prompt (.error cause) :: earlier → cause ≠ .interrupted →
      Effect.Fails .read (.ofEditor cause) after

namespace Act

open Session

/-- From this session, the act takes steps by the effects only, and only they put it at fault. -/
structure WithinFrom [Host W] (effects : List Effect) (session : Session W) (act : Act W α) :
    Prop where
  steps : Steps effects session (act.on session).2
  fault : ∀ fault, (act.on session).1 = .error fault →
    ∃ effect ∈ effects, effect.Fails fault (act.on session).2

/-- The act takes steps by the effects only, and only they put it at fault. -/
def Within [Host W] (effects : List Effect) (act : Act W α) : Prop :=
  ∀ session, WithinFrom effects session act

section
variable [Host W] {effects more : List Effect} {act : Act W α} {session : Session W}

theorem WithinFrom.mono (h : effects ⊆ more) (within : WithinFrom effects session act) :
    WithinFrom more session act where
  steps := within.steps.mono h
  fault fault eq := by
    obtain ⟨effect, mem, fails⟩ := within.fault fault eq
    exact ⟨effect, h mem, fails⟩

/-- Where no effect of an act fails, the act gives something. -/
theorem WithinFrom.on_eq_ok (within : WithinFrom effects session act)
    (safe : ∀ effect ∈ effects, ∀ after fault, Steps effects session after →
      ¬effect.Fails fault after) :
    ∃ x after, act.on session = (.ok x, after) ∧ Steps effects session after := by
  obtain ⟨steps, fault⟩ := within
  cases eq : act.on session with
  | mk result after =>
    rw [eq] at steps fault
    cases result with
    | ok x => exact ⟨x, after, rfl, steps⟩
    | error cause =>
      obtain ⟨effect, mem, fails⟩ := fault cause rfl
      exact absurd fails (safe effect mem after cause steps)

theorem WithinFrom.bind {next : α → Act W β} (first : WithinFrom effects session act)
    (second : ∀ x after, act.on session = (.ok x, after) → WithinFrom effects after (next x)) :
    WithinFrom effects session (act >>= next) := by
  have steps := first.steps
  have fault := first.fault
  cases eq : act.on session with
  | mk result after =>
    rw [eq] at steps fault
    cases result with
    | error cause =>
      constructor
      · simpa [on_bind, eq] using steps
      · simpa [on_bind, eq] using fault
    | ok x =>
      have rest := second x after eq
      constructor
      · simpa [on_bind, eq] using steps.trans rest.steps
      · simpa [on_bind, eq] using rest.fault

theorem Within.mono (h : effects ⊆ more) (within : Within effects act) : Within more act := by
  intro session
  exact (within session).mono h

theorem Within.bind {next : α → Act W β} (first : Within effects act)
    (second : ∀ x, Within effects (next x)) : Within effects (act >>= next) := by
  intro session
  apply (first session).bind
  intro x after _
  exact second x after

theorem Within.pure (x : α) : Within effects (Pure.pure x : Act W α) := by
  intro session
  constructor
  · exact .refl
  · intro fault eq
    cases eq

theorem Within.get : Within effects (MonadState.get : Act W (Session W)) := by
  intro session
  constructor
  · exact .refl
  · intro fault eq
    cases eq

/-- Looking at the session is no step. -/
theorem WithinFrom.bind_get {next : Session W → Act W α}
    (rest : WithinFrom effects session (next session)) :
    WithinFrom effects session (MonadState.get >>= next) := by
  constructor
  · simpa [on_bind] using rest.steps
  · simpa [on_bind] using rest.fault

/-- An act that is one step and no fault. -/
theorem WithinFrom.of_step {effect : Effect} {x : α} {after : Session W}
    (on : act.on session = (.ok x, after)) (step : Step session effect after)
    (mem : effect ∈ effects) : WithinFrom effects session act where
  steps := on ▸ .single step mem
  fault fault eq := by simp [on] at eq

end

end Act

namespace Session

open Act

/-! ## Elementary acts -/

/-- What a value of two acts in sequence says about each of them. -/
theorem on_bind_eq_ok {act : Act W α} {next : α → Act W β} {session after : Session W} {y : β}
    (h : (act >>= next).on session = (.ok y, after)) :
    ∃ x between, act.on session = (.ok x, between) ∧ (next x).on between = (.ok y, after) := by
  rw [on_bind] at h
  split at h
  · next x between eq => exact ⟨x, between, eq, h⟩
  · cases h

theorem on_record (event : Event) (session : Session W) :
    (record event).on session = (.ok (), session.afterEvent event) := rfl

theorem on_debug (message : String) (session : Session W) :
    (debug message).on session =
      (.ok (), session.afterEvent (.logged { level := .debug, message })) := rfl

theorem on_write (stream : Stream) (bytes : Bytes) (session : Session W) :
    (write stream bytes).on session =
      (if (session.console.fitting stream bytes).length < bytes.length then .error (.io .closed)
        else .ok (), session.afterWrite stream bytes) := by
  simp only [write, on_bind, on_get, on_modify]
  split <;> rfl

/-- A write without a fault has written all its bytes. -/
theorem write_ok {stream : Stream} {bytes : Bytes} {session after : Session W}
    (h : (write stream bytes).on session = (.ok (), after)) :
    session.console.fitting stream bytes = bytes ∧ after = session.afterWrite stream bytes := by
  rw [on_write] at h
  split at h
  · cases h
  · next fits =>
    cases h
    refine ⟨?_, rfl⟩
    unfold Console.fitting at fits ⊢
    split
    · rfl
    · next n room =>
      simp only [room, List.length_take] at fits
      exact List.take_of_length_le (by omega)

/-- A stream without a limit takes every write. -/
theorem fitting_of_room {session : Session W} {stream : Stream}
    (room : session.console.room stream = none) (bytes : Bytes) :
    session.console.fitting stream bytes = bytes := by
  simp only [Console.fitting, room]

theorem on_write_of_room {session : Session W} {stream : Stream}
    (room : session.console.room stream = none) (bytes : Bytes) :
    (write stream bytes).on session = (.ok (), session.afterWrite stream bytes) := by
  rw [on_write, fitting_of_room room, if_neg (Nat.lt_irrefl _)]

/-- A write to a stream without a limit changes nothing but the trace. -/
theorem afterWrite_of_room {session : Session W} {stream : Stream}
    (room : session.console.room stream = none) (bytes : Bytes) :
    session.afterWrite stream bytes = session.afterEvent (.wrote stream bytes) := by
  unfold afterWrite
  rw [fitting_of_room room]
  cases stream with
  | out =>
    have none : session.console.outRoom = none := room
    simp only [Console.spend, none, Option.map_none, afterEvent]
    rw [← none]
  | err =>
    have none : session.console.errRoom = none := room
    simp only [Console.spend, none, Option.map_none, afterEvent]
    rw [← none]

/-- A stream that could not take all of a write takes nothing more. -/
theorem room_afterWrite (stream : Stream) (bytes : Bytes) (session : Session W)
    (cut : (session.console.fitting stream bytes).length < bytes.length) :
    (session.afterWrite stream bytes).console.room stream = some 0 := by
  cases stream with
  | out =>
    cases room : session.console.outRoom with
    | none => simp [Console.fitting, Console.room, room] at cut
    | some n => simp_all [afterWrite, Console.fitting, Console.room, Console.spend]; omega
  | err =>
    cases room : session.console.errRoom with
    | none => simp [Console.fitting, Console.room, room] at cut
    | some n => simp_all [afterWrite, Console.fitting, Console.room, Console.spend]; omega

section
variable [Host W]

theorem within_debug (message : String) : Within [.log] (debug message : Act W Unit) := by
  intro session
  exact .of_step rfl (.log _) (by simp)

theorem within_write (stream : Stream) (bytes : Bytes) :
    Within [.write stream] (write stream bytes : Act W Unit) := by
  intro session
  have on := on_write stream bytes session
  constructor
  · rw [on]
    exact .single (.write stream bytes) (by simp)
  · intro fault eq
    rw [on] at eq ⊢
    simp only at eq ⊢
    split at eq
    · next cut =>
      cases eq
      exact ⟨.write stream, by simp, .write rfl (room_afterWrite stream bytes session cut)⟩
    · cases eq

theorem within_print (stream : Stream) (text : String) :
    Within [.write stream] (print stream text : Act W Unit) :=
  within_write stream _

theorem within_printLine (stream : Stream) (text : String) :
    Within [.write stream] (printLine stream text : Act W Unit) :=
  within_print stream _

end

end Session

end LineShell
