import LineShell.Proofs.Script
import LineShell.Proofs.Session.Outcome
import LineShell.Proofs.Session.Simulation

/-!
# Input that is shared with programs

A session on a pipe takes its lines off the pipe byte by byte, so a program that it starts finds everything
behind the line that started it, and the session reads on where the program stopped.

* `Reader.piece_ofPipe`: a read takes one line off the pipe and holds nothing back.
* `Event.share`, `handed`: the input that went to reads and to programs.
* `Session.Started`: a program was started, and found what was left.
* `Session.Shares`: the account of the input of a session.
* `Session.run_onPipe`: every run keeps it.
-/

namespace LineShell

variable {W : Type}

/-! ## Reading byte by byte -/

/-- A reader that holds at most one byte holds none behind a piece. -/
theorem Reader.held_piece {reader : Reader} (one : reader.capacity = 1)
    (short : reader.held.length ≤ 1) : reader.piece.2.held = [] ∧ reader.piece.2.capacity = 1 := by
  fun_induction piece reader with
  | case1 reader mem =>
    refine ⟨?_, one⟩
    obtain ⟨b, held⟩ : ∃ b, reader.held = [b] := by
      rw [← List.length_eq_one_iff]
      have some := List.length_pos_of_mem mem
      omega
    show (cutLine reader.held).2 = []
    rw [held] at mem ⊢
    obtain rfl := List.mem_singleton.mp mem
    rfl
  | case2 reader => exact ⟨rfl, one⟩
  | case3 reader _ _ more ih =>
    apply ih one
    show (reader.source.take reader.capacity).length ≤ 1
    rw [one, List.length_take]
    omega

/-- A read takes the first line off a pipe, and the pipe has the rest. -/
theorem Reader.piece_ofPipe (content : Bytes) :
    (ofPipe content).piece = ((cutLine content).1, ofPipe (cutLine content).2) := by
  obtain ⟨first, rest⟩ := (ofPipe content).piece_eq_cutLine
  have one : (ofPipe content).capacity = 1 := rfl
  obtain ⟨held, capacity⟩ := held_piece one (Nat.zero_le 1)
  have unread : (ofPipe content).unread = content := rfl
  rw [unread] at first rest
  apply Prod.ext first
  generalize (ofPipe content).piece.2 = behind at rest held capacity
  cases behind
  simp only [Reader.unread] at rest held capacity
  subst held capacity
  rw [List.nil_append] at rest
  rw [rest]
  rfl

/-- The input that an event handed out, to a read or to a program. -/
def Event.share : Event → Bytes
  | took piece => piece
  | launched _ _ fed => fed
  | _ => []

/-- The input that was handed out, one share after another. -/
def handed (events : List Event) : Bytes :=
  events.flatMap Event.share

theorem handed_append (events more : List Event) :
    handed (events ++ more) = handed events ++ handed more := by
  exact List.flatMap_append

theorem Event.share_eq_nil {event : Event} (unread : event.effect ≠ .read)
    (idle : event.effect ≠ .launch) : event.share = [] := by
  cases event with
  | took => exact absurd rfl unread
  | launched => exact absurd rfl idle
  | _ => rfl

/-- A place in two lists one after the other lies in one of them. -/
theorem split_append {α : Type} {events more before after : List α} {event : α}
    (h : events ++ more = before ++ event :: after) :
    (∃ rest, events = before ++ event :: rest) ∨
      ∃ first, before = events ++ first ∧ more = first ++ event :: after := by
  rcases List.append_eq_append_iff.mp h with ⟨first, eq, eq'⟩ | ⟨rest, eq, eq'⟩
  · exact .inr ⟨first, eq, eq'⟩
  · cases rest with
    | nil => exact .inr ⟨[], by simpa using eq.symm, by simpa using eq'.symm⟩
    | cons other rest =>
      obtain ⟨rfl, _⟩ := List.cons.inj eq'
      exact .inl ⟨rest, eq⟩

namespace Session

open Act

/-- The session in front of a pipe. -/
def onPipe (session : Session W) (content : Bytes) : Session W :=
  session.withInput (.reader (.ofPipe content))

section
variable [Host W] {start session : Session W} {content left : Bytes} {events : List Event}

/-! ## The account -/

/-- Between the last read and now there were diagnostics only. -/
def JustRead (events : List Event) : Prop :=
  ∃ earlier piece noted, events = earlier ++ .took piece :: noted ∧
    ∀ event ∈ noted, event.effect = .log

/-- On the way of a session, behind these events, a program was started. The session that started it held
nothing back: the program found all that was left, and was fed as much of it as it took. -/
structure Started (start : Session W) (left : Bytes) (session : Session W) (events : List Event)
    (program : String) (args : List String) (fed : Bytes) (starter : Session W) : Prop where
  before : Steps Effect.all start starter
  trace : starter.trace = events.reverse ++ start.trace
  input : starter.console.input = .reader (.ofPipe left)
  fed : fed = left.take (starter.launched program args).taken
  behind : Steps Effect.all (starter.afterLaunch program args) session

/-- What has become of the content of a pipe since the start of a session. -/
structure Shares (start : Session W) (content : Bytes) (session : Session W) (events : List Event)
    (left : Bytes) : Prop where
  reached : Steps Effect.all start session
  trace : session.trace = events.reverse ++ start.trace
  /-- The session holds nothing back: what is left is in the pipe. -/
  input : session.console.input = .reader (.ofPipe left)
  /-- Every byte has been handed out once and in order, or is left. -/
  all : handed events ++ left = content
  /-- Each read took what was left then up to the next newline, or all of it. -/
  reads : ∀ before piece after, events = before ++ .took piece :: after →
    piece = (cutLine (content.drop (handed before).length)).1
  /-- Each program was started right behind a read, and found what was left then. -/
  launches : ∀ before program args fed after,
    events = before ++ .launched program args fed :: after → JustRead before ∧
      ∃ starter, Started start (content.drop (handed before).length) session before program args
        fed starter

/-- Before anything has happened all of the content is left. -/
theorem Shares.refl (piped : start.console.input = .reader (.ofPipe content)) :
    Shares start content start [] content where
  reached := .refl
  trace := rfl
  input := piped
  all := rfl
  reads := by
    intro before piece after split
    simp at split
  launches := by
    intro before program args fed after split
    simp at split

section
variable {next : Session W} {more : List Event} {left' : Bytes}

/-- What is left behind some shares and some more is what is left behind more of the first rest. -/
theorem Shares.drop_append (shares : Shares start content session events left)
    (first : List Event) :
    content.drop (handed (events ++ first)).length = left.drop (handed first).length := by
  rw [← shares.all, handed_append, List.length_append, List.drop_append, List.drop_of_length_le]
  · simp
  · omega

/-- What was started on the way to a session was started on the way behind it. -/
theorem Started.extend {program : String} {args : List String} {fed : Bytes} {starter : Session W}
    (started : Started start left session events program args fed starter)
    (steps : Steps Effect.all session next) :
    Started start left next events program args fed starter :=
  { started with behind := started.behind.trans steps }

/-- The account goes on with further events. -/
theorem Shares.extend (shares : Shares start content session events left)
    (steps : Steps Effect.all session next) (trace : next.trace = more.reverse ++ session.trace)
    (input : next.console.input = .reader (.ofPipe left')) (all : handed more ++ left' = left)
    (reads : ∀ before piece after, more = before ++ .took piece :: after →
      piece = (cutLine (left.drop (handed before).length)).1)
    (launches : ∀ before program args fed after,
      more = before ++ .launched program args fed :: after → JustRead (events ++ before) ∧
        ∃ starter, Started session (left.drop (handed before).length) next before program args fed
          starter) :
    Shares start content next (events ++ more) left' where
  reached := shares.reached.trans steps
  trace := by rw [trace, shares.trace, List.reverse_append, List.append_assoc]
  input := input
  all := by rw [handed_append, List.append_assoc, all, shares.all]
  reads := by
    intro before piece after split
    rcases split_append split with ⟨rest, eq⟩ | ⟨first, rfl, eq⟩
    · exact shares.reads before piece rest eq
    · rw [shares.drop_append]
      exact reads first piece after eq
  launches := by
    intro before program args fed after split
    rcases split_append split with ⟨rest, eq⟩ | ⟨first, rfl, eq⟩
    · obtain ⟨just, starter, started⟩ := shares.launches before program args fed rest eq
      exact ⟨just, starter, started.extend steps⟩
    · rw [shares.drop_append]
      obtain ⟨just, starter, started⟩ := launches first program args fed after eq
      refine ⟨just, starter, shares.reached.trans started.before, ?_, started.input, started.fed,
        started.behind⟩
      rw [started.trace, shares.trace, List.reverse_append, List.append_assoc]

/-! ## Steps -/

/-- A step that neither reads nor starts a program hands nothing out. -/
theorem Shares.quiet {effect : Effect} (shares : Shares start content session events left)
    (step : Step session effect next) (unread : effect ≠ .read) (idle : effect ≠ .launch) :
    ∃ more, Shares start content next (events ++ more) left ∧
      ∀ event ∈ more, event.effect = effect := by
  obtain ⟨new, trace, kinds⟩ := step.trace
  have none : ∀ event ∈ new.reverse, event.effect = effect := by
    intro event mem
    exact kinds event (List.mem_reverse.mp mem)
  have nothing : handed new.reverse = [] := by
    rw [handed, List.flatMap_eq_nil_iff]
    intro event mem
    rw [← none event mem] at unread idle
    exact Event.share_eq_nil unread idle
  refine ⟨new.reverse, ?_, none⟩
  apply shares.extend (.single step effect.mem_all)
  · rw [List.reverse_reverse, trace]
  · -- Of the other steps only an editor's history would touch the input, and there is no editor.
    rw [← shares.input]
    cases step with
    | piece => exact absurd rfl unread
    | answer => exact absurd rfl unread
    | remember editor line here => cases here.symm.trans shares.input
    | launch => exact absurd rfl idle
    | write => exact Console.input_spend ..
    | _ => rfl
  · rw [nothing, List.nil_append]
  · intro before piece after split
    have kind := none (.took piece) (by rw [split]; simp)
    exact absurd kind.symm unread
  · intro before program args fed after split
    have kind := none (.launched program args fed) (by rw [split]; simp)
    exact absurd kind.symm idle

/-- A read hands out one line. -/
theorem Shares.read (shares : Shares start content session events left)
    (step : Step session .read next) :
    Shares start content next (events ++ [.took (cutLine left).1]) (cutLine left).2 := by
  cases step with
  | answer editor _ here => cases here.symm.trans shares.input
  | piece reader here =>
    cases here.symm.trans shares.input
    apply shares.extend (.single (.piece _ here) (Effect.mem_all _))
    · rw [afterPiece, Reader.piece_ofPipe]
      rfl
    · rw [afterPiece, Reader.piece_ofPipe]
    · simp [handed, Event.share]
    · intro before piece after split
      cases before with
      | nil =>
        cases split
        rfl
      | cons event before => simp at split
    · intro before program args fed after split
      cases before with
      | nil => cases split
      | cons event before => simp at split

/-- A program that is started right behind a read finds all that is left, and takes what it takes. -/
theorem Shares.launch (shares : Shares start content session events left) (just : JustRead events)
    (program : String) (args : List String) :
    ∃ more left', Shares start content (session.afterLaunch program args) (events ++ more) left' := by
  have source : session.console.input.source = left := by
    rw [shares.input]
    rfl
  refine ⟨.launched program args (left.take (session.launched program args).taken) ::
      (session.launched program args).output.map fun part => Event.emitted part.1 part.2,
    left.drop (session.launched program args).taken, ?_⟩
  have handedOut : handed (.launched program args (left.take (session.launched program args).taken) ::
      (session.launched program args).output.map fun part => Event.emitted part.1 part.2) =
      left.take (session.launched program args).taken := by
    rw [handed, List.flatMap_cons, List.flatMap_map, List.flatMap_eq_nil_iff.mpr]
    · exact List.append_nil _
    · intro part _
      rfl
  -- Behind the start of the program there is its output only.
  have output : ∀ event ∈ (session.launched program args).output.map
      fun part => Event.emitted part.1 part.2, ∃ stream bytes, event = .emitted stream bytes := by
    intro event mem
    obtain ⟨part, _, rfl⟩ := List.mem_map.mp mem
    exact ⟨part.1, part.2, rfl⟩
  apply shares.extend (.single (.launch program args) (Effect.mem_all _))
  · rw [afterLaunch, source]
    simp
  · rw [afterLaunch, shares.input]
    rfl
  · rw [handedOut]
    exact List.take_append_drop ..
  · intro before piece after split
    rcases List.cons_eq_append_iff.mp split with ⟨_, eq⟩ | ⟨rest, _, eq⟩
    · cases eq
    · obtain ⟨stream, bytes, same⟩ := output (.took piece) (by rw [eq]; simp)
      cases same
  · intro before other args' fed after split
    rcases List.cons_eq_append_iff.mp split with ⟨rfl, eq⟩ | ⟨rest, _, eq⟩
    · cases eq
      rw [List.append_nil]
      exact ⟨just, session, .refl, rfl, shares.input, rfl, .refl⟩
    · obtain ⟨stream, bytes, same⟩ := output (.launched other args' fed) (by rw [eq]; simp)
      cases same

/-- Steps that start no program may read, and what they read is in the account. -/
theorem Shares.steps {effects : List Effect} (shares : Shares start content session events left)
    (idle : .launch ∉ effects) (steps : Steps effects session next) :
    ∃ more left', Shares start content next (events ++ more) left' ∧
      ∀ event ∈ more, event.effect ∈ effects := by
  induction steps with
  | refl => exact ⟨[], left, by rwa [List.append_nil], by simp⟩
  | tail _ step ih =>
    obtain ⟨effect, mem, step⟩ := step
    obtain ⟨more, between, earlier, kinds⟩ := ih
    by_cases read : effect = .read
    · subst read
      refine ⟨more ++ [.took (cutLine between).1], (cutLine between).2, ?_, ?_⟩
      · rw [← List.append_assoc]
        exact earlier.read step
      · intro event there
        rcases List.mem_append.mp there with there | there
        · exact kinds event there
        · rw [List.mem_singleton.mp there]
          exact mem
    · have other : effect ≠ .launch := by
        rintro rfl
        exact idle mem
      obtain ⟨last, later, kind⟩ := earlier.quiet step read other
      refine ⟨more ++ last, between, ?_, ?_⟩
      · rw [← List.append_assoc]
        exact later
      · intro event there
        rcases List.mem_append.mp there with there | there
        · exact kinds event there
        · rw [kind event there]
          exact mem

/-! ## Lines -/

/-- Diagnostics do not come between a read and a program. -/
theorem JustRead.noted (just : JustRead events)
    (logs : ∀ event ∈ more, event.effect ∈ [Effect.log]) : JustRead (events ++ more) := by
  obtain ⟨earlier, piece, noted, rfl, before⟩ := just
  refine ⟨earlier, piece, noted ++ more, by simp, ?_⟩
  intro event mem
  rcases List.mem_append.mp mem with mem | mem
  · exact before event mem
  · exact List.mem_singleton.mp (logs event mem)

/-- A builtin command starts no program. -/
theorem launch_notMem_footprint {name : String} {builtin : Builtin}
    (named : Builtin.lookup? name = some builtin) (args : List String) :
    .launch ∉ footprint (name :: args) := by
  cases builtin with
  | aliases =>
    simp only [footprint, named]
    split <;> decide
  | _ =>
    simp only [footprint, named]
    decide

/-- A line that was just read is carried out. -/
theorem Shares.executeLine (shares : Shares start content session events left)
    (just : JustRead events) (line : String) :
    ∃ more left', Shares start content ((Session.executeLine line).on session).2
      (events ++ more) left' := by
  cases tokens : Token.tokens line with
  | nil =>
    rw [executeLine_of_nil tokens]
    exact ⟨[], left, by rwa [List.append_nil]⟩
  | cons name args =>
    cases named : Builtin.lookup? name with
    | some builtin =>
      have steps := (within_executeLine line session).steps
      rw [tokens] at steps
      obtain ⟨more, left', later, _⟩ := shares.steps (launch_notMem_footprint named args) steps
      exact ⟨more, left', later⟩
    | none =>
      -- Diagnostics, the program, and what is left to do behind it.
      obtain ⟨begun, logged, rest⟩ := executeLine_launched tokens named session
      obtain ⟨noted, fed, asked, logs⟩ := shares.steps (by simp) logged
      obtain ⟨output, behind, ran⟩ := asked.launch (just.noted logs) name args
      obtain ⟨last, left', ended, _⟩ := ran.steps (by simp) rest
      exact ⟨noted ++ output ++ last, left', by simpa only [List.append_assoc] using ended⟩

/-! ## Turns and runs -/

/-- A prompt is no share, and the line behind it is one. -/
theorem Shares.readLine (shares : Shares start content session events left) (prompt : String) :
    ∃ more left', Shares start content ((Session.readLine prompt).on session).2
      (events ++ more) left' ∧
        ∀ line, ((Session.readLine prompt).on session).1 = .ok line →
          JustRead (events ++ more) := by
  obtain ⟨prompted, asked, _⟩ :=
    shares.quiet (.write .out (Utf8.encode prompt)) (by simp) (by simp)
  -- Where the prompt does not fit nothing is read, and the turn ends.
  by_cases fits : session.Fits prompt
  · rw [on_readLine_of_fits shares.input fits]
    refine ⟨prompted ++ [.took (cutLine left).1], (cutLine left).2, ?_, ?_⟩
    · rw [← List.append_assoc]
      exact asked.read (.piece _ asked.input)
    · intro line _
      exact ⟨events ++ prompted, (cutLine left).1, [], by simp, by simp⟩
  · rw [on_readLine_of_not_fits shares.input fits]
    refine ⟨prompted, left, asked, ?_⟩
    intro line eq
    cases eq

theorem Shares.turn (shares : Shares start content session events left) :
    ∃ more left', Shares start content (Session.turn.on session).2 (events ++ more) left' := by
  obtain ⟨read, behind, asked, just⟩ := shares.readLine session.prompt
  have ended := turn_cases session
  generalize Session.turn.on session = outcome at ended ⊢
  obtain ⟨result, last⟩ := outcome
  cases ended with
  | unread fault between on =>
    rw [on] at asked
    exact ⟨read, behind, asked⟩
  | blank line between on blank =>
    rw [on] at asked
    exact ⟨read, behind, asked⟩
  | failed line between fault after on some executed =>
    rw [on] at asked just
    obtain ⟨more, left', later⟩ := asked.executeLine (just line rfl) line
    rw [executed, List.append_assoc] at later
    exact ⟨read ++ more, left', later⟩
  | left line between after on some executed =>
    rw [on] at asked just
    obtain ⟨more, left', later⟩ := asked.executeLine (just line rfl) line
    rw [executed] at later
    have exits : Step after .log (after.afterEvent leaving) := .log _
    obtain ⟨logged, gone, _⟩ := later.quiet exits (by simp) (by simp)
    refine ⟨read ++ more ++ logged, left', ?_⟩
    rw [← List.append_assoc, ← List.append_assoc]
    exact gone
  | done line between status after on some executed going =>
    rw [on] at asked just
    obtain ⟨more, left', later⟩ := asked.executeLine (just line rfl) line
    rw [executed, List.append_assoc] at later
    exact ⟨read ++ more, left', later⟩

theorem Shares.run (shares : Shares start content session events left) :
    ∃ more left', Shares start content (Session.run session).2 (events ++ more) left' := by
  fun_induction Session.run session generalizing events left with
  | case1 session fault after turned =>
    have last := shares.turn
    rwa [turned] at last
  | case2 session after turned =>
    have last := shares.turn
    rwa [turned] at last
  | case3 session after turned ih =>
    obtain ⟨first, behind, next⟩ := shares.turn
    rw [turned] at next
    obtain ⟨more, left', later⟩ := ih next
    exact ⟨first ++ more, left', by rwa [List.append_assoc] at later⟩

/-- **Input that is shared with programs is handed out once and in order.** Whatever is in the pipe, whatever
state the session starts in and however much each program takes, a read takes the next line and a program
finds all that is behind the line that started it. -/
theorem run_onPipe (session : Session W) (content : Bytes) :
    ∃ events left, Shares (session.onPipe content) content
      (Session.run (session.onPipe content)).2 events left := by
  have begun : Shares (session.onPipe content) content (session.onPipe content) [] content :=
    .refl rfl
  obtain ⟨more, left, shares⟩ := begun.run
  exact ⟨more, left, shares⟩

end

end

end Session

end LineShell
