import LineShell.Proofs.Script
import LineShell.Proofs.Session.DirectoryCache
import LineShell.Proofs.Session.Outcome
import LineShell.Proofs.Session.Read
import LineShell.Proofs.Session.Turns

/-!
# Sessions on a script

A session whose input is a script does what the interpretation of the pieces says, whatever the host and the
programs do.

* `Session.Scripted`: the session reads a script of which these pieces are left.
* `Session.Interprets`: what an act read is what the interpretation reads.
* `Session.interprets_turn`, `interpret_run`: one turn, and all of them.
* `Session.run_script`: the whole of a run.
-/

namespace LineShell

variable {W α : Type}

/-- Nothing that a program reads is taken off the input. -/
def TakesNothing (W : Type) [Host W] : Prop :=
  ∀ (world : W) program args input, (Host.launch world program args input).taken = 0

theorem Reader.source_piece {reader : Reader} (h : reader.source = []) :
    reader.piece.2.source = [] := by
  rw [piece]
  split
  · exact h
  · exact h

/-- A program that takes nothing, or finds nothing, leaves the input as it is. -/
theorem Reader.afterProgram_eq_self {reader : Reader} {taken : Nat}
    (untouched : reader.source = [] ∨ taken = 0) : reader.afterProgram taken = reader := by
  cases reader
  rcases untouched with empty | none
  · simp_all [afterProgram]
  · simp [afterProgram, none]

namespace Session

open Act

section
variable [Host W]

/-! ## Scripts that nothing else reads -/

/-- The session reads a script of which these pieces are left, no program touches it, and the streams take
everything. -/
structure Scripted (session : Session W) (left : List Bytes) : Prop where
  input : ∃ reader, session.console.input = .reader reader ∧ pieces reader.unread = left ∧
    (reader.source = [] ∨ TakesNothing W)
  out : session.console.outRoom = none
  err : session.console.errRoom = none

/-- Nothing but a read moves the script. -/
theorem Scripted.of_steps {session after : Session W} {left : List Bytes} {effects : List Effect}
    (scripted : Scripted session left) (unread : .read ∉ effects)
    (steps : Steps effects session after) : Scripted after left where
  input := by
    refine steps.invariant (p := fun s => ∃ reader, s.console.input = .reader reader ∧
      pieces reader.unread = left ∧ (reader.source = [] ∨ TakesNothing W)) ?_ scripted.input
    rintro before next effect mem step ⟨reader, here, left, untouched⟩
    cases step with
    | write stream bytes => exact ⟨reader, (Console.input_spend ..).trans here, left, untouched⟩
    | piece => exact absurd mem unread
    | answer => exact absurd mem unread
    | remember editor line there => cases here.symm.trans there
    | launch program args =>
      have same : reader.afterProgram (before.launched program args).taken = reader :=
        Reader.afterProgram_eq_self (untouched.imp_right fun idle => idle before.world program args _)
      refine ⟨reader, ?_, left, untouched⟩
      simp only [afterLaunch, here, Input.afterProgram, same]
    | _ => exact ⟨reader, here, left, untouched⟩
  out := steps.room_eq_none .out scripted.out
  err := steps.room_eq_none .err scripted.err

/-- An act that does not read cannot fail. -/
theorem Scripted.on_of_unread {session : Session W} {left : List Bytes} {effects : List Effect}
    {act : Act W α} (scripted : Scripted session left) (unread : .read ∉ effects)
    (within : WithinFrom effects session act) :
    ∃ x after, act.on session = (.ok x, after) ∧ Steps effects session after := by
  refine within.on_eq_ok fun effect mem after fault steps fails => ?_
  have free := scripted.of_steps unread steps
  cases fails with
  | @write stream _ _ _ _ cut =>
    cases stream with
    | out => cases free.out.symm.trans cut
    | err => cases free.err.symm.trans cut
  | piece => exact unread mem
  | answer => exact unread mem

/-! ## One read -/

/-- The session after it has read some of the pieces that were left. -/
structure Reads (session : Session W) (after : Session W) (took : List Bytes) (rest : List Bytes) :
    Prop where
  scripted : Scripted after rest
  taken : after.taken = session.taken ++ took

theorem Reads.trans {session between after : Session W} {took more rest rest' : List Bytes}
    (first : Reads session between took rest) (second : Reads between after more rest') :
    Reads session after (took ++ more) rest' where
  scripted := second.scripted
  taken := by rw [second.taken, first.taken, List.append_assoc]

theorem Scripted.reads_of_steps {session after : Session W} {left : List Bytes}
    {effects : List Effect} (scripted : Scripted session left) (unread : .read ∉ effects)
    (steps : Steps effects session after) : Reads session after [] left where
  scripted := scripted.of_steps unread steps
  taken := by rw [steps.taken_eq unread, List.append_nil]

theorem Scripted.reads_afterRead {session : Session W} {left : List Bytes} {reader : Reader}
    (scripted : Scripted session left) (here : session.console.input = .reader reader)
    (prompt : String) :
    reader.piece.1 = left.headD [] ∧
      Reads session (session.afterRead prompt reader) [left.headD []] left.tail := by
  obtain ⟨reader', here', pieces, untouched⟩ := scripted.input
  cases here.symm.trans here'
  obtain ⟨first, rest⟩ := reader.pieces_unread_piece
  rw [pieces] at first rest
  refine ⟨first, ⟨⟨reader.piece.2, rfl, rest, ?_⟩, ?_, ?_⟩, ?_⟩
  · rcases untouched with empty | idle
    · exact .inl (Reader.source_piece empty)
    · exact .inr idle
  · simp [afterRead, afterPiece, afterWrite, Console.spend, scripted.out]
  · simp [afterRead, afterPiece, afterWrite, Console.spend, scripted.err]
  · rw [← first]
    exact taken_afterRead session prompt reader

theorem Scripted.on_readEntry {session : Session W} {left : List Bytes}
    (scripted : Scripted session left) (prompt : String) :
    ∃ after, (readEntry prompt).on session = ((lineOfPiece (left.headD [])).map some, after) ∧
      Reads session after [left.headD []] left.tail := by
  obtain ⟨reader, here, _⟩ := scripted.input
  obtain ⟨first, reads⟩ := scripted.reads_afterRead here prompt
  refine ⟨_, ?_, reads⟩
  rw [on_readEntry_of_fits here (fits_of_room scripted.out prompt), first]

theorem Scripted.on_readLine {session : Session W} {left : List Bytes}
    (scripted : Scripted session left) (prompt : String) :
    ∃ after, (readLine prompt).on session = (lineOfPiece (left.headD []), after) ∧
      Reads session after [left.headD []] left.tail := by
  obtain ⟨reader, here, _⟩ := scripted.input
  obtain ⟨first, reads⟩ := scripted.reads_afterRead here prompt
  refine ⟨_, ?_, reads⟩
  rw [on_readLine_of_fits here (fits_of_room scripted.out prompt), first]

/-! ## One line -/

/-- What was read for `asking` and after it is what the interpretation reads, up to a fault, to the end of the
session, or to the next command line. -/
def Interprets (asking : Asking) (left : List Bytes) (reads : List (Asking × Bytes))
    (rest : List Bytes) : Except SessionFault Bool → Prop
  | .error fault => interpret asking left = ⟨reads, .error fault, rest⟩
  | .ok true => interpret asking left = ⟨reads, .ok (), rest⟩
  | .ok false => interpret asking left = (interpret .command rest).behind reads

theorem Interprets.behind {asking next : Asking} {left more rest : List Bytes}
    {first reads : List (Asking × Bytes)} {result : Except SessionFault Bool}
    (eq : interpret asking left = (interpret next more).behind first)
    (h : Interprets next more reads rest result) :
    Interprets asking left (first ++ reads) rest result := by
  cases result with
  | error fault => exact eq.trans (congrArg (·.behind first) h)
  | ok ended =>
    cases ended with
    | true => exact eq.trans (congrArg (·.behind first) h)
    | false =>
      refine eq.trans ((congrArg (·.behind first) h).trans ?_)
      exact Reading.behind_behind ..

/-- Where the session does not go on, the interpretation has ended. -/
theorem Interprets.of_last {asking : Asking} {left rest : List Bytes}
    {reads : List (Asking × Bytes)} {result : Except SessionFault Bool}
    (h : Interprets asking left reads rest result) (last : result ≠ .ok false) :
    interpret asking left = ⟨reads, result.map fun _ => (), rest⟩ := by
  match result with
  | .error fault => exact h
  | .ok true => exact h
  | .ok false => exact absurd rfl last

/-- Whether a status ends the session. -/
def ends : Except SessionFault Status → Except SessionFault Bool
  | .error fault => .error fault
  | .ok status => .ok (status == .exit)

/-- The status of a line that does not read. -/
theorem Scripted.on_executeLine_other {session : Session W} {left : List Bytes} {line : String}
    (scripted : Scripted session left) (other : Token.tokens line ≠ [Builtin.aliases.name]) :
    ∃ status after, (executeLine line).on session = (.ok status, after) ∧
      Reads session after [] left ∧
      (status == .exit) = decide ((Token.tokens line).head? = some Builtin.exit.name) := by
  have unread : .read ∉ footprint (Token.tokens line) :=
    fun mem => other (eq_alias_of_read_mem mem)
  obtain ⟨status, after, on, steps⟩ :=
    scripted.on_of_unread unread (within_executeLine line session)
  refine ⟨status, after, on, scripted.reads_of_steps unread steps, ?_⟩
  rw [status_executeLine on]
  by_cases leaves : (Token.tokens line).head? = some Builtin.exit.name
  · -- Leaving is not wrong.
    obtain ⟨args, tokens⟩ := List.head?_eq_some_iff.mp leaves
    have right : session.fault? (Token.tokens line) = none := by
      rw [tokens]
      simp only [fault?, Builtin.lookup?_name]
    simp [right, leaves]
  · simp only [if_neg leaves, decide_eq_false leaves]
    split <;> rfl

/-- The two questions of `alias` take two pieces. -/
theorem Scripted.on_askAlias {session : Session W} {left : List Bytes}
    (scripted : Scripted session left) :
    ∃ result after reads rest, askAlias.on session = (result, after) ∧
      Reads session after (reads.map Prod.snd) rest ∧
      reads.map Prod.fst <+: [.aliasName, .aliasValue] ∧
      Interprets .aliasName left reads rest (result.map fun _ => false) := by
  obtain ⟨named, onName, name⟩ := scripted.on_readEntry "alias name: "
  rw [askAlias, on_bind, onName]
  cases nameLine : lineOfPiece (left.headD []) with
  | error fault =>
    exact ⟨_, named, [(.aliasName, left.headD [])], _, rfl, name, by simp,
      interpret_of_fault nameLine⟩
  | ok nameText =>
    have asksValue : interpret .aliasName left = _ := interpret_of_line nameLine
    obtain ⟨valued, onValue, value⟩ := name.scripted.on_readEntry "alias value: "
    simp only [Except.map]
    rw [on_bind, onValue]
    cases valueLine : lineOfPiece (left.tail.headD []) with
    | error fault =>
      exact ⟨_, valued, [(.aliasName, left.headD []), (.aliasValue, left.tail.headD [])], _, rfl,
        name.trans value, by simp, .behind asksValue (interpret_of_fault valueLine)⟩
    | ok valueText =>
      have asksCommand : interpret .aliasValue left.tail = _ := interpret_of_line valueLine
      exact ⟨_, valued, [(.aliasName, left.headD []), (.aliasValue, left.tail.headD [])], _, rfl,
        name.trans value, by simp, .behind asksValue asksCommand⟩

/-- `alias` reads a name and a value, and nothing else in it can fail. -/
theorem Scripted.on_executeLine_alias {session : Session W} {left : List Bytes} {line : String}
    (scripted : Scripted session left) (tokens : Token.tokens line = [Builtin.aliases.name]) :
    ∃ result after reads rest, (executeLine line).on session = (result, after) ∧
      Reads session after (reads.map Prod.snd) rest ∧
      reads.map Prod.fst <+: [.aliasName, .aliasValue] ∧
      Interprets .aliasName left reads rest (ends result) := by
  obtain ⟨begun, logged, on⟩ := executeLine_builtin tokens (Builtin.lookup?_name .aliases) session
  have begins := scripted.reads_of_steps (by simp) logged
  obtain ⟨answer, asked, reads, rest, onAsk, took, tags, interprets⟩ := begins.scripted.on_askAlias
  have manage : runBuiltin .aliases [Builtin.aliases.name] =
      (askAlias >>= finishAlias : Act W Status) := rfl
  rw [on, manage, on_bind, onAsk]
  cases answer with
  | error fault => exact ⟨_, asked, reads, rest, rfl, begins.trans took, tags, interprets⟩
  | ok answer =>
    obtain ⟨status, after, onFinish, steps⟩ :=
      took.scripted.on_of_unread (by simp) (within_finishAlias answer asked)
    have success : status = .success := returns_finishAlias answer asked status after onFinish
    subst success
    have finished := (begins.trans took).trans (took.scripted.reads_of_steps (by simp) steps)
    rw [List.append_nil] at finished
    exact ⟨_, after, reads, rest, onFinish, finished, tags, interprets⟩

/-- A command line that is not blank. -/
theorem Scripted.on_executeLine {session : Session W} {left : List Bytes} {line : String}
    (scripted : Scripted session left.tail) (read : lineOfPiece (left.headD []) = .ok line)
    (some : Text.allBlank line = false) :
    ∃ result after reads rest, (executeLine line).on session = (result, after) ∧
      Reads session after (reads.map Prod.snd) rest ∧
      reads.map Prod.fst <+: [.aliasName, .aliasValue] ∧
      Interprets .command left ((.command, left.headD []) :: reads) rest (ends result) := by
  have next : interpret .command left = _ := interpret_of_line read
  simp only [Asking.next?, some, Bool.false_eq_true, if_false] at next
  by_cases asks : Token.tokens line = [Builtin.aliases.name]
  · obtain ⟨result, after, reads, rest, on, took, tags, interprets⟩ :=
      scripted.on_executeLine_alias asks
    have stays : (Token.tokens line).head? ≠ Option.some Builtin.exit.name := by
      rw [asks]
      decide
    rw [if_neg stays, if_pos asks] at next
    exact ⟨result, after, reads, rest, on, took, tags, .behind next interprets⟩
  · obtain ⟨status, after, on, took, leaves⟩ := scripted.on_executeLine_other asks
    refine ⟨.ok status, after, [], left.tail, on, took, by simp, ?_⟩
    by_cases exit : (Token.tokens line).head? = Option.some Builtin.exit.name
    · rw [if_pos exit] at next
      rw [ends, leaves, decide_eq_true exit]
      exact next
    · rw [if_neg exit, if_neg asks] at next
      rw [ends, leaves, decide_eq_false exit]
      exact next

/-! ## Turns -/

/-- One turn reads a command line, and behind `alias` a name and a value. -/
theorem Scripted.on_turn {session : Session W} {left : List Bytes}
    (scripted : Scripted session left) :
    ∃ reads rest, reads ≠ [] ∧ Reads session (turn.on session).2 (reads.map Prod.snd) rest ∧
      reads.map Prod.fst <+: [.command, .aliasName, .aliasValue] ∧
      Interprets .command left reads rest (turn.on session).1 := by
  obtain ⟨asked, onRead, took⟩ := scripted.on_readLine session.prompt
  have carried : ∀ {line between}, (readLine session.prompt).on session = (.ok line, between) →
      Text.allBlank line = false → ∃ result after reads rest,
        (executeLine line).on between = (result, after) ∧ reads ≠ [] ∧
        Reads session after (reads.map Prod.snd) rest ∧
        reads.map Prod.fst <+: [.command, .aliasName, .aliasValue] ∧
        Interprets .command left reads rest (ends result) := by
    intro line between read some
    obtain ⟨text, rfl⟩ := Prod.mk.inj (onRead.symm.trans read)
    obtain ⟨result, after, reads, rest, on, took', tags, interprets⟩ :=
      took.scripted.on_executeLine text some
    exact ⟨result, after, (.command, left.headD []) :: reads, rest, on, by simp, took.trans took',
      List.cons_prefix_cons.mpr ⟨rfl, tags⟩, interprets⟩
  have ended := turn_cases session
  generalize turn.on session = outcome at ended ⊢
  obtain ⟨result, last⟩ := outcome
  cases ended with
  | unread fault between read =>
    obtain ⟨text, rfl⟩ := Prod.mk.inj (onRead.symm.trans read)
    exact ⟨[(.command, left.headD [])], _, by simp, took, by simp, interpret_of_fault text⟩
  | blank line between read blank =>
    obtain ⟨text, rfl⟩ := Prod.mk.inj (onRead.symm.trans read)
    have next : interpret .command left = _ := interpret_of_line text
    simp only [Asking.next?, blank, if_true] at next
    exact ⟨[(.command, left.headD [])], _, by simp, took, by simp, next⟩
  | failed line between fault after read some executed =>
    obtain ⟨_, _, reads, rest, on, full, took, tags, interprets⟩ := carried read some
    cases executed.symm.trans on
    exact ⟨reads, rest, full, took, tags, interprets⟩
  | left line between after read some executed =>
    obtain ⟨_, _, reads, rest, on, full, took, tags, interprets⟩ := carried read some
    cases executed.symm.trans on
    have logged : Steps [.log] after (after.afterEvent leaving) := .single (.log _) (by simp)
    have noted := took.trans (took.scripted.reads_of_steps (by simp) logged)
    rw [List.append_nil] at noted
    exact ⟨reads, rest, full, noted, tags, interprets⟩
  | done line between status after read some executed going =>
    obtain ⟨_, _, reads, rest, on, full, took, tags, interprets⟩ := carried read some
    cases executed.symm.trans on
    rw [ends, beq_false_of_ne going] at interprets
    exact ⟨reads, rest, full, took, tags, interprets⟩

/-! ## Runs -/

omit [Host W] in
/-- Reads are told apart by their order. -/
theorem zip_tags {tags : List Asking} {reads : List (Asking × Bytes)}
    (h : reads.map Prod.fst <+: tags) : tags.zip (reads.map Prod.snd) = reads := by
  induction reads generalizing tags with
  | nil => simp
  | cons read reads ih =>
    cases tags with
    | nil => simp at h
    | cons tag tags =>
      obtain ⟨rfl, later⟩ := List.cons_prefix_cons.mp h
      rw [List.map_cons, List.zip_cons_cons, ih later]

/-- The pieces that were read in a turn. -/
def Turn.pieces (turn : Turn W) : List Bytes :=
  turn.finish.taken.drop turn.start.taken.length

/-- What each of them was read for: the first at the prompt, the others by the command. -/
def Turn.reads (turn : Turn W) : List (Asking × Bytes) :=
  [.command, .aliasName, .aliasValue].zip turn.pieces

/-- What the command of a turn wrote to the output stream. -/
def Turn.output (turn : Turn W) : Bytes :=
  (turn.finish.written .out).drop (turn.asked.written .out).length

theorem Scripted.reads_nextTurn {session : Session W} {left : List Bytes}
    (scripted : Scripted session left) :
    ∃ rest, session.nextTurn.reads ≠ [] ∧
      Reads session (turn.on session).2 (session.nextTurn.reads.map Prod.snd) rest ∧
      Interprets .command left session.nextTurn.reads rest (turn.on session).1 := by
  obtain ⟨reads, rest, full, took, tags, interprets⟩ := scripted.on_turn
  have pieces : session.nextTurn.pieces = reads.map Prod.snd := by
    show (turn.on session).2.taken.drop session.taken.length = _
    rw [took.taken, List.drop_left]
  have same : session.nextTurn.reads = reads := by
    rw [Turn.reads, pieces]
    exact zip_tags tags
  rw [same]
  exact ⟨rest, full, took, interprets⟩

/-- In a turn the output stream gets the prompt, and then what the command writes. -/
theorem Scripted.written_turn {session : Session W} {left : List Bytes}
    (scripted : Scripted session left) :
    (turn.on session).2.written .out = session.written .out ++
      (Utf8.encode (session.directory ++ " > ") ++ session.nextTurn.output) := by
  obtain ⟨reader, here, _⟩ := scripted.input
  have prompted : session.nextTurn.asked.written .out = _ := written_readLine here session.prompt
  rw [fits_of_room scripted.out session.prompt] at prompted
  have grows : session.nextTurn.asked.written .out <+: session.nextTurn.finish.written .out := by
    rcases nextTurn_cases session with ⟨_, same⟩ | ⟨line, _, logged⟩
    · exact same ▸ List.prefix_refl _
    · exact ((within_executeLine line _).steps.written_prefix .out).trans (logged.written_prefix .out)
  obtain ⟨own, eq⟩ := grows
  have output : session.nextTurn.output = own := by
    rw [Turn.output, ← eq, List.drop_left]
  rw [output, ← List.append_assoc]
  exact eq.symm.trans (congrArg (· ++ own) prompted)

/-- The run of a session on a script is the interpretation of its pieces, and the output stream gets the
prompts and what the commands write between them. -/
theorem interpret_run (session : Session W) {left : List Bytes} (scripted : Scripted session left) :
    ∃ rest, interpret .command left =
        ⟨(turns session).flatMap Turn.reads, (run session).1, rest⟩ ∧
      Reads session (run session).2 (((turns session).flatMap Turn.reads).map Prod.snd) rest ∧
      (turns session).length ≤ ((turns session).flatMap Turn.reads).length ∧
      (run session).2.written .out = session.written .out ++ (turns session).flatMap fun turn =>
        Utf8.encode (turn.start.directory ++ " > ") ++ turn.output := by
  revert left
  refine turns_induction (motive := fun session outcome turns => ∀ {left}, Scripted session left →
    ∃ rest, interpret .command left = ⟨turns.flatMap Turn.reads, outcome.1, rest⟩ ∧
      Reads session outcome.2 ((turns.flatMap Turn.reads).map Prod.snd) rest ∧
      turns.length ≤ (turns.flatMap Turn.reads).length ∧
      outcome.2.written .out = session.written .out ++ turns.flatMap fun turn =>
        Utf8.encode (turn.start.directory ++ " > ") ++ turn.output) ?_ ?_ session
  · intro session result after turned last left scripted
    obtain ⟨rest, full, took, interprets⟩ := scripted.reads_nextTurn
    have written := scripted.written_turn
    rw [turned] at took interprets written
    simp only [List.flatMap_singleton]
    exact ⟨rest, interprets.of_last last, took, List.length_pos_iff.mpr full, written⟩
  · intro session after turned ih left scripted
    obtain ⟨between, full, took, interprets⟩ := scripted.reads_nextTurn
    have written := scripted.written_turn
    rw [turned] at took interprets written
    obtain ⟨rest, later, tookLater, fewer, writtenLater⟩ := ih took.scripted
    refine ⟨rest, ?_, ?_, ?_, ?_⟩
    · rw [List.flatMap_cons]
      exact interprets.trans (congrArg (·.behind session.nextTurn.reads) later)
    · rw [List.flatMap_cons, List.map_append]
      exact took.trans tookLater
    · have := List.length_pos_iff.mpr full
      rw [List.flatMap_cons, List.length_append, List.length_cons]
      omega
    · rw [writtenLater, written, List.flatMap_cons, List.append_assoc]
      rfl

/-- What a run makes of a script. -/
structure RunsScript (session : Session W) (script : List Bytes) : Prop where
  /-- The run comes to an end: every turn takes a piece. -/
  turns_le : (turns session).length ≤ script.length + 1
  /-- Commands and prompts read what the interpretation reads. -/
  reads : (turns session).flatMap Turn.reads = (interpret .command script).reads
  result : (run session).1 = (interpret .command script).result
  /-- Every read takes the next piece, and the empty one where there are no more. -/
  taken : (run session).2.taken =
    session.taken ++ ((turns session).flatMap Turn.reads).map Prod.snd
  next : ((turns session).flatMap Turn.reads).map Prod.snd <+: script ++ [[]]
  ok_iff : (run session).1 = .ok () ↔
    ∃ piece, (.command, piece) ∈ (turns session).flatMap Turn.reads ∧ Leaves piece
  endOfInput_iff : (run session).1 = .error .endOfInput ↔
    ∃ asking, (asking, []) ∈ (turns session).flatMap Turn.reads
  malformed_iff : (run session).1 = .error (.io .malformedText) ↔
    ∃ asking piece, (asking, piece) ∈ (turns session).flatMap Turn.reads ∧
      Utf8.decode? piece = none
  no_other : (run session).1 = .ok () ∨ (run session).1 = .error .endOfInput ∨
    (run session).1 = .error (.io .malformedText)
  /-- Where the session is left, everything behind the line that leaves is unread. -/
  unread : (run session).1 = .ok () → ∃ before piece rest reader,
    script = before ++ piece :: rest ∧ Leaves piece ∧
      ((turns session).flatMap Turn.reads).map Prod.snd = before ++ [piece] ∧
      (run session).2.console.input = .reader reader ∧ reader.unread = rest.flatten
  /-- The output stream gets, turn by turn, the prompt and what the command writes. -/
  written : (run session).2.written .out = session.written .out ++
    (turns session).flatMap fun turn =>
      Utf8.encode (turn.start.directory ++ " > ") ++ turn.output

/-- **A run refines the interpretation of its script.** Where no program touches the script and the streams
take everything, the session reads the pieces one after another, ends as the interpretation ends, and leaves
what the interpretation leaves, whatever state it starts in and whatever the host answers. -/
theorem run_script {session : Session W} {reader : Reader}
    (input : session.console.input = .reader reader)
    (untouched : reader.source = [] ∨ TakesNothing W)
    (out : session.console.outRoom = none) (err : session.console.errRoom = none) :
    RunsScript session (pieces reader.unread) := by
  obtain ⟨rest, interprets, took, fewer, written⟩ :=
    interpret_run session ⟨⟨reader, input, rfl, untouched⟩, out, err⟩
  have full : [] ∉ pieces reader.unread := fun mem => ne_nil_of_mem_pieces mem rfl
  have reads : (interpret .command (pieces reader.unread)).reads =
      (turns session).flatMap Turn.reads := congrArg (·.reads) interprets
  have result : (interpret .command (pieces reader.unread)).result = (run session).1 :=
    congrArg (·.result) interprets
  have next := reads_prefix .command (pieces reader.unread)
  rw [reads] at next
  constructor
  · have bound := next.length_le
    simp only [List.length_map, List.length_append, List.length_singleton] at bound
    omega
  · exact reads.symm
  · exact result.symm
  · exact took.taken
  · exact next
  · rw [← result, ← reads]
    exact interpret_ok_iff .command _
  · rw [← result, ← reads]
    exact interpret_endOfInput_iff .command full
  · rw [← result, ← reads]
    exact interpret_malformed_iff .command full
  · rw [← result]
    exact interpret_result_cases .command full
  · intro left
    rw [← result] at left
    obtain ⟨before, piece, split, taken, leaves⟩ := interpret_ok_split left
    rw [reads] at taken
    obtain ⟨last, here, still, _⟩ := took.scripted.input
    have behind : (interpret .command (pieces reader.unread)).rest = rest :=
      congrArg (·.rest) interprets
    rw [behind] at split
    refine ⟨before, piece, rest, last, split, leaves, taken, here, ?_⟩
    rw [← still, flatten_pieces]
  · exact written

end

end Session

namespace Machine

/-- A script that leaves before its end. -/
def leavingScript : Bytes := Utf8.encode "exit\nleft"

/-- A session on that script. -/
def scriptSession : Session Machine :=
  { topSession with console := { input := .reader (.ofScript leavingScript) } }

theorem pieces_leavingScript :
    pieces leavingScript = [Utf8.encode "exit\n", Utf8.encode "left"] := by
  decide +kernel

/-- A script ends where it leaves, whatever follows. -/
theorem interpret_exit (rest : List Bytes) :
    interpret .command (Utf8.encode "exit\n" :: rest) =
      ⟨[(.command, Utf8.encode "exit\n")], .ok (), rest⟩ := by
  have text : Utf8.decode? (Utf8.encode "exit\n") = some "exit\n" :=
    Utf8.decode?_ascii (by decide +kernel)
  have line : lineOfPiece (Utf8.encode "exit\n") = .ok "exit" := by
    rw [lineOfPiece, text]
    decide
  have tokens : Token.tokens "exit" = ["exit"] :=
    Token.tokens_eq_of_tokenize? (by decide : Token.tokenize? "exit" 1 = _)
  have leaves : Asking.command.next? "exit" = none :=
    Asking.next?_eq_none_iff.mpr ⟨rfl, by decide, by rw [tokens]; rfl⟩
  rw [interpret, line]
  simp only [leaves]

theorem interpret_leavingScript : interpret .command (pieces leavingScript) =
    ⟨[(.command, Utf8.encode "exit\n")], .ok (), [Utf8.encode "left"]⟩ := by
  rw [pieces_leavingScript]
  exact interpret_exit _

open Session in
/-- The session is left, and so is the rest of the script. -/
theorem run_script_leaving : (run scriptSession).1 = .ok () ∧
    ∃ reader, (run scriptSession).2.console.input = .reader reader ∧
      reader.unread = Utf8.encode "left" := by
  have input : scriptSession.console.input = .reader (.ofScript leavingScript) := rfl
  have runs : RunsScript scriptSession (pieces leavingScript) :=
    run_script input (.inl rfl) rfl rfl
  have reads := runs.reads
  have ended := runs.result
  rw [interpret_leavingScript] at reads ended
  obtain ⟨before, piece, rest, reader, split, _, taken, here, unread⟩ := runs.unread ended
  rw [reads] at taken
  -- One piece is read, so nothing stands before it.
  have one : [] ++ [Utf8.encode "exit\n"] = before ++ [piece] := taken
  obtain ⟨rfl, _⟩ := List.append_inj' one rfl
  rw [pieces_leavingScript] at split
  obtain ⟨_, left⟩ := List.cons.inj split
  exact ⟨ended, reader, here, by rw [unread, ← left, List.flatten_singleton]⟩

end Machine

end LineShell
