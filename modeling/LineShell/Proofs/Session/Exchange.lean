import LineShell.Proofs.Alias
import LineShell.Proofs.Line
import LineShell.Proofs.Session.DirectoryCache
import LineShell.Proofs.Session.Outcome
import LineShell.Proofs.Session.Read
import LineShell.Proofs.Session.Turns

/-!
# Exchanges

In front of a reader, `alias` without arguments asks for a name and for a value. The exchange is completed when
both questions were written and both answers were read, and the table of aliases is made of the completed
exchanges.

* `Session.exchange?`: the exchange that a line comes to.
* `Session.aliases_executeLine_of_reader`: what a line makes of the table.
* `Session.written_listing`: what `alias` writes.
* `Session.aliases_afterLines`: any number of lines.
-/

namespace LineShell

variable {W : Type}

namespace Session

open Act

/-! ## What an exchange takes -/

/-- The answers that a reader gives to two questions, if it gives both. -/
def answers? (reader : Reader) : Option (String × String) :=
  match lineOfPiece reader.piece.1, lineOfPiece reader.piece.2.piece.1 with
  | .ok name, .ok value => some (name, value)
  | _, _ => none

theorem answers?_eq_some_iff {reader : Reader} {name value : String} :
    answers? reader = some (name, value) ↔
      lineOfPiece reader.piece.1 = .ok name ∧ lineOfPiece reader.piece.2.piece.1 = .ok value := by
  unfold answers?
  split
  · next read read' => simp [read, read']
  · next other =>
    simp only [reduceCtorEq, false_iff]
    rintro ⟨read, read'⟩
    exact other name value read read'

/-- The exchange that a line comes to: it is `alias` without arguments, the output stream still takes both
questions, and the reader still gives both answers. -/
def exchange? (session : Session W) (line : String) : Option (String × String) :=
  match session.console.input with
  | .editor _ => none
  | .reader reader =>
    if Token.tokens line = ["alias"] ∧
        session.console.fitting .out (Utf8.encode "alias name: alias value: ") =
          Utf8.encode "alias name: alias value: " then
      answers? reader
    else none

theorem exchange?_of_reader {session : Session W} {reader : Reader}
    (here : session.console.input = .reader reader) {line : String} {entry : String × String} :
    session.exchange? line = some entry ↔ Token.tokens line = [Builtin.aliases.name] ∧
      session.Fits ("alias name: " ++ "alias value: ") ∧ answers? reader = some entry := by
  simp only [exchange?, here]
  split
  · next asks => exact ⟨fun answered => ⟨asks.1, asks.2, answered⟩, fun all => all.2.2⟩
  · next other =>
    simp only [reduceCtorEq, false_iff]
    rintro ⟨asks, fits, _⟩
    exact other ⟨asks, fits⟩

/-- A stream takes all of a text that is no longer than its room. -/
theorem fits_iff {session : Session W} {text : String} :
    session.Fits text ↔
      ∀ n, session.console.outRoom = some n → (Utf8.encode text).length ≤ n := by
  cases room : session.console.outRoom with
  | none => simp [Fits, Console.fitting, Console.room, room]
  | some n =>
    simp only [Fits, Console.fitting, Console.room, room, Option.some.injEq, forall_eq']
    constructor
    · intro fits
      have length := congrArg List.length fits
      rw [List.length_take] at length
      omega
    · intro short
      exact List.take_of_length_le short

/-- Two texts fit if the first fits, and the second behind it. -/
theorem fits_append {session : Session W} {first second : String} :
    session.Fits (first ++ second) ↔ session.Fits first ∧
      (session.afterWrite .out (Utf8.encode first)).Fits second := by
  have room : (session.afterWrite .out (Utf8.encode first)).console.outRoom =
      session.console.outRoom.map (· - (session.console.fitting .out (Utf8.encode first)).length) := rfl
  simp only [fits_iff, room, Utf8.encode_append, List.length_append]
  cases limit : session.console.outRoom with
  | none => simp
  | some n =>
    simp only [Console.fitting, Console.room, limit, List.length_take, Option.map_some,
      Option.some.injEq, forall_eq']
    omega

section
variable [Host W] {session : Session W} {reader : Reader}

/-! ## Asking -/

/-- Both questions are written, and both answers are read. -/
theorem on_askAlias_of_answers (here : session.console.input = .reader reader)
    (fits : session.Fits ("alias name: " ++ "alias value: ")) {name value : String}
    (answered : answers? reader = some (name, value)) :
    askAlias.on session = (.ok (some (name, value)),
      (session.afterRead "alias name: " reader).afterRead "alias value: " reader.piece.2) := by
  obtain ⟨first, second⟩ := fits_append.mp fits
  obtain ⟨read, read'⟩ := answers?_eq_some_iff.mp answered
  have here' : (session.afterRead "alias name: " reader).console.input = .reader reader.piece.2 := rfl
  have second' : (session.afterRead "alias name: " reader).Fits "alias value: " := second
  rw [askAlias, on_bind, on_readEntry_of_fits here first, read]
  simp only [Except.map]
  rw [on_bind, on_readEntry_of_fits here' second', read']
  rfl

/-- Otherwise the session is at fault. -/
theorem on_askAlias_of_none (here : session.console.input = .reader reader)
    (unanswered : ¬(session.Fits ("alias name: " ++ "alias value: ") ∧ (answers? reader).isSome)) :
    ∃ fault after, (askAlias : Act W _).on session = (.error fault, after) := by
  by_cases first : session.Fits "alias name: "
  · have here' : (session.afterRead "alias name: " reader).console.input =
      .reader reader.piece.2 := rfl
    rw [askAlias, on_bind, on_readEntry_of_fits here first]
    cases read : lineOfPiece reader.piece.1 with
    | error fault => exact ⟨_, _, rfl⟩
    | ok name =>
      simp only [Except.map]
      rw [on_bind]
      by_cases second : (session.afterRead "alias name: " reader).Fits "alias value: "
      · rw [on_readEntry_of_fits here' second]
        cases read' : lineOfPiece reader.piece.2.piece.1 with
        | error fault => exact ⟨_, _, rfl⟩
        | ok value =>
          refine absurd ⟨fits_append.mpr ⟨first, second⟩, ?_⟩ unanswered
          rw [answers?_eq_some_iff.mpr ⟨read, read'⟩]
          rfl
      · rw [on_readEntry_of_not_fits here' second]
        exact ⟨_, _, rfl⟩
  · rw [askAlias, on_bind, on_readEntry_of_not_fits here first]
    exact ⟨_, _, rfl⟩

/-! ## One line -/

/-- Before it asks, `alias` does nothing but log. -/
theorem on_beforeListing_asking (session : Session W) :
    ∃ begun, Steps [.log] session begun ∧
      (beforeListing []).on session = (askAlias >>= keepAlias).on begun := by
  have logs : Within [.log] (noteReferences [Builtin.aliases.name] >>= fun _ =>
      debug s!"builtin {Builtin.aliases.name}" : Act W Unit) :=
    .bind (within_noteReferences _) fun _ => within_debug _
  obtain ⟨_, begun, on, steps⟩ := on_of_within_log logs session
  obtain ⟨_, between, noted, logged⟩ := on_bind_eq_ok on
  refine ⟨begun, steps, ?_⟩
  rw [beforeListing, on_bind, noted]
  simp only
  rw [on_bind, logged]
  rfl

/-- What logging leaves of an exchange: all of it. -/
theorem exchange_of_logged {begun : Session W} (steps : Steps [.log] session begun)
    (here : session.console.input = .reader reader) :
    begun.console.input = .reader reader ∧
      (begun.Fits ("alias name: " ++ "alias value: ") ↔
        session.Fits ("alias name: " ++ "alias value: ")) := by
  unfold Fits
  rw [steps.console_eq]
  exact ⟨here, .rfl⟩

/-- What a completed exchange makes of a session, before the listing. -/
theorem on_beforeListing_of_exchange (here : session.console.input = .reader reader) {line : String}
    {name value : String} (completed : session.exchange? line = some (name, value)) :
    ∃ between, (beforeListing [] : Act W Unit).on session = (.ok (), between) ∧
      between.aliases = session.aliases.put name value ∧
      between.written .out = session.written .out ++ Utf8.encode "alias name: alias value: " := by
  obtain ⟨_, fits, answered⟩ := (exchange?_of_reader here).mp completed
  obtain ⟨begun, steps, on⟩ := on_beforeListing_asking session
  obtain ⟨here', fits'⟩ := exchange_of_logged steps here
  obtain ⟨first, second⟩ := fits_append.mp (fits'.mpr fits)
  have kept : begun.aliases = session.aliases := steps.aliases_eq (by decide)
  rw [on, on_bind, on_askAlias_of_answers here' (fits'.mpr fits) answered]
  refine ⟨_, rfl, ?_, ?_⟩
  · exact congrArg (AliasTable.put · name value) kept
  · have stored : ∀ s : Session W, (s.afterStore name value).written .out = s.written .out := by
      intro s
      rw [written_eq_of_trace [.stored name value] rfl]
      exact List.append_nil _
    have second' : (begun.afterRead "alias name: " reader).console.fitting .out
        (Utf8.encode "alias value: ") = Utf8.encode "alias value: " := second
    have silent : begun.written .out = session.written .out := steps.written_eq (by decide)
    calc
      _ = ((begun.afterRead "alias name: " reader).afterRead "alias value: "
            reader.piece.2).written .out := stored _
      _ = session.written .out ++ Utf8.encode "alias name: " ++ Utf8.encode "alias value: " := by
        rw [written_afterRead, written_afterRead, first, second', silent]
      _ = session.written .out ++ Utf8.encode ("alias name: " ++ "alias value: ") := by
        rw [Utf8.encode_append, List.append_assoc]

/-- What is left of an exchange that is not completed. -/
theorem on_beforeListing_of_none (here : session.console.input = .reader reader) {line : String}
    (asks : Token.tokens line = [Builtin.aliases.name]) (failed : session.exchange? line = none) :
    ∃ fault between, (beforeListing [] : Act W Unit).on session = (.error fault, between) ∧
      between.aliases = session.aliases := by
  obtain ⟨begun, steps, on⟩ := on_beforeListing_asking session
  obtain ⟨here', fits'⟩ := exchange_of_logged steps here
  have unanswered : ¬(begun.Fits ("alias name: " ++ "alias value: ") ∧ (answers? reader).isSome) := by
    rintro ⟨fits, answered⟩
    obtain ⟨entry, answered⟩ := Option.isSome_iff_exists.mp answered
    cases failed.symm.trans ((exchange?_of_reader here).mpr ⟨asks, fits'.mp fits, answered⟩)
  obtain ⟨fault, after, asked⟩ := on_askAlias_of_none here' unanswered
  have kept := (within_askAlias (W := W) begun).steps.aliases_eq (by decide)
  rw [asked] at kept
  refine ⟨fault, after, ?_, kept.trans (steps.aliases_eq (by simp))⟩
  rw [on, on_bind, asked]

/-- **What a line makes of the table of aliases**: it puts the exchange in that it comes to, and if it comes to
none, it leaves the table as it is. -/
theorem aliases_executeLine_of_reader (here : session.console.input = .reader reader)
    (line : String) :
    ((executeLine line).on session).2.aliases =
      session.aliases.putAll (session.exchange? line).toList := by
  by_cases asks : Token.tokens line = [Builtin.aliases.name]
  · rw [executeLine_alias asks, on_bind]
    cases exchange : session.exchange? line with
    | none =>
      obtain ⟨fault, between, on, kept⟩ := on_beforeListing_of_none here asks exchange
      rw [on]
      exact kept
    | some entry =>
      obtain ⟨between, on, put, _⟩ := on_beforeListing_of_exchange here exchange
      rw [on]
      -- The listing that follows leaves the table alone, whatever comes of it.
      exact ((within_listAliases between).steps.aliases_eq (by simp)).trans put
  · have none : session.exchange? line = none := by
      cases exchange : session.exchange? line with
      | none => rfl
      | some entry => exact absurd ((exchange?_of_reader here).mp exchange).1 asks
    rw [none]
    exact (aliases_executeLine session line).resolve_right asks

/-! ## The listing -/

omit [Host W] in
/-- The lines that a table is listed as: one for each entry, in order. -/
def listed (table : AliasTable) : Bytes :=
  table.entries.flatMap fun entry => Utf8.encode (entry.1 ++ ": " ++ entry.2 ++ "\n")

omit [Host W] in
theorem printLines_ok {lines : List String} {session after : Session W}
    (h : (printLines lines).on session = (.ok (), after)) :
    after.written .out =
      session.written .out ++ lines.flatMap fun line => Utf8.encode (line ++ "\n") := by
  induction lines generalizing session with
  | nil =>
    cases h
    exact (List.append_nil _).symm
  | cons line rest ih =>
    obtain ⟨_, between, put, others⟩ := on_bind_eq_ok h
    obtain ⟨fits, rfl⟩ := write_ok put
    rw [ih others, written_afterWrite, if_pos rfl, fits, List.flatMap_cons, List.append_assoc]

theorem listAliases_ok {session after : Session W} {status : Status}
    (h : (listAliases : Act W Status).on session = (.ok status, after)) :
    after.aliases = session.aliases ∧
      after.written .out = session.written .out ++ listed session.aliases := by
  have steps := (within_listAliases session).steps
  rw [h] at steps
  refine ⟨steps.aliases_eq (by decide), ?_⟩
  obtain ⟨_, _, looked, lists⟩ := on_bind_eq_ok h
  cases looked
  obtain ⟨_, between, printed, done⟩ := on_bind_eq_ok lists
  cases done
  rw [printLines_ok printed, List.flatMap_map]
  rfl

/-- What `alias` writes where it comes to its end: the questions if it asks, and the table. -/
theorem written_alias (here : session.console.input = .reader reader) {line : String}
    {args : List String} (tokens : Token.tokens line = Builtin.aliases.name :: args)
    {status : Status} {after : Session W} (h : (executeLine line).on session = (.ok status, after)) :
    after.written .out = session.written .out ++
      (if args = [] then Utf8.encode "alias name: alias value: " else []) ++ listed after.aliases := by
  rw [executeLine_alias tokens] at h
  obtain ⟨_, between, before, listing⟩ := on_bind_eq_ok h
  obtain ⟨kept, written⟩ := listAliases_ok listing
  rw [written, kept]
  congr 1
  cases args with
  | nil =>
    rw [if_pos rfl]
    cases exchange : session.exchange? line with
    | none =>
      obtain ⟨fault, failed, on, _⟩ := on_beforeListing_of_none here tokens exchange
      cases on.symm.trans before
    | some entry =>
      obtain ⟨done, on, _, asked⟩ := on_beforeListing_of_exchange here exchange
      cases on.symm.trans before
      exact asked
  | cons arg args =>
    have logs : Within [.log] (beforeListing (arg :: args) : Act W Unit) :=
      .bind (within_noteReferences _) fun _ => .bind (within_debug _) fun _ => .pure _
    have steps := (logs session).steps
    rw [before] at steps
    rw [if_neg (by simp), List.append_nil]
    exact steps.written_eq (by decide)

/-! ## Any number of lines -/

/-- The session after lines were carried out one after another, whatever came of them. -/
def afterLines (session : Session W) (lines : List String) : Session W :=
  lines.foldl (fun session line => ((executeLine line).on session).2) session

/-- The exchanges that lines come to, in order. -/
def exchanges (session : Session W) : List String → List (String × String)
  | [] => []
  | line :: rest =>
    (session.exchange? line).toList ++ exchanges ((executeLine line).on session).2 rest

theorem reader_afterLines (here : ∃ reader, session.console.input = .reader reader)
    (lines : List String) : ∃ reader, (session.afterLines lines).console.input = .reader reader := by
  induction lines generalizing session with
  | nil => exact here
  | cons line rest ih => exact ih ((within_executeLine line session).steps.still_reader here)

theorem aliases_afterLines_eq (here : ∃ reader, session.console.input = .reader reader)
    (lines : List String) :
    (session.afterLines lines).aliases = session.aliases.putAll (session.exchanges lines) := by
  induction lines generalizing session with
  | nil => rfl
  | cons line rest ih =>
    obtain ⟨reader, there⟩ := here
    have behind := ih ((within_executeLine line session).steps.still_reader ⟨reader, there⟩)
    rw [aliases_executeLine_of_reader there] at behind
    rw [exchanges, AliasTable.putAll, List.foldl_append]
    exact behind

omit [Host W] in
/-- Answers are lines without their terminators. -/
theorem unterminated_of_exchange (here : session.console.input = .reader reader) {line : String}
    {entry : String × String} (completed : session.exchange? line = some entry) :
    Unterminated entry.1 ∧ Unterminated entry.2 := by
  obtain ⟨_, _, answered⟩ := (exchange?_of_reader here).mp completed
  obtain ⟨read, read'⟩ := answers?_eq_some_iff.mp answered
  exact ⟨unterminated_of_piece read, unterminated_of_piece read'⟩

theorem unterminated_of_mem_exchanges (here : ∃ reader, session.console.input = .reader reader)
    {lines : List String} {entry : String × String} (mem : entry ∈ session.exchanges lines) :
    Unterminated entry.1 ∧ Unterminated entry.2 := by
  induction lines generalizing session with
  | nil => cases mem
  | cons line rest ih =>
    obtain ⟨reader, there⟩ := here
    rcases List.mem_append.mp mem with now | later
    · exact unterminated_of_exchange there (Option.mem_toList.mp now)
    · exact ih ((within_executeLine line session).steps.still_reader ⟨reader, there⟩) later

/-! ## Runs -/

/-- The exchange that the line of a turn comes to, if it is carried out. -/
def Turn.exchange? (turn : Turn W) : Option (String × String) :=
  match turn.executed, turn.line? with
  | some _, some line => turn.asked.exchange? line
  | _, _ => none

/-- A turn puts the exchange of its line into the table. -/
theorem aliases_nextTurn (here : ∃ reader, session.console.input = .reader reader) :
    (turn.on session).2.aliases = session.aliases.putAll session.nextTurn.exchange?.toList := by
  have steps := (within_readLine session.prompt session).steps
  have kept : ((readLine session.prompt).on session).2.aliases = session.aliases :=
    steps.aliases_eq (by decide)
  obtain ⟨reader, there⟩ := steps.still_reader here
  -- The line that was read is carried out on the table as it was.
  have stored : ∀ {line asked}, (readLine session.prompt).on session = (.ok line, asked) →
      ((executeLine line).on asked).2.aliases =
        session.aliases.putAll (asked.exchange? line).toList := by
    intro line asked read
    rw [read] at kept there
    rw [aliases_executeLine_of_reader there, kept]
  have ended := turn_cases session
  unfold nextTurn Turn.exchange? Turn.line?
  generalize turn.on session = outcome at ended ⊢
  obtain ⟨result, last⟩ := outcome
  cases ended with
  | unread fault asked read =>
    rw [read] at kept ⊢
    exact kept
  | blank line asked read blank =>
    rw [read] at kept ⊢
    simp only [blank, if_true]
    exact kept
  | failed line asked fault after read blank executed =>
    have put := stored read
    simpa [read, blank, executed, Except.toOption] using put
  | left line asked after read blank executed =>
    have put := stored read
    simpa [read, blank, executed, Except.toOption] using put
  | done line asked status after read blank executed =>
    have put := stored read
    simpa [read, blank, executed, Except.toOption] using put

/-- A run puts the exchanges of its turns into the table, one after another. -/
theorem aliases_run (here : ∃ reader, session.console.input = .reader reader) :
    (run session).2.aliases =
      session.aliases.putAll ((turns session).filterMap Turn.exchange?) := by
  rw [List.filterMap_eq_flatMap_toList]
  exact parts_run Steps.still_reader aliases (fun turn => turn.exchange?.toList) AliasTable.putAll
    (fun _ _ _ => List.foldl_append ..) aliases_nextTurn session here

/-! ## The table of a session -/

/-- What the table of aliases is after some lines, and what the next line makes of it. -/
structure FoldsExchanges (session : Session W) (lines : List String) : Prop where
  /-- The table is made of the completed exchanges, in order. -/
  table : (session.afterLines lines).aliases = session.aliases.putAll (session.exchanges lines)
  /-- One more line puts in the exchange that it comes to, in the place of an earlier value of that name, and
  no other line changes the table, whatever comes of the line. -/
  next : ∀ line,
    match (session.afterLines lines).exchange? line with
    | none => (session.afterLines (lines ++ [line])).aliases = (session.afterLines lines).aliases
    | some (name, value) =>
      (session.afterLines (lines ++ [line])).aliases =
          (session.afterLines lines).aliases.put name value ∧
        ∀ other, (session.afterLines (lines ++ [line])).aliases.get? other =
          if other = name then some value else (session.afterLines lines).aliases.get? other
  /-- A run from there puts in the exchanges that its lines come to. -/
  run : (run (session.afterLines lines)).2.aliases = (session.afterLines lines).aliases.putAll
    ((turns (session.afterLines lines)).filterMap Turn.exchange?)
  /-- Where `alias` comes to its end, it has written its questions, if it asks, and then one line for each
  entry of the table, in the order of the table. -/
  listing : ∀ line args status after, Token.tokens line = "alias" :: args →
    (executeLine line).on (session.afterLines lines) = (.ok status, after) →
    status = .success ∧ after.aliases = (session.afterLines (lines ++ [line])).aliases ∧
      after.written .out = (session.afterLines lines).written .out ++
        (if args = [] then Utf8.encode "alias name: alias value: " else []) ++
        after.aliases.entries.flatMap fun entry => Utf8.encode (entry.1 ++ ": " ++ entry.2 ++ "\n")
  /-- The names in the table stand in strictly ascending order of their bytes. -/
  ascending : (session.afterLines lines).aliases.entries.Pairwise fun entry later =>
    Utf8.encode entry.1 < Utf8.encode later.1
  /-- What was not in the table before has no newline and does not end in a carriage return. -/
  unterminated : ∀ entry ∈ (session.afterLines lines).aliases.entries,
    entry ∈ session.aliases.entries ∨ Unterminated entry.1 ∧ Unterminated entry.2

/-- **The table of aliases is the fold of the completed exchanges**, over any lines, any input of a reader and
any limits of the streams. -/
theorem foldsExchanges (session : Session W) {reader : Reader}
    (here : session.console.input = .reader reader) (ascending : session.aliases.Ascending)
    (lines : List String) : FoldsExchanges session lines := by
  have table := aliases_afterLines_eq ⟨reader, here⟩ lines
  obtain ⟨later, there⟩ := reader_afterLines ⟨reader, here⟩ lines
  have one : ∀ line, session.afterLines (lines ++ [line]) =
      ((executeLine line).on (session.afterLines lines)).2 := by
    intro line
    rw [afterLines, List.foldl_append]
    rfl
  constructor
  · exact table
  · intro line
    have stored := aliases_executeLine_of_reader there line
    rw [← one] at stored
    split
    · next none =>
      rw [stored, none]
      rfl
    · next name value completed =>
      rw [completed] at stored
      refine ⟨stored, fun other => ?_⟩
      rw [stored]
      exact AliasTable.get?_put _ name value other
  · exact aliases_run ⟨later, there⟩
  · intro line args status after tokens on
    have written := written_alias there tokens on
    rw [one, on]
    refine ⟨?_, rfl, written⟩
    rw [executeLine_alias tokens] at on
    obtain ⟨_, between, _, listing⟩ := on_bind_eq_ok on
    exact returns_listAliases between status after listing
  · rw [table]
    exact (ascending.putAll _).bytes
  · intro entry mem
    rw [table] at mem
    rcases AliasTable.mem_putAll mem with new | old
    · exact .inr (unterminated_of_mem_exchanges ⟨reader, here⟩ new)
    · exact .inl old

end

end Session

namespace Machine

/-- A session in front of a name and a value. -/
def answeredSession : Session Machine :=
  { topSession with console := { input := .reader (.ofScript (Utf8.encode "NAME\ngreeting\n")) } }

/-- The name and the value are the answers. -/
theorem answers?_answeredSession :
    Session.answers? (.ofScript (Utf8.encode "NAME\ngreeting\n")) = some ("NAME", "greeting") := by
  obtain ⟨first, rest⟩ :=
    Reader.piece_eq_cutLine (.ofScript (Utf8.encode "NAME\ngreeting\n"))
  obtain ⟨second, _⟩ :=
    Reader.piece_eq_cutLine (Reader.ofScript (Utf8.encode "NAME\ngreeting\n")).piece.2
  have unread : (Reader.ofScript (Utf8.encode "NAME\ngreeting\n")).unread =
    Utf8.encode "NAME\n" ++ Utf8.encode "greeting\n" := by decide +kernel
  have name : Utf8.decode? (Utf8.encode "NAME\n") = some "NAME\n" :=
    Utf8.decode?_ascii (by decide +kernel)
  have value : Utf8.decode? (Utf8.encode "greeting\n") = some "greeting\n" :=
    Utf8.decode?_ascii (by decide +kernel)
  have cut : cutLine (Utf8.encode "NAME\n" ++ Utf8.encode "greeting\n") =
    (Utf8.encode "NAME\n", Utf8.encode "greeting\n") := by decide +kernel
  have cut' : cutLine (Utf8.encode "greeting\n") = (Utf8.encode "greeting\n", []) := by
    decide +kernel
  rw [unread, cut] at first rest
  rw [rest, cut'] at second
  rw [Session.answers?_eq_some_iff, first, second, lineOfPiece, lineOfPiece, name, value]
  decide

/-- `alias` in front of them puts the value under the name. -/
theorem foldsExchanges_answered : answeredSession.aliases.Ascending ∧
    (answeredSession.afterLines ["alias"]).aliases.get? "NAME" = some "greeting" := by
  have ascending : answeredSession.aliases.Ascending := AliasTable.ascending_empty
  refine ⟨ascending, ?_⟩
  have tokens : Token.tokens "alias" = ["alias"] :=
    Token.tokens_eq_of_tokenize? (by decide : Token.tokenize? "alias" 1 = _)
  have completed : answeredSession.exchange? "alias" = some ("NAME", "greeting") :=
    (Session.exchange?_of_reader rfl).mpr
      ⟨tokens, Session.fits_of_room rfl _, answers?_answeredSession⟩
  have next := (Session.foldsExchanges answeredSession rfl ascending []).next "alias"
  rw [Session.afterLines, List.foldl_nil, completed] at next
  exact (next.2 "NAME").trans (if_pos rfl)

end Machine

end LineShell
