import LineShell.Proofs.Session.Simulation

/-!
# Aliases are inert

A session looks at its aliases only to list them. Two sessions that differ in their aliases do the same, and
what they write differs in the listings only.

* `Session.noting`, `listing`: a session with other notes, and what a table is listed as.
* `Session.Noted`: two sessions that differ in their aliases, and have done the same so far.
* `Session.simulationUpToListing_noted`: they go on alike, listings apart.
* `Turn.SameButListing`: a turn of both of them.
* `Session.run_withAliases`: the whole of their runs.
-/

namespace LineShell

variable {W : Type}

namespace Session

open Act

/-! ## Notes -/

/-- The session with other aliases, and another account of what happened. -/
def noting (session : Session W) (aliases : AliasTable) (trace : Trace) : Session W :=
  { session with aliases, trace }

/-- The session with other aliases. -/
def withAliases (session : Session W) (aliases : AliasTable) : Session W :=
  { session with aliases }

/-- The session without its notes: its console, its world, its directory and its highlighters. -/
def bare (session : Session W) : Session W :=
  session.noting {} []

/-- The lines that a table is listed as. -/
def listing (aliases : AliasTable) : List Event :=
  aliases.toList.map fun entry => .wrote .out (Utf8.encode (s!"{entry.1}: {entry.2}" ++ "\n"))

/-- The session after its aliases were listed. -/
def afterListing (session : Session W) : Session W :=
  session.noting session.aliases ((listing session.aliases).reverse ++ session.trace)

/-- On a stream without a limit, lines are written one after another. -/
theorem on_printLines_of_room {session : Session W} (room : session.console.outRoom = none)
    (lines : List String) :
    (printLines lines).on session = (.ok (), session.noting session.aliases
      ((lines.map fun line => Event.wrote .out (Utf8.encode (line ++ "\n"))).reverse ++
        session.trace)) := by
  induction lines generalizing session with
  | nil => rfl
  | cons line rest ih =>
    have free : session.console.room .out = none := room
    have put := on_write_of_room free (Utf8.encode (line ++ "\n"))
    rw [afterWrite_of_room free] at put
    have later : (session.afterEvent (.wrote .out (Utf8.encode (line ++ "\n")))).console.outRoom =
      none := room
    rw [printLines, printLine, print, on_bind, put]
    simp only [ih later]
    simp [noting, afterEvent]

theorem on_listAliases_of_room {session : Session W} (room : session.console.outRoom = none) :
    (listAliases : Act W Status).on session = (.ok .success, session.afterListing) := by
  simp only [listAliases, on_bind, on_get, on_printLines_of_room room, on_pure]
  rw [List.map_map]
  rfl

/-! ## Two sessions with different aliases -/

/-- Two sessions on streams without a limit that differ in their aliases, and have done the same since their
accounts ended with `base` and `base'`. -/
inductive Noted (base base' : Trace) : Session W → Session W → Prop
  | intro (session : Session W) (events : List Event) (aliases aliases' : AliasTable) :
      (∀ stream, session.console.room stream = none) →
      Noted base base' (session.noting aliases (events ++ base))
        (session.noting aliases' (events ++ base'))

section
variable {base base' : Trace} {first second : Session W}

theorem Noted.room (noted : Noted base base' first second) (stream : Stream) :
    first.console.room stream = none ∧ second.console.room stream = none := by
  cases noted with
  | intro session events aliases aliases' free => exact ⟨free stream, free stream⟩

/-- They have done the same. -/
theorem Noted.trace (noted : Noted base base' first second) :
    ∃ events, first.trace = events ++ base ∧ second.trace = events ++ base' := by
  cases noted with
  | intro session events aliases aliases' free => exact ⟨events, rfl, rfl⟩

/-- But for their notes they are the same. -/
theorem Noted.bare_eq (noted : Noted base base' first second) : first.bare = second.bare := by
  cases noted
  rfl

/-- What does not look at the notes happens in both sessions alike. -/
theorem Noted.step (noted : Noted base base' first second) (change : Session W → Session W)
    (new : Session W → List Event)
    (notes : ∀ session aliases trace,
      change (session.noting aliases trace) =
        (change session).noting aliases (new session ++ trace))
    (room : ∀ session stream,
      (change session).console.room stream = session.console.room stream) :
    Noted base base' (change first) (change second) := by
  cases noted with
  | intro session events aliases aliases' free =>
    rw [notes, notes, ← List.append_assoc, ← List.append_assoc]
    apply Noted.intro
    intro stream
    rw [room]
    exact free stream

theorem Noted.event (noted : Noted base base' first second) (event : Event) :
    Noted base base' (first.afterEvent event) (second.afterEvent event) := by
  apply noted.step (afterEvent · event) fun _ => [event]
  · intro session aliases trace
    rfl
  · intro session stream
    rfl

theorem Noted.store (noted : Noted base base' first second) (name value : String) :
    Noted base base' (first.afterStore name value) (second.afterStore name value) := by
  cases noted with
  | intro session events aliases aliases' free =>
    exact .intro session (.stored name value :: events) (aliases.put name value)
      (aliases'.put name value) free

section
variable [Host W]

theorem Noted.launch (noted : Noted base base' first second) (program : String)
    (args : List String) :
    Noted base base' (first.afterLaunch program args) (second.afterLaunch program args) := by
  apply noted.step (afterLaunch · program args) fun session =>
    ((session.launched program args).output.map fun part =>
      Event.emitted part.1 part.2).reverse ++
    [.launched program args
      (session.console.input.source.take (session.launched program args).taken)]
  · intro session aliases trace
    rw [List.append_assoc]
    -- What the host answers does not depend on the notes.
    rfl
  · intro session stream
    rfl

theorem related_print_noted (stream : Stream) (text : String) :
    Related (Noted (W := W) base base') Never (print stream text) (print stream text) where
  steps := (within_print stream text).steps_all
  meets := by
    intro first second noted
    have free := noted.room stream
    rw [print, on_write_of_room free.1, on_write_of_room free.2, afterWrite_of_room free.1,
      afterWrite_of_room free.2]
    exact .together _ (noted.event _)

/-- Nothing but a listing looks at the aliases. -/
theorem simulationUpToListing_noted :
    SimulationUpToListing (Noted (W := W) base base') Never := by
  have world : ∀ {first second : Session W}, Noted base base' first second →
      first.world = second.world := by
    rintro _ _ ⟨session, events, aliases, aliases', free⟩
    rfl
  have input : ∀ {first second : Session W}, Noted base base' first second →
      first.console.input = second.console.input := by
    rintro _ _ ⟨session, events, aliases, aliases', free⟩
    rfl
  have style : ∀ {first second : Session W}, Noted base base' first second →
      first.outHighlighter = second.outHighlighter := by
    rintro _ _ ⟨session, events, aliases, aliases', free⟩
    rfl
  constructor
  case sees_world => exact world
  case sees_directory =>
    rintro _ _ ⟨session, events, aliases, aliases', free⟩
    rfl
  case after_log =>
    intro first second noted record
    exact noted.event _
  case after_enter =>
    intro first second noted path world _
    exact noted.step (afterEnter · path world) (fun _ => [.entered path]) (fun _ _ _ => rfl)
      fun _ _ => rfl
  case after_refresh =>
    intro first second noted text _
    exact noted.step (withDirectory · text) (fun _ => []) (fun _ _ _ => rfl) fun _ _ => rfl
  case after_store =>
    intro first second noted name value
    exact noted.store name value
  case after_launch =>
    intro first second noted program args
    refine ⟨?_, noted.launch program args⟩
    cases noted
    rfl
  case on_print => exact related_print_noted .out
  case on_readEntry =>
    apply related_readEntry (related_print_noted .out) world input
    · intro first second noted record
      exact noted.event _
    · intro first second noted reader _
      exact noted.step (afterPiece · reader) (fun _ => [.took reader.piece.1]) (fun _ _ _ => rfl)
        fun _ stream => by cases stream <;> rfl
    · intro first second noted editor prompt _
      exact noted.step (afterAnswer · editor prompt)
        (fun session => [.answered prompt (editor.answer session.world prompt)]) (fun _ _ _ => rfl)
        fun _ stream => by cases stream <;> rfl
  case on_remember =>
    apply related_remember input
    intro first second noted editor line _
    exact noted.step (afterRecorded · editor line) (fun _ => [.recorded line]) (fun _ _ _ => rfl)
      fun _ stream => by cases stream <;> rfl
  case on_logo => exact related_printLogo (related_print_noted .out) style
  case on_help => exact related_help (related_print_noted .out) style
  case on_report =>
    apply related_report (related_print_noted .err)
    rintro _ _ ⟨session, events, aliases, aliases', free⟩
    rfl

/-! ## Lines -/

/-- Whether a line lists the aliases: it is `alias`, and it came to its end. -/
def listsAliases (line : String) : Except SessionFault Status → Bool
  | .ok _ => (Token.tokens line).head? == some Builtin.aliases.name
  | .error _ => false

/-- The session after its aliases were listed, if they were. -/
def afterListingIf (lists : Bool) (session : Session W) : Session W :=
  if lists then session.afterListing else session

/-- A line does the same in both sessions, up to the listing at its end. -/
theorem Noted.executeLine (noted : Noted base base' first second) (line : String) :
    ∃ result between between', Noted base base' between between' ∧
      (Session.executeLine line).on first =
        (result, between.afterListingIf (listsAliases line result)) ∧
      (Session.executeLine line).on second =
        (result, between'.afterListingIf (listsAliases line result)) ∧
      (listsAliases line result = true → result = .ok .success) := by
  by_cases lists : (Token.tokens line).head? = some Builtin.aliases.name
  · obtain ⟨args, tokens⟩ := List.head?_eq_some_iff.mp lists
    obtain ⟨result, between, between', on, on', still⟩ :=
      ((simulationUpToListing_noted.related_beforeListing args).meets noted).of_never
    rw [executeLine_alias tokens, on_bind, on_bind, on, on']
    cases result with
    | error fault =>
      exact ⟨.error fault, between, between', still, rfl, rfl, by simp [listsAliases]⟩
    | ok _ =>
      have listed : listsAliases line (.ok .success) = true := by
        simp [listsAliases, lists]
      have free := still.room .out
      refine ⟨.ok .success, between, between', still, ?_⟩
      simp only [on_listAliases_of_room free.1, on_listAliases_of_room free.2, listed, afterListingIf]
      simp
  · obtain ⟨result, after, after', on, on', still⟩ :=
      ((simulationUpToListing_noted.related_executeLine_other lists).meets noted).of_never
    have unlisted : listsAliases line result = false := by
      cases result <;> simp [listsAliases, lists]
    refine ⟨result, after, after', still, ?_⟩
    simp [unlisted, afterListingIf, on, on']

/-! ## Turns -/

/-- Whether the aliases were listed in a turn. -/
def Turn.lists (turn : Turn W) : Bool :=
  match turn.line?, turn.executed with
  | some line, some result => listsAliases line result
  | _, _ => false

/-- The listing in a turn, if there was one. -/
def Turn.listing (turn : Turn W) : List Event :=
  if turn.lists then Session.listing turn.finish.aliases else []

/-- Its bytes. -/
def Turn.listed (turn : Turn W) : Bytes :=
  turn.listing.flatMap (Event.console .out)

/-- Two turns that differ in aliases and in how these were listed at the end. -/
structure Turn.SameButListing (turn turn' : Turn W) : Prop where
  start : turn.start.bare = turn'.start.bare
  asked : turn.asked.bare = turn'.asked.bare
  executed : turn.executed = turn'.executed
  finish : turn.finish.bare = turn'.finish.bare
  told : ∃ shared, turn.told = shared ++ turn.listing ∧ turn'.told = shared ++ turn'.listing

omit [Host W] in
/-- What differs in the notes only is the same but for the notes, also behind a listing. -/
theorem Noted.afterListingIf (noted : Noted base base' first second) (lists : Bool) :
    Noted (first.afterListingIf lists).trace (second.afterListingIf lists).trace
      (first.afterListingIf lists) (second.afterListingIf lists) := by
  cases noted with
  | intro session events aliases aliases' free =>
    cases lists
    · exact .intro session [] aliases aliases' free
    · exact .intro session [] aliases aliases' free

/-- A turn whose listing comes last. -/
theorem Turn.SameButListing.of_noted {turn turn' : Turn W} {between between' : Session W}
    (start : turn.start.bare = turn'.start.bare) (asked : turn.asked.bare = turn'.asked.bare)
    (executed : turn.executed = turn'.executed) (line : turn.line? = turn'.line?)
    (noted : Noted turn.start.trace turn'.start.trace between between')
    (finish : turn.finish = between.afterListingIf turn.lists)
    (finish' : turn'.finish = between'.afterListingIf turn.lists) :
    Turn.SameButListing turn turn' := by
  have lists : turn'.lists = turn.lists := by
    unfold Turn.lists
    rw [executed, line]
  have told : ∀ {turn : Turn W} {between : Session W} {events},
      between.trace = events ++ turn.start.trace →
      turn.finish = between.afterListingIf turn.lists →
      turn.told = events.reverse ++ turn.listing := by
    intro turn between events trace finish
    cases lists : turn.lists with
    | false =>
      have all : turn.finish.trace = events ++ turn.start.trace := by
        rw [finish, lists, ← trace]
        rfl
      rw [Turn.told_eq all, Turn.listing, lists]
      simp
    | true =>
      rw [lists] at finish
      have all : turn.finish.trace =
          ((Session.listing between.aliases).reverse ++ events) ++ turn.start.trace := by
        rw [finish, List.append_assoc, ← trace]
        rfl
      have aliases : turn.finish.aliases = between.aliases := by
        rw [finish]
        rfl
      rw [Turn.told_eq all, Turn.listing, lists, aliases]
      simp
  refine ⟨start, asked, executed, ?_, ?_⟩
  · rw [finish, finish']
    exact (noted.afterListingIf turn.lists).bare_eq
  · obtain ⟨events, trace, trace'⟩ := noted.trace
    refine ⟨events.reverse, told trace finish, told trace' ?_⟩
    rw [lists]
    exact finish'

/-- The next turns of two sessions that differ in their notes. -/
theorem Noted.nextTurn (noted : Noted first.trace second.trace first second) :
    Turn.SameButListing first.nextTurn second.nextTurn ∧
      (turn.on first).1 = (turn.on second).1 ∧
      Noted (turn.on first).2.trace (turn.on second).2.trace (turn.on first).2
        (turn.on second).2 := by
  have same : first.prompt = second.prompt := by
    rw [prompt, prompt, simulationUpToListing_noted.sees_directory noted]
  obtain ⟨result, asked, asked', read, read', still⟩ :=
    ((simulationUpToListing_noted.related_readLine first.prompt).meets noted).of_never
  rw [same] at read'
  -- The turn is told by what it comes to before a listing.
  have build : ∀ {between between'}, Noted first.trace second.trace between between' →
      first.nextTurn.executed = second.nextTurn.executed →
      (turn.on first).1 = (turn.on second).1 →
      (turn.on first).2 = between.afterListingIf first.nextTurn.lists →
      (turn.on second).2 = between'.afterListingIf first.nextTurn.lists →
      Turn.SameButListing first.nextTurn second.nextTurn ∧
        (turn.on first).1 = (turn.on second).1 ∧
        Noted (turn.on first).2.trace (turn.on second).2.trace (turn.on first).2
          (turn.on second).2 := by
    intro between between' noted' executed result finish finish'
    refine ⟨.of_noted noted.bare_eq ?_ executed ?_ noted' finish finish', result, ?_⟩
    · simp only [Session.nextTurn, read, read', still.bare_eq]
    · simp only [Turn.line?, Session.nextTurn, read, read']
    · rw [finish, finish']
      exact noted'.afterListingIf _
  cases result with
  | error fault =>
    have on := on_turn_of_fault read
    have on' := on_turn_of_fault read'
    apply build still
    all_goals simp [Session.nextTurn, Turn.lists, Session.afterListingIf, read, read', on, on']
  | ok line =>
    cases blank : Text.allBlank line with
    | true =>
      have on := on_turn_of_blank read blank
      have on' := on_turn_of_blank read' blank
      apply build still
      all_goals simp [Session.nextTurn, Turn.lists, Session.afterListingIf, read, read', blank, on, on']
    | false =>
      have on := on_turn_of_line read blank
      have on' := on_turn_of_line read' blank
      obtain ⟨outcome, between, between', noted', run, run', success⟩ := still.executeLine line
      have lists : first.nextTurn.lists = listsAliases line outcome := by
        simp [Session.nextTurn, Turn.lists, Turn.line?, Except.toOption, read, blank, run]
      have executed : first.nextTurn.executed = second.nextTurn.executed := by
        simp [Session.nextTurn, read, read', blank, run, run']
      rw [on_bind, run] at on
      rw [on_bind, run'] at on'
      cases outcome with
      | error fault =>
        apply build noted' executed
        all_goals simp [lists, on, on']
      | ok status =>
        by_cases leaves : status = .exit
        · -- A line that leaves lists nothing.
          subst leaves
          have unlisted : listsAliases line (.ok .exit) = false := by
            by_contra listed
            cases success (by simpa using listed)
          apply build (noted'.event leaving) executed
          all_goals simp [lists, on, on', unlisted, Session.afterListingIf, on_closeTurn_exit]
        · apply build noted' executed
          all_goals simp [lists, on, on', on_closeTurn_of_ne leaves]

/-! ## Runs -/

/-- Two sessions that differ in their notes take the same turns. -/
theorem Noted.run (noted : Noted first.trace second.trace first second) :
    (run first).1 = (run second).1 ∧ (run first).2.bare = (run second).2.bare ∧
      List.Forall₂ Turn.SameButListing (turns first) (turns second) := by
  revert second
  refine turns_induction (motive := fun first outcome turns' => ∀ {second},
    Noted first.trace second.trace first second →
      outcome.1 = (Session.run second).1 ∧ outcome.2.bare = (Session.run second).2.bare ∧
        List.Forall₂ Turn.SameButListing turns' (turns second)) ?_ ?_ first
  · intro first result after turned last second noted
    obtain ⟨same, result', still⟩ := noted.nextTurn
    rw [turned] at result' still
    have turned' : turn.on second = (result, (turn.on second).2) := Prod.ext result'.symm rfl
    obtain ⟨only, ended⟩ := turns_of_last turned' last
    rw [only, ended]
    exact ⟨rfl, still.bare_eq, .cons same .nil⟩
  · intro first after turned ih second noted
    obtain ⟨same, result', still⟩ := noted.nextTurn
    rw [turned] at result' still
    have turned' : turn.on second = (.ok false, (turn.on second).2) := Prod.ext result'.symm rfl
    obtain ⟨ended, final, rest⟩ := ih still
    rw [run_of_turn turned', turns_of_turn turned']
    exact ⟨ended, final, .cons same rest⟩

omit [Host W] in
/-- A listing is written to the output stream. -/
theorem effect_of_mem_listing {aliases : AliasTable} {event : Event}
    (mem : event ∈ listing aliases) : event.effect = .write .out := by
  obtain ⟨entry, _, rfl⟩ := List.mem_map.mp mem
  rfl

/-- What a session has done besides writing to its output stream, in order. -/
def besidesOutput (session : Session W) : List Event :=
  session.trace.reverse.filter (·.effect != .write .out)

omit [Host W] in
/-- The error stream is among it. -/
theorem written_err_eq (session : Session W) :
    session.written .err = session.besidesOutput.flatMap (Event.console .err) := by
  unfold written Trace.bytes besidesOutput
  generalize session.trace.reverse = events
  induction events with
  | nil => rfl
  | cons event rest ih =>
    rw [List.flatMap_cons, List.filter_cons, ih]
    split
    · rw [List.flatMap_cons]
    · next printed =>
      have kind : event.effect = .write .out := by simpa using printed
      rw [Event.console_eq_nil (by simp [kind]), List.nil_append]

/-- What turns tell besides their output is the same. -/
theorem besidesOutput_told {turns turns' : List (Turn W)}
    (same : List.Forall₂ Turn.SameButListing turns turns') :
    (turns.flatMap Turn.told).filter (·.effect != .write .out) =
      (turns'.flatMap Turn.told).filter (·.effect != .write .out) := by
  have unlisted : ∀ turn : Turn W, turn.listing.filter (·.effect != .write .out) = [] := by
    intro turn
    rw [List.filter_eq_nil_iff]
    intro event mem
    unfold Turn.listing at mem
    split at mem
    · simp [effect_of_mem_listing mem]
    · cases mem
  induction same with
  | nil => rfl
  | cons turn _ ih =>
    obtain ⟨shared, told, told'⟩ := turn.told
    rw [List.flatMap_cons, List.flatMap_cons, List.filter_append, List.filter_append, told, told',
      List.filter_append, List.filter_append, unlisted, unlisted, ih]

/-- What turns write to the output stream is shared, but for the listings. -/
theorem output_told {turns turns' : List (Turn W)}
    (same : List.Forall₂ Turn.SameButListing turns turns') :
    ∃ shared : List Bytes, shared.length = turns.length ∧
      (turns.flatMap Turn.told).flatMap (Event.console .out) =
        (List.zipWith (· ++ ·) shared (turns.map Turn.listed)).flatten ∧
      (turns'.flatMap Turn.told).flatMap (Event.console .out) =
        (List.zipWith (· ++ ·) shared (turns'.map Turn.listed)).flatten := by
  induction same with
  | nil => exact ⟨[], rfl, rfl, rfl⟩
  | cons turn _ ih =>
    obtain ⟨shared, length, first, second⟩ := ih
    obtain ⟨events, told, told'⟩ := turn.told
    refine ⟨events.flatMap (Event.console .out) :: shared, ?_, ?_, ?_⟩
    · rw [List.length_cons, List.length_cons, length]
    · rw [List.flatMap_cons, List.flatMap_append, first, told, List.flatMap_append]
      rfl
    · rw [List.flatMap_cons, List.flatMap_append, second, told', List.flatMap_append]
      rfl

/-- Two runs that differ in the listings of aliases only. -/
structure SameButListings (first second : Session W) : Prop where
  result : (Session.run first).1 = (Session.run second).1
  /-- Turn by turn both are in the same directory, show the same one, and have the same input left; they
  carry out the same lines with the same status, and tell the same, but for the listings. -/
  turns : List.Forall₂ Turn.SameButListing (turns first) (turns second)
  final : (Session.run first).2.bare = (Session.run second).2.bare
  /-- The same input is read, the same programs are started with the same arguments and the same input, and
  all in the same order. -/
  besides : (Session.run first).2.besidesOutput = (Session.run second).2.besidesOutput
  err : (Session.run first).2.written .err = (Session.run second).2.written .err
  /-- In each turn both output streams get the same, and behind it the listing of their own aliases, if the
  line was `alias`. -/
  out : ∃ shared : List Bytes, shared.length = (Session.turns first).length ∧
    (Session.run first).2.written .out = first.written .out ++
      (List.zipWith (· ++ ·) shared ((Session.turns first).map Turn.listed)).flatten ∧
    (Session.run second).2.written .out = second.written .out ++
      (List.zipWith (· ++ ·) shared ((Session.turns second).map Turn.listed)).flatten

/-- Sessions that differ in their aliases run alike. -/
theorem Noted.sameButListings (noted : Noted first.trace second.trace first second)
    (start : first.trace = second.trace) : SameButListings first second := by
  obtain ⟨result, final, same⟩ := noted.run
  have besides : (Session.run first).2.besidesOutput = (Session.run second).2.besidesOutput := by
    unfold besidesOutput
    rw [trace_run, trace_run, List.filter_append, List.filter_append, besidesOutput_told same, start]
  have output : ∀ session : Session W, (Session.run session).2.written .out =
      session.written .out ++ ((turns session).flatMap Turn.told).flatMap (Event.console .out) := by
    intro session
    unfold written Trace.bytes
    rw [trace_run, List.flatMap_append]
  obtain ⟨shared, length, said, said'⟩ := output_told same
  refine ⟨result, same, final, besides, ?_, shared, length, ?_, ?_⟩
  · rw [written_err_eq, written_err_eq, besides]
  · rw [output, said]
  · rw [output, said']

/-- **Aliases are inert.** On streams without a limit, whatever state a session starts in, whatever its input
is and whatever the host answers: runs that start with different aliases end alike, read the same, start the
same programs, are in the same directory after every turn and write the same, but for the listings that `alias`
prints. A line that does not start with `alias` leaves the aliases as they are. -/
theorem run_withAliases (session : Session W) (aliases aliases' : AliasTable) :
    SameButListings ((session.withRoom none none).withAliases aliases)
        ((session.withRoom none none).withAliases aliases') ∧
      ∀ (any : Session W) (line : String),
        ((executeLine line).on any).2.aliases = any.aliases ∨
          (Token.tokens line).head? = some "alias" := by
  constructor
  · apply Noted.sameButListings
    · apply Noted.intro (session.withRoom none none) []
      intro stream
      cases stream <;> rfl
    · rfl
  · intro any line
    rcases aliases_executeLine any line with same | asks
    · exact .inl same
    · exact .inr (by rw [asks]; rfl)

end

end

end Session

end LineShell
