import LineShell.Machine.Basic
import LineShell.Proofs.Session.Limit
import LineShell.Proofs.Text.Ansi
import LineShell.Proofs.Text.Lossy

/-!
# Sessions in colour

The highlighters of a session decide how its streams look, and nothing else about it. But a text in colour is
longer, and a stream that takes the plain one may not take it.

* `Event.Shown`: one write, shown in two ways.
* `Session.Alike`: two sessions that differ in how they look only.
* `Session.simulation_alike`: they do the same.
* `Session.run_shownIn`: so a run is the same in every look, and says the same, as long as no write fails.
* `Machine.colour_ends_session`: what happens where one does.
-/

namespace LineShell

variable {W : Type}

/-! ## Writes -/

/-- Whether an event is a write of the session's own. -/
def Event.writes : Event → Bool
  | wrote .. => true
  | _ => false

/-- The same event in two looks. Only writes look different, and they say the same. -/
inductive Event.Shown (look look' : Stream → Highlighter) : Event → Event → Prop
  | same (event : Event) : event.writes = false → Event.Shown look look' event event
  | wrote (stream : Stream) (text : Highlighter → String) : Highlighter.Shows text →
      Event.Shown look look' (.wrote stream (Utf8.encode (text (look stream))))
        (.wrote stream (Utf8.encode (text (look' stream))))

section
variable {look look' : Stream → Highlighter} {events events' : List Event}

theorem Event.console_of_writes {event : Event} (silent : event.writes = false) (stream : Stream) :
    event.console stream = [] := by
  cases event with
  | wrote => cases silent
  | _ => rfl

/-- What the writes of two looks say, stream by stream. -/
theorem console_of_shown (shown : List.Forall₂ (Event.Shown look look') events events')
    (stream : Stream) : ∃ seen said : List Char,
      events.flatMap (Event.console stream) = Utf8.encodeChars seen ∧
      events'.flatMap (Event.console stream) = Utf8.encodeChars said ∧
      (look stream = look' stream → seen = said) ∧
      (look stream = .colored → look' stream = .plain → Ansi.escape ∉ said →
        Ansi.Erases seen said) := by
  induction shown with
  | nil => exact ⟨[], [], rfl, rfl, fun _ => rfl, fun _ _ _ => .nil⟩
  | cons event _ ih =>
    obtain ⟨seen, said, first, second, alike, erases⟩ := ih
    cases event with
    | same event silent =>
      refine ⟨seen, said, ?_, ?_, alike, erases⟩
      · rw [List.flatMap_cons, Event.console_of_writes silent, List.nil_append, first]
      · rw [List.flatMap_cons, Event.console_of_writes silent, List.nil_append, second]
    | wrote target text shows =>
      rw [List.flatMap_cons, List.flatMap_cons, first, second, Event.console, Event.console]
      by_cases here : target = stream
      · subst here
        rw [if_pos rfl, if_pos rfl]
        refine ⟨(text (look target)).toList ++ seen, (text (look' target)).toList ++ said, ?_, ?_, ?_, ?_⟩
        · exact (Utf8.encodeChars_append _ _).symm
        · exact (Utf8.encodeChars_append _ _).symm
        · intro same
          rw [same, alike same]
        · intro colored plain none
          rw [List.mem_append, not_or] at none
          have rest := erases colored plain none.2
          rw [plain] at none
          rw [colored, plain]
          exact (shows none.1).append rest
      · rw [if_neg here, if_neg here]
        exact ⟨seen, said, rfl, rfl, alike, erases⟩

/-- The other events are the same. -/
theorem filter_of_shown (shown : List.Forall₂ (Event.Shown look look') events events') :
    events.filter (!·.writes) = events'.filter (!·.writes) := by
  induction shown with
  | nil => rfl
  | cons event _ ih =>
    cases event with
    | same event silent => rw [List.filter_cons, List.filter_cons, ih]
    | wrote => exact ih

end

namespace Session

open Act

/-- What a session has done besides writing to its streams, in order. -/
def doings (session : Session W) : List Event :=
  session.trace.reverse.filter (!·.writes)

/-- The session with other highlighters and another trace. -/
def retold (session : Session W) (look : Stream → Highlighter) (trace : Trace) : Session W :=
  { session.shownIn look with trace }

section
variable [Host W] {start : Trace} {look look' : Stream → Highlighter}

/-! ## Two looks side by side -/

/-- Two sessions on streams without a limit that differ in their highlighters, and in how what they wrote
looks. -/
inductive Alike (start : Trace) (look look' : Stream → Highlighter) :
    Session W → Session W → Prop
  | intro (session : Session W) (events events' : List Event) :
      (∀ stream, session.console.room stream = none) →
      List.Forall₂ (Event.Shown look look') events events' →
      Alike start look look' (session.retold look (events ++ start))
        (session.retold look' (events' ++ start))

/-- A text that says the same in both looks. -/
theorem related_print_shown (stream : Stream) {text : Highlighter → String}
    (shows : Highlighter.Shows text) :
    Related (Alike start look look') Never (print (W := W) stream (text (look stream)))
      (print stream (text (look' stream))) where
  steps := (within_print stream _).steps_all
  meets := by
    rintro _ _ ⟨session, events, events', free, shown⟩
    -- The texts may differ in length, so it matters that no room is spent on them.
    have put : ∀ look trace bytes, (write stream bytes).on (session.retold look trace) =
        (.ok (), session.retold look (.wrote stream bytes :: trace)) := by
      intro look trace bytes
      have room : (session.retold look trace).console.room stream = none := free stream
      rw [on_write_of_room room, afterWrite_of_room room]
      rfl
    unfold print
    rw [put, put]
    exact .together _ (.intro session (_ :: events) (_ :: events') free
      (.cons (.wrote stream text shows) shown))

omit [Host W] in
/-- What neither writes nor looks at the highlighters happens in both looks alike. -/
theorem Alike.step {first second : Session W} (alike : Alike start look look' first second)
    (change : Session W → Session W) (new : Session W → List Event)
    (silent : ∀ session, ∀ event ∈ new session, event.writes = false)
    (retold : ∀ session look trace,
      change (session.retold look trace) = (change session).retold look (new session ++ trace))
    (room : ∀ session stream,
      (change session).console.room stream = session.console.room stream) :
    Alike start look look' (change first) (change second) := by
  cases alike with
  | intro session events events' free shown =>
    rw [retold, retold, ← List.append_assoc, ← List.append_assoc]
    apply Alike.intro
    · intro stream
      rw [room]
      exact free stream
    · apply List.rel_append _ shown
      rw [List.forall₂_same]
      intro event mem
      exact .same event (silent session event mem)

omit [Host W] in
theorem Alike.event {first second : Session W} (alike : Alike start look look' first second)
    {event : Event} (silent : event.writes = false) :
    Alike start look look' (first.afterEvent event) (second.afterEvent event) := by
  apply alike.step (afterEvent · event) fun _ => [event]
  · intro _ event' mem
    rw [List.mem_singleton.mp mem]
    exact silent
  · intro session look trace
    rfl
  · intro session stream
    rfl

theorem Alike.launch {first second : Session W} (alike : Alike start look look' first second)
    (program : String) (args : List String) :
    Alike start look look' (first.afterLaunch program args)
      (second.afterLaunch program args) := by
  apply alike.step (afterLaunch · program args) fun session =>
    ((session.launched program args).output.map fun part =>
      Event.emitted part.1 part.2).reverse ++
    [.launched program args
      (session.console.input.source.take (session.launched program args).taken)]
  · intro session event mem
    rcases List.mem_append.mp mem with mem | mem
    · obtain ⟨part, _, rfl⟩ := List.mem_map.mp (List.mem_reverse.mp mem)
      rfl
    · rw [List.mem_singleton.mp mem]
      rfl
  · intro session look trace
    rw [List.append_assoc]
    -- What the host answers does not depend on the highlighters or on the trace.
    rfl
  · intro session stream
    rfl

omit [Host W] in
/-- The highlighters are those of the look. -/
theorem Alike.highlighters {first second : Session W}
    (alike : Alike start look look' first second) :
    (first.outHighlighter = look .out ∧ first.errHighlighter = look .err) ∧
      second.outHighlighter = look' .out ∧ second.errHighlighter = look' .err := by
  cases alike
  exact ⟨⟨rfl, rfl⟩, rfl, rfl⟩

theorem related_print_alike (stream : Stream) (text : String) :
    Related (Alike start look look') Never (print (W := W) stream text) (print stream text) := by
  have same : Highlighter.Shows fun _ => text := .const text
  have shown : Related (Alike (W := W) start look look') Never _ _ := related_print_shown stream same
  exact shown

/-- A line that says the same in both looks. -/
theorem related_printLine_shown (stream : Stream) {text : Highlighter → String}
    (shows : Highlighter.Shows text) :
    Related (Alike start look look') Never (printLine (W := W) stream (text (look stream)))
      (printLine stream (text (look' stream))) := by
  have line : Highlighter.Shows fun highlighter => text highlighter ++ "\n" :=
    shows.append (.const "\n")
  have shown : Related (Alike (W := W) start look look') Never _ _ := related_print_shown stream line
  exact shown

theorem related_printLogo_alike :
    Related (Alike (W := W) start look look') Never printLogo printLogo := by
  apply Related.look
  · intro session
    exact (within_printLine _ _).steps_all session
  · intro first second alike
    obtain ⟨⟨out, _⟩, out', _⟩ := alike.highlighters
    rw [out, out']
    exact (related_printLine_shown .out (.styled _ logo)).meets alike

/-- The names in the help text are styled behind their padding. -/
theorem shows_helpLine (builtin : Builtin) :
    Highlighter.Shows fun highlighter => helpLine highlighter builtin := by
  have margin : Highlighter.Shows fun _ => "  " := .const "  "
  have name : Highlighter.Shows (·.name (Text.padRight 8 builtin.name)) := .styled _ _
  exact ((margin.append name).append (.const " ")).append (.const builtin.description)

/-- A line in both looks. -/
def PrintsAlike (start : Trace) (look look' : Stream → Highlighter)
    (line line' : String) : Prop :=
  Related (Alike (W := W) start look look') Never (printLine .out line) (printLine .out line')

/-- The help text is the same line by line. -/
theorem forall₂_helpLines : List.Forall₂ (PrintsAlike (W := W) start look look')
    (helpLines (look .out)) (helpLines (look' .out)) := by
  have same : ∀ texts : List String,
      List.Forall₂ (PrintsAlike (W := W) start look look') texts texts := by
    intro texts
    rw [List.forall₂_same]
    intro text _
    exact related_print_alike .out _
  apply List.rel_append (List.rel_append (same _) _) (same _)
  rw [List.forall₂_map_left_iff, List.forall₂_map_right_iff, List.forall₂_same]
  intro builtin _
  have shown : Related (Alike (W := W) start look look') Never _ _ :=
    related_printLine_shown .out (shows_helpLine builtin)
  exact shown

theorem related_help_alike :
    Related (Alike (W := W) start look look') Never help help := by
  apply Related.bind related_printLogo_alike
  intro _
  apply Related.look
  · intro session
    exact Within.steps_all (.bind (within_printLines _) fun _ => .pure _) session
  · intro first second alike
    obtain ⟨⟨out, _⟩, out', _⟩ := alike.highlighters
    rw [out, out']
    exact (Related.bind (related_printLines forall₂_helpLines) fun _ => .pure _).meets alike

theorem related_report_alike (fault : CommandFault) :
    Related (Alike (W := W) start look look') Never (report fault) (report fault) := by
  apply Related.look
  · intro session
    exact Within.steps_all (.bind (within_printLine _ _) fun _ => .pure _) session
  · intro first second alike
    obtain ⟨⟨_, err⟩, _, err'⟩ := alike.highlighters
    rw [err, err']
    exact (Related.bind (related_printLine_shown .err (.styled _ fault.message))
      fun _ => .pure _).meets alike

/-- A session does the same in every look. -/
theorem simulation_alike : Simulation (Alike (W := W) start look look') Never := by
  have world : ∀ {first second : Session W}, Alike start look look' first second →
      first.world = second.world := by
    rintro _ _ ⟨session, events, events', free, shown⟩
    rfl
  have input : ∀ {first second : Session W}, Alike start look look' first second →
      first.console.input = second.console.input := by
    rintro _ _ ⟨session, events, events', free, shown⟩
    rfl
  constructor
  case' toSimulationUpToListing => constructor
  case sees_world => exact world
  case sees_directory =>
    rintro _ _ ⟨session, events, events', free, shown⟩
    rfl
  case after_log =>
    intro first second alike record
    exact alike.event rfl
  case after_enter =>
    intro first second alike path world _
    exact alike.step (afterEnter · path world) (fun _ => [.entered path]) (by simp [Event.writes])
      (fun _ _ _ => rfl) fun _ _ => rfl
  case after_refresh =>
    intro first second alike text _
    exact alike.step (withDirectory · text) (fun _ => []) (by simp) (fun _ _ _ => rfl) fun _ _ => rfl
  case after_store =>
    intro first second alike name value
    exact alike.step (afterStore · name value) (fun _ => [.stored name value])
      (by simp [Event.writes]) (fun _ _ _ => rfl) fun _ _ => rfl
  case after_launch =>
    intro first second alike program args
    refine ⟨?_, alike.launch program args⟩
    cases alike
    rfl
  case on_print => exact related_print_alike .out
  case on_readEntry =>
    apply related_readEntry (related_print_alike .out) world input
    · intro first second alike record
      exact alike.event rfl
    · intro first second alike reader _
      exact alike.step (afterPiece · reader) (fun _ => [.took reader.piece.1])
        (by simp [Event.writes]) (fun _ _ _ => rfl) fun _ stream => by cases stream <;> rfl
    · intro first second alike editor prompt _
      exact alike.step (afterAnswer · editor prompt)
        (fun session => [.answered prompt (editor.answer session.world prompt)])
        (by simp [Event.writes]) (fun _ _ _ => rfl) fun _ stream => by cases stream <;> rfl
  case on_remember =>
    apply related_remember input
    intro first second alike editor line _
    exact alike.step (afterRecorded · editor line) (fun _ => [.recorded line])
      (by simp [Event.writes]) (fun _ _ _ => rfl) fun _ stream => by cases stream <;> rfl
  case on_logo => exact related_printLogo_alike
  case on_help => exact related_help_alike
  case on_listing =>
    apply related_listAliases (related_print_alike .out)
    rintro _ _ ⟨session, events, events', free, shown⟩
    rfl
  case on_report => exact related_report_alike

/-! ## Runs -/

/-- Two runs that differ in how they look only. -/
structure SaysTheSame (start : Session W) (look look' : Stream → Highlighter)
    (first second : Except SessionFault Unit × Session W) : Prop where
  result : first.1 = second.1
  input : first.2.console.input = second.2.console.input
  world : first.2.world = second.2.world
  directory : first.2.directory = second.2.directory
  aliases : first.2.aliases = second.2.aliases
  /-- The same input is read, the same programs are started with the same input, and all in the same order. -/
  doings : first.2.doings = second.2.doings
  /-- A stream depends on its own highlighter only. -/
  stream : ∀ stream, look stream = look' stream →
    first.2.written stream = second.2.written stream
  /-- Behind the start, a coloured stream without its sequences is the plain one, if that has none itself. -/
  erased : ∀ stream, look stream = .colored → look' stream = .plain → ∃ seen said : List Char,
    first.2.written stream = start.written stream ++ Utf8.encodeChars seen ∧
    second.2.written stream = start.written stream ++ Utf8.encodeChars said ∧
    (Ansi.escape ∉ said → Ansi.erase seen = said)

omit [Host W] in
/-- What is said without limits is said on any streams, if no write fails. -/
theorem SaysTheSame.withRoom {session : Session W} {look look' : Stream → Highlighter}
    {first second : Except SessionFault Unit × Session W}
    (same : SaysTheSame session look look' first second) (out err out' err' : Option Nat) :
    SaysTheSame session look look' (first.1, first.2.withRoom out err)
      (second.1, second.2.withRoom out' err') where
  result := same.result
  input := same.input
  world := same.world
  directory := same.directory
  aliases := same.aliases
  doings := same.doings
  stream := same.stream
  erased := same.erased

/-- Two looks of a session on streams without a limit. -/
theorem run_shownIn_free (session : Session W) (look look' : Stream → Highlighter) :
    SaysTheSame session look look' (run ((session.withRoom none none).shownIn look))
      (run ((session.withRoom none none).shownIn look')) := by
  have alike : Alike session.trace look look' ((session.withRoom none none).shownIn look)
      ((session.withRoom none none).shownIn look') := by
    apply Alike.intro (session.withRoom none none) [] [] _ .nil
    intro stream
    cases stream <;> rfl
  have meets := simulation_alike.meets_run alike
  generalize run ((session.withRoom none none).shownIn look) = first at meets ⊢
  generalize run ((session.withRoom none none).shownIn look') = second at meets ⊢
  cases meets with
  | parted fault _ split => exact split.elim
  | together result alike =>
    cases alike with
    | intro last events events' free shown =>
      have shown' := List.forall₂_reverse_iff.mpr shown
      have written : ∀ (look : Stream → Highlighter) (events : List Event) stream,
          (last.retold look (events ++ session.trace)).written stream =
            session.written stream ++ events.reverse.flatMap (Event.console stream) := by
        intro look events stream
        exact written_eq_of_trace events rfl stream
      refine ⟨rfl, rfl, rfl, rfl, rfl, ?_, ?_, ?_⟩
      · show (events ++ session.trace).reverse.filter _ = (events' ++ session.trace).reverse.filter _
        rw [List.reverse_append, List.reverse_append, List.filter_append, List.filter_append,
          filter_of_shown shown']
      · intro stream same
        obtain ⟨seen, said, first, second, alike, _⟩ := console_of_shown shown' stream
        rw [written, written, first, second, alike same]
      · intro stream colored plain
        obtain ⟨seen, said, first, second, _, erases⟩ := console_of_shown shown' stream
        refine ⟨seen, said, ?_, ?_, ?_⟩
        · rw [written, first]
        · rw [written, second]
        · intro none
          exact (erases colored plain none).eq

/-- **Colour never changes what a session does or says**, as long as no write fails. Whatever state a session
starts in, whatever its input is, whatever its streams take and whatever the host answers: for every two choices of
highlighters the runs end alike, in the same state and with the same input left, they do the same, and they say
the same. -/
theorem run_shownIn (session : Session W) (look look' : Stream → Highlighter)
    (unfailing : ¬WriteFails (run (session.shownIn look)))
    (unfailing' : ¬WriteFails (run (session.shownIn look'))) :
    SaysTheSame session look look' (run (session.shownIn look)) (run (session.shownIn look')) := by
  obtain ⟨out, err, first⟩ := run_unbounded _ unfailing
  obtain ⟨out', err', second⟩ := run_unbounded _ unfailing'
  rw [first, second]
  exact (run_shownIn_free session look look').withRoom out err out' err'

end

end Session

/-! ## A report in colour -/

namespace Machine

open Session

/-- A session at the root of a machine, with a script. -/
def scripted (script : String) (outRoom : Option Nat) : Session Machine :=
  { console := { input := .reader (.ofScript (Utf8.encode script)), outRoom }
    world := { tree := {} }
    directory := "/" }

/-- A report in colour is the plain one between sequences. -/
theorem run_shownIn_report : ∃ seen said : String,
    (run ((scripted "cd\n" none).shownIn fun _ => .colored)).2.written .err = Utf8.encode seen ∧
      (run ((scripted "cd\n" none).shownIn fun _ => .plain)).2.written .err = Utf8.encode said ∧
      seen = "\x1B[31m\x1B[1musage: cd <directory>\x1B[0m\n" ∧ said = "usage: cd <directory>\n" ∧
      Ansi.erase seen.toList = said.toList := by
  have free : ∀ (look : Stream → Highlighter) stream,
      ((scripted "cd\n" none).shownIn look).console.room stream = none := by
    intro look stream
    cases stream <;> rfl
  have same := run_shownIn (scripted "cd\n" none) (fun _ => .colored) (fun _ => .plain)
    (not_writeFails_of_room (free _)) (not_writeFails_of_room (free _))
  obtain ⟨seen, said, first, second, erased⟩ := same.erased .err rfl rfl
  have shown : (run ((scripted "cd\n" none).shownIn fun _ => .colored)).2.written .err =
      Utf8.encode "\x1B[31m\x1B[1musage: cd <directory>\x1B[0m\n" := by decide +kernel
  have plain : (run ((scripted "cd\n" none).shownIn fun _ => .plain)).2.written .err =
      Utf8.encode "usage: cd <directory>\n" := by decide +kernel
  obtain rfl := Utf8.eq_of_encodeChars_eq (shown.symm.trans first)
  obtain rfl := Utf8.eq_of_encodeChars_eq (plain.symm.trans second)
  exact ⟨_, _, shown, plain, rfl, rfl, erased (by decide)⟩

/-- **A session can end in colour** where it does not end without: the logo in colour is too long for a stream that
takes the plain one. -/
theorem colour_ends_session : ¬∀ (session : Session Machine) (look look' : Stream → Highlighter),
    SaysTheSame session look look' (run (session.shownIn look)) (run (session.shownIn look')) := by
  intro same
  have plain : (run ((scripted "logo\nexit\n" (some 140)).shownIn fun _ => .plain)).1 = .ok () := by
    decide +kernel
  have colored : (run ((scripted "logo\nexit\n" (some 140)).shownIn fun _ => .colored)).1 =
      .error (.io .closed) := by decide +kernel
  have result := (same (scripted "logo\nexit\n" (some 140)) (fun _ => .plain) fun _ => .colored).result
  rw [plain, colored] at result
  cases result

end Machine

end LineShell
