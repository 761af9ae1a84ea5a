import LineShell.Proofs.Message
import LineShell.Proofs.Session.ChangeDirectory
import LineShell.Proofs.Session.Read

/-!
# Outcomes of lines

What a line gets wrong is known from its tokens and from what the host answers. A line that gets something
wrong is reported, and nothing else it does can be seen on the error stream.

* `Session.fault?`: what a list of tokens gets wrong.
* `Session.executeLine_launched`: what a line does before and behind its program.
* `Session.executeLine_of_fault`: then the line ends with the report of it.
* `Session.executeLine_of_no_fault`: otherwise it leaves the error stream alone.
* `Session.status_executeLine`: the status of a line.
-/

namespace LineShell

variable {W α β : Type}

namespace Act

/-- The act gives nothing but this value. -/
def Returns (x : α) (act : Act W α) : Prop :=
  ∀ session y after, act.on session = (.ok y, after) → y = x

theorem Returns.pure (x : α) : Returns x (Pure.pure x : Act W α) := by
  rintro session y after eq
  cases eq
  rfl

theorem Returns.bind {y : β} {act : Act W α} {next : α → Act W β}
    (h : ∀ x, Returns y (next x)) : Returns y (act >>= next) := by
  intro session z after eq
  obtain ⟨x, between, _, rest⟩ := Session.on_bind_eq_ok eq
  exact h x between z after rest

end Act

namespace Session

open Act

/-! ## What a line gets wrong -/

section
variable [Host W]

/-- What a change of directory gets wrong. -/
def moveFault? (world : W) (target : String) : Option CommandFault :=
  match Path.expand? (Host.home world) target with
  | none => some .noHome
  | some path =>
    match Host.enter world path with
    | .error cause => some (refusal target cause)
    | .ok entered =>
      match Directory.read entered with
      | .error cause => some (.directory target cause)
      | .ok _ => none

/-- What a `cd` with these arguments gets wrong. -/
def cdFault? (world : W) : List String → Option CommandFault
  | [target] => moveFault? world target
  | _ => some (.usage "cd <directory>")

/-- What a program that was asked for comes to grief with. -/
def launchFault? (program : String) : LaunchEnd → Option CommandFault
  | .refused cause => some (.launch (.refused program cause))
  | .lost cause => some (.launch (.lost program cause))
  | .exited _ _ => none

/-- What a list of tokens gets wrong in a session. Only `cd` and programs can get anything wrong. -/
def fault? (session : Session W) : List String → Option CommandFault
  | [] => none
  | name :: args =>
    match Builtin.lookup? name with
    | none => launchFault? name (session.launched name args).result
    | some .cd => cdFault? session.world args
    | some _ => none

/-- The fault is decided by the world and by the input. -/
theorem fault?_congr {session begun : Session W} (world : begun.world = session.world)
    (console : begun.console = session.console) (tokens : List String) :
    begun.fault? tokens = session.fault? tokens := by
  cases tokens with
  | nil => rfl
  | cons name args => simp only [fault?, launched, world, console]

theorem MoveEnd.fault?_eq {session after : Session W} {target : String}
    {outcome : Except CommandFault Unit} (ended : MoveEnd session target outcome after) :
    moveFault? session.world target =
      match outcome with
      | .ok _ => none
      | .error fault => some fault := by
  cases ended with
  | homeless expanded => simp only [moveFault?, expanded]
  | refused path cause expanded entered => simp only [moveFault?, expanded, entered]
  | unreadable path world cause expanded entered read =>
    simp only [moveFault?, expanded, entered, read]
  | moved path world text expanded entered read => simp only [moveFault?, expanded, entered, read]

/-! ## Commands with a fault -/

/-- The effects of a line that cannot be seen on the error stream. -/
def quiet : List Effect :=
  [.write .out, .log, .read, .launch, .enter, .refresh, .store]

/-- What a program leaves, and what is left to do. -/
theorem on_launch (program : String) (args : List String) (session : Session W) :
    (launch (program :: args)).on session =
      match (session.launched program args).result with
      | .refused cause => (.ok (.error (.refused program cause)), session.afterLaunch program args)
      | .lost cause => (.ok (.error (.lost program cause)), session.afterLaunch program args)
      | .exited pid status => (.ok (.ok ()), (session.afterLaunch program args).afterEvent
          (.logged { level := .debug
                     message := s!"{program} (pid {pid}) exited with {status.text}" })) := by
  have same : (Host.launch session.world program args session.console.input.source).result =
    (session.launched program args).result := rfl
  simp only [launch, on_bind, on_get, on_modify, same]
  cases (session.launched program args).result <;> rfl

/-- Behind a program there is at most a diagnostic or a report. -/
theorem steps_behind_launch (program : String) (args : List String) (session : Session W) :
    Steps [.log, .write .err] (session.afterLaunch program args)
      ((launch (program :: args) >>= conclude).on session).2 := by
  rw [on_bind, on_launch]
  cases (session.launched program args).result with
  | exited pid status => exact .single (.log _) (by simp)
  | refused cause =>
    exact ((within_report (.launch (.refused program cause))).mono (by simp) _).steps
  | lost cause => exact ((within_report (.launch (.lost program cause))).mono (by simp) _).steps

/-- A line that is a program logs something, starts the program, and says what became of it. -/
theorem executeLine_launched {line name : String} {args : List String}
    (typed : Token.tokens line = name :: args) (other : Builtin.lookup? name = none)
    (session : Session W) :
    ∃ begun, Steps [.log] session begun ∧
      Steps [.log, .write .err] (begun.afterLaunch name args) ((executeLine line).on session).2 := by
  obtain ⟨begun, logged, on⟩ := executeLine_program typed other session
  rw [on]
  exact ⟨begun, logged, steps_behind_launch name args begun⟩

theorem MoveEnd.steps {session after : Session W} {target : String}
    {outcome : Except CommandFault Unit} (ended : MoveEnd session target outcome after) :
    Steps quiet session after := by
  cases ended with
  | homeless => exact .refl
  | refused => exact .refl
  | unreadable path world cause _ entered _ =>
    exact .single (.enter path world entered) (by simp [quiet])
  | moved path world text _ entered read =>
    have enters : Steps quiet session (session.afterEnter path world) :=
      .single (.enter path world entered) (by simp [quiet])
    have reads : Steps quiet (session.afterEnter path world)
        ((session.afterEnter path world).withDirectory text) :=
      .single (.refresh text read) (by simp [quiet])
    exact (enters.trans reads).trans (.single (.log _) (by simp [quiet]))

theorem cd_of_fault {name : String} {args : List String} {session : Session W}
    {fault : CommandFault} (wrong : cdFault? session.world args = some fault) :
    ∃ between, Steps quiet session between ∧
      (cd (name :: args)).on session = (report fault).on between := by
  rcases cd_cases name args session with ⟨target, after, rfl, moved, _⟩ |
      ⟨target, _, between, rfl, ended, eq⟩ | ⟨arity, eq⟩
  · rw [cdFault?, moved.fault?_eq] at wrong
    cases wrong
  · rw [cdFault?, ended.fault?_eq] at wrong
    cases wrong
    exact ⟨between, ended.steps, eq⟩
  · unfold cdFault? at wrong
    split at wrong
    · exact absurd rfl arity
    · cases wrong
      exact ⟨session, .refl, eq⟩

theorem program_of_fault {name : String} {args : List String} {session : Session W}
    {fault : CommandFault}
    (wrong : launchFault? name (session.launched name args).result = some fault) :
    ∃ between, Steps quiet session between ∧
      (launch (name :: args) >>= conclude).on session = (report fault).on between := by
  refine ⟨_, .single (.launch name args) (by simp [quiet]), ?_⟩
  rw [on_bind, on_launch]
  unfold launchFault? at wrong
  split at wrong <;> cases wrong <;> rfl

/-- A line that gets something wrong does nothing to be seen before it reports that. -/
theorem executeLine_of_fault {line : String} {session : Session W} {fault : CommandFault}
    (wrong : session.fault? (Token.tokens line) = some fault) :
    ∃ between, Steps quiet session between ∧
      (executeLine line).on session = (report fault).on between := by
  cases tokens : Token.tokens line with
  | nil =>
    rw [tokens] at wrong
    cases wrong
  | cons name args =>
    rw [tokens] at wrong
    cases named : Builtin.lookup? name with
    | none =>
      obtain ⟨begun, logged, on⟩ := executeLine_program tokens named session
      rw [← fault?_congr (logged.world_eq (by simp) (by simp)) logged.console_eq] at wrong
      simp only [fault?, named] at wrong
      obtain ⟨between, steps, eq⟩ := program_of_fault wrong
      exact ⟨between, (logged.mono (by simp [quiet])).trans steps, on.trans eq⟩
    | some builtin =>
      obtain ⟨begun, logged, on⟩ := executeLine_builtin tokens named session
      rw [← fault?_congr (logged.world_eq (by simp) (by simp)) logged.console_eq] at wrong
      simp only [fault?, named] at wrong
      cases builtin with
      | cd =>
        obtain ⟨between, steps, eq⟩ := cd_of_fault wrong
        exact ⟨between, (logged.mono (by simp [quiet])).trans steps, on.trans eq⟩
      | _ => cases wrong

/-! ## Commands without a fault -/

theorem within_quiet_runBuiltin {builtin : Builtin} (other : builtin ≠ .cd) (args : List String) :
    Within quiet (runBuiltin builtin args : Act W Status) := by
  cases builtin with
  | exit => exact (within_exit _).mono (by simp [quiet])
  | help => exact within_help.mono (by simp [quiet])
  | logo => exact .bind (within_printLogo.mono (by simp [quiet])) fun _ => .pure _
  | cd => exact absurd rfl other
  | pwd => exact within_pwd.mono (by simp [quiet])
  | aliases =>
    refine (within_manageAliases _).mono ?_
    split <;> simp [quiet]

omit [Host W] in
theorem returns_listAliases : Returns .success (listAliases : Act W Status) :=
  .bind fun _ => .bind fun _ => .pure _

omit [Host W] in
theorem returns_finishAlias (answer : Option (String × String)) :
    Returns .success (finishAlias answer : Act W Status) := by
  cases answer <;> exact .bind fun _ => returns_listAliases

/-- The status of the builtin commands that get nothing wrong. -/
theorem returns_runBuiltin {builtin : Builtin} (other : builtin ≠ .cd) (args : List String) :
    Returns (if builtin = .exit then .exit else .success)
      (runBuiltin builtin args : Act W Status) := by
  cases builtin with
  | exit =>
    show Returns Status.exit (exit args)
    unfold exit
    split
    · exact .bind fun _ => .pure _
    · exact .pure _
  | help => exact .bind fun _ => .bind fun _ => .bind fun _ => .pure _
  | logo => exact .bind fun _ => .pure _
  | cd => exact absurd rfl other
  | pwd => exact .bind fun _ => .bind fun _ => .pure _
  | aliases =>
    show Returns Status.success (manageAliases args)
    rw [manageAliases_eq]
    split
    · exact .bind fun answer => returns_finishAlias answer
    · exact returns_listAliases

theorem cd_of_no_fault {name : String} {args : List String} {session : Session W}
    (right : cdFault? session.world args = none) :
    ∃ after, Steps quiet session after ∧ (cd (name :: args)).on session = (.ok .success, after) := by
  rcases cd_cases name args session with ⟨target, after, rfl, moved, eq⟩ |
      ⟨target, fault, between, rfl, ended, _⟩ | ⟨arity, _⟩
  · exact ⟨after, moved.steps, eq⟩
  · rw [cdFault?, ended.fault?_eq] at right
    cases right
  · unfold cdFault? at right
    split at right
    · exact absurd rfl arity
    · cases right

theorem program_of_no_fault {name : String} {args : List String} {session : Session W}
    (right : launchFault? name (session.launched name args).result = none) :
    ∃ after, Steps quiet session after ∧
      (launch (name :: args) >>= conclude).on session = (.ok .success, after) := by
  have launches : Steps quiet session (session.afterLaunch name args) :=
    .single (.launch name args) (by simp [quiet])
  rw [on_bind, on_launch]
  unfold launchFault? at right
  split at right
  · cases right
  · cases right
  · exact ⟨_, launches.trans (.single (.log _) (by simp [quiet])), rfl⟩

/-- A line that gets nothing wrong leaves the error stream alone, and ends the session only if it says so. -/
theorem executeLine_of_no_fault {line : String} {session : Session W}
    (right : session.fault? (Token.tokens line) = none) :
    Steps quiet session ((executeLine line).on session).2 ∧
      ∀ status after, (executeLine line).on session = (.ok status, after) →
        status = if (Token.tokens line).head? = some Builtin.exit.name then .exit else .success := by
  cases tokens : Token.tokens line with
  | nil =>
    rw [executeLine_of_nil tokens]
    refine ⟨.refl, fun status after eq => ?_⟩
    cases eq
    rfl
  | cons name args =>
    rw [tokens] at right
    rw [List.head?_cons]
    cases named : Builtin.lookup? name with
    | none =>
      obtain ⟨begun, logged, on⟩ := executeLine_program tokens named session
      rw [← fault?_congr (logged.world_eq (by simp) (by simp)) logged.console_eq] at right
      simp only [fault?, named] at right
      obtain ⟨after, steps, eq⟩ := program_of_no_fault right
      have stays : some name ≠ some Builtin.exit.name := by
        intro same
        cases Option.some.inj same
        cases named
      rw [on, eq, if_neg stays]
      refine ⟨(logged.mono (by simp [quiet])).trans steps, fun status last done => ?_⟩
      cases done
      rfl
    | some builtin =>
      obtain ⟨begun, logged, on⟩ := executeLine_builtin tokens named session
      rw [← fault?_congr (logged.world_eq (by simp) (by simp)) logged.console_eq] at right
      simp only [fault?, named] at right
      have begins : Steps quiet session begun := logged.mono (by simp [quiet])
      rw [on, Builtin.eq_name_of_lookup? named]
      by_cases move : builtin = .cd
      · subst move
        obtain ⟨after, steps, eq⟩ := cd_of_no_fault right
        rw [runBuiltin, eq]
        refine ⟨begins.trans steps, fun status last done => ?_⟩
        cases done
        rfl
      · refine ⟨begins.trans (within_quiet_runBuiltin move _ begun).steps, fun status after eq => ?_⟩
        rw [returns_runBuiltin move _ begun status after eq]
        cases builtin <;> rfl

/-! ## What comes of a line -/

/-- The report of a line that gets something wrong. -/
theorem executeLine_ok_of_fault {line : String} {session after : Session W} {fault : CommandFault}
    {status : Status} (wrong : session.fault? (Token.tokens line) = some fault)
    (h : (executeLine line).on session = (.ok status, after)) :
    status = .failure ∧
      after.written .err = session.written .err ++ Utf8.encode (session.reportLine fault) := by
  obtain ⟨between, steps, on⟩ := executeLine_of_fault wrong
  obtain ⟨failure, fits, rfl⟩ := report_ok (on.symm.trans h)
  have silent : between.written .err = session.written .err := steps.written_eq (by decide)
  have style : between.errHighlighter = session.errHighlighter :=
    congrArg Prod.snd steps.highlighters_eq
  refine ⟨failure, ?_⟩
  rw [written_afterWrite, if_pos rfl, fits, silent, reportLine, reportLine, style]

/-- The status of a line: a failure if it gets something wrong, and otherwise what it asks for. -/
theorem status_executeLine {line : String} {session after : Session W} {status : Status}
    (h : (executeLine line).on session = (.ok status, after)) :
    status = if (session.fault? (Token.tokens line)).isSome then .failure
      else if (Token.tokens line).head? = some Builtin.exit.name then .exit else .success := by
  cases wrong : session.fault? (Token.tokens line) with
  | none => exact (executeLine_of_no_fault wrong).2 status after h
  | some fault => exact (executeLine_ok_of_fault wrong h).1

/-- Only `exit` asks to leave. -/
theorem head?_of_exit {line : String} {session after : Session W}
    (h : (executeLine line).on session = (.ok .exit, after)) :
    (Token.tokens line).head? = some Builtin.exit.name := by
  by_contra other
  have status := status_executeLine h
  rw [if_neg other] at status
  split at status <;> cases status

/-- A host describes the programs that it could not run in one line each. -/
def DescribesInLines (W : Type) [Host W] : Prop :=
  ∀ (world : W) program args input cause,
    (Host.launch world program args input).result = .refused cause ∨
      (Host.launch world program args input).result = .lost cause → cause.QuotesLines

theorem quotesLines_moveFault? {world : W} {target : String} {fault : CommandFault}
    (typed : OneLine target) (wrong : moveFault? world target = some fault) :
    fault.QuotesLines := by
  unfold moveFault? at wrong
  split at wrong
  · cases wrong
    trivial
  · split at wrong
    · next cause _ =>
      cases wrong
      unfold refusal
      split <;> exact typed
    · split at wrong
      · cases wrong
        exact typed
      · cases wrong

theorem quotesLines_launchFault? (texts : DescribesInLines W) {session : Session W}
    {name : String} {args : List String} {fault : CommandFault} (typed : OneLine name)
    (wrong : launchFault? name (session.launched name args).result = some fault) :
    fault.QuotesLines := by
  unfold launchFault? at wrong
  split at wrong
  · next cause result =>
    cases wrong
    exact ⟨typed, texts _ _ _ _ cause (.inl result)⟩
  · next cause result =>
    cases wrong
    exact ⟨typed, texts _ _ _ _ cause (.inr result)⟩
  · cases wrong

/-- What a line gets wrong quotes its tokens and the texts of the host only. -/
theorem quotesLines_fault? (texts : DescribesInLines W) {line : String} {session : Session W}
    {fault : CommandFault} (wrong : session.fault? (Token.tokens line) = some fault) :
    fault.QuotesLines := by
  have words : ∀ token ∈ Token.tokens line, OneLine token :=
    fun token mem => .of_isWord (Token.isWord_of_mem_tokens mem)
  cases tokens : Token.tokens line with
  | nil =>
    rw [tokens] at wrong
    cases wrong
  | cons name args =>
    rw [tokens] at wrong words
    simp only [fault?] at wrong
    split at wrong
    · exact quotesLines_launchFault? texts (words name (by simp)) wrong
    · unfold cdFault? at wrong
      split at wrong
      · next target => exact quotesLines_moveFault? (words target (by simp)) wrong
      · cases wrong
        exact .of_chars rfl (by decide)
    · cases wrong

end

end Session

end LineShell
