import LineShell.Proofs.Session.Effect
import LineShell.Proofs.Token.Capacity

/-!
# Footprints

The effects that each act of a session is made of. What a command line may do is decided by its tokens
alone, whatever state the session is in and whatever the host answers.

* `Session.footprint`: what the tokens of a line allow it to do.
* `Session.within_executeLine`: no line does anything else, and nothing else ends a session.
* `Session.executeLine_builtin`, `executeLine_alias`, `executeLine_program`: what a line comes to.
-/

namespace LineShell

variable {W α : Type}

theorem Builtin.eq_name_of_lookup? {text : String} {builtin : Builtin}
    (h : lookup? text = some builtin) : text = builtin.name := by
  have := List.find?_some h
  simp only [beq_iff_eq] at this
  exact this.symm

namespace Session

open Act

/-! ## Reading -/

theorem on_readPiece (reader : Reader) (session : Session W) :
    (readPiece reader).on session =
      ((lineOfPiece reader.piece.1).map some, session.afterPiece reader) := by
  simp only [readPiece, on_bind, on_modify]
  split <;> next line => simp only [line]; rfl

section
variable [Host W]

theorem withinFrom_readPiece {reader : Reader} {session : Session W}
    (here : session.console.input = .reader reader) :
    WithinFrom [.read] session (readPiece reader) := by
  have on := on_readPiece reader session
  constructor
  · rw [on]
    exact .single (.piece reader here) (by simp)
  · intro fault eq
    rw [on] at eq ⊢
    cases line : lineOfPiece reader.piece.1 with
    | ok text => simp [line, Except.map] at eq
    | error cause =>
      simp only [line, Except.map, Except.error.injEq] at eq
      exact ⟨.read, by simp, .piece rfl (eq ▸ line)⟩

theorem withinFrom_readEditor {editor : Editor} {session : Session W}
    (here : session.console.input = .editor editor) (prompt : String) :
    WithinFrom [.read, .log] session (readEditor editor prompt) := by
  refine .bind_get ?_
  have answered : Step session .read (session.afterAnswer editor prompt) :=
    .answer editor prompt here
  constructor
  · simp only [on_bind, on_modify]
    split
    · exact .single answered (by simp)
    · exact (Steps.single answered (by simp)).trans (.single (.log _) (by simp))
    · exact .single answered (by simp)
  · intro fault eq
    simp only [on_bind, on_modify] at eq ⊢
    split at eq
    · cases eq
    · cases eq
    · next cause named answer =>
      simp only [on_throw, Except.error.injEq] at eq
      subst eq
      refine ⟨.read, by simp, ?_⟩
      rw [answer]
      exact .answer rfl named

theorem within_readEntry (prompt : String) :
    Within [.write .out, .read, .log] (readEntry prompt : Act W (Option String)) := by
  intro session
  refine .bind_get ?_
  split
  · next editor here => exact (withinFrom_readEditor here prompt).mono (by simp)
  · next reader here =>
    refine .bind ((within_print .out prompt session).mono (by simp)) fun _ after eq => ?_
    -- The prompt changes nothing about the input.
    have still : after.console.input = .reader reader := by
      have := congrArg (·.2.console.input) eq
      simp only [print, on_write, afterWrite, Console.input_spend] at this
      rw [← this, here]
    exact (withinFrom_readPiece still).mono (by simp)

theorem within_remember (line : String) : Within [.remember] (remember line : Act W Unit) := by
  intro session
  constructor
  · simp only [remember, on_modify]
    split
    · exact .refl
    · next editor here => exact .single (.remember editor line here) (by simp)
  · intro fault eq
    cases eq

theorem within_readLine (prompt : String) :
    Within [.write .out, .read, .log, .remember] (readLine prompt : Act W String) := by
  refine .bind ((within_readEntry prompt).mono (by simp)) fun answer => ?_
  dsimp only
  split
  · exact .bind ((within_remember _).mono (by simp)) fun _ => .pure _
  · exact .pure _

/-! ## The working directory -/

theorem within_refresh : Within [.refresh, .log] (refresh : Act W (Except IoFault Unit)) := by
  intro session
  refine .bind_get ?_
  split
  · exact Within.pure _ session
  · next text read =>
    refine .bind (.of_step rfl (.refresh text read) (by simp)) fun _ after _ => ?_
    exact Within.bind ((within_debug _).mono (by simp)) (fun _ => .pure _) after

theorem within_enter (path : Bytes) :
    Within [.enter] (enter path : Act W (Except IoFault Unit)) := by
  intro session
  refine .bind_get ?_
  split
  · exact Within.pure _ session
  · next world entered =>
    refine .bind (.of_step rfl (.enter path world entered) (by simp)) fun _ after _ => ?_
    exact Within.pure _ after

theorem within_moveTo (target : String) :
    Within [.enter, .refresh, .log] (moveTo target : Act W (Except CommandFault Unit)) := by
  refine .bind .get fun session => ?_
  split
  · exact .pure _
  · refine .bind ((within_enter _).mono (by simp)) fun entered => ?_
    split
    · split <;> exact .pure _
    · refine .bind (within_refresh.mono (by simp)) fun refreshed => ?_
      split <;> exact .pure _

/-! ## Commands -/

theorem within_report (fault : CommandFault) :
    Within [.write .err] (report fault : Act W Status) := by
  apply Within.bind .get
  intro session
  apply Within.bind (within_printLine .err _)
  intro _
  exact .pure _

theorem within_printLines (lines : List String) :
    Within [.write .out] (printLines lines : Act W Unit) := by
  induction lines with
  | nil => exact .pure _
  | cons line rest ih => exact .bind (within_printLine _ _) fun _ => ih

theorem within_exit (args : List String) : Within [.log] (exit args : Act W Status) := by
  dsimp only [exit]
  split
  · exact .bind (within_debug _) fun _ => .pure _
  · exact .pure _

theorem within_printLogo : Within [.write .out] (printLogo : Act W Unit) := by
  apply Within.bind .get
  intro session
  exact within_printLine .out _

theorem within_help : Within [.write .out] (help : Act W Status) := by
  apply Within.bind within_printLogo
  intro _
  apply Within.bind .get
  intro session
  apply Within.bind (within_printLines _)
  intro _
  exact .pure _

theorem within_pwd : Within [.write .out] (pwd : Act W Status) := by
  apply Within.bind .get
  intro session
  apply Within.bind (within_printLine .out _)
  intro _
  exact .pure _

theorem within_cd (args : List String) :
    Within [.enter, .refresh, .log, .write .err] (cd args : Act W Status) := by
  dsimp only [cd]
  split
  · refine .bind ((within_moveTo _).mono (by simp)) fun moved => ?_
    split
    · exact .pure _
    · exact (within_report _).mono (by simp)
  · exact (within_report _).mono (by simp)

theorem within_askAlias :
    Within [.write .out, .read, .log] (askAlias : Act W (Option (String × String))) := by
  refine .bind (within_readEntry _) fun name => ?_
  split
  · exact .pure _
  · refine .bind (within_readEntry _) fun value => ?_
    split <;> exact .pure _

theorem within_storeAlias (name value : String) :
    Within [.store] (storeAlias name value : Act W Unit) := by
  intro session
  exact .of_step rfl (.store name value) (by simp)

/-- Lists all aliases. -/
def listAliases : Act W Status := do
  printLines ((← get).aliases.toList.map fun entry => s!"{entry.1}: {entry.2}")
  return .success

/-- Stores an alias if there is one, and lists all aliases. -/
def finishAlias (answer : Option (String × String)) : Act W Status := do
  match answer with
  | some (name, value) => storeAlias name value
  | none => debug "alias entry interrupted, nothing stored"
  listAliases

/-- `alias` asks only if it is alone, and lists the aliases in any case. -/
theorem manageAliases_eq (args : List String) :
    (manageAliases args : Act W Status) =
      if args.length = 1 then askAlias >>= finishAlias else listAliases := rfl

theorem within_listAliases : Within [.write .out] (listAliases : Act W Status) := by
  apply Within.bind .get
  intro session
  apply Within.bind (within_printLines _)
  intro _
  exact .pure _

theorem within_finishAlias (answer : Option (String × String)) :
    Within [.write .out, .log, .store] (finishAlias answer : Act W Status) := by
  cases answer with
  | none => exact .bind ((within_debug _).mono (by simp)) fun _ => within_listAliases.mono (by simp)
  | some entry =>
    exact .bind ((within_storeAlias _ _).mono (by simp)) fun _ => within_listAliases.mono (by simp)

theorem within_manageAliases (args : List String) :
    Within (if args.length = 1 then [.write .out, .read, .log, .store] else [.write .out])
      (manageAliases args : Act W Status) := by
  rw [manageAliases_eq]
  split
  · exact .bind (within_askAlias.mono (by simp)) fun _ => (within_finishAlias _).mono (by simp)
  · exact within_listAliases

theorem within_launch (args : List String) :
    Within [.launch, .log] (launch args : Act W (Except LaunchFault Unit)) := by
  intro session
  dsimp only [launch]
  split
  · exact Within.pure _ session
  · next program rest =>
    refine .bind_get (.bind (.of_step rfl (.launch program rest) (by simp)) fun _ after _ => ?_)
    split
    · exact Within.pure _ after
    · exact Within.pure _ after
    · exact Within.bind ((within_debug _).mono (by simp)) (fun _ => .pure _) after

theorem within_noteReferences (tokens : List String) :
    Within [.log] (noteReferences tokens : Act W Unit) := by
  induction tokens with
  | nil => exact .pure _
  | cons token rest ih =>
    dsimp only [noteReferences]
    split
    · exact .bind (within_debug _) fun _ => ih
    · exact ih

/-! ## Lines -/

/-- What the tokens of a line allow it to do. Besides `cd` no command looks at the current directory, and
besides `alias` without arguments none reads. -/
def footprint : List String → List Effect
  | [] => []
  | name :: args =>
    match Builtin.lookup? name with
    | none => [.log, .launch, .write .err]
    | some .exit => [.log]
    | some .cd => [.log, .enter, .refresh, .write .err]
    | some .aliases => .log :: .write .out :: if args = [] then [.read, .store] else []
    | some _ => [.log, .write .out]

theorem within_runBuiltin (name : String) (args : List String) (builtin : Builtin)
    (named : Builtin.lookup? name = some builtin) :
    Within (footprint (name :: args)) (runBuiltin builtin (name :: args) : Act W Status) := by
  cases builtin with
  | exit => exact (within_exit _).mono (by simp [footprint, named])
  | help => exact within_help.mono (by simp [footprint, named])
  | logo => exact .bind (within_printLogo.mono (by simp [footprint, named])) fun _ => .pure _
  | cd => exact (within_cd _).mono (by simp [footprint, named])
  | pwd => exact within_pwd.mono (by simp [footprint, named])
  | aliases =>
    refine (within_manageAliases _).mono ?_
    cases args with
    | nil => simp [footprint, named]
    | cons arg args => simp [footprint, named]

/-- Only `alias` without arguments reads or stores. -/
theorem eq_alias_of_mem {effect : Effect} {tokens : List String}
    (own : effect = .read ∨ effect = .store) (mem : effect ∈ footprint tokens) :
    tokens = ["alias"] := by
  cases tokens with
  | nil => simp [footprint] at mem
  | cons name args =>
    simp only [footprint] at mem
    split at mem
    · rcases own with rfl | rfl <;> simp at mem
    · rcases own with rfl | rfl <;> simp at mem
    · rcases own with rfl | rfl <;> simp at mem
    · next named =>
      have name_eq := Builtin.eq_name_of_lookup? named
      split at mem
      · next empty => rw [empty, name_eq, Builtin.name]
      · rcases own with rfl | rfl <;> simp at mem
    · rcases own with rfl | rfl <;> simp at mem

theorem eq_alias_of_read_mem {tokens : List String} (mem : .read ∈ footprint tokens) :
    tokens = ["alias"] :=
  eq_alias_of_mem (.inl rfl) mem

theorem log_mem_footprint (name : String) (args : List String) :
    .log ∈ footprint (name :: args) := by
  simp only [footprint]
  split <;> simp

theorem within_dispatch (args : List String) :
    Within (footprint args) (dispatch args : Act W Status) := by
  dsimp only [dispatch]
  split
  · exact .pure _
  · next name args =>
    have log : [Effect.log] ⊆ footprint (name :: args) := by
      simpa using log_mem_footprint name args
    split
    · next builtin named =>
      exact .bind ((within_debug _).mono log) fun _ => within_runBuiltin name args builtin named
    · next named =>
      refine .bind ((within_debug _).mono log) fun _ => .bind
        ((within_launch _).mono (by simp [footprint, named])) fun launched => ?_
      split
      · exact .pure _
      · exact (within_report _).mono (by simp [footprint, named])

/-- A line without tokens does nothing. -/
theorem executeLine_of_nil {line : String} (h : Token.tokens line = []) :
    (executeLine line : Act W Status) = pure .success := by
  simp only [executeLine, tokenize, Token.tokenize?_self, h]

/-- Any other line is dispatched with all its tokens; there is always room for them. -/
theorem executeLine_of_cons {line name : String} {args : List String}
    (h : Token.tokens line = name :: args) :
    (executeLine line : Act W Status) =
      noteReferences (name :: args) >>= fun _ => dispatch (name :: args) := by
  simp only [executeLine, tokenize, Token.tokenize?_self, h]

/-- A line does what its tokens allow, and nothing else puts the session at fault. -/
theorem within_executeLine (line : String) :
    Within (footprint (Token.tokens line)) (executeLine line : Act W Status) := by
  cases eq : Token.tokens line with
  | nil =>
    rw [executeLine_of_nil eq]
    exact .pure _
  | cons name args =>
    rw [executeLine_of_cons eq]
    refine .bind ((within_noteReferences _).mono ?_) fun _ => within_dispatch _
    simpa using log_mem_footprint name args

/-- Only `alias` without arguments changes the aliases. -/
theorem aliases_executeLine (session : Session W) (line : String) :
    ((executeLine line).on session).2.aliases = session.aliases ∨
      Token.tokens line = [Builtin.aliases.name] := by
  by_cases asks : Token.tokens line = [Builtin.aliases.name]
  · exact .inr asks
  · have unstored : .store ∉ footprint (Token.tokens line) :=
      fun mem => asks (eq_alias_of_mem (.inr rfl) mem)
    exact .inl ((within_executeLine line session).steps.aliases_eq unstored)

/-! ## What a line comes to -/

/-- Logging never fails. -/
theorem on_of_within_log {act : Act W α} (within : Within [.log] act) (session : Session W) :
    ∃ x after, act.on session = (.ok x, after) ∧ Steps [.log] session after := by
  refine (within session).on_eq_ok fun effect mem after fault _ fails => ?_
  cases List.mem_singleton.mp mem
  cases fails

theorem dispatch_builtin {name : String} {builtin : Builtin}
    (named : Builtin.lookup? name = some builtin) (args : List String) :
    (dispatch (name :: args) : Act W Status) =
      debug s!"builtin {builtin.name}" >>= fun _ => runBuiltin builtin (name :: args) := by
  simp only [dispatch, named]

/-- What is left to do behind a program: only one that was not run is reported. -/
def conclude (outcome : Except LaunchFault Unit) : Act W Status :=
  match outcome with
  | .ok () => pure .success
  | .error fault => report (.launch fault)

theorem dispatch_program {name : String} (named : Builtin.lookup? name = none)
    (args : List String) :
    (dispatch (name :: args) : Act W Status) =
      debug s!"launching {name}" >>= fun _ => launch (name :: args) >>= conclude := by
  simp only [dispatch, named]
  rfl

/-- A line that names a builtin command is that command, but for some diagnostics before it. -/
theorem executeLine_builtin {line name : String} {args : List String} {builtin : Builtin}
    (h : Token.tokens line = name :: args) (named : Builtin.lookup? name = some builtin)
    (session : Session W) :
    ∃ begun, Steps [.log] session begun ∧
      (executeLine line).on session = (runBuiltin builtin (name :: args)).on begun := by
  have logs : Within [.log]
      (noteReferences (name :: args) >>= fun _ => debug s!"builtin {builtin.name}" : Act W Unit) :=
    .bind (within_noteReferences _) fun _ => within_debug _
  obtain ⟨_, begun, on, steps⟩ := on_of_within_log logs session
  obtain ⟨_, between, noted, logged⟩ := on_bind_eq_ok on
  refine ⟨begun, steps, ?_⟩
  rw [executeLine_of_cons h, dispatch_builtin named, on_bind, noted]
  simp only
  rw [on_bind, logged]

/-- Keeps an alias if there is one. -/
def keepAlias (answer : Option (String × String)) : Act W Unit :=
  match answer with
  | some (name, value) => storeAlias name value
  | none => debug "alias entry interrupted, nothing stored"

/-- What `alias` does before it lists the aliases: it asks only if it is alone. -/
def beforeListing (args : List String) : Act W Unit := do
  noteReferences (Builtin.aliases.name :: args)
  debug s!"builtin {Builtin.aliases.name}"
  if args = [] then keepAlias (← askAlias)

/-- Listing the aliases is the last thing that `alias` does. -/
theorem executeLine_alias {line : String} {args : List String}
    (h : Token.tokens line = Builtin.aliases.name :: args) :
    (executeLine line : Act W Status) = beforeListing args >>= fun _ => listAliases := by
  have finish : ∀ answer, (finishAlias answer : Act W Status) =
      keepAlias answer >>= fun _ => listAliases := by
    intro answer
    cases answer <;> rfl
  have manage : (manageAliases (Builtin.aliases.name :: args) : Act W Status) =
      (if args = [] then askAlias >>= keepAlias else pure ()) >>= fun _ => listAliases := by
    rw [manageAliases_eq]
    cases args with
    | nil =>
      simp only [List.length_singleton, if_true, bind_assoc]
      congr 1
      funext answer
      exact finish answer
    | cons arg args => simp
  rw [executeLine_of_cons h, dispatch_builtin (Builtin.lookup?_name .aliases), runBuiltin, manage]
  simp only [beforeListing, bind_assoc]

/-- Any other line starts a program, but for some diagnostics before it. -/
theorem executeLine_program {line name : String} {args : List String}
    (h : Token.tokens line = name :: args) (named : Builtin.lookup? name = none)
    (session : Session W) :
    ∃ begun, Steps [.log] session begun ∧
      (executeLine line).on session =
        (launch (name :: args) >>= conclude : Act W Status).on begun := by
  have logs : Within [.log]
      (noteReferences (name :: args) >>= fun _ => debug s!"launching {name}" : Act W Unit) :=
    .bind (within_noteReferences _) fun _ => within_debug _
  obtain ⟨_, begun, on, steps⟩ := on_of_within_log logs session
  obtain ⟨_, between, noted, logged⟩ := on_bind_eq_ok on
  refine ⟨begun, steps, ?_⟩
  rw [executeLine_of_cons h, dispatch_program named, on_bind, noted]
  simp only
  rw [on_bind, logged]

end

end Session

end LineShell
