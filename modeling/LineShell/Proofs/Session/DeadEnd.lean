import LineShell.Proofs.Session.Report
import LineShell.Proofs.Token.Words

/-!
# Dead ends

A line has room for all its tokens, and a line without tokens is blank. So there are branches that no session
takes, and what they do makes no difference.

* `Session.tokenize_eq`: what a capacity is enough for.
* `Session.DeadEnds`, `turnElse`: a turn in which those branches do something else.
* `Session.turnElse_eq`: it is the same turn.
* `Session.lines_have_room_and_tokens`: room for all tokens, and no dead ends.
-/

namespace LineShell

variable {W : Type}

namespace Session

open Act

/-- Tokenizing gives all tokens of a line, or a fault if they are too many. -/
theorem tokenize_eq (line : String) (capacity : Nat) :
    tokenize line capacity =
      if (Token.tokens line).length ≤ capacity then .ok (Token.tokens line)
      else .error (.tokenOverflow capacity) := by
  rw [tokenize, Token.tokenize?_eq]
  by_cases enough : (Token.tokens line).length ≤ capacity
  · simp only [enough, if_true]
  · simp only [enough, if_false]

theorem tokenize_self (line : String) :
    tokenize line line.utf8ByteSize = .ok (Token.tokens line) := by
  rw [tokenize, Token.tokenize?_self]

section
variable [Host W]

/-! ## Faults -/

/-- What ends a session is never that a line has too many tokens. -/
theorem run_ne_tokenOverflow (session : Session W) (n : Nat) :
    (run session).1 ≠ .error (.tokenOverflow n) := by
  intro overflow
  obtain ⟨before, result, -, -, turned, ended, -⟩ := exists_last_turn session
  have failed := (within_turn before).fault
  rw [turned] at failed
  cases result with
  | ok left => cases ended.symm.trans overflow
  | error fault =>
    obtain ⟨effect, -, fails⟩ := failed fault rfl
    cases ended.symm.trans overflow
    exact fails.cases_fault.2 n rfl

theorem executeLine_ne_tokenOverflow (line : String) (session : Session W) (n : Nat) :
    ((executeLine line).on session).1 ≠ .error (.tokenOverflow n) := by
  intro overflow
  cases eq : (executeLine line).on session with
  | mk result after =>
    rw [eq] at overflow
    cases overflow
    exact (fails_executeLine eq).1 n rfl

/-! ## Lines that are carried out -/

/-- A line that is carried out in a run has tokens, and all of them are dispatched. -/
theorem dispatches_of_mem_turns {session : Session W} {turn : Turn W} (mem : turn ∈ turns session)
    {outcome : Except SessionFault Status} (executed : turn.executed = some outcome) :
    ∃ line name args, turn.line? = some line ∧ Token.tokens line = name :: args ∧
      outcome = ((noteReferences (name :: args) >>= fun _ => dispatch (name :: args)).on turn.asked).1 := by
  obtain ⟨before, -, rfl⟩ := exists_nextTurn_of_mem mem
  cases read : (readLine before.prompt).on before with
  | mk result asked =>
    cases result with
    | error fault => simp [nextTurn, read] at executed
    | ok line =>
      simp only [nextTurn, read] at executed
      split at executed
      · cases executed
      · next some =>
        cases tokens : Token.tokens line with
        | nil => exact absurd (Token.allBlank_of_tokens_eq_nil tokens) some
        | cons name args =>
          refine ⟨line, name, args, ?_, tokens, ?_⟩
          · simp [Turn.line?, nextTurn, read, Except.toOption]
          · rw [← executeLine_of_cons tokens]
            simp only [nextTurn, read]
            exact (Option.some.inj executed).symm

/-! ## Branches that are not taken -/

/-- Something else to do in the branches for a line with too many tokens, for a line with none, and where
there is nothing to dispatch or to launch. -/
structure DeadEnds (W : Type) where
  overflow : SessionFault → Act W Status
  noTokens : Act W Status
  nothingToDispatch : Act W Status
  nothingToLaunch : Act W (Except LaunchFault Unit)

variable (ends : DeadEnds W)

/-- A launch, with another end where there is no program. -/
def launchElse : List String → Act W (Except LaunchFault Unit)
  | [] => ends.nothingToLaunch
  | program :: args => launch (program :: args)

/-- `dispatch`, with other dead ends. -/
def dispatchElse (args : List String) : Act W Status := do
  match args with
  | [] => ends.nothingToDispatch
  | name :: _ =>
    match Builtin.lookup? name with
    | some builtin =>
      debug s!"builtin {builtin.name}"
      runBuiltin builtin args
    | none =>
      debug s!"launching {name}"
      conclude (← launchElse ends args)

/-- `executeLine`, with other dead ends. -/
def executeLineElse (line : String) : Act W Status := do
  match tokenize line line.utf8ByteSize with
  | .error fault => ends.overflow fault
  | .ok [] => ends.noTokens
  | .ok tokens =>
    noteReferences tokens
    dispatchElse ends tokens

/-- `turn`, with other dead ends. -/
def turnElse : Act W Bool := do
  let line ← readLine (← get).prompt
  if Text.allBlank line then return false
  closeTurn (← executeLineElse ends line)

theorem dispatchElse_cons (name : String) (args : List String) :
    dispatchElse ends (name :: args) = dispatch (name :: args) := by
  cases named : Builtin.lookup? name with
  | some builtin =>
    rw [dispatch_builtin named]
    simp only [dispatchElse, named]
  | none =>
    rw [dispatch_program named]
    simp only [dispatchElse, named, launchElse]

/-- There is always room for the tokens of a line, and where there are any, there is something to dispatch
and a program to launch. -/
theorem executeLineElse_of_tokens {line : String} (some : Token.tokens line ≠ []) :
    executeLineElse ends line = executeLine line := by
  cases tokens : Token.tokens line with
  | nil => exact absurd tokens some
  | cons name args =>
    rw [executeLine_of_cons tokens, ← dispatchElse_cons ends]
    simp only [executeLineElse, tokenize_self, tokens]

/-- **A turn comes to no dead end**, whatever session takes it. -/
theorem turnElse_eq : turnElse ends = turn := by
  refine bind_congr fun session => bind_congr fun line => ?_
  by_cases blank : Text.allBlank line
  · simp only [blank, if_true]
  · have some : Token.tokens line ≠ [] := fun none => blank (Token.allBlank_of_tokens_eq_nil none)
    rw [executeLineElse_of_tokens ends some]
    rfl

/-- **Lines have room for their tokens, and those that are carried out have tokens.** A capacity gives all tokens
or a fault, and the bytes of a line are capacity enough, so no line is at fault for its tokens. A line
without tokens is blank, so every line that a run dispatches has some. The branches for anything else are dead
ends: neither a turn nor a line with tokens depends on what is done in them. -/
theorem lines_have_room_and_tokens :
    (∀ line capacity, tokenize line capacity =
      if (Token.tokens line).length ≤ capacity then .ok (Token.tokens line)
      else .error (.tokenOverflow capacity)) ∧
      (∀ line, 2 * (Token.tokens line).length ≤ line.utf8ByteSize + 1) ∧
      (∀ (session : Session W) n, (run session).1 ≠ .error (.tokenOverflow n) ∧
        ∀ line, ((executeLine line).on session).1 ≠ .error (.tokenOverflow n)) ∧
      (∀ line, Token.tokens line = [] →
        Text.allBlank line = true ∧ (executeLine line : Act W Status) = pure .success) ∧
      (∀ session : Session W, ∀ turn ∈ turns session, ∀ outcome, turn.executed = some outcome →
        ∃ line name args, turn.line? = some line ∧ Token.tokens line = name :: args ∧
          outcome =
            ((noteReferences (name :: args) >>= fun _ => dispatch (name :: args)).on turn.asked).1) ∧
      ∀ ends : DeadEnds W, turnElse ends = turn ∧
        ∀ line, Token.tokens line ≠ [] → executeLineElse ends line = executeLine line := by
  refine ⟨tokenize_eq, Token.two_mul_length_tokens_le, fun session n => ⟨?_, ?_⟩, fun line none => ?_, ?_, ?_⟩
  · exact run_ne_tokenOverflow session n
  · exact fun line => executeLine_ne_tokenOverflow line session n
  · exact ⟨Token.allBlank_of_tokens_eq_nil none, executeLine_of_nil none⟩
  · exact fun session turn mem outcome => dispatches_of_mem_turns mem
  · exact fun ends => ⟨turnElse_eq ends, fun line => executeLineElse_of_tokens ends⟩

end

end Session

end LineShell
