import LineShell.Proofs.Highlight
import LineShell.Proofs.Session.Outcome
import Mathlib.Data.List.Forall2

/-!
# What is shown is what runs

The styles of a line tell what will come of it: whether its first word is a command of the session or a
program, and which of the others are options, or references that are passed on as they are.

* `Session.StartsProgram`, `RunsBuiltin`: what becomes of the tokens of a line.
* `Session.startsProgram_iff`, `runsBuiltin_iff`: it is decided by the first of them.
* `Session.on_noteReferences`, `passedThrough`: what is logged of the references among them.
* `Highlighter.command_shows_what_runs`: and each of it is the style of a token.
-/

namespace LineShell

variable {W : Type}

namespace Session

open Act

section
variable [Host W]

/-! ## Programs and builtin commands -/

/-- All tokens of the line are handed to the host, the first as a program, the others as its arguments. -/
def StartsProgram (session : Session W) (line : String) : Prop :=
  ∃ name args fed events, Token.tokens line = name :: args ∧
    ((executeLine line).on session).2.trace = events ++ session.trace ∧
    .launched name args fed ∈ events

/-- But for diagnostics before it, the line is a builtin command on all its tokens. -/
def RunsBuiltin (session : Session W) (line : String) : Prop :=
  ∃ builtin begun, Steps [.log] session begun ∧
    (executeLine line).on session = (runBuiltin builtin (Token.tokens line)).on begun

/-- The events of acts that start no program. -/
theorem notMem_of_idle {effects : List Effect} (idle : .launch ∉ effects) {session after : Session W}
    (steps : Steps effects session after) {events : List Event}
    (eq : after.trace = events ++ session.trace) {name : String} {args : List String} {fed : Bytes} :
    .launched name args fed ∉ events := by
  intro mem
  obtain ⟨others, same, kinds⟩ := steps.trace
  obtain rfl : others = events := List.append_cancel_right (same.symm.trans eq)
  exact idle (kinds _ mem)

/-- No builtin command starts a program. -/
theorem within_idle_runBuiltin (builtin : Builtin) (args : List String) :
    Within (Effect.all.erase .launch) (runBuiltin builtin args : Act W Status) := by
  cases builtin with
  | exit => exact (within_exit _).mono (by decide)
  | help => exact within_help.mono (by decide)
  | logo => exact .bind (within_printLogo.mono (by decide)) fun _ => .pure _
  | cd => exact (within_cd _).mono (by decide)
  | pwd => exact within_pwd.mono (by decide)
  | aliases =>
    refine (within_manageAliases _).mono ?_
    split <;> decide

/-- The session says that a program was started, whatever becomes of it. -/
theorem launched_mem_trace {line name : String} {args : List String}
    (tokens : Token.tokens line = name :: args) (unknown : Builtin.lookup? name = none)
    (session : Session W) :
    ∃ fed events, ((executeLine line).on session).2.trace = events ++ session.trace ∧
      .launched name args fed ∈ events := by
  obtain ⟨begun, logged, behind⟩ := executeLine_launched tokens unknown session
  obtain ⟨before, noted, -⟩ := logged.trace
  obtain ⟨fed, emitted, started⟩ : ∃ fed emitted,
      (begun.afterLaunch name args).trace = emitted ++ .launched name args fed :: begun.trace :=
    ⟨_, _, rfl⟩
  obtain ⟨later, ended, -⟩ := behind.trace
  refine ⟨fed, later ++ emitted ++ .launched name args fed :: before, ?_, by simp⟩
  simp only [ended, started, noted, List.append_assoc, List.cons_append]

/-- The first token decides whether the line is a program. -/
theorem startsProgram_iff {session : Session W} {line name : String} {args : List String}
    (tokens : Token.tokens line = name :: args) :
    session.StartsProgram line ↔ Builtin.lookup? name = none := by
  constructor
  · rintro ⟨name', args', fed, events, tokens', eq, started⟩
    obtain ⟨rfl, rfl⟩ : name = name' ∧ args = args' := by simpa [tokens] using tokens'
    by_contra known
    obtain ⟨builtin, named⟩ := Option.ne_none_iff_exists'.mp known
    obtain ⟨begun, logged, on⟩ := executeLine_builtin tokens named session
    have ran := (within_idle_runBuiltin builtin (name :: args) begun).steps
    rw [← on] at ran
    have idle : Effect.launch ∉ Effect.all.erase .launch := by decide
    exact notMem_of_idle idle ((logged.mono (by decide)).trans ran) eq started
  · intro unknown
    obtain ⟨fed, events, eq, started⟩ := launched_mem_trace tokens unknown session
    exact ⟨name, args, fed, events, tokens, eq, started⟩

/-- So it decides whether the line is a builtin command. -/
theorem runsBuiltin_iff {session : Session W} {line name : String} {args : List String}
    (tokens : Token.tokens line = name :: args) :
    session.RunsBuiltin line ↔ (Builtin.lookup? name).isSome = true := by
  constructor
  · rintro ⟨builtin, begun, logged, on⟩
    by_contra unknown
    have starts : session.StartsProgram line :=
      (startsProgram_iff tokens).mpr (by simpa using unknown)
    obtain ⟨_, _, fed, events, _, eq, started⟩ := starts
    have ran := (within_idle_runBuiltin builtin (Token.tokens line) begun).steps
    rw [← on] at ran
    have idle : Effect.launch ∉ Effect.all.erase .launch := by decide
    exact notMem_of_idle idle ((logged.mono (by decide)).trans ran) eq started
  · intro known
    obtain ⟨builtin, named⟩ := Option.isSome_iff_exists.mp known
    obtain ⟨begun, logged, on⟩ := executeLine_builtin tokens named session
    exact ⟨builtin, begun, logged, tokens ▸ on⟩

end

/-! ## References -/

/-- The record of a reference that is passed on as it is. -/
def passedThrough (token : String) : Event :=
  .logged { level := .debug, message := s!"substitution is not supported, passing {token} through" }

theorem passedThrough_inj {a b : String} : passedThrough a = passedThrough b ↔ a = b := by
  constructor
  · intro same
    have texts : "substitution is not supported, passing " ++ a ++ " through" =
        "substitution is not supported, passing " ++ b ++ " through" :=
      congrArg Log.Record.message (Event.logged.inj same)
    have chars := congrArg String.toList texts
    simp only [String.toList_append] at chars
    exact String.toList_inj.mp (List.append_cancel_left (List.append_cancel_right chars))
  · rintro rfl
    rfl

/-- Every reference is logged, in its place, and nothing else happens. -/
theorem on_noteReferences (tokens : List String) (session : Session W) :
    (noteReferences tokens).on session = (.ok (), { session with
      trace := ((tokens.filter Token.isReference).map passedThrough).reverse ++ session.trace }) := by
  induction tokens generalizing session with
  | nil => rfl
  | cons token rest ih =>
    rw [noteReferences]
    split
    · next refers =>
      rw [on_bind, on_debug]
      simp only [ih, refers, List.filter_cons_of_pos, List.map_cons, List.reverse_cons, afterEvent]
      simp [passedThrough]
    · next other =>
      rw [ih, List.filter_cons_of_neg other]

/-- The references among some tokens are those that are logged. -/
theorem passedThrough_mem_iff {tokens : List String} {token : String} :
    passedThrough token ∈ (tokens.filter Token.isReference).map passedThrough ↔
      token ∈ tokens ∧ Token.isReference token = true := by
  simp [passedThrough_inj]

end Session

/-! ## Styles -/

namespace Role

/-- A style tells what kind of first word it is on. -/
theorem style_ofCommand (word : List Char) :
    ((ofCommand word).style? = some { hue := .cyan, bold := true } ↔
        (Builtin.lookup? (String.ofList word)).isSome = true) ∧
      ((ofCommand word).style? = some { hue := .green } ↔
        Builtin.lookup? (String.ofList word) = none) := by
  unfold ofCommand
  cases Builtin.lookup? (String.ofList word) <;> simp [style?]

/-- A style tells what kind of argument it is on. -/
theorem style_ofArgument (word : List Char) :
    ((ofArgument word).style? = some { hue := .grey } ↔ word.head? = some '$') ∧
      ((ofArgument word).style? = some { hue := .yellow } ↔ word.head? = some '-') ∧
      ((ofArgument word).style? = none ↔ word.head? ≠ some '$' ∧ word.head? ≠ some '-') := by
  unfold ofArgument
  split
  · simp [style?]
  · simp [style?]
  · next noOption noReference =>
    cases word with
    | nil => simp [style?]
    | cons c rest =>
      have option : c ≠ '-' := by
        rintro rfl
        exact noOption rest rfl
      have reference : c ≠ '$' := by
        rintro rfl
        exact noReference rest rfl
      simp [style?, option, reference]

end Role

namespace Highlighter

open Ansi Session

/-- What the style of an argument says: it was logged as a reference, it is an option, or neither. -/
def TellsArgument (noted : List Event) (arg : String) (style : Option Style) : Prop :=
  (style = some { hue := .grey } ↔ passedThrough arg ∈ noted) ∧
    (style = some { hue := .yellow } ↔ arg.toList.head? = some '-') ∧
    (style = none ↔ passedThrough arg ∉ noted ∧ arg.toList.head? ≠ some '-')

theorem tellsArgument_style {words : List (List Char)} {word : List Char} (mem : word ∈ words) :
    TellsArgument (((words.map String.ofList).filter Token.isReference).map passedThrough).reverse
      (String.ofList word) (Role.ofArgument word).style? := by
  have refers : passedThrough (String.ofList word) ∈
      (((words.map String.ofList).filter Token.isReference).map passedThrough).reverse ↔
        word.head? = some '$' := by
    rw [List.mem_reverse, passedThrough_mem_iff, Token.isReference, String.toList_ofList,
      beq_iff_eq, and_iff_right (List.mem_map_of_mem mem)]
  obtain ⟨grey, yellow, none⟩ := Role.style_ofArgument word
  rw [TellsArgument, refers, String.toList_ofList]
  exact ⟨grey, yellow, none⟩

/-- **A highlighted line shows what it will do.** Its parts between spaces, the empty ones apart, are its
tokens, and each of them is shown in a style of its own. The first is in the style of a builtin command if the
line runs one, and in that of a program if the line starts one; the others are in the style of a reference
if they are logged as such, in that of an option if they start like one, and without a style otherwise. -/
theorem command_shows_what_runs [Host W] (session : Session W) (line : String)
    (unbroken : Token.Unbroken line.toList) :
    let parts := line.toList.splitOn ' '
    let words := parts.filter (!·.isEmpty)
    words.map String.ofList = Token.tokens line ∧
      (∃ painted, colored.command line = String.ofList ([' '].intercalate painted) ∧
        painted.map List.isEmpty = parts.map List.isEmpty ∧
        painted.filter (!·.isEmpty) = List.zipWith paint? (styles words) words) ∧
      ∀ name args, Token.tokens line = name :: args →
        ∃ first rest noted, styles words = first :: rest ∧
          (first = some { hue := .cyan, bold := true } ↔ session.RunsBuiltin line) ∧
          (first = some { hue := .green } ↔ session.StartsProgram line) ∧
          (noteReferences (Token.tokens line)).on session =
            (.ok (), { session with trace := noted ++ session.trace }) ∧
          List.Forall₂ (TellsArgument noted) args rest := by
  intro parts words
  have same : words.map String.ofList = Token.tokens line := by
    rw [Token.tokens_eq, Token.words_eq_filter_splitOn unbroken]
  refine ⟨same, ⟨paintWords false parts, rfl, map_isEmpty_paintWords _ _, filter_paintWords _⟩, ?_⟩
  intro name args tokens
  cases eq : words with
  | nil => simp [← same, eq] at tokens
  | cons command arguments =>
    obtain ⟨rfl, rfl⟩ : String.ofList command = name ∧ arguments.map String.ofList = args := by
      simpa [← same, eq] using tokens
    obtain ⟨cyan, green⟩ := Role.style_ofCommand command
    refine ⟨_, _, _, rfl, ?_, ?_, on_noteReferences _ session, ?_⟩
    · rw [cyan, runsBuiltin_iff tokens]
    · rw [green, startsProgram_iff tokens]
    · rw [List.forall₂_map_left_iff, List.forall₂_map_right_iff, List.forall₂_same, ← same, eq]
      intro word mem
      exact tellsArgument_style (List.mem_cons_of_mem command mem)

end Highlighter

namespace Machine

/-- A session with an editor on a machine. -/
def atEditor : Session Machine :=
  { console := { input := .editor {} }, world := empty }

/-- A line that starts with `cd` is shown as a builtin command, and runs one. -/
theorem command_shows_what_runs_cd :
    Token.Unbroken " cd -L $HOME".toList ∧
      Token.tokens " cd -L $HOME" = ["cd", "-L", "$HOME"] ∧
      atEditor.RunsBuiltin " cd -L $HOME" ∧ ¬atEditor.StartsProgram " cd -L $HOME" := by
  have unbroken : Token.Unbroken " cd -L $HOME".toList := by simp [Token.Unbroken]
  have words : Token.words " cd -L $HOME".toList = ["cd".toList, "-L".toList, "$HOME".toList] := by
    decide
  have tokens : Token.tokens " cd -L $HOME" = ["cd", "-L", "$HOME"] := by
    rw [Token.tokens_eq, words]
    simp
  have shown : Highlighter.styles ((" cd -L $HOME".toList.splitOn ' ').filter (!·.isEmpty)) =
      [some { hue := .cyan, bold := true }, some { hue := .yellow }, some { hue := .grey }] := by
    decide
  obtain ⟨-, -, told⟩ := Highlighter.command_shows_what_runs atEditor _ unbroken
  obtain ⟨first, rest, noted, styles, builtin, program, -, -⟩ := told _ _ tokens
  rw [shown] at styles
  obtain ⟨rfl, -⟩ := List.cons.inj styles
  refine ⟨unbroken, tokens, builtin.mp rfl, fun starts => ?_⟩
  cases program.mpr starts

end Machine

end LineShell
