import LineShell.Highlight
import LineShell.Fault
import LineShell.Proofs.Token.Capacity

/-!
# Messages

What is shown of a fault is one line, as long as the texts that it quotes are.

* `OneLine`: a text without a newline.
* `CommandFault.QuotesLines`: the quoted texts of a fault are one line each.
* `oneLine_error`: then so is its report, in every style.
-/

namespace LineShell

/-- A text without a newline. -/
def OneLine (text : String) : Prop :=
  '\n' ∉ text.toList

namespace OneLine

/-- A text is read off its characters; evaluating `toList` would decode it. -/
theorem of_chars {text : String} {cs : List Char} (spelled : text = String.ofList cs)
    (h : '\n' ∉ cs) : OneLine text := by
  rw [OneLine, spelled, String.toList_ofList]
  exact h

theorem append {a b : String} (first : OneLine a) (second : OneLine b) : OneLine (a ++ b) := by
  intro mem
  rw [String.toList_append] at mem
  exact (List.mem_append.mp mem).elim first second

theorem of_isWord {text : String} (h : Token.IsWord text) : OneLine text :=
  h.newline_notMem

theorem natToString (n : Nat) : OneLine (toString n) := by
  intro mem
  rw [Nat.toString_eq_repr, Nat.toList_repr] at mem
  have := Nat.isDigit_of_mem_toDigits (by decide) (by decide) mem
  revert this
  decide

theorem intToString (n : Int) : OneLine (toString n) := by
  cases n with
  | ofNat n => exact natToString n
  | negSucc n => exact .append (.of_chars rfl (by decide)) (natToString (n + 1))

/-- A text in front of a quoted one, with a colon behind it. -/
theorem label {head text : String} (first : OneLine head) (second : OneLine text) :
    OneLine (head ++ text ++ ": ") :=
  .append (.append first second) (.of_chars rfl (by decide))

/-- A text with the number of an error behind it. -/
theorem number {text : String} (h : OneLine text) (code : Errno) :
    OneLine (text ++ " (os error " ++ toString code ++ ")") :=
  .append (.append (.append h (.of_chars rfl (by decide))) (.intToString code))
    (.of_chars rfl (by decide))

end OneLine

/-! ## Error numbers -/

theorem Errno.oneLine_name (code : Errno) : OneLine code.name := by
  have all : ∀ entry ∈ names, OneLine entry.2 := by
    unfold names
    repeat refine List.forall_mem_cons.mpr ⟨.of_chars rfl (by decide), ?_⟩
    exact List.forall_mem_nil _
  unfold name
  cases found : names.lookup code with
  | none => exact .of_chars rfl (by decide)
  | some text =>
    obtain ⟨l, r, eq, _⟩ := List.lookup_eq_some_iff.mp found
    exact all (code, text) (by rw [eq]; simp)

theorem Errno.oneLine_text (code : Errno) : OneLine code.text := by
  have all : ∀ entry ∈ texts, OneLine entry.2 := by
    unfold texts
    repeat refine List.forall_mem_cons.mpr ⟨.of_chars rfl (by decide), ?_⟩
    exact List.forall_mem_nil _
  unfold text
  cases found : texts.lookup code with
  | none => exact .append (.of_chars rfl (by decide)) (.intToString code)
  | some text =>
    obtain ⟨l, r, eq, _⟩ := List.lookup_eq_some_iff.mp found
    exact all (code, text) (by rw [eq]; simp)

theorem FaultKind.oneLine_name (kind : FaultKind) : OneLine kind.name := by
  cases kind <;> exact .of_chars rfl (by decide)

theorem FaultKind.oneLine_description (kind : FaultKind) : OneLine kind.description := by
  cases kind <;> exact .of_chars rfl (by decide)

/-! ## Faults -/

/-- A text that comes with the fault is one line. -/
def IoFault.QuotesLines : IoFault → Prop
  | .own _ (some text) => OneLine text
  | _ => True

theorem IoFault.oneLine_message {cause : IoFault} (h : cause.QuotesLines) :
    OneLine cause.message := by
  cases cause with
  | os code => exact .number code.oneLine_text code
  | own kind text =>
    cases text with
    | none => exact kind.oneLine_description
    | some text => exact h

/-- The texts that a fault quotes are one line each: what was typed, and what came with the call. -/
def LaunchFault.QuotesLines : LaunchFault → Prop
  | .nothingToLaunch => True
  | .refused program cause | .lost program cause => OneLine program ∧ cause.QuotesLines

theorem LaunchFault.oneLine_message {fault : LaunchFault} (h : fault.QuotesLines) :
    OneLine fault.message := by
  cases fault with
  | nothingToLaunch => exact .of_chars rfl (by decide)
  | refused program cause =>
    exact .append (.label (.of_chars rfl (by decide)) h.1) (IoFault.oneLine_message h.2)
  | lost program cause =>
    exact .append (.label (.of_chars rfl (by decide)) h.1) (IoFault.oneLine_message h.2)

/-- The same for a failed command. A refused change of directory shows no text of the call. -/
def CommandFault.QuotesLines : CommandFault → Prop
  | .usage text => OneLine text
  | .noSuchDirectory path | .directory path _ => OneLine path
  | .noHome => True
  | .launch fault => fault.QuotesLines

theorem CommandFault.oneLine_message {fault : CommandFault} (h : fault.QuotesLines) :
    OneLine fault.message := by
  cases fault with
  | usage text => exact .append (.of_chars rfl (by decide)) h
  | noSuchDirectory path => exact .append (.of_chars rfl (by decide)) h
  | directory path cause =>
    have start : OneLine ("cd: " ++ path ++ ": ") := .label (.of_chars rfl (by decide)) h
    cases cause with
    | os code => exact .number (start.append code.oneLine_name) code
    | own kind text => exact start.append kind.oneLine_name
  | noHome => exact .of_chars rfl (by decide)
  | launch fault => exact .append (.of_chars rfl (by decide)) (LaunchFault.oneLine_message h)

/-! ## Styles -/

theorem Ansi.Style.oneLine_paint (style : Style) {text : String} (h : OneLine text) :
    OneLine (style.paint text) := by
  have opening : '\n' ∉ style.opening := by
    rcases style with ⟨hue, bold⟩
    cases hue <;> cases bold <;> decide
  have closing : '\n' ∉ reset := by decide
  simp [OneLine, paint, paintChars, opening, closing] at h ⊢
  exact h

theorem Highlighter.oneLine_styled (highlighter : Highlighter) (style : Ansi.Style) {text : String}
    (h : OneLine text) : OneLine (highlighter.styled style text) := by
  cases highlighter with
  | plain => exact h
  | colored => exact style.oneLine_paint h

/-- The report of a fault that quotes single lines is a single line. -/
theorem oneLine_error (highlighter : Highlighter) {fault : CommandFault} (h : fault.QuotesLines) :
    OneLine (highlighter.error fault.message) :=
  highlighter.oneLine_styled _ (CommandFault.oneLine_message h)

/-- A line that is written holds one newline, the one at its end. -/
theorem OneLine.count_newline {text : String} (h : OneLine text) :
    (Utf8.encode (text ++ "\n")).count newline = 1 := by
  rw [Utf8.count_newline_encode, String.toList_append, List.count_append, List.count_eq_zero.mpr h]
  rfl

end LineShell
