import LineShell.Completion
import LineShell.Proofs.Machine.Walk
import LineShell.Proofs.Text.Cut
import LineShell.Proofs.Token.Words

/-!
# Where commands are offered

The first word of a line is a command, and the names of commands are offered for it. In front of a first
word there are only blanks, but not all blanks part words.

* `Completion.lead`, `word`: what is before the cursor, cut in front of the word that it is in.
* `Completion.tokens_before`: the tokens in front of the word, and those of the word.
* `Completion.commands_for_first_word`: commands are offered for a first word, and behind blanks that are
  themselves a word.
-/

namespace LineShell.Completion

/-! ## The word before the cursor -/

/-- What is before the word that ends at a position. -/
def lead (line : String) (position : Nat) : List Char :=
  Text.uptoLast ' ' (Text.takeBytes position line.toList)

/-- The word that ends at a position. -/
def word (line : String) (position : Nat) : List Char :=
  Text.afterLast ' ' (Text.takeBytes position line.toList)

section
variable (line : String) (position : Nat)

theorem lead_append_word : lead line position ++ word line position =
    Text.takeBytes position line.toList :=
  Text.uptoLast_append_afterLast _ _

theorem lead_prefix : lead line position <+: line.toList :=
  (lead_append_word line position ▸ List.prefix_append ..).trans (Text.takeBytes_prefix _ _)

/-- A completion starts where its word does. -/
theorem takeBytes_start {W : Type} [Host W] (world : W) :
    Text.takeBytes (ofLine world line position).start line.toList = lead line position := by
  obtain ⟨behind, eq⟩ := lead_prefix line position
  rw [← eq]
  exact Text.takeBytes_size _ _

theorem candidates_ofLine {W : Type} [Host W] (world : W) :
    (ofLine world line position).candidates =
      if (lead line position).all Text.isBlank then commands (word line position)
      else paths world (word line position) :=
  rfl

/-- The tokens up to the cursor are those in front of the word, and those of the word itself. -/
theorem words_before : Token.words (lead line position ++ word line position) =
    Token.words (lead line position) ++ Token.words (word line position) := by
  rcases Text.uptoLast_eq_nil_or ' ' (Text.takeBytes position line.toList) with none | ⟨front, eq⟩
  · simp [lead, none]
  · have delimits : Token.isDelimiter ' ' = true := rfl
    have closed : Token.words (front ++ [' ']) = Token.words front := by
      rw [Token.words_append_cons delimits, Token.words_nil, List.append_nil]
    rw [lead, eq, closed, List.append_assoc, List.singleton_append,
      Token.words_append_cons delimits]

/-- On an unbroken line the word is a token by itself. -/
theorem words_word (unbroken : Token.Unbroken line.toList) (some : word line position ≠ []) :
    Token.words (word line position) = [word line position] := by
  have part : ∀ c ∈ word line position, c ∈ line.toList := by
    intro c mem
    apply (Text.takeBytes_prefix position line.toList).subset
    rw [← lead_append_word]
    exact List.mem_append_right _ mem
  apply Token.words_of_free some
  intro c mem
  rw [unbroken.isDelimiter_eq (part c mem), beq_eq_false_iff_ne]
  rintro rfl
  exact Text.notMem_afterLast ' ' _ mem

end

/-! ## Blanks and delimiters -/

/-- A text of blanks in which some blank is no delimiter, so that it is a word, or part of one. -/
def HidesWord (text : List Char) : Prop :=
  (∀ c ∈ text, Text.isBlank c = true) ∧ ∃ c ∈ text, Token.isDelimiter c = false

/-- Blanks that hide no word are delimiters, and the other way round. -/
theorem words_eq_nil_iff_of_not_hidesWord {text : List Char} (plain : ¬HidesWord text) :
    Token.words text = [] ↔ text.all Text.isBlank = true := by
  rw [Token.words_eq_nil_iff, List.all_eq_true]
  constructor
  · intro all c mem
    exact Token.isBlank_of_isDelimiter (all c mem)
  · intro blank c mem
    by_contra part
    exact plain ⟨blank, c, mem, by simpa using part⟩

theorem HidesWord.words_ne_nil {text : List Char} (hides : HidesWord text) :
    Token.words text ≠ [] := by
  obtain ⟨-, c, mem, part⟩ := hides
  intro none
  have delimits := Token.words_eq_nil_iff.mp none c mem
  rw [part] at delimits
  cases delimits

/-! ## Commands -/

/-- **Commands are offered for the first word of a line**, and paths for every other word, wherever the blanks
in front of the word hide no word. Where they do, as a tab does, the word is not the first one, and
commands are offered for it all the same. -/
theorem commands_for_first_word {W : Type} [Host W] (world : W) (line : String) (position : Nat)
    (unbroken : Token.Unbroken line.toList) :
    let completion := ofLine world line position
    let lead := Text.takeBytes completion.start line.toList
    ∃ word, Text.takeBytes position line.toList = lead ++ word ∧
      (word ≠ [] → Token.tokens (String.ofList (lead ++ word)) =
        Token.tokens (String.ofList lead) ++ [String.ofList word]) ∧
      (¬HidesWord lead → completion.candidates =
        if Token.tokens (String.ofList lead) = [] then commands word else paths world word) ∧
      (HidesWord lead →
        Token.tokens (String.ofList lead) ≠ [] ∧ completion.candidates = commands word) := by
  intro completion front
  have cut : front = lead line position := takeBytes_start line position world
  have listed : completion.candidates = _ := candidates_ofLine line position world
  rw [cut]
  refine ⟨word line position, (lead_append_word line position).symm, ?_, ?_, ?_⟩
  · intro some
    simp only [Token.tokens_eq, String.toList_ofList, words_before, words_word line position unbroken some,
      List.map_append, List.map_singleton]
  · intro plain
    simp only [Token.tokens_eq, String.toList_ofList, List.map_eq_nil_iff,
      words_eq_nil_iff_of_not_hidesWord plain]
    exact listed
  · intro hides
    rw [Token.tokens_eq, String.toList_ofList, Ne, List.map_eq_nil_iff]
    refine ⟨hides.words_ne_nil, ?_⟩
    rw [listed, if_pos (List.all_eq_true.mpr hides.1)]

end LineShell.Completion

namespace LineShell.Machine

/-- A machine with nothing in its root directory. -/
def bare : Machine := { tree := {} }

theorem entries_bare : Host.entries bare (Utf8.encode ".") = some [] :=
  entries_of_enter (enter_dot.mpr ⟨by decide, rfl⟩)

/-- Behind two spaces a word is the first one, and the names of commands are offered for it. -/
theorem commands_for_first_word_indented : Token.Unbroken "  p".toList ∧
    ∃ word, Text.takeBytes 3 "  p".toList = [' ', ' '] ++ word ∧
      (Completion.ofLine bare "  p" 3).candidates = Completion.commands word := by
  have unbroken : Token.Unbroken "  p".toList := by simp [Token.Unbroken]
  have start : Text.takeBytes (Completion.ofLine bare "  p" 3).start "  p".toList = [' ', ' '] := by
    decide
  have plain : ¬Completion.HidesWord [' ', ' '] := by
    rintro ⟨-, c, mem, part⟩
    obtain rfl : c = ' ' := by simpa using mem
    cases part
  obtain ⟨word, cut, -, offered, -⟩ := Completion.commands_for_first_word bare "  p" 3 unbroken
  rw [start] at cut offered
  refine ⟨unbroken, word, cut, ?_⟩
  rw [offered plain, if_pos (Token.tokens_eq_nil_iff.mpr (by simp [Token.isDelimiter]))]

/-- Behind a tab and a space the names of commands are offered, and no paths, although the tab is a token. -/
theorem commands_behind_tab :
    Completion.ofLine bare "\t a" 3 = ⟨2, [⟨"alias", "alias "⟩]⟩ ∧
      Completion.paths bare ['a'] = [] ∧ Token.tokens "\t " = ["\t"] := by
  have tab : Token.words "\t ".toList = [['\t']] := by decide
  refine ⟨by decide, ?_, by rw [Token.tokens_eq, tab]; rfl⟩
  have here : (String.ofList (Text.uptoLast '/' ['a'])).isEmpty = true := by decide
  simp [Completion.paths, here, entries_bare]

end LineShell.Machine
