import LineShell.Proofs.Token.Capacity
import LineShell.Text.Blank

/-!
# Words of a line

Cut at every delimiter, a line falls into parts, and its tokens are the parts that are not empty.

* `words`: the parts of a text between its delimiters.
* `words_append_cons`: a delimiter parts what is before it from what is behind it.
* `Cursor.toList_eq`, `tokens_eq`: the words of a line are its tokens.
* `allBlank_of_tokens_eq_nil`: a line without tokens is blank.
* `words_eq_filter_splitOn`: without line ends, they are the parts between its spaces.
-/

namespace LineShell.Token

/-! ## Cutting at delimiters -/

/-- The parts of a text between its delimiters, the empty ones left out. -/
def words (text : List Char) : List (List Char) :=
  (text.splitOnP isDelimiter).filter (!·.isEmpty)

@[simp] theorem words_nil : words [] = [] := by
  simp [words]

/-- A delimiter parts what is before it from what is behind it. -/
theorem words_append_cons {d : Char} (delimits : isDelimiter d = true) (before behind : List Char) :
    words (before ++ d :: behind) = words before ++ words behind := by
  simp only [words, List.splitOnP_append_cons _ _ delimits, List.filter_append]

theorem words_cons_delimiter {d : Char} (delimits : isDelimiter d = true) (text : List Char) :
    words (d :: text) = words text := by
  have parted := words_append_cons delimits [] text
  rwa [words_nil, List.nil_append, List.nil_append] at parted

/-- A text without delimiters is one word. -/
theorem words_of_free {text : List Char} (some : text ≠ [])
    (free : ∀ c ∈ text, isDelimiter c = false) : words text = [text] := by
  rw [words, List.splitOnP_eq_singleton free]
  simp [some]

/-- Delimiters in front of a text are no part of its words. -/
theorem words_dropWhile (text : List Char) : words (text.dropWhile isDelimiter) = words text := by
  induction text with
  | nil => rfl
  | cons c text ih =>
    rw [List.dropWhile_cons]
    split
    · next delimits => rw [ih, words_cons_delimiter delimits]
    · rfl

/-- A text with no delimiter in front begins with a word, which goes up to the next delimiter. -/
theorem words_cons {c : Char} (first : isDelimiter c = false) (rest : List Char) :
    words (c :: rest) =
      (c :: rest.takeWhile (!isDelimiter ·)) :: words (rest.dropWhile (!isDelimiter ·)) := by
  have free := isDelimiter_of_mem_read first rest
  have cut : c :: rest =
      (c :: rest.takeWhile (!isDelimiter ·)) ++ rest.dropWhile (!isDelimiter ·) := by
    rw [List.cons_append, List.takeWhile_append_dropWhile]
  rw [cut]
  cases behind : rest.dropWhile (!isDelimiter ·) with
  | nil => rw [List.append_nil, words_of_free (by simp) free, words_nil]
  | cons d behind' =>
    have delimits := isDelimiter_of_behind behind
    rw [words_append_cons delimits, words_of_free (by simp) free, words_cons_delimiter delimits]
    rfl

/-- Only delimiters have no words. -/
theorem words_eq_nil_iff {text : List Char} :
    words text = [] ↔ ∀ c ∈ text, isDelimiter c = true := by
  induction text with
  | nil => simp
  | cons c text ih =>
    cases first : isDelimiter c with
    | true => simp [words_cons_delimiter first, ih, first]
    | false => simp [words_cons first, first]

/-! ## The words are the tokens -/

/-- What a cursor still has to read are the words of the rest of its line. -/
theorem Cursor.toList_eq (cursor : Cursor) :
    cursor.toList = (words cursor.rest).map String.ofList := by
  induction cursor using induction with
  | blank cursor h => rw [toList_of_blank h, ← words_dropWhile, h, words_nil, List.map_nil]
  | token cursor c rest h ih =>
    rw [toList_of_cons h, ih, ← words_dropWhile cursor.rest, h, words_cons (isDelimiter_of_skipped h),
      List.map_cons]

theorem tokens_eq (line : String) : tokens line = (words line.toList).map String.ofList :=
  Cursor.toList_eq (Cursor.ofLine line)

theorem tokens_eq_nil_iff {line : String} :
    tokens line = [] ↔ ∀ c ∈ line.toList, isDelimiter c = true := by
  rw [tokens_eq, List.map_eq_nil_iff, words_eq_nil_iff]

/-! ## Blanks and delimiters -/

/-- Every delimiter is blank. -/
theorem isBlank_of_isDelimiter {c : Char} (delimits : isDelimiter c = true) :
    Text.isBlank c = true := by
  simp only [isDelimiter, Bool.or_eq_true, beq_iff_eq] at delimits
  rcases delimits with (rfl | rfl) | rfl <;> decide

/-- A line without tokens is blank. -/
theorem allBlank_of_tokens_eq_nil {line : String} (none : tokens line = []) :
    Text.allBlank line = true := by
  apply List.all_eq_true.mpr
  intro c mem
  exact isBlank_of_isDelimiter (tokens_eq_nil_iff.mp none c mem)

/-! ## Lines without line ends -/

/-- A line as the editor gives it: with neither a carriage return nor a newline in it. -/
def Unbroken (text : List Char) : Prop :=
  ∀ c ∈ text, c ≠ '\r' ∧ c ≠ '\n'

theorem Unbroken.isDelimiter_eq {text : List Char} (unbroken : Unbroken text) {c : Char}
    (mem : c ∈ text) : isDelimiter c = (c == ' ') := by
  have noReturn : (c == '\r') = false := beq_eq_false_iff_ne.mpr (unbroken c mem).1
  have noNewline : (c == '\n') = false := beq_eq_false_iff_ne.mpr (unbroken c mem).2
  rw [isDelimiter, noReturn, noNewline, Bool.or_false, Bool.or_false]

/-- Without line ends, the words are the parts between the spaces. -/
theorem words_eq_filter_splitOn {text : List Char} (unbroken : Unbroken text) :
    words text = (text.splitOn ' ').filter (!·.isEmpty) := by
  have same : text.splitOnP isDelimiter = text.splitOnP (· == ' ') := by
    induction text with
    | nil => rfl
    | cons c text ih =>
      have later : Unbroken text := fun d mem => unbroken d (List.mem_cons_of_mem c mem)
      rw [List.splitOnP_cons_eq_if_modifyHead, List.splitOnP_cons_eq_if_modifyHead, ih later,
        unbroken.isDelimiter_eq List.mem_cons_self]
  rw [words, same, List.splitOn_eq_splitOnP]

end LineShell.Token
