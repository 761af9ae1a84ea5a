import LineShell.Proofs.Text.Utf8
import LineShell.Token

/-!
# Tokens of a line

What every token is like, and how many of them a line can have.

* `Cursor.induction`: the tokens of a line, one after another.
* `Cursor.collect?_eq`: a capacity cuts nothing off; it is enough or it is not.
* `two_mul_length_tokens_le`, `tokenize?_self`: a line always has room for its own tokens.
* `isWord_of_mem_tokens`: no token is empty or holds a delimiter.
-/

namespace LineShell.Token

/-! ## Where a token begins and ends -/

/-- What is skipped ends in front of a character that is no delimiter. -/
theorem isDelimiter_of_skipped {text rest : List Char} {c : Char}
    (skipped : text.dropWhile isDelimiter = c :: rest) : isDelimiter c = false := by
  have stops := List.head?_dropWhile_not isDelimiter text
  simpa [skipped] using stops

/-- A token ends in front of a delimiter. -/
theorem isDelimiter_of_behind {text rest : List Char} {d : Char}
    (behind : text.dropWhile (!isDelimiter ·) = d :: rest) : isDelimiter d = true := by
  have stops := List.head?_dropWhile_not (!isDelimiter ·) text
  simpa [behind] using stops

/-- The characters of the token that is read behind what is skipped. -/
theorem isDelimiter_of_mem_read {c : Char} (first : isDelimiter c = false) (rest : List Char) :
    ∀ d ∈ c :: rest.takeWhile (!isDelimiter ·), isDelimiter d = false := by
  intro d mem
  rcases List.mem_cons.mp mem with rfl | mem
  · exact first
  · simpa using List.all_eq_true.mp List.all_takeWhile d mem

namespace Cursor

/-! ## One token at a time -/

theorem next_of_blank {cursor : Cursor} (h : cursor.rest.dropWhile isDelimiter = []) :
    cursor.next = (none, ⟨[]⟩) := by
  simp [next, h]

theorem next_of_cons {cursor : Cursor} {c : Char} {rest : List Char}
    (h : cursor.rest.dropWhile isDelimiter = c :: rest) :
    cursor.next = (some (String.ofList (c :: rest.takeWhile (!isDelimiter ·))),
      ⟨rest.dropWhile (!isDelimiter ·)⟩) := by
  simp [next, h]

theorem toList_of_blank {cursor : Cursor} (h : cursor.rest.dropWhile isDelimiter = []) :
    cursor.toList = [] :=
  toList_of_none (next_of_blank h)

theorem toList_of_cons {cursor : Cursor} {c : Char} {rest : List Char}
    (h : cursor.rest.dropWhile isDelimiter = c :: rest) :
    cursor.toList = String.ofList (c :: rest.takeWhile (!isDelimiter ·)) ::
      (⟨rest.dropWhile (!isDelimiter ·)⟩ : Cursor).toList :=
  toList_of_some (next_of_cons h)

/-- Induction along the tokens: a cursor with nothing but delimiters left, and a cursor with a token in
front of a shorter one. -/
theorem induction {motive : Cursor → Prop}
    (blank : ∀ cursor : Cursor, cursor.rest.dropWhile isDelimiter = [] → motive cursor)
    (token : ∀ (cursor : Cursor) (c : Char) (rest : List Char),
      cursor.rest.dropWhile isDelimiter = c :: rest →
      motive ⟨rest.dropWhile (!isDelimiter ·)⟩ → motive cursor) (cursor : Cursor) :
    motive cursor := by
  cases skipped : cursor.rest.dropWhile isDelimiter with
  | nil => exact blank cursor skipped
  | cons c rest => exact token cursor c rest skipped (induction blank token _)
termination_by cursor.rest.length
decreasing_by exact rest_lt_of_next (next_of_cons skipped)

/-! ## Capacity -/

/-- Reading with a capacity gives all tokens, or nothing if they are too many. -/
theorem collect?_eq (cursor : Cursor) (capacity : Nat) :
    cursor.collect? capacity =
      if cursor.toList.length ≤ capacity then some cursor.toList else none := by
  induction cursor using induction generalizing capacity with
  | blank cursor h =>
    rw [toList_of_blank h, collect?.eq_def, next_of_blank h]
    simp
  | token cursor c rest h ih =>
    rw [toList_of_cons h, collect?.eq_def, next_of_cons h]
    cases capacity with
    | zero => simp
    | succ capacity =>
      simp only [ih, List.length_cons, Nat.succ_le_succ_iff]
      split <;> rfl

/-- Two tokens have a delimiter between them, so behind the leading delimiters there are at least twice as
many characters as tokens, but for the last one. -/
theorem two_mul_length_toList_le_skipped (cursor : Cursor) :
    2 * cursor.toList.length ≤ (cursor.rest.dropWhile isDelimiter).length + 1 := by
  induction cursor using induction with
  | blank cursor h => simp [toList_of_blank h]
  | token cursor c rest h ih =>
    have left := (List.dropWhile_suffix (l := rest) (!isDelimiter ·)).length_le
    rw [toList_of_cons h, h, List.length_cons, List.length_cons]
    cases behind : rest.dropWhile (!isDelimiter ·) with
    | nil =>
      rw [toList_of_blank (by simp), List.length_nil]
      omega
    | cons d rest' =>
      -- The delimiter that ends the token is skipped before the next one.
      have ends := isDelimiter_of_behind behind
      have skipped := (List.dropWhile_suffix (l := rest') isDelimiter).length_le
      rw [behind] at ih left
      simp only [List.dropWhile_cons, ends, if_true, List.length_cons] at ih left
      omega

theorem two_mul_length_toList_le (cursor : Cursor) :
    2 * cursor.toList.length ≤ cursor.rest.length + 1 := by
  have bound := two_mul_length_toList_le_skipped cursor
  have skipped := (List.dropWhile_suffix (l := cursor.rest) isDelimiter).length_le
  omega

end Cursor

/-- A capacity is enough for a line, or it is not: no tokens are left out. -/
theorem tokenize?_eq (line : String) (capacity : Nat) :
    tokenize? line capacity =
      if (tokens line).length ≤ capacity then some (tokens line) else none :=
  Cursor.collect?_eq (Cursor.ofLine line) capacity

/-- A line has at most half as many tokens as bytes, but for the last one. -/
theorem two_mul_length_tokens_le (line : String) :
    2 * (tokens line).length ≤ line.utf8ByteSize + 1 := by
  have bound := Cursor.two_mul_length_toList_le (Cursor.ofLine line)
  have bytes := Utf8.length_toList_le line
  simp only [Cursor.ofLine] at bound
  simp only [tokens, Cursor.ofLine]
  omega

/-- A line always has room for its own tokens. -/
theorem tokenize?_self (line : String) :
    tokenize? line line.utf8ByteSize = some (tokens line) := by
  have bound := two_mul_length_tokens_le line
  rw [tokenize?_eq, if_pos (by omega)]

/-- Where the tokens fit, they are all the tokens of the line. -/
theorem tokens_eq_of_tokenize? {line : String} {capacity : Nat} {ts : List String}
    (h : tokenize? line capacity = some ts) : tokens line = ts := by
  rw [tokenize?_eq] at h
  split at h
  · exact Option.some.inj h
  · cases h

/-! ## Characters of tokens -/

/-- A text that is not empty and holds no delimiter. -/
def IsWord (text : String) : Prop :=
  text ≠ "" ∧ ∀ c ∈ text.toList, isDelimiter c = false

theorem isWord_read {c : Char} (first : isDelimiter c = false) (rest : List Char) :
    IsWord (String.ofList (c :: rest.takeWhile (!isDelimiter ·))) := by
  refine ⟨by simp, fun d mem => ?_⟩
  rw [String.toList_ofList] at mem
  exact isDelimiter_of_mem_read first rest d mem

theorem Cursor.isWord_of_mem_toList (cursor : Cursor) : ∀ token ∈ cursor.toList, IsWord token := by
  induction cursor using induction with
  | blank cursor h => simp [toList_of_blank h]
  | token cursor c rest h ih =>
    rw [toList_of_cons h]
    intro token mem
    rcases List.mem_cons.mp mem with rfl | mem
    · exact isWord_read (isDelimiter_of_skipped h) rest
    · exact ih token mem

theorem isWord_of_mem_tokens {line token : String} (mem : token ∈ tokens line) : IsWord token :=
  Cursor.isWord_of_mem_toList _ token mem

theorem IsWord.newline_notMem {text : String} (h : IsWord text) : '\n' ∉ text.toList := by
  intro mem
  have := h.2 '\n' mem
  simp [isDelimiter] at this

end LineShell.Token
