/-!
# Tokens of a line

A command line is a sequence of tokens separated by runs of spaces, carriage returns and newlines. There is
no quoting: tabs, quotes, backslashes, `$` and `#` stay inside a token.

* `Cursor`: how far the reading of a line has got.
* `Cursor.next`: the next token, read lazily.
* `tokens`: all tokens of a line.
* `tokenize?`: all tokens of a line that has at most a given number of them.
-/

namespace LineShell.Token

/-- The characters that separate tokens. -/
def isDelimiter (c : Char) : Bool :=
  c == ' ' || c == '\r' || c == '\n'

/-- The part of a line whose tokens have not been read yet. -/
structure Cursor where
  rest : List Char
deriving DecidableEq, Repr

/-- The cursor at the start of a line. -/
def Cursor.ofLine (line : String) : Cursor :=
  ⟨line.toList⟩

/-- Skips delimiters and reads the token after them, up to the delimiter that ends it. At the end of
the line there is none, and the cursor stays at the end. -/
def Cursor.next (cursor : Cursor) : Option String × Cursor :=
  match cursor.rest.dropWhile isDelimiter with
  | [] => (none, ⟨[]⟩)
  | c :: rest =>
    (some (String.ofList (c :: rest.takeWhile (!isDelimiter ·))), ⟨rest.dropWhile (!isDelimiter ·)⟩)

/-- A read token takes at least one character off the line. -/
theorem Cursor.rest_lt_of_next {cursor after : Cursor} {token : String}
    (h : cursor.next = (some token, after)) : after.rest.length < cursor.rest.length := by
  unfold Cursor.next at h
  split at h
  · simp at h
  · next c rest skipped =>
    have fewer := (List.dropWhile_suffix (l := cursor.rest) isDelimiter).length_le
    have shorter := (List.dropWhile_suffix (l := rest) (!isDelimiter ·)).length_le
    simp only [Prod.mk.injEq] at h
    rw [← h.2]
    simp only [skipped, List.length_cons] at fewer ⊢
    omega

/-- The tokens that have not been read yet. -/
def Cursor.toList (cursor : Cursor) : List String :=
  match _read : cursor.next with
  | (none, _) => []
  | (some token, after) => token :: after.toList
termination_by cursor.rest.length
decreasing_by exact Cursor.rest_lt_of_next _read

theorem Cursor.toList_of_none {cursor after : Cursor} (h : cursor.next = (none, after)) :
    cursor.toList = [] := by
  rw [toList]
  split <;> simp_all

theorem Cursor.toList_of_some {cursor after : Cursor} {token : String}
    (h : cursor.next = (some token, after)) : cursor.toList = token :: after.toList := by
  rw [toList]
  split <;> simp_all

/-- Reads up to `capacity` tokens and expects the line to end there; `none` when one more follows. -/
def Cursor.collect? (cursor : Cursor) (capacity : Nat) : Option (List String) :=
  match cursor.next, capacity with
  | (none, _), _ => some []
  | (some _, _), 0 => none
  | (some token, after), capacity + 1 => (after.collect? capacity).map (token :: ·)
termination_by structural capacity

/-- The tokens of a line. -/
def tokens (line : String) : List String :=
  (Cursor.ofLine line).toList

/-- The tokens of a line; `none` when there are more than `capacity` of them. -/
def tokenize? (line : String) (capacity : Nat) : Option (List String) :=
  (Cursor.ofLine line).collect? capacity

/-- A token that names an environment variable: it starts with `$`. Such tokens are passed on as
typed. -/
def isReference (token : String) : Bool :=
  token.toList.head? == some '$'

end LineShell.Token
