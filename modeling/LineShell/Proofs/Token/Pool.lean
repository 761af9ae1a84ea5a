import LineShell.Proofs.Token.Words
import LineShell.Token.Pool

/-!
# A pool of cursors is a pool of lists

A cursor reads its line as it goes. To whoever asks it, it is the list of the tokens that it has not
returned, and a copy of it is a list of its own.

* `Cursor.next_eq`, `Cursor.next_advances`: what the next token is, and what is left behind it.
* `Unread`: lists that are asked as cursors are.
* `Pool.answer_unread`, `answers_unread`: cursors answer as the lists of their tokens do.
* `Pool.GoesOver`: every cursor reads the line on its own, to its end.
* `Pool.answers_as_lists`: both for all pools made from a line.
-/

namespace LineShell.Token

/-! ## One cursor -/

namespace Cursor

/-- The next token is the first of those not returned, and behind it there are the others. -/
theorem next_eq (cursor : Cursor) :
    cursor.next.1 = cursor.toList.head? ∧ cursor.next.2.toList = cursor.toList.tail := by
  cases skipped : cursor.rest.dropWhile isDelimiter with
  | nil =>
    rw [next_of_blank skipped, toList_of_blank skipped, toList_of_blank rfl]
    exact ⟨rfl, rfl⟩
  | cons c rest =>
    rw [next_of_cons skipped, toList_of_cons skipped]
    exact ⟨rfl, rfl⟩

/-- A token was read off the rest of the line: there are only delimiters in front of it, and less of the
line is left behind it. -/
structure Advances (cursor : Cursor) (token : String) (after : Cursor) : Prop where
  read : ∃ skipped, (∀ c ∈ skipped, isDelimiter c = true) ∧
    cursor.rest = skipped ++ token.toList ++ after.rest
  shorter : after.rest.length < cursor.rest.length

theorem next_advances {cursor after : Cursor} {token : String}
    (read : cursor.next = (some token, after)) : cursor.Advances token after := by
  refine ⟨?_, rest_lt_of_next read⟩
  refine ⟨cursor.rest.takeWhile isDelimiter, List.all_eq_true.mp List.all_takeWhile, ?_⟩
  have cut := List.takeWhile_append_dropWhile (p := isDelimiter) (l := cursor.rest)
  cases skipped : cursor.rest.dropWhile isDelimiter with
  | nil => simp [next_of_blank skipped] at read
  | cons c rest =>
    rw [next_of_cons skipped] at read
    obtain ⟨rfl, rfl⟩ : String.ofList (c :: rest.takeWhile (!isDelimiter ·)) = token ∧
        (⟨rest.dropWhile (!isDelimiter ·)⟩ : Cursor) = after := by simpa using read
    rw [String.toList_ofList, List.append_assoc, List.cons_append, List.takeWhile_append_dropWhile,
      ← skipped, cut]

/-- Whether or not there is a next token, what is left ends as the line does. -/
theorem rest_next_suffix (cursor : Cursor) : cursor.next.2.rest <:+ cursor.rest := by
  cases read : cursor.next with
  | mk token after =>
    cases token with
    | some token =>
      obtain ⟨skipped, -, eq⟩ := (next_advances read).read
      exact ⟨skipped ++ token.toList, eq.symm⟩
    | none =>
      cases skipped : cursor.rest.dropWhile isDelimiter with
      | nil =>
        rw [next_of_blank skipped] at read
        cases read
        exact List.nil_suffix
      | cons c rest => simp [next_of_cons skipped] at read

end Cursor

/-! ## Lists in the place of cursors -/

/-- For every cursor of a pool, the tokens that it has not returned. -/
abbrev Unread := List (List String)

namespace Unread

/-- One request to list `i`; `none` when there is no such list. -/
def answer (lists : Unread) (i : Nat) (request : Request) : Option (Answer × Unread) :=
  (lists[i]?).map fun left =>
    match request with
    | .next => (.token left.head?, lists.set i left.tail)
    | .copy => (.number lists.length, lists ++ [left])
    | .rest => (.tokens left, lists)
    | .count => (.number left.length, lists.set i [])

/-- The answers to a sequence of requests, up to the first one for a list that does not exist. -/
def answers : Unread → List (Nat × Request) → List Answer
  | _, [] => []
  | lists, (i, request) :: requests =>
    match lists.answer i request with
    | none => []
    | some (answer, after) => answer :: after.answers requests

end Unread

namespace Pool

/-- What the cursors of a pool have not returned. -/
def unread (pool : Pool) : Unread :=
  pool.map Cursor.toList

/-- A request is answered as by the lists, and leaves what they leave. -/
theorem answer_unread (pool : Pool) (i : Nat) (request : Request) :
    pool.unread.answer i request =
      (pool.answer i request).map fun (answer, after) => (answer, after.unread) := by
  simp only [answer, Unread.answer, unread, List.getElem?_map, Option.map_map]
  congr 1
  funext cursor
  have next := cursor.next_eq
  have none : (⟨[]⟩ : Cursor).toList = [] := Cursor.toList_of_blank rfl
  cases request with
  | next => simp [List.map_set, next.1, next.2]
  | copy => simp
  | rest => rfl
  | count => simp [List.map_set, none]

/-- So are all requests, in whatever order they come. -/
theorem answers_unread (pool : Pool) (requests : List (Nat × Request)) :
    pool.answers requests = pool.unread.answers requests := by
  induction requests generalizing pool with
  | nil => rfl
  | cons entry requests ih =>
    obtain ⟨i, request⟩ := entry
    rw [answers, Unread.answers, answer_unread]
    cases pool.answer i request with
    | none => rfl
    | some answered => simp only [Option.map_some, ih]

/-! ## Pools in time -/

/-- The pool that a sequence of requests leaves, up to the first one for a cursor that does not exist. -/
def after : Pool → List (Nat × Request) → Pool
  | pool, [] => pool
  | pool, (i, request) :: requests =>
    match pool.answer i request with
    | none => pool
    | some (_, next) => next.after requests

/-- What one request does to the pool: the cursor that is asked gives way to one that is behind it, or to
none, and a copy is added at the end. -/
theorem answer_cases {pool after : Pool} {i : Nat} {request : Request} {answer : Answer}
    (answered : pool.answer i request = some (answer, after)) :
    ∃ cursor, pool[i]? = some cursor ∧
      ((request = .next ∧ answer = .token cursor.next.1 ∧ after = pool.set i cursor.next.2) ∨
        (request = .copy ∧ after = pool ++ [cursor]) ∨
        (request = .rest ∧ after = pool) ∨
        (request = .count ∧ after = pool.set i ⟨[]⟩)) := by
  obtain ⟨cursor, there, eq⟩ := Option.map_eq_some_iff.mp answered
  refine ⟨cursor, there, ?_⟩
  cases request <;> cases eq <;> simp

/-- A property of cursors that reading on keeps, and that the end of the line has, is kept by every
request. -/
theorem forall_mem_answer {motive : Cursor → Prop} (atEnd : motive ⟨[]⟩)
    (advance : ∀ cursor, motive cursor → motive cursor.next.2) {pool after : Pool} {i : Nat}
    {request : Request} {answer : Answer} (answered : pool.answer i request = some (answer, after))
    (all : ∀ cursor ∈ pool, motive cursor) : ∀ cursor ∈ after, motive cursor := by
  obtain ⟨cursor, there, step⟩ := answer_cases answered
  have asked : motive cursor := all cursor (List.mem_of_getElem? there)
  intro other mem
  rcases step with ⟨-, -, rfl⟩ | ⟨-, rfl⟩ | ⟨-, rfl⟩ | ⟨-, rfl⟩
  · rcases List.mem_or_eq_of_mem_set mem with old | rfl
    · exact all other old
    · exact advance cursor asked
  · rcases List.mem_append.mp mem with old | new
    · exact all other old
    · rwa [List.mem_singleton.mp new]
  · exact all other mem
  · rcases List.mem_or_eq_of_mem_set mem with old | rfl
    · exact all other old
    · exact atEnd

theorem forall_mem_after {motive : Cursor → Prop} (atEnd : motive ⟨[]⟩)
    (advance : ∀ cursor, motive cursor → motive cursor.next.2) {pool : Pool}
    (all : ∀ cursor ∈ pool, motive cursor) (requests : List (Nat × Request)) :
    ∀ cursor ∈ pool.after requests, motive cursor := by
  induction requests generalizing pool with
  | nil => exact all
  | cons entry requests ih =>
    obtain ⟨i, request⟩ := entry
    rw [after]
    split
    · exact all
    · next answered => exact ih (forall_mem_answer atEnd advance answered all)

/-- A request leaves every other cursor where it stands. -/
theorem getElem?_answer {pool after : Pool} {i j : Nat} {request : Request} {answer : Answer}
    (answered : pool.answer i request = some (answer, after)) {cursor : Cursor}
    (there : pool[j]? = some cursor) (other : request = .next ∨ request = .count → j ≠ i) :
    after[j]? = some cursor := by
  have inside : j < pool.length := (List.getElem?_eq_some_iff.mp there).1
  obtain ⟨_, _, step⟩ := answer_cases answered
  rcases step with ⟨rfl, -, rfl⟩ | ⟨-, rfl⟩ | ⟨-, rfl⟩ | ⟨rfl, rfl⟩
  · rw [List.getElem?_set_ne (other (.inl rfl)).symm, there]
  · rw [List.getElem?_append_left inside, there]
  · exact there
  · rw [List.getElem?_set_ne (other (.inr rfl)).symm, there]

/-- As long as it is not asked, a cursor stands where it stood, whatever the others are asked. -/
theorem getElem?_after {pool : Pool} {j : Nat} {cursor : Cursor} (there : pool[j]? = some cursor)
    {requests : List (Nat × Request)} (others : ∀ entry ∈ requests, entry.1 ≠ j) :
    (pool.after requests)[j]? = some cursor := by
  induction requests generalizing pool with
  | nil => exact there
  | cons entry requests ih =>
    obtain ⟨i, request⟩ := entry
    have other : j ≠ i := (others _ List.mem_cons_self).symm
    rw [after]
    split
    · exact there
    · next answered =>
      apply ih (getElem?_answer answered there fun _ => other)
      exact fun entry mem => others entry (List.mem_cons_of_mem _ mem)

/-! ## Cursors at the end -/

/-- The cursor has no token left. -/
def SpentAt (pool : Pool) (i : Nat) : Prop :=
  ∃ cursor, pool[i]? = some cursor ∧ cursor.toList = []

/-- Nothing gives a cursor new tokens. -/
theorem SpentAt.answer {pool after : Pool} {i j : Nat} {request : Request} {answer : Answer}
    (spent : pool.SpentAt j) (answered : pool.answer i request = some (answer, after)) :
    after.SpentAt j ∧ ((i, request) = (j, .next) → answer = .token none) := by
  obtain ⟨cursor, there, none⟩ := spent
  obtain ⟨asked, here, step⟩ := answer_cases answered
  by_cases same : i = j
  · subst same
    obtain rfl : cursor = asked := Option.some.inj (there.symm.trans here)
    have inside : i < pool.length := (List.getElem?_eq_some_iff.mp there).1
    have next := cursor.next_eq
    rw [none] at next
    rcases step with ⟨rfl, rfl, rfl⟩ | ⟨rfl, rfl⟩ | ⟨rfl, rfl⟩ | ⟨rfl, rfl⟩
    · exact ⟨⟨_, List.getElem?_set_self inside, next.2⟩, fun _ => by rw [next.1]; rfl⟩
    · refine ⟨⟨cursor, ?_, none⟩, fun eq => by cases eq⟩
      rw [List.getElem?_append_left inside, there]
    · exact ⟨⟨cursor, there, none⟩, fun eq => by cases eq⟩
    · exact ⟨⟨_, List.getElem?_set_self inside, Cursor.toList_of_blank rfl⟩, fun eq => by cases eq⟩
  · refine ⟨⟨cursor, getElem?_answer answered there fun _ => Ne.symm same, none⟩, fun eq => ?_⟩
    exact absurd (congrArg Prod.fst eq) same

/-- A cursor that has no token left never returns one again. -/
theorem SpentAt.answers {pool : Pool} {j : Nat} (spent : pool.SpentAt j)
    (requests : List (Nat × Request)) :
    ∀ entry ∈ requests.zip (pool.answers requests), entry.1 = (j, .next) →
      entry.2 = .token none := by
  induction requests generalizing pool with
  | nil => simp
  | cons entry requests ih =>
    obtain ⟨i, request⟩ := entry
    rw [Pool.answers]
    cases answered : pool.answer i request with
    | none => simp
    | some result =>
      obtain ⟨answer, after⟩ := result
      obtain ⟨still, nothing⟩ := spent.answer answered
      rw [List.zip_cons_cons]
      intro entry mem asks
      rcases List.mem_cons.mp mem with rfl | later
      · exact nothing asks
      · exact ih still entry later asks

/-! ## Pools made from a line -/

/-- The cursors of a pool go over one line, each of them on its own. -/
structure GoesOver (pool : Pool) (line : String) : Prop where
  /-- Every cursor stands between two characters of the line. -/
  stands : ∀ cursor ∈ pool, ∃ before : String, line = before ++ String.ofList cursor.rest
  /-- With every token there is less of the line behind the cursor. -/
  advances : ∀ cursor ∈ pool, ∀ token next, cursor.next = (some token, next) →
    cursor.Advances token next
  /-- What the others are asked leaves a cursor where it stands. -/
  apart : ∀ j (cursor : Cursor), pool[j]? = some cursor → ∀ requests : List (Nat × Request),
    (∀ entry ∈ requests, entry.1 ≠ j) → (pool.after requests)[j]? = some cursor
  /-- A cursor that once had no next token never has one again. -/
  ends : ∀ j (cursor : Cursor), pool[j]? = some cursor → cursor.next.1 = none →
    ∀ requests : List (Nat × Request), ∀ entry ∈ requests.zip (pool.answers requests),
      entry.1 = (j, .next) → entry.2 = .token none

theorem goesOver_after (line : String) (requests : List (Nat × Request)) :
    ((ofLine line).after requests).GoesOver line where
  stands cursor mem := by
    have start : ∀ cursor ∈ ofLine line, cursor.rest <:+ line.toList := by
      simp [ofLine, Cursor.ofLine]
    obtain ⟨before, eq⟩ := forall_mem_after (motive := fun cursor => cursor.rest <:+ line.toList)
      List.nil_suffix (fun cursor => cursor.rest_next_suffix.trans) start requests cursor mem
    exact ⟨String.ofList before, by rw [← String.ofList_append, eq, String.ofList_toList]⟩
  advances _ _ _ _ read := Cursor.next_advances read
  apart _ _ there _ others := getElem?_after there others
  ends j cursor there nothing more := by
    rw [cursor.next_eq.1, List.head?_eq_none_iff] at nothing
    exact SpentAt.answers ⟨cursor, there, nothing⟩ more

/-- **Cursors over one line are as good as lists.** Whatever is asked of the cursors that are made from the
one at the start of a line, they answer as the lists of the words that they have not returned. In every pool
that comes of it, each cursor goes over the line on its own. -/
theorem answers_as_lists (line : String) (requests : List (Nat × Request)) :
    (ofLine line).answers requests =
        Unread.answers [(words line.toList).map String.ofList] requests ∧
      ((ofLine line).after requests).GoesOver line := by
  have start : (ofLine line).unread = [(words line.toList).map String.ofList] := by
    simp [ofLine, unread, Cursor.toList_eq, Cursor.ofLine]
  refine ⟨?_, goesOver_after line requests⟩
  rw [answers_unread, start]

end Pool

end LineShell.Token
