import LineShell.Token

/-!
# A pool of cursors

Cursors are values, so a copy goes its own way. A pool holds the cursors that were made from one line by
copying, numbered in the order of their making.

* `Request`: what can be asked of a cursor in the pool.
* `Pool.answer`: one request, its answer and the pool after it.
* `Pool.answers`: a sequence of requests.
-/

namespace LineShell.Token

/-- What can be asked of a cursor: its next token, a copy of it, the tokens left, or how many are left
(which reads them). -/
inductive Request where
  | next
  | copy
  | rest
  | count
deriving DecidableEq, Repr

/-- What a request is answered with. -/
inductive Answer where
  | token (token : Option String)
  | number (n : Nat)
  | tokens (tokens : List String)
deriving DecidableEq, Repr

/-- Cursors over one line, numbered from 0. -/
abbrev Pool := List Cursor

/-- The pool with the one cursor at the start of a line. -/
def Pool.ofLine (line : String) : Pool :=
  [Cursor.ofLine line]

/-- One request to cursor `i`; `none` when there is no such cursor. -/
def Pool.answer (pool : Pool) (i : Nat) (request : Request) : Option (Answer × Pool) :=
  (pool[i]?).map fun cursor =>
    match request with
    | .next => (.token cursor.next.1, pool.set i cursor.next.2)
    | .copy => (.number pool.length, pool ++ [cursor])
    | .rest => (.tokens cursor.toList, pool)
    | .count => (.number cursor.toList.length, pool.set i ⟨[]⟩)

/-- The answers to a sequence of requests, up to the first one for a cursor that does not exist. -/
def Pool.answers : Pool → List (Nat × Request) → List Answer
  | _, [] => []
  | pool, (i, request) :: requests =>
    match pool.answer i request with
    | none => []
    | some (answer, after) => answer :: after.answers requests

end LineShell.Token
