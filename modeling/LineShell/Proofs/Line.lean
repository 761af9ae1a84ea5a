import LineShell.Proofs.Message
import LineShell.Proofs.Script
import LineShell.Proofs.Text.Utf8
import Mathlib.Data.List.Forall2
import Mathlib.Logic.Relation

/-!
# Lines of pieces

A line is the text of a piece without its terminators, carriage returns and newlines at its end. How many of
them there are makes no difference.

* `lineOfPiece_append`: the line of a piece that ends in terminators.
* `Unterminated`, `unterminated_of_piece`: a line holds no newline and ends in no carriage return.
* `Reterminates`, `linesOf_eq_of_reterminates`: scripts that differ in terminators hold the same lines.
-/

namespace LineShell

/-- The byte that may stand in front of a newline. -/
def carriageReturn : UInt8 := 0x0D

/-- Nothing but carriage returns and newlines. -/
def Terminators (tail : Bytes) : Prop :=
  ∀ b ∈ tail, b = carriageReturn ∨ b = newline

/-- The characters that `stripEnd` takes off the end of a line. -/
def isTerminator (c : Char) : Bool :=
  c == '\r' || c == '\n'

/-! ## Stripping -/

theorem stripEnd_append {tail : List Char} (ends : ∀ c ∈ tail, isTerminator c = true)
    (cs : List Char) : stripEnd (cs ++ tail) = stripEnd cs := by
  unfold stripEnd
  rw [List.reverse_append, List.dropWhile_append_of_pos]
  intro c mem
  exact ends c (List.mem_reverse.mp mem)

theorem mem_of_mem_stripEnd {cs : List Char} {c : Char} (mem : c ∈ stripEnd cs) : c ∈ cs := by
  rw [stripEnd, List.mem_reverse] at mem
  exact List.mem_reverse.mp ((List.dropWhile_suffix _).subset mem)

theorem getLast?_stripEnd {cs : List Char} {c : Char} (h : (stripEnd cs).getLast? = some c) :
    isTerminator c = false := by
  rw [stripEnd, List.getLast?_reverse] at h
  obtain ⟨rest, kept⟩ := List.head?_eq_some_iff.mp h
  have stops := List.head?_dropWhile_not (fun c => c == '\r' || c == '\n') cs.reverse
  rw [kept] at stops
  simpa [isTerminator] using stops

/-! ## Terminators -/

theorem Terminators.ascii {tail : Bytes} (ends : Terminators tail) : ∀ b ∈ tail, b < 0x80 := by
  intro b mem
  rcases ends b mem with rfl | rfl <;> decide

/-- Terminators behind a piece are no part of its line. -/
theorem lineOfPiece_append {body tail : Bytes} (ends : Terminators tail) (some : body ++ tail ≠ []) :
    lineOfPiece (body ++ tail) =
      match Utf8.decode? body with
      | none => .error (.io .malformedText)
      | .some text => .ok (String.ofList (stripEnd text.toList)) := by
  have notEmpty : (body ++ tail).isEmpty = false := by simpa using some
  have taken : ∀ c ∈ tail.map fun b => Char.ofNat b.toNat, isTerminator c = true := by
    intro c mem
    obtain ⟨b, there, rfl⟩ := List.mem_map.mp mem
    rcases ends b there with rfl | rfl <;> decide
  rw [lineOfPiece, notEmpty, Utf8.decode?_append_ascii ends.ascii]
  simp only [Bool.false_eq_true, if_false]
  cases Utf8.decode? body with
  | none => rfl
  | some text =>
    simp only [Option.map_some, String.toList_append, String.toList_ofList]
    rw [stripEnd_append taken]

/-! ## Lines are unterminated -/

/-- A text that ends in no carriage return and has no newline in it. -/
structure Unterminated (text : String) : Prop where
  oneLine : OneLine text
  noReturn : text.toList.getLast? ≠ some '\r'

/-- A first line has no newline but the one at its end. -/
theorem exists_body_cutLine (script : Bytes) :
    ∃ body tail, (cutLine script).1 = body ++ tail ∧ newline ∉ body ∧ Terminators tail := by
  induction script with
  | nil => exact ⟨[], [], rfl, by simp, by simp [Terminators]⟩
  | cons b rest ih =>
    obtain ⟨body, tail, eq, none, ends⟩ := ih
    rw [cutLine]
    by_cases last : b = newline
    · rw [if_pos last]
      exact ⟨[], [b], rfl, by simp, by simp [Terminators, last]⟩
    · rw [if_neg last]
      refine ⟨b :: body, tail, congrArg (b :: ·) eq, ?_, ends⟩
      simp [none, Ne.symm last]

/-- A line that was read has no terminator left. -/
theorem unterminated_of_piece {reader : Reader} {line : String}
    (read : lineOfPiece reader.piece.1 = .ok line) : Unterminated line := by
  obtain ⟨body, tail, eq, none, ends⟩ := exists_body_cutLine reader.unread
  have some := (decode?_of_lineOfPiece read).1
  rw [reader.piece_eq_cutLine.1, eq] at read some
  rw [lineOfPiece_append ends some] at read
  cases decoded : Utf8.decode? body with
  | none => simp [decoded] at read
  | some text =>
    simp only [decoded, Except.ok.injEq] at read
    subst read
    constructor
    · intro mem
      rw [String.toList_ofList] at mem
      exact none (Utf8.newline_mem_of_decode? decoded (mem_of_mem_stripEnd mem))
    · rw [String.toList_ofList]
      intro last
      cases getLast?_stripEnd last

/-! ## Scripts with the same lines -/

/-- What is read from a script, piece by piece. -/
def linesOf (script : Bytes) : List (Except SessionFault String) :=
  (pieces script).map lineOfPiece

/-- One more terminator in a script: a carriage return in front of a newline, or a newline at the end of a
last line that has none. -/
inductive Reterminates : Bytes → Bytes → Prop
  | insert (before behind : Bytes) :
      Reterminates (before ++ newline :: behind) (before ++ carriageReturn :: newline :: behind)
  | close (script : Bytes) : script ≠ [] → script.getLast? ≠ some newline →
      Reterminates script (script ++ [newline])

/-- Two pieces that differ in the terminators at their ends. -/
inductive SameLine : Bytes → Bytes → Prop
  | intro (body tail tail' : Bytes) : Terminators tail → Terminators tail' → body ++ tail ≠ [] →
      body ++ tail' ≠ [] → SameLine (body ++ tail) (body ++ tail')

theorem SameLine.refl {piece : Bytes} (some : piece ≠ []) : SameLine piece piece := by
  have none : Terminators [] := fun b mem => absurd mem List.not_mem_nil
  have same := SameLine.intro piece [] [] none none
  rw [List.append_nil] at same
  exact same some some

theorem SameLine.cons {piece piece' : Bytes} (same : SameLine piece piece') (b : UInt8) :
    SameLine (b :: piece) (b :: piece') := by
  cases same with
  | intro body tail tail' ends ends' _ _ =>
    exact .intro (b :: body) tail tail' ends ends' (by simp) (by simp)

/-- They hold the same line, or neither of them holds one. -/
theorem SameLine.lineOfPiece_eq {piece piece' : Bytes} (same : SameLine piece piece') :
    lineOfPiece piece = lineOfPiece piece' := by
  cases same with
  | intro body tail tail' ends ends' some some' =>
    rw [lineOfPiece_append ends some, lineOfPiece_append ends' some']

theorem forall₂_sameLine_refl (script : Bytes) :
    List.Forall₂ SameLine (pieces script) (pieces script) := by
  apply List.forall₂_same.mpr
  intro piece mem
  exact SameLine.refl (ne_nil_of_mem_pieces mem)

/-- A byte in front of scripts with the same lines goes to their first pieces. -/
theorem forall₂_sameLine_cons {script script' : Bytes} (b : UInt8)
    (same : List.Forall₂ SameLine (pieces script) (pieces script')) :
    List.Forall₂ SameLine (pieces (b :: script)) (pieces (b :: script')) := by
  simp only [pieces]
  split
  · exact .cons (SameLine.refl (by simp)) same
  · generalize pieces script = left, pieces script' = left' at same
    cases same with
    | nil => exact .cons (SameLine.refl (by simp)) .nil
    | cons first rest => exact .cons (first.cons b) rest

theorem forall₂_sameLine_append {script script' : Bytes} (before : Bytes)
    (same : List.Forall₂ SameLine (pieces script) (pieces script')) :
    List.Forall₂ SameLine (pieces (before ++ script)) (pieces (before ++ script')) := by
  induction before with
  | nil => exact same
  | cons b before ih => exact forall₂_sameLine_cons b ih

/-- One more terminator makes no difference to the lines. -/
theorem Reterminates.forall₂_sameLine {script script' : Bytes} (more : Reterminates script script') :
    List.Forall₂ SameLine (pieces script) (pieces script') := by
  cases more with
  | insert before behind =>
    apply forall₂_sameLine_append
    have first : SameLine [newline] [carriageReturn, newline] :=
      .intro [] [newline] [carriageReturn, newline] (by simp [Terminators]) (by simp [Terminators])
        (by simp) (by simp)
    have other : carriageReturn ≠ newline := by decide
    simp only [pieces, if_true, if_neg other]
    exact .cons first (forall₂_sameLine_refl behind)
  | close _ some unclosed =>
    obtain ⟨before, b, rfl⟩ := List.eq_nil_or_concat script |>.resolve_left some
    have last : b ≠ newline := by
      intro eq
      exact unclosed (by simp [eq])
    rw [List.concat_eq_append, List.append_assoc]
    apply forall₂_sameLine_append
    have first : SameLine [b] [b, newline] :=
      .intro [b] [] [newline] (by simp [Terminators]) (by simp [Terminators]) (by simp) (by simp)
    simp only [List.singleton_append, pieces, if_neg last, if_true]
    exact .cons first .nil

/-- Any number of terminators more make no difference to the lines. -/
theorem linesOf_eq_of_reterminates {script script' : Bytes}
    (more : Relation.ReflTransGen Reterminates script script') : linesOf script = linesOf script' := by
  induction more with
  | refl => rfl
  | @tail between last _ step ih =>
    have same := step.forall₂_sameLine
    rw [ih, linesOf, linesOf]
    generalize pieces between = left, pieces last = left' at same
    induction same with
    | nil => rfl
    | cons first _ rest => rw [List.map_cons, List.map_cons, first.lineOfPiece_eq, rest]

end LineShell
