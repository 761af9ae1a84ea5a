import LineShell.Proofs.Token.Capacity
import LineShell.Session.Loop

/-!
# Scripts

A script is read piece by piece, and what a piece is read for depends on the pieces before it alone.

* `pieces`: a script cut behind every newline.
* `Reader.piece_eq_cutLine`: a reader hands out the pieces, however it buffers them.
* `Asking`, `interpret`: what each piece is read for, and how the script ends.
* `interpret_ok_iff`, `interpret_endOfInput_iff`, `interpret_malformed_iff`: the end, said of the pieces.
-/

namespace LineShell

/-! ## Pieces -/

/-- A script cut behind every newline. -/
def pieces : Bytes → List Bytes
  | [] => []
  | b :: rest =>
    if b = newline then [b] :: pieces rest
    else
      match pieces rest with
      | [] => [[b]]
      | piece :: more => (b :: piece) :: more

/-- The first piece is a line, and the others are the pieces behind it. -/
theorem pieces_of_ne_nil {script : Bytes} (h : script ≠ []) :
    pieces script = (cutLine script).1 :: pieces (cutLine script).2 := by
  induction script with
  | nil => exact absurd rfl h
  | cons b rest ih =>
    simp only [pieces, cutLine]
    split
    · rfl
    · cases rest with
      | nil => rfl
      | cons c more => rw [ih (by simp)]

theorem flatten_pieces (script : Bytes) : (pieces script).flatten = script := by
  induction script with
  | nil => rfl
  | cons b rest ih =>
    simp only [pieces]
    split
    · rw [List.flatten_cons, ih, List.singleton_append]
    · split
      · next none => rw [← ih, none]; rfl
      · next piece more eq =>
        rw [eq, List.flatten_cons] at ih
        rw [List.flatten_cons, List.cons_append, ih]

theorem ne_nil_of_mem_pieces {script piece : Bytes} (mem : piece ∈ pieces script) : piece ≠ [] := by
  induction script generalizing piece with
  | nil => cases mem
  | cons b rest ih =>
    simp only [pieces] at mem
    split at mem
    · rcases List.mem_cons.mp mem with rfl | mem
      · simp
      · exact ih mem
    · split at mem
      · rw [List.mem_singleton.mp mem]
        simp
      · next first more eq =>
        rcases List.mem_cons.mp mem with rfl | mem
        · simp
        · exact ih (eq ▸ List.mem_cons_of_mem first mem)

theorem cutLine_append_of_mem {held : Bytes} (mem : newline ∈ held) (rest : Bytes) :
    (cutLine (held ++ rest)).1 = (cutLine held).1 := by
  induction held with
  | nil => cases mem
  | cons b held ih =>
    simp only [List.cons_append, cutLine]
    split
    · rfl
    · next other =>
      rcases List.mem_cons.mp mem with eq | mem
      · exact absurd eq.symm other
      · simp only [ih mem]

theorem cutLine_append_of_notMem {held : Bytes} (none : newline ∉ held) (rest : Bytes) :
    (cutLine (held ++ rest)).1 = held ++ (cutLine rest).1 := by
  induction held with
  | nil => rfl
  | cons b held ih =>
    have first : b ≠ newline := fun eq => none (eq ▸ List.mem_cons_self)
    have later := ih fun mem => none (List.mem_cons_of_mem b mem)
    simp only [List.cons_append, cutLine, if_neg first, later]

/-- However the input is buffered, the next piece is its first line. -/
theorem Reader.piece_eq_cutLine (reader : Reader) :
    reader.piece.1 = (cutLine reader.unread).1 ∧
      reader.piece.2.unread = (cutLine reader.unread).2 := by
  have first : reader.piece.1 = (cutLine reader.unread).1 := by
    fun_induction piece reader with
    | case1 reader mem => exact (cutLine_append_of_mem mem _).symm
    | case2 reader none atEnd =>
      rw [unread, cutLine_append_of_notMem none, atEnd, cutLine, List.append_nil]
    | case3 reader none _ more ih =>
      rw [unread, cutLine_append_of_notMem none, ih]
      simp [unread]
  have all := reader.piece_append_unread.trans (cutLine_append reader.unread).symm
  rw [first] at all
  exact ⟨first, List.append_cancel_left all⟩

/-- So its pieces are handed out one by one, and behind the last one there is an empty one. -/
theorem Reader.pieces_unread_piece (reader : Reader) :
    reader.piece.1 = (pieces reader.unread).headD [] ∧
      pieces reader.piece.2.unread = (pieces reader.unread).tail := by
  obtain ⟨first, rest⟩ := reader.piece_eq_cutLine
  rw [first, rest]
  by_cases atEnd : reader.unread = []
  · rw [atEnd]
    exact ⟨rfl, rfl⟩
  · rw [pieces_of_ne_nil atEnd]
    exact ⟨rfl, rfl⟩

/-! ## Questions -/

/-- What a piece is read for: a command line, or one of the two answers to `alias`. -/
inductive Asking where
  | command
  | aliasName
  | aliasValue
deriving DecidableEq, Repr

/-- What is read behind a line. Behind a command line that leaves there is nothing. -/
def Asking.next? : Asking → String → Option Asking
  | command, line =>
    if Text.allBlank line then some command
    else if (Token.tokens line).head? = some Builtin.exit.name then none
    else if Token.tokens line = [Builtin.aliases.name] then some aliasName
    else some command
  | aliasName, _ => some aliasValue
  | aliasValue, _ => some command

/-- A piece that leaves when it is read as a command line. -/
def Leaves (piece : Bytes) : Prop :=
  ∃ line, lineOfPiece piece = .ok line ∧ Text.allBlank line = false ∧
    (Token.tokens line).head? = some Builtin.exit.name

/-- What becomes of a script: the pieces that are read, each with what it is read for, the end, and the
pieces that are left. -/
structure Reading where
  reads : List (Asking × Bytes)
  result : Except SessionFault Unit
  rest : List Bytes

/-- The same reading behind some other reads. -/
def Reading.behind (reading : Reading) (reads : List (Asking × Bytes)) : Reading :=
  { reading with reads := reads ++ reading.reads }

/-- Reads the pieces of a script. Where they run out, the empty piece is read, which ends the session. -/
def interpret : Asking → List Bytes → Reading
  | asking, [] => ⟨[(asking, [])], .error .endOfInput, []⟩
  | asking, piece :: rest =>
    match lineOfPiece piece with
    | .error fault => ⟨[(asking, piece)], .error fault, rest⟩
    | .ok line =>
      match asking.next? line with
      | none => ⟨[(asking, piece)], .ok (), rest⟩
      | some next => (interpret next rest).behind [(asking, piece)]

theorem Reading.behind_behind (reading : Reading) (reads more : List (Asking × Bytes)) :
    (reading.behind more).behind reads = reading.behind (reads ++ more) := by
  simp [behind]

/-- One read, wherever the script stands. -/
theorem interpret_of_fault {asking : Asking} {left : List Bytes} {fault : SessionFault}
    (h : lineOfPiece (left.headD []) = .error fault) :
    interpret asking left = ⟨[(asking, left.headD [])], .error fault, left.tail⟩ := by
  cases left with
  | nil =>
    cases h
    rfl
  | cons piece rest =>
    simp only [List.headD_cons] at h
    simp only [interpret, h, List.headD_cons, List.tail_cons]

theorem interpret_of_line {asking : Asking} {left : List Bytes} {line : String}
    (h : lineOfPiece (left.headD []) = .ok line) :
    interpret asking left =
      match asking.next? line with
      | none => ⟨[(asking, left.headD [])], .ok (), left.tail⟩
      | some next => (interpret next left.tail).behind [(asking, left.headD [])] := by
  cases left with
  | nil => cases h
  | cons piece rest =>
    simp only [List.headD_cons] at h
    simp only [interpret, h, List.headD_cons, List.tail_cons]

/-! ## How a script ends -/

theorem Asking.next?_eq_none_iff {asking : Asking} {line : String} :
    asking.next? line = none ↔ asking = command ∧ Text.allBlank line = false ∧
      (Token.tokens line).head? = some Builtin.exit.name := by
  cases asking with
  | command =>
    simp only [next?, true_and]
    cases Text.allBlank line with
    | true => simp
    | false =>
      by_cases left : (Token.tokens line).head? = some Builtin.exit.name
      · simp [left]
      · simp only [Bool.false_eq_true, if_false, true_and, iff_false_intro left, iff_false]
        split <;> simp
  | aliasName => simp [next?]
  | aliasValue => simp [next?]

/-- A piece that is not empty can only be malformed. -/
theorem lineOfPiece_error {piece : Bytes} {fault : SessionFault} (some : piece ≠ [])
    (h : lineOfPiece piece = .error fault) :
    fault = .io .malformedText ∧ Utf8.decode? piece = none := by
  have notEmpty : piece.isEmpty = false := by simpa using some
  simp only [lineOfPiece, notEmpty, Bool.false_eq_true, if_false] at h
  split at h
  · next malformed =>
    cases h
    exact ⟨rfl, malformed⟩
  · cases h

theorem decode?_of_lineOfPiece {piece : Bytes} {line : String} (h : lineOfPiece piece = .ok line) :
    piece ≠ [] ∧ Utf8.decode? piece ≠ none := by
  unfold lineOfPiece at h
  split at h
  · cases h
  · next notEmpty =>
    refine ⟨by simpa using notEmpty, fun malformed => ?_⟩
    rw [malformed] at h
    cases h

/-- A script ends where it leaves, where it runs out, or at a piece that is no text. -/
theorem interpret_result_cases (asking : Asking) {left : List Bytes} (full : [] ∉ left) :
    (interpret asking left).result = .ok () ∨
      (interpret asking left).result = .error .endOfInput ∨
        (interpret asking left).result = .error (.io .malformedText) := by
  fun_induction interpret asking left with
  | case1 => exact .inr (.inl rfl)
  | case2 asking piece rest fault line =>
    rw [(lineOfPiece_error (fun eq => full (eq ▸ List.mem_cons_self)) line).1]
    exact .inr (.inr rfl)
  | case3 => exact .inl rfl
  | case4 asking piece rest line _ next _ ih =>
    exact ih fun mem => full (List.mem_cons_of_mem piece mem)

/-- It leaves exactly where a command line says so. -/
theorem interpret_ok_iff (asking : Asking) (left : List Bytes) :
    (interpret asking left).result = .ok () ↔
      ∃ piece, (.command, piece) ∈ (interpret asking left).reads ∧ Leaves piece := by
  fun_induction interpret asking left with
  | case1 asking =>
    simp only [reduceCtorEq, List.mem_singleton, false_iff]
    rintro ⟨piece, eq, line, read, _⟩
    cases eq
    cases read
  | case2 asking piece rest fault line =>
    simp only [reduceCtorEq, List.mem_singleton, false_iff]
    rintro ⟨_, eq, text, read, _⟩
    cases eq
    cases line.symm.trans read
  | case3 asking piece rest line read leaves =>
    obtain ⟨rfl, said⟩ := Asking.next?_eq_none_iff.mp leaves
    simp only [List.mem_singleton, true_iff]
    exact ⟨piece, rfl, line, read, said⟩
  | case4 asking piece rest line read next goes ih =>
    refine ih.trans ?_
    constructor
    · rintro ⟨last, mem, leaves⟩
      exact ⟨last, List.mem_cons_of_mem _ mem, leaves⟩
    · rintro ⟨last, mem, leaves⟩
      rcases List.mem_cons.mp mem with eq | mem
      · -- A line that leaves has nothing behind it.
        cases eq
        obtain ⟨text, read', said⟩ := leaves
        cases read.symm.trans read'
        rw [Asking.next?_eq_none_iff.mpr ⟨rfl, said⟩] at goes
        cases goes
      · exact ⟨last, mem, leaves⟩

/-- It runs out exactly where the empty piece is read. -/
theorem interpret_endOfInput_iff (asking : Asking) {left : List Bytes} (full : [] ∉ left) :
    (interpret asking left).result = .error .endOfInput ↔
      ∃ asked, (asked, []) ∈ (interpret asking left).reads := by
  fun_induction interpret asking left with
  | case1 asking => exact iff_of_true rfl ⟨asking, List.mem_singleton_self _⟩
  | case2 asking piece rest fault line =>
    have some : piece ≠ [] := fun eq => full (eq ▸ List.mem_cons_self)
    rw [(lineOfPiece_error some line).1]
    simp [Ne.symm some]
  | case3 asking piece rest line read _ =>
    simp [Ne.symm (decode?_of_lineOfPiece read).1]
  | case4 asking piece rest line read next _ ih =>
    have some := (decode?_of_lineOfPiece read).1
    rw [Reading.behind, ih fun mem => full (List.mem_cons_of_mem piece mem)]
    simp [Ne.symm some]

/-- It ends at a piece that is no text exactly where one is read. -/
theorem interpret_malformed_iff (asking : Asking) {left : List Bytes} (full : [] ∉ left) :
    (interpret asking left).result = .error (.io .malformedText) ↔
      ∃ asked piece, (asked, piece) ∈ (interpret asking left).reads ∧ Utf8.decode? piece = none := by
  fun_induction interpret asking left with
  | case1 asking =>
    have text : Utf8.decode? [] ≠ none := by simp [Utf8.decode?, Utf8.units]
    simp [text]
  | case2 asking piece rest fault line =>
    obtain ⟨rfl, malformed⟩ := lineOfPiece_error (fun eq => full (eq ▸ List.mem_cons_self)) line
    exact iff_of_true rfl ⟨asking, piece, List.mem_singleton_self _, malformed⟩
  | case3 asking piece rest line read _ =>
    simp [(decode?_of_lineOfPiece read).2]
  | case4 asking piece rest line read next _ ih =>
    refine (ih fun mem => full (List.mem_cons_of_mem piece mem)).trans ?_
    constructor
    · rintro ⟨asked, last, mem, malformed⟩
      exact ⟨asked, last, List.mem_cons_of_mem _ mem, malformed⟩
    · rintro ⟨asked, last, mem, malformed⟩
      rcases List.mem_cons.mp mem with eq | mem
      · cases eq
        exact absurd malformed (decode?_of_lineOfPiece read).2
      · exact ⟨asked, last, mem, malformed⟩

/-- The reads take the pieces one after another, and the empty one at most behind them. -/
theorem reads_prefix (asking : Asking) (left : List Bytes) :
    (interpret asking left).reads.map Prod.snd <+: left ++ [[]] := by
  fun_induction interpret asking left with
  | case1 => exact List.prefix_refl _
  | case2 asking piece rest => exact List.prefix_append [piece] (rest ++ [[]])
  | case3 asking piece rest => exact List.prefix_append [piece] (rest ++ [[]])
  | case4 asking piece rest line _ next _ ih => exact List.cons_prefix_cons.mpr ⟨rfl, ih⟩

/-- Where a script leaves, everything behind the line that leaves is left. -/
theorem interpret_ok_split {asking : Asking} {left : List Bytes}
    (h : (interpret asking left).result = .ok ()) :
    ∃ before piece, left = before ++ piece :: (interpret asking left).rest ∧
      (interpret asking left).reads.map Prod.snd = before ++ [piece] ∧ Leaves piece := by
  fun_induction interpret asking left with
  | case1 => cases h
  | case2 => cases h
  | case3 asking piece rest line read leaves =>
    exact ⟨[], piece, rfl, rfl, line, read, (Asking.next?_eq_none_iff.mp leaves).2⟩
  | case4 asking piece rest line _ next _ ih =>
    obtain ⟨before, last, split, taken, leaves⟩ := ih h
    refine ⟨piece :: before, last, ?_, ?_, leaves⟩
    · exact congrArg (piece :: ·) split
    · exact congrArg (piece :: ·) taken

end LineShell
