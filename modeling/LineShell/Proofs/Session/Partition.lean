import LineShell.Proofs.Session.Exchange
import LineShell.Proofs.Text.Decoding
import LineShell.Proofs.Text.Lossy

/-!
# Reads one after another

In front of a reader every read takes the next piece of the input, whatever it is a read for, and whatever came
of the reads before it. So the reads divide the input among them.

* `ReadCall`, `Session.readAll`: reads with their prompts, one after another.
* `IsLineOf`, `Answers`: the line of a piece, and what a read answers to a piece.
* `answers_lineOfPiece`: a read answers with the line of its piece.
* `Session.reads_divide_input`: the pieces, the answers and the prompts of any number of reads.
-/

namespace LineShell

variable {W : Type}

/-! ## Lines and pieces -/

/-- The line of a piece is its text without all the carriage returns and newlines at its end. -/
structure IsLineOf (line : String) (piece : Bytes) : Prop where
  /-- Nothing but carriage returns and newlines is left out, and only at the end. -/
  cut : ∃ ending : String, (∀ c ∈ ending.toList, c = '\r' ∨ c = '\n') ∧
    piece = Utf8.encode (line ++ ending)
  /-- None of them is left. -/
  bare : ∀ c, line.toList.getLast? = some c → c ≠ '\r' ∧ c ≠ '\n'

/-- What a read answers to the piece that it takes: its line, or that it is no text. Behind the last piece
there is only the end of the input. -/
inductive Answers : Option Bytes → Except SessionFault (Option String) → Prop
  | line {piece : Bytes} {line : String} : IsLineOf line piece → Answers (some piece) (.ok (some line))
  | malformed {piece : Bytes} : (∀ text, Utf8.encode text ≠ piece) →
      Answers (some piece) (.error (.io .malformedText))
  | ended : Answers none (.error .endOfInput)

theorem isTerminator_iff {c : Char} : isTerminator c = true ↔ c = '\r' ∨ c = '\n' := by
  simp [isTerminator]

/-- Stripping takes terminators off the end, and nothing else. -/
theorem exists_stripEnd_append (cs : List Char) :
    ∃ ending, cs = stripEnd cs ++ ending ∧ ∀ c ∈ ending, isTerminator c = true := by
  refine ⟨(cs.reverse.takeWhile isTerminator).reverse, ?_, fun c mem => ?_⟩
  · have whole : cs.reverse.takeWhile isTerminator ++ cs.reverse.dropWhile isTerminator = cs.reverse :=
      List.takeWhile_append_dropWhile
    have back := congrArg List.reverse whole
    rw [List.reverse_append, List.reverse_reverse] at back
    exact back.symm
  · exact List.all_eq_true.mp List.all_takeWhile c (List.mem_reverse.mp mem)

theorem isLineOf_of_decode? {piece : Bytes} {text : String} (decoded : Utf8.decode? piece = some text) :
    IsLineOf (String.ofList (stripEnd text.toList)) piece := by
  obtain ⟨ending, split, ends⟩ := exists_stripEnd_append text.toList
  constructor
  · refine ⟨String.ofList ending, fun c mem => ?_, ?_⟩
    · rw [String.toList_ofList] at mem
      exact isTerminator_iff.mp (ends c mem)
    · rw [← String.ofList_append, ← split, String.ofList_toList, Utf8.encode_of_decode? decoded]
  · intro c last
    rw [String.toList_ofList] at last
    have stays := getLast?_stripEnd last
    rwa [← Bool.not_eq_true, isTerminator_iff, not_or] at stays

/-- A read answers with the line of its piece. -/
theorem answers_lineOfPiece {left : List Bytes} (full : [] ∉ left) :
    Answers left.head? ((lineOfPiece (left.headD [])).map some) := by
  cases left with
  | nil => exact .ended
  | cons piece rest =>
    have some : piece ≠ [] := fun eq => full (eq ▸ List.mem_cons_self)
    have notEmpty : piece.isEmpty = false := by simpa using some
    simp only [lineOfPiece, List.headD_cons, notEmpty, Bool.false_eq_true, if_false, List.head?_cons]
    cases decoded : Utf8.decode? piece with
    | none =>
      refine .malformed fun text eq => ?_
      rw [← eq, Utf8.decode?_encode] at decoded
      cases decoded
    | some text => exact .line (isLineOf_of_decode? decoded)

/-! ## Any number of reads -/

/-- A read with its prompt: of a command line, or of the answer to a question. -/
inductive ReadCall where
  | line (prompt : String)
  | entry (prompt : String)
deriving DecidableEq, Repr

def ReadCall.prompt : ReadCall → String
  | line prompt => prompt
  | entry prompt => prompt

/-- The prompts of some reads, one behind the other. -/
def prompts (calls : List ReadCall) : String :=
  String.join (calls.map ReadCall.prompt)

/-- The act of a read. A command line is never missing. -/
def ReadCall.act [Host W] : ReadCall → Act W (Option String)
  | line prompt => do return some (← Session.readLine prompt)
  | entry prompt => Session.readEntry prompt

namespace Session

open Act

section
variable [Host W]

/-- One read after another, whatever comes of them: their answers, and the session that is left. -/
def readAll (session : Session W) :
    List ReadCall → List (Except SessionFault (Option String)) × Session W
  | [] => ([], session)
  | call :: calls =>
    let first := call.act.on session
    let rest := readAll first.2 calls
    (first.1 :: rest.1, rest.2)

/-- Whatever it is a read for, it is a prompt and a piece. -/
theorem on_act_of_fits {session : Session W} {reader : Reader}
    (here : session.console.input = .reader reader) {call : ReadCall} (fits : session.Fits call.prompt) :
    call.act.on session =
      ((lineOfPiece reader.piece.1).map some, session.afterRead call.prompt reader) := by
  cases call with
  | line prompt =>
    have fits' : session.Fits prompt := fits
    rw [ReadCall.act, on_bind, on_readLine_of_fits here fits']
    cases lineOfPiece reader.piece.1 <;> rfl
  | entry prompt => exact on_readEntry_of_fits here fits

/-- What some reads leave of an input of which these pieces were left: the pieces behind those that they took,
one each, and answered one by one. -/
structure DividesInput (session : Session W) (left : List Bytes) (calls : List ReadCall) : Prop where
  /-- Every read answers. -/
  length : (readAll session calls).1.length = calls.length
  /-- Each answers to the piece in its own place. -/
  answers : ∀ (k : Nat) answer, (readAll session calls).1[k]? = some answer → Answers left[k]? answer
  /-- That piece is what it takes; behind the last one it takes nothing. -/
  taken : (readAll session calls).2.taken =
    session.taken ++ (List.range calls.length).map fun k => left[k]?.getD []
  /-- The pieces behind are still to be read. -/
  unread : ∃ reader, (readAll session calls).2.console.input = .reader reader ∧
    pieces reader.unread = left.drop calls.length
  /-- All prompts are written, and nothing else. -/
  out : (readAll session calls).2.written .out = session.written .out ++ Utf8.encode (prompts calls)

/-- **Reads divide the input among them**, whatever each is a read for: the k-th takes the k-th piece and answers
with the line of it, and one that is no text does not matter to those behind it. Where the pieces have run
out, every read is at the end of the input. The prompts, as long as there is room for them, are all that is
written. -/
theorem reads_divide_input {session : Session W} {reader : Reader}
    (here : session.console.input = .reader reader) (calls : List ReadCall)
    (fits : session.Fits (prompts calls)) : DividesInput session (pieces reader.unread) calls := by
  induction calls generalizing session reader with
  | nil =>
    refine ⟨rfl, fun k answer none => ?_, (List.append_nil _).symm, ⟨reader, here, rfl⟩,
      (List.append_nil _).symm⟩
    cases none
  | cons call calls ih =>
    have joined : prompts (call :: calls) = call.prompt ++ prompts calls := String.join_cons
    obtain ⟨first, rest⟩ := fits_append.mp (joined ▸ fits)
    obtain ⟨piece, behind⟩ := reader.pieces_unread_piece
    have on := on_act_of_fits here first
    have here' : (session.afterRead call.prompt reader).console.input = .reader reader.piece.2 := rfl
    have divides := ih here' rest
    rw [behind] at divides
    have full : [] ∉ pieces reader.unread := fun mem => ne_nil_of_mem_pieces mem rfl
    have answer := answers_lineOfPiece full
    rw [← piece] at answer
    generalize pieces reader.unread = left at piece divides answer ⊢
    have after : readAll session (call :: calls) =
        (((lineOfPiece reader.piece.1).map some) ::
          (readAll (session.afterRead call.prompt reader) calls).1,
          (readAll (session.afterRead call.prompt reader) calls).2) := by
      rw [readAll, on]
    constructor
    · rw [after, List.length_cons, divides.length, List.length_cons]
    · intro k given there
      rw [after] at there
      cases k with
      | zero =>
        cases there
        rwa [← List.head?_eq_getElem?]
      | succ k =>
        have later := divides.answers k given there
        rwa [List.getElem?_tail] at later
    · rw [after, divides.taken, taken_afterRead, piece, List.length_cons, List.range_succ_eq_map,
        List.map_cons, List.map_map, List.append_assoc]
      cases left <;> rfl
    · obtain ⟨last, input, unread⟩ := divides.unread
      refine ⟨last, after ▸ input, ?_⟩
      rw [unread, List.drop_tail, List.length_cons]
    · rw [after, divides.out, written_afterRead, first, joined, Utf8.encode_append, List.append_assoc]

end

end Session

namespace Machine

open Session

/-- Three lines, of which the second is no text and the last has no newline. -/
def brokenScript : Bytes :=
  [0x61, 0x0D, 0x0A, 0xFF, 0x0A, 0x62]

/-- A session that reads them and has room for four bytes of prompts. -/
def brokenSession : Session Machine :=
  { topSession with console := { input := .reader (.ofScript brokenScript), outRoom := some 4 } }

/-- Four reads of three lines: the last is at the end of the input. -/
theorem reads_divide_input_broken :
    brokenSession.Fits (prompts [.line "> ", .entry "?", .line "", .entry "!"]) ∧
      pieces brokenScript = [[0x61, 0x0D, 0x0A], [0xFF, 0x0A], [0x62]] ∧
      DividesInput brokenSession (pieces brokenScript)
        [.line "> ", .entry "?", .line "", .entry "!"] ∧
      (readAll brokenSession [.line "> ", .entry "?", .line "", .entry "!"]).1[3]? =
        some (.error .endOfInput) := by
  have fits : brokenSession.Fits (prompts [.line "> ", .entry "?", .line "", .entry "!"]) :=
    fits_iff.mpr (by decide)
  have three : pieces brokenScript = [[0x61, 0x0D, 0x0A], [0xFF, 0x0A], [0x62]] := by decide
  have divides := reads_divide_input rfl _ fits
  have same : (Reader.ofScript brokenScript).unread = brokenScript := rfl
  rw [same] at divides
  refine ⟨fits, three, divides, ?_⟩
  have fourth := divides.answers 3
  have all := divides.length
  rw [three] at fourth
  cases answer : (readAll brokenSession [.line "> ", .entry "?", .line "", .entry "!"]).1[3]? with
  | none =>
    rw [List.getElem?_eq_none_iff, all] at answer
    exact absurd answer (by decide)
  | some given =>
    cases fourth given answer
    rfl

end Machine

end LineShell
