import LineShell.Text.Utf8

/-!
# Buffered input

A reader hands out its input piece by piece, a piece being a line with the newline that ends it. It asks
its source for bytes only when it holds none, and for no more than its capacity at a time. A capacity of
one byte therefore leaves everything behind the current line in the source, where a program can read it.

* `Reader`: bytes held back and bytes still in the source.
* `Reader.ofScript`, `Reader.ofPipe`: input of the session's own, and input shared with programs.
* `Reader.piece`: the next piece, and the reader after it.
* `stripEnd`: a line without its terminators.
-/

namespace LineShell

/-- The byte that ends a line. -/
def newline : UInt8 := 0x0A

/-- The bytes up to and with the first newline, and the bytes behind it. -/
def cutLine : Bytes → Bytes × Bytes
  | [] => ([], [])
  | b :: rest => if b = newline then ([b], rest) else (b :: (cutLine rest).1, (cutLine rest).2)

@[simp] theorem cutLine_append (bs : Bytes) : (cutLine bs).1 ++ (cutLine bs).2 = bs := by
  induction bs with
  | nil => rfl
  | cons b rest ih =>
    simp only [cutLine]
    split
    · rfl
    · simp [ih]

/-- The characters of a line without the carriage returns and newlines at its end. -/
def stripEnd (cs : List Char) : List Char :=
  (cs.reverse.dropWhile fun c => c == '\r' || c == '\n').reverse

/-- Input with a buffer in front of it. -/
structure Reader where
  held : Bytes := []
  source : Bytes := []
  capacity : Nat := 1
  capacity_pos : 0 < capacity := by decide

namespace Reader

/-- The input of a script, all of it held by the reader. -/
def ofScript (script : Bytes) : Reader :=
  { held := script }

/-- The input of a pipe, read byte by byte. -/
def ofPipe (content : Bytes) : Reader :=
  { source := content }

/-- All input that has not been handed out. -/
def unread (reader : Reader) : Bytes :=
  reader.held ++ reader.source

/-- The next piece of input: up to and with the next newline, or what is left when there is none. It is
empty only at the end of the input. -/
def piece (reader : Reader) : Bytes × Reader :=
  if newline ∈ reader.held then
    ((cutLine reader.held).1, { reader with held := (cutLine reader.held).2 })
  else if reader.source = [] then (reader.held, { reader with held := [] })
  else
    -- All that is held belongs to the piece, and the source is asked for more.
    let more := piece { reader with
      held := reader.source.take reader.capacity
      source := reader.source.drop reader.capacity }
    (reader.held ++ more.1, more.2)
termination_by reader.source.length
decreasing_by
  have := reader.capacity_pos
  have := List.length_pos_iff.mpr ‹reader.source ≠ []›
  simp only [List.length_drop]
  omega

/-- A piece is taken off the front of the input. -/
theorem piece_append_unread (reader : Reader) :
    reader.piece.1 ++ reader.piece.2.unread = reader.unread := by
  fun_induction piece reader with
  | case1 reader _ => simp [unread, ← List.append_assoc]
  | case2 reader _ atEnd => simp [unread, atEnd]
  | case3 reader _ _ more ih =>
    rw [List.append_assoc, ih]
    simp [unread]

/-- The reader after a program has taken bytes off the source. -/
def afterProgram (reader : Reader) (taken : Nat) : Reader :=
  { reader with source := reader.source.drop taken }

theorem length_unread_afterProgram_le (reader : Reader) (taken : Nat) :
    (reader.afterProgram taken).unread.length ≤ reader.unread.length := by
  simp [afterProgram, unread]

end Reader

end LineShell
