/-!
# Blank text

A command line that is blank is skipped without being looked at. Blank is the Unicode property
`White_Space`, a larger set than the characters that separate tokens.

* `isBlank`: the characters with the property.
* `allBlank`: the lines that hold nothing else.
-/

namespace LineShell.Text

/-- The characters with the Unicode property `White_Space`. -/
def isBlank (c : Char) : Bool :=
  let v := c.val
  (0x09 ≤ v && v ≤ 0x0D) || v == 0x20 || v == 0x85 || v == 0xA0 || v == 0x1680 ||
    (0x2000 ≤ v && v ≤ 0x200A) || v == 0x2028 || v == 0x2029 || v == 0x202F || v == 0x205F ||
    v == 0x3000

/-- Every character that the core library counts as white space is blank. -/
theorem isBlank_of_isWhitespace {c : Char} (h : c.isWhitespace = true) : isBlank c = true := by
  simp only [Char.isWhitespace, Bool.or_eq_true, decide_eq_true_eq] at h
  rcases h with ((rfl | rfl) | rfl) | rfl <;> decide

/-- A text with nothing but blanks, the empty text included. -/
def allBlank (text : String) : Bool :=
  text.toList.all isBlank

end LineShell.Text
