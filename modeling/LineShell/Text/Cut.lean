/-!
# Cutting text

Where the word before the cursor starts, and where the directory part of a path ends, is decided by the
last occurrence of a character.

* `afterLast`, `uptoLast`: a text cut behind the last occurrence of a character.
* `takeBytes`: the beginning of a text, measured in bytes.
-/

namespace LineShell.Text

/-- The characters behind the last occurrence of `c`; all of them when there is none. -/
def afterLast (c : Char) (cs : List Char) : List Char :=
  (cs.reverse.takeWhile (· != c)).reverse

/-- The characters up to and with the last occurrence of `c`; none when there is none. -/
def uptoLast (c : Char) (cs : List Char) : List Char :=
  (cs.reverse.dropWhile (· != c)).reverse

/-- The cut loses nothing. -/
theorem uptoLast_append_afterLast (c : Char) (cs : List Char) :
    uptoLast c cs ++ afterLast c cs = cs := by
  simp only [uptoLast, afterLast, ← List.reverse_append, List.takeWhile_append_dropWhile,
    List.reverse_reverse]

/-- The longest beginning of a text that takes at most `n` bytes in UTF-8. -/
def takeBytes : Nat → List Char → List Char
  | _, [] => []
  | n, c :: cs => if c.utf8Size ≤ n then c :: takeBytes (n - c.utf8Size) cs else []

end LineShell.Text
