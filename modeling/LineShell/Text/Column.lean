/-!
# Columns

Tables are laid out in columns of a fixed width, counted in characters.
-/

namespace LineShell.Text

/-- A text with spaces behind it up to the given width; a text that is wider stays as it is. -/
def padRight (width : Nat) (text : String) : String :=
  String.ofList (text.toList ++ List.replicate (width - text.length) ' ')

end LineShell.Text
