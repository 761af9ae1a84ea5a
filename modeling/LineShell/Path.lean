import LineShell.Text.Utf8

/-!
# Paths

Paths are bytes, as the system takes them. Those that are typed are texts.

* `Path.join`: a path below another one.
* `Path.expand?`: a leading `~` replaced by the home directory.
* `Path.components`: the names that a path goes through.
-/

namespace LineShell.Path

/-- The byte between the names of a path. -/
def slash : UInt8 := 0x2F

/-- A path continued by another one. An absolute continuation replaces the path; otherwise there is one
slash between the two, unless the path is empty or ends with a slash already. -/
def join (base rest : Bytes) : Bytes :=
  if rest.head? = some slash then rest
  else if base.getLast? = none ∨ base.getLast? = some slash then base ++ rest
  else base ++ slash :: rest

/-- The path that is meant by a typed one. A leading `~` is replaced: `~` is the home directory, `~/rest` is
`rest` joined to it, and every other path, `~name` included, stays as typed. There is no answer when the home
directory is needed and not known. -/
def expand? (home : Option Bytes) (path : String) : Option Bytes :=
  match path.toList with
  | ['~'] => home
  | '~' :: '/' :: rest => home.map (join · (Utf8.encodeChars rest))
  | _ => some (Utf8.encode path)

/-- The names that a path goes through; slashes only separate. -/
def components (path : Bytes) : List Bytes :=
  (path.splitOn slash).filter (!·.isEmpty)

end LineShell.Path
