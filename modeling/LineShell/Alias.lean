/-!
# Aliases

Aliases are named notes of a session. They are listed in ascending order of their names, and a later note
replaces an earlier one of the same name. They are never expanded.

* `AliasTable.put`, `AliasTable.get?`, `AliasTable.toList`, `AliasTable.size`.
-/

namespace LineShell

/-- Puts an entry into a list that is sorted by name, in the place of an entry of the same name. -/
def insertSorted (name value : String) : List (String × String) → List (String × String)
  | [] => [(name, value)]
  | (other, kept) :: rest =>
    if name = other then (name, value) :: rest
    else if name < other then (name, value) :: (other, kept) :: rest
    else (other, kept) :: insertSorted name value rest

/-- Names with their values, in ascending order of the names. Characters compare by code point, which is
also the order of the UTF-8 bytes. -/
structure AliasTable where
  entries : List (String × String) := []
deriving DecidableEq, Repr

namespace AliasTable

/-- The table without entries. -/
def empty : AliasTable := {}

/-- The table with a value under a name, whatever was there before. -/
def put (table : AliasTable) (name value : String) : AliasTable :=
  ⟨insertSorted name value table.entries⟩

/-- The value under a name. -/
def get? (table : AliasTable) (name : String) : Option String :=
  table.entries.lookup name

/-- The entries in order. -/
def toList (table : AliasTable) : List (String × String) :=
  table.entries

/-- How many names there are. -/
def size (table : AliasTable) : Nat :=
  table.entries.length

def isEmpty (table : AliasTable) : Bool :=
  table.entries.isEmpty

end AliasTable

end LineShell
