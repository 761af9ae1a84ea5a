import LineShell.Host
import LineShell.Proofs.Path

/-!
# Maps of directories

From a directory, names lead to directories, and a path is followed name by name. What a host answers about a path
is an answer about the directory that it is followed to. Whether it answers is another matter: it may refuse any
path, for what is there, for the length of the path, or for who asks.

* `DirectoryMap`: where names lead.
* `DirectoryMap.follow`, `follow_append_name`, `follow_append_slash`: where paths lead.
* `DirectoryMap.Faithful`: the answers of a host are about what is on the map.
-/

namespace LineShell

/-- The directories `D` of the states of a system: the two that paths start in, and the one that a name leads to
from another one, if it leads to a directory. Where a name is that of a symbolic link, it leads where the link
does. -/
structure DirectoryMap (W D : Type) where
  root : W → D
  here : W → D
  child : W → D → Bytes → Option D

namespace DirectoryMap

variable {W D : Type} (map : DirectoryMap W D) (world : W)

/-- The directory that a name leads to. A dot stays. -/
def step (directory : D) (name : Bytes) : Option D :=
  if name = Utf8.encode "." then some directory else map.child world directory name

/-- The directory that a path starts in. -/
def start (path : Bytes) : D :=
  if path.head? = some Path.slash then map.root world else map.here world

/-- The directory that the names of a path lead to, one after another. -/
def follow (path : Bytes) : Option D :=
  (Path.components path).foldlM (map.step world) (map.start world path)

/-- Where the system enters, lists or looks at what a path leads to, that is what the names of the path lead to. -/
structure Faithful [Host W] (map : DirectoryMap W D) : Prop where
  /-- A path that is entered leads to the directory that is the current one then. -/
  entered : ∀ {world after : W} {path : Bytes}, Host.enter world path = .ok after →
    map.follow world path = some (map.here after)
  /-- A path that is listed leads to a directory. -/
  listed : ∀ {world : W} {path : Bytes} {names : List Bytes}, Host.entries world path = some names →
    ∃ directory, map.follow world path = some directory
  /-- A directory is found exactly where a path that can be looked at leads to one. -/
  found : ∀ {world : W} {path : Bytes} {isDirectory : Bool}, Host.stat world path = .ok isDirectory →
    (isDirectory = true ↔ ∃ directory, map.follow world path = some directory)

/-! ## Paths put together -/

theorem follow_dot : map.follow world (Utf8.encode ".") = some (map.here world) := by
  have parts : Path.components (Utf8.encode ".") = [Utf8.encode "."] := by decide
  have start : map.start world (Utf8.encode ".") = map.here world := if_neg (by decide)
  rw [follow, parts, start]
  simp [step]

variable {path name : Bytes}

/-- A slash behind a path leads nowhere else. -/
theorem follow_append_slash (some : path ≠ []) :
    map.follow world (path ++ [Path.slash]) = map.follow world path := by
  have start : map.start world (path ++ [Path.slash]) = map.start world path := by
    cases path with
    | nil => exact absurd rfl some
    | cons b rest => rfl
  rw [follow, start, Path.components_append_slash, Path.components_nil, List.append_nil, follow]

/-- A name leads on from the current directory. -/
theorem follow_name (named : Path.IsName name) :
    map.follow world name = map.step world (map.here world) name := by
  have start : map.start world name = map.here world := if_neg named.head?_ne
  rw [follow, named.components_eq, start]
  simp

/-- A name behind a slash leads on from where the path in front of it leads. -/
theorem follow_append_name (named : Path.IsName name) (path : Bytes) :
    map.follow world (path ++ [Path.slash] ++ name) =
      (map.follow world (path ++ [Path.slash])).bind (map.step world · name) := by
  have start : map.start world (path ++ [Path.slash] ++ name) =
      map.start world (path ++ [Path.slash]) := by
    cases path <;> rfl
  have parts : Path.components (path ++ [Path.slash] ++ name) =
      Path.components (path ++ [Path.slash]) ++ [name] := by
    rw [List.append_assoc, List.singleton_append, Path.components_append_slash,
      Path.components_append_slash, Path.components_nil, List.append_nil, named.components_eq]
  rw [follow, start, parts, List.foldlM_append]
  simp [follow, Option.bind_eq_bind]

end DirectoryMap

end LineShell
