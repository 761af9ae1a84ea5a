import LineShell.Machine.Basic
import LineShell.Proofs.DirectoryMap
import Mathlib.Tactic.Common

/-!
# Where paths lead

A path that is followed to its end has gone from node to node, and through so many symbolic links. It is a
path put together from two exactly if the second goes on where the first has ended. So a machine has a map of its
directories, although it follows no path that is too long or goes through too many links.

* `Tree.Leads`, `Tree.walk_eq_ok_iff`, `Leads.unique`: where names lead, and that they are followed there.
* `Tree.Leads.append`, `Leads.split`: paths that are put together.
* `leads_names_iff`: the names of a path, with and without a slash behind.
* `enter_eq_ok_iff`, `list_eq`, `stat_eq_ok_iff`: what a machine answers about a path.
* `directories`, `faithful_directories`: the map of its directories.
-/

namespace LineShell.Machine

namespace Tree

variable {tree : Tree}

/-! ## Following names -/

/-- From one node names lead to another, through a number of symbolic links. -/
inductive Leads (tree : Tree) : Ino → List Bytes → Nat → Ino → Prop
  | done (i : Ino) : Leads tree i [] 0 i
  | dot {i j : Ino} {rest : List Bytes} {n : Nat} : tree.isDirectory i = true →
      Leads tree i rest n j → Leads tree i (Utf8.encode "." :: rest) n j
  | up {i j : Ino} {rest : List Bytes} {n : Nat} : tree.isDirectory i = true →
      Leads tree (tree.parent i) rest n j → Leads tree i (Utf8.encode ".." :: rest) n j
  | down {i k j : Ino} {name : Bytes} {rest : List Bytes} {n : Nat} : tree.isDirectory i = true →
      isDots name = false → tree.find i name = .ok k → (∀ target, tree.node? k ≠ some (.link target)) →
      Leads tree k rest n j → Leads tree i (name :: rest) n j
  | through {i k j : Ino} {name target : Bytes} {rest : List Bytes} {n : Nat} :
      tree.isDirectory i = true → isDots name = false → tree.find i name = .ok k →
      tree.node? k = some (.link target) → Leads tree (origin i target) (names target ++ rest) n j →
      Leads tree i (name :: rest) (n + 1) j

theorem isDots_eq_false_iff {name : Bytes} :
    isDots name = false ↔ name ≠ Utf8.encode "." ∧ name ≠ Utf8.encode ".." := by
  simp [isDots]

/-- Names that are followed lead to where they end. -/
theorem leads_of_walk {links : Nat} {i j : Ino} {path : List Bytes}
    (walked : tree.walk true links i path = .ok j) : ∃ n ≤ links, tree.Leads i path n j := by
  fun_induction walk tree true links i path with
  | case1 links i =>
    cases walked
    exact ⟨0, Nat.zero_le _, .done _⟩
  | case2 => cases walked
  | case3 links i rest inside ih =>
    obtain ⟨n, few, leads⟩ := ih walked
    exact ⟨n, few, .dot (by simpa using inside) leads⟩
  | case4 links i rest inside _ ih =>
    obtain ⟨n, few, leads⟩ := ih walked
    exact ⟨n, few, .up (by simpa using inside) leads⟩
  | case5 => cases walked
  | case6 links i name rest inside noDot noUp k found target node stops => simp at stops
  | case7 => cases walked
  | case8 i name rest inside noDot noUp k found target node _ left ih =>
    obtain ⟨n, few, leads⟩ := ih walked
    exact ⟨n + 1, Nat.succ_le_succ few, .through (by simpa using inside)
      (isDots_eq_false_iff.mpr ⟨noDot, noUp⟩) found node leads⟩
  | case9 links i name rest inside noDot noUp k found plain ih =>
    obtain ⟨n, few, leads⟩ := ih walked
    exact ⟨n, few, .down (by simpa using inside) (isDots_eq_false_iff.mpr ⟨noDot, noUp⟩) found plain
      leads⟩

/-- Names that lead somewhere are followed there, if as many links may be followed. -/
theorem Leads.walk {i j : Ino} {path : List Bytes} {n : Nat} (leads : tree.Leads i path n j)
    {links : Nat} (few : n ≤ links) : tree.walk true links i path = .ok j := by
  induction leads generalizing links with
  | done i => rw [Tree.walk]
  | dot inside _ ih =>
    rw [Tree.walk]
    simp [inside, ih few]
  | up inside _ ih =>
    have other : Utf8.encode ".." ≠ Utf8.encode "." := by decide
    rw [Tree.walk]
    simp [inside, other, ih few]
  | down inside named found plain _ ih =>
    obtain ⟨noDot, noUp⟩ := isDots_eq_false_iff.mp named
    rw [Tree.walk]
    simp [inside, found, noDot, noUp, ih few]
  | through inside named found node _ ih =>
    obtain ⟨noDot, noUp⟩ := isDots_eq_false_iff.mp named
    cases links with
    | zero => cases few
    | succ left =>
      rw [Tree.walk]
      simp [inside, found, noDot, noUp, node, ih (Nat.le_of_succ_le_succ few)]

theorem walk_eq_ok_iff {links : Nat} {i j : Ino} {path : List Bytes} :
    tree.walk true links i path = .ok j ↔ ∃ n ≤ links, tree.Leads i path n j :=
  ⟨leads_of_walk, fun ⟨_, few, leads⟩ => leads.walk few⟩

/-- Names lead to one node only. -/
theorem Leads.unique {i j k : Ino} {path : List Bytes} {n m : Nat}
    (leads : tree.Leads i path n j) (leads' : tree.Leads i path m k) : j = k := by
  have walked := leads.walk (Nat.le_max_left n m)
  rw [leads'.walk (Nat.le_max_right n m)] at walked
  exact (Except.ok.inj walked).symm

/-! ## Paths that are put together -/

/-- Names that lead on from where others have led. -/
theorem Leads.append {i k j : Ino} {path rest : List Bytes} {n m : Nat} (leads : tree.Leads i path n k)
    (on : tree.Leads k rest m j) : tree.Leads i (path ++ rest) (n + m) j := by
  induction leads with
  | done i => simpa using on
  | dot inside _ ih => exact .dot inside (ih on)
  | up inside _ ih => exact .up inside (ih on)
  | down inside named found plain _ ih => exact .down inside named found plain (ih on)
  | through inside named found node _ ih =>
    have through := Leads.through inside named found node (List.append_assoc .. ▸ ih on)
    rwa [Nat.add_right_comm] at through

/-- A path is put together from nothing and all of it. -/
theorem Leads.split_nil {i j : Ino} {rest : List Bytes} {n : Nat} (leads : tree.Leads i rest n j) :
    ∃ k first second, n = first + second ∧ tree.Leads i [] first k ∧ tree.Leads k rest second j :=
  ⟨i, 0, n, (Nat.zero_add n).symm, .done i, leads⟩

/-- Names that lead somewhere have been at a node on the way, and lead on from there. -/
theorem Leads.split {i j : Ino} {path rest : List Bytes} {n : Nat}
    (leads : tree.Leads i (path ++ rest) n j) :
    ∃ k first second, n = first + second ∧ tree.Leads i path first k ∧ tree.Leads k rest second j := by
  generalize whole : path ++ rest = names at leads
  -- The names of a link come in front of what is left of `path`, so that varies with the step.
  induction leads generalizing path with
  | done i =>
    obtain ⟨rfl, rfl⟩ := List.append_eq_nil_iff.mp whole
    exact (Leads.done i).split_nil
  | dot inside later ih =>
    cases path with
    | nil =>
      obtain rfl : rest = _ := whole
      exact (later.dot inside).split_nil
    | cons name path =>
      obtain ⟨rfl, same⟩ := List.cons.inj whole
      obtain ⟨k, first, second, sum, before, behind⟩ := ih same
      exact ⟨k, first, second, sum, .dot inside before, behind⟩
  | up inside later ih =>
    cases path with
    | nil =>
      obtain rfl : rest = _ := whole
      exact (later.up inside).split_nil
    | cons name path =>
      obtain ⟨rfl, same⟩ := List.cons.inj whole
      obtain ⟨k, first, second, sum, before, behind⟩ := ih same
      exact ⟨k, first, second, sum, .up inside before, behind⟩
  | down inside named found plain later ih =>
    cases path with
    | nil =>
      obtain rfl : rest = _ := whole
      exact (later.down inside named found plain).split_nil
    | cons name path =>
      obtain ⟨rfl, same⟩ := List.cons.inj whole
      obtain ⟨k, first, second, sum, before, behind⟩ := ih same
      exact ⟨k, first, second, sum, .down inside named found plain before, behind⟩
  | through inside named found node later ih =>
    cases path with
    | nil =>
      obtain rfl : rest = _ := whole
      exact (later.through inside named found node).split_nil
    | cons name path =>
      obtain ⟨rfl, rfl⟩ := List.cons.inj whole
      obtain ⟨k, first, second, sum, before, behind⟩ := ih (List.append_assoc ..)
      exact ⟨k, first + 1, second, by omega, .through inside named found node before, behind⟩

/-- Names are looked up in directories only. -/
theorem Leads.isDirectory {i j : Ino} {name : Bytes} {rest : List Bytes} {n : Nat}
    (leads : tree.Leads i (name :: rest) n j) : tree.isDirectory i = true := by
  cases leads <;> assumption

/-- What leads to a directory begins in one. -/
theorem Leads.isDirectory_of {i j : Ino} {path : List Bytes} {n : Nat}
    (leads : tree.Leads i path n j) (inside : tree.isDirectory j = true) : tree.isDirectory i = true := by
  cases path with
  | nil =>
    cases leads
    exact inside
  | cons name rest => exact leads.isDirectory

/-- A dot stays where it is, in a directory. -/
theorem leads_dot {i j : Ino} {n : Nat} (leads : tree.Leads i [Utf8.encode "."] n j) :
    n = 0 ∧ i = j ∧ tree.isDirectory i = true := by
  generalize only : [Utf8.encode "."] = path at leads
  cases leads with
  | done => cases only
  | dot inside later =>
    obtain ⟨-, rfl⟩ := List.cons.inj only
    cases later
    exact ⟨rfl, rfl, inside⟩
  | up _ _ => exact absurd (List.cons.inj only).1 (by decide)
  | down _ named _ _ _ =>
    rw [← (List.cons.inj only).1] at named
    exact absurd named (by decide)
  | through _ named _ _ _ =>
    rw [← (List.cons.inj only).1] at named
    exact absurd named (by decide)

/-- A dot behind a path asks for a directory, and leads nowhere else. -/
theorem leads_append_dot_iff {i j : Ino} {path : List Bytes} {n : Nat} :
    tree.Leads i (path ++ [Utf8.encode "."]) n j ↔
      tree.Leads i path n j ∧ tree.isDirectory j = true := by
  constructor
  · intro leads
    obtain ⟨k, first, second, rfl, before, behind⟩ := leads.split
    obtain ⟨rfl, rfl, inside⟩ := leads_dot behind
    exact ⟨before, inside⟩
  · rintro ⟨leads, inside⟩
    exact leads.append (.dot inside (.done j))

end Tree

/-! ## What a machine answers -/

section
variable {machine there : Machine} {path : Bytes}

/-- A slash at the end of a path asks for a directory. -/
theorem leads_names_iff {tree : Tree} {i j : Ino} {n : Nat} :
    tree.Leads i (names path) n j ↔ tree.Leads i (Path.components path) n j ∧
      (path.getLast? = some Path.slash → tree.isDirectory j = true) := by
  have parted : names path = Path.components path ++
      if path.getLast? = some Path.slash then [Utf8.encode "."] else [] := rfl
  rw [parted]
  split
  · next closed => simp [Tree.leads_append_dot_iff, closed]
  · next opened => simp [opened]

/-- A path that is followed is one that can be followed, and its names lead to the end. -/
theorem Tree.resolve_eq_ok_iff {tree : Tree} {here j : Ino} :
    tree.resolve here path = .ok j ↔ path ≠ [] ∧ path.length < maxPath ∧
      ∃ n ≤ maxLinks, tree.Leads (origin here path) (names path) n j := by
  rw [resolve, checkPath, ← walk_eq_ok_iff]
  by_cases none : path = []
  · simp [none, bind, Except.bind]
  · by_cases long : maxPath ≤ path.length
    · simp [none, long, bind, Except.bind, Nat.not_lt.mpr long]
    · simp [none, long, bind, Except.bind, Nat.not_le.mp long]

/-- A directory is entered at the node that its path leads to. -/
theorem enter_eq_ok_iff : machine.enter path = .ok there ↔ 0 ∉ path ∧ ∃ j,
    machine.tree.resolve machine.here path = .ok j ∧ machine.tree.isDirectory j = true ∧
      there = { machine with here := j } := by
  rw [enter, ← List.contains_iff_mem]
  cases path.contains 0 with
  | true => simp only [if_true, reduceCtorEq, not_true, false_and]
  | false =>
    cases machine.tree.resolve machine.here path with
    | error code => simp
    | ok j =>
      cases inside : machine.tree.isDirectory j with
      | false => simp [inside]
      | true => simpa [inside] using eq_comm

/-- A directory is listed where it is entered. -/
theorem list_eq (machine : Machine) (path : Bytes) :
    machine.list path = match machine.enter path with
      | .ok there => some ((there.tree.entries there.here).map (·.1))
      | .error _ => none := by
  rw [list, enter]
  cases path.contains 0 with
  | true => rfl
  | false =>
    cases machine.tree.resolve machine.here path with
    | error code => rfl
    | ok j => cases inside : machine.tree.isDirectory j <;> simp [inside]

/-- The names that are listed at a path are those of the directory that is entered. -/
theorem entries_of_enter (entered : Host.enter machine path = .ok there) :
    Host.entries machine path = some ((there.tree.entries there.here).map (·.1)) := by
  have reached : machine.enter path = .ok there := entered
  have listed := list_eq machine path
  rw [reached] at listed
  exact listed

theorem stat_eq_ok_iff {isDirectory : Bool} : machine.stat path = .ok isDirectory ↔ 0 ∉ path ∧ ∃ j,
    machine.tree.resolve machine.here path = .ok j ∧ machine.tree.isDirectory j = isDirectory := by
  rw [stat, ← List.contains_iff_mem]
  cases path.contains 0 with
  | true => simp only [if_true, reduceCtorEq, not_true, false_and]
  | false => cases machine.tree.resolve machine.here path <;> simp

/-- A directory is found where it is entered. -/
theorem stat_of_enter (entered : Host.enter machine path = .ok there) :
    Host.stat machine path = .ok true := by
  obtain ⟨zero, j, resolved, inside, -⟩ := enter_eq_ok_iff.mp entered
  exact stat_eq_ok_iff.mpr ⟨zero, j, resolved, inside⟩

/-- A dot is the current directory. -/
theorem enter_dot : machine.enter (Utf8.encode ".") = .ok there ↔
    machine.tree.isDirectory machine.here = true ∧ there = machine := by
  have zero : 0 ∉ Utf8.encode "." := by decide
  have names : names (Utf8.encode ".") = [] ++ [Utf8.encode "."] := by decide
  have start : Tree.origin machine.here (Utf8.encode ".") = machine.here := rfl
  have short : (Utf8.encode ".").length < maxPath := by decide
  rw [enter_eq_ok_iff]
  simp only [zero, Tree.resolve_eq_ok_iff, names, start, short, Tree.leads_append_dot_iff]
  constructor
  · rintro ⟨-, j, ⟨-, -, n, -, leads, inside⟩, -, rfl⟩
    cases leads
    exact ⟨inside, rfl⟩
  · rintro ⟨inside, rfl⟩
    exact ⟨not_false, there.here, ⟨by decide, trivial, 0, Nat.zero_le _, .done _, inside⟩, inside, rfl⟩

end

/-! ## The map of the directories -/

/-- The directories of a machine. A name leads where it is followed to from its directory, links included. -/
def directories : DirectoryMap Machine Ino where
  root _ := Tree.root
  here machine := machine.here
  child machine i name :=
    (machine.tree.walk true maxLinks i [name]).toOption.filter (machine.tree.isDirectory ·)

section
variable {machine : Machine} {i j : Ino}

theorem step_of_leads {name : Bytes} {n : Nat} (few : n ≤ maxLinks)
    (leads : machine.tree.Leads i [name] n j) (inside : machine.tree.isDirectory j = true) :
    directories.step machine i name = some j := by
  rw [DirectoryMap.step]
  split
  · next dot =>
    subst dot
    rw [(Tree.leads_dot leads).2.1]
  · simp [directories, leads.walk few, inside, Except.toOption]

theorem leads_of_step {name : Bytes} (start : machine.tree.isDirectory i = true)
    (step : directories.step machine i name = some j) :
    machine.tree.isDirectory j = true ∧ ∃ n, machine.tree.Leads i [name] n j := by
  rw [DirectoryMap.step] at step
  split at step
  · next dot =>
    cases step
    exact ⟨start, 0, dot ▸ .dot start (.done _)⟩
  · obtain ⟨walked, inside⟩ := Option.filter_eq_some_iff.mp step
    cases reached : machine.tree.walk true maxLinks i [name] with
    | error code => simp [reached, Except.toOption] at walked
    | ok k =>
      obtain rfl : k = j := by simpa [reached, Except.toOption] using walked
      obtain ⟨n, -, leads⟩ := Tree.leads_of_walk reached
      exact ⟨inside, n, leads⟩

/-- Names that lead to a directory lead there on the map, one after another. -/
theorem foldlM_of_leads {path : List Bytes} {n : Nat} (few : n ≤ maxLinks)
    (leads : machine.tree.Leads i path n j) (inside : machine.tree.isDirectory j = true) :
    path.foldlM (directories.step machine) i = some j := by
  induction path generalizing i n with
  | nil =>
    cases leads
    rfl
  | cons name rest ih =>
    have parted : machine.tree.Leads i ([name] ++ rest) n j := leads
    obtain ⟨k, first, second, rfl, before, behind⟩ := parted.split
    have step := step_of_leads (by omega) before (behind.isDirectory_of inside)
    rw [List.foldlM_cons, step]
    exact ih (by omega) behind

/-- Names lead on the map where they would be followed to, over however many links. -/
theorem leads_of_foldlM {path : List Bytes} (start : machine.tree.isDirectory i = true)
    (led : path.foldlM (directories.step machine) i = some j) :
    machine.tree.isDirectory j = true ∧ ∃ n, machine.tree.Leads i path n j := by
  induction path generalizing i with
  | nil =>
    cases led
    exact ⟨start, 0, .done _⟩
  | cons name rest ih =>
    obtain ⟨k, step, led⟩ := Option.bind_eq_some_iff.mp led
    obtain ⟨between, n, before⟩ := leads_of_step start step
    obtain ⟨inside, m, behind⟩ := ih between led
    exact ⟨inside, n + m, before.append behind⟩

theorem follow_of_resolve {path : Bytes} (resolved : machine.tree.resolve machine.here path = .ok j)
    (inside : machine.tree.isDirectory j = true) : directories.follow machine path = some j := by
  obtain ⟨-, -, n, few, leads⟩ := Tree.resolve_eq_ok_iff.mp resolved
  exact foldlM_of_leads few (leads_names_iff.mp leads).1 inside

/-- What is followed to something else than a directory leads nowhere on the map. -/
theorem isDirectory_of_follow {path : Bytes} {k : Ino}
    (resolved : machine.tree.resolve machine.here path = .ok j)
    (led : directories.follow machine path = some k) : machine.tree.isDirectory j = true := by
  obtain ⟨some, -, n, -, leads⟩ := Tree.resolve_eq_ok_iff.mp resolved
  obtain ⟨leads, slash⟩ := leads_names_iff.mp leads
  cases parts : Path.components path with
  | nil => exact slash (Path.getLast?_of_components_eq_nil some parts)
  | cons name rest =>
    rw [parts] at leads
    rw [DirectoryMap.follow, parts] at led
    obtain ⟨inside, m, leads'⟩ := leads_of_foldlM leads.isDirectory led
    exact leads.unique leads' ▸ inside

/-- A machine enters, lists and finds the directories on its map. -/
theorem faithful_directories : directories.Faithful where
  entered := by
    intro machine after path entered
    obtain ⟨-, j, resolved, inside, rfl⟩ := enter_eq_ok_iff.mp entered
    exact follow_of_resolve resolved inside
  listed := by
    intro machine path names listed
    have entries : machine.list path = some names := listed
    rw [list_eq] at entries
    cases entered : machine.enter path with
    | error cause => simp [entered] at entries
    | ok there =>
      obtain ⟨-, j, resolved, inside, -⟩ := enter_eq_ok_iff.mp entered
      exact ⟨j, follow_of_resolve resolved inside⟩
  found := by
    intro machine path isDirectory found
    obtain ⟨-, j, resolved, rfl⟩ := stat_eq_ok_iff.mp found
    exact ⟨fun inside => ⟨j, follow_of_resolve resolved inside⟩,
      fun ⟨k, led⟩ => isDirectory_of_follow resolved led⟩

end

end LineShell.Machine
