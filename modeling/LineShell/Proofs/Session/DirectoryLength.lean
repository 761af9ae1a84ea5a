import LineShell.Proofs.Session.DirectoryCache
import LineShell.Proofs.Text.Lossy

/-!
# Directories that are too long

A directory is kept as text, and it is the text that must not be too long. A path that is no text is shown
with replacement characters, which can make it longer, never shorter. So every path that is too long is
refused, and some that are not.

* `Directory.Swells`: the paths that are too long only as texts.
* `Session.refresh_refuses_long`: all others are kept or refused by their own length.
* `Machine.short_directory_is_refused`: a directory whose path is short enough, and that cannot be kept.
-/

namespace LineShell

variable {W : Type}

namespace Directory

/-- A path that is short enough to be kept, and whose text is not. -/
def Swells (path : Bytes) : Prop :=
  path.length ≤ maxLength ∧ maxLength < (Utf8.decodeLossy path).utf8ByteSize

/-- Only bytes that are no text swell, and not to more than three times as many. -/
theorem Swells.malformed {path : Bytes} (swells : Swells path) :
    (∀ text, path ≠ Utf8.encode text) ∧ maxLength < 3 * path.length := by
  refine ⟨?_, Nat.lt_of_lt_of_le swells.2 (Utf8.size_decodeLossy_le path)⟩
  rintro text rfl
  have short := swells.1
  have long := swells.2
  rw [Utf8.decodeLossy_encode] at long
  rw [Utf8.length_encode] at short
  exact absurd short (Nat.not_le.mpr long)

/-- Every other path is too long together with its text. -/
theorem size_le_iff_of_not_swells {path : Bytes} (plain : ¬Swells path) :
    (Utf8.decodeLossy path).utf8ByteSize ≤ maxLength ↔ path.length ≤ maxLength := by
  constructor
  · exact Nat.le_trans (Utf8.length_le_size_decodeLossy path)
  · intro short
    by_contra long
    exact plain ⟨short, Nat.not_le.mp long⟩

/-- The text of a directory that was reported decides whether it is kept. -/
theorem read_of_here [Host W] {world : W} {path : Bytes} (here : Host.here world = .ok path) :
    read world =
      if (Utf8.decodeLossy path).utf8ByteSize ≤ maxLength then .ok (Utf8.decodeLossy path)
      else .error tooLong := by
  simp only [read, here]
  split
  · next long => rw [if_neg (Nat.not_le.mpr long)]
  · next short => rw [if_pos (Nat.not_lt.mp short)]

end Directory

namespace Session

open Directory

section
variable [Host W] {session : Session W} {path : Bytes}

theorem on_refresh_of_short (here : Host.here session.world = .ok path)
    (short : (Utf8.decodeLossy path).utf8ByteSize ≤ maxLength) :
    refresh.on session = (.ok (.ok ()), session.afterReading (Utf8.decodeLossy path)) :=
  on_refresh_of_ok ((read_of_here here).trans (if_pos short))

theorem on_refresh_of_long (here : Host.here session.world = .ok path)
    (long : maxLength < (Utf8.decodeLossy path).utf8ByteSize) :
    refresh.on session = (.ok (.error tooLong), session) :=
  on_refresh_of_error ((read_of_here here).trans (if_neg (Nat.not_le.mpr long)))

/-- A directory is kept, as its text, exactly if the text is short enough, and refused otherwise. -/
theorem on_refresh_iff (here : Host.here session.world = .ok path) :
    ((refresh.on session).1 = .ok (.ok ()) ↔ (Utf8.decodeLossy path).utf8ByteSize ≤ maxLength) ∧
      (refresh.on session = (.ok (.error tooLong), session) ↔
        maxLength < (Utf8.decodeLossy path).utf8ByteSize) := by
  rcases Nat.lt_or_ge maxLength (Utf8.decodeLossy path).utf8ByteSize with long | short
  · simp [on_refresh_of_long here long, long]
  · simp [on_refresh_of_short here short, short]

/-- **A directory is refused exactly if its path is too long**, and then nothing changes; otherwise its text is
kept. Only a path whose text is longer than itself is an exception: it can be short enough and be refused. No
text is shorter than its path, and that of a path that is well-formed is not longer. -/
theorem refresh_refuses_long (here : Host.here session.world = .ok path) :
    (¬Swells path →
        ((refresh.on session).1 = .ok (.ok ()) ↔ path.length ≤ maxLength) ∧
          (refresh.on session = (.ok (.error tooLong), session) ↔ maxLength < path.length)) ∧
      (Swells path → refresh.on session = (.ok (.error tooLong), session) ∧
        (∀ text, path ≠ Utf8.encode text) ∧ maxLength < 3 * path.length) ∧
      ((refresh.on session).1 = .ok (.ok ()) →
        (refresh.on session).2.directory = Utf8.decodeLossy path) := by
  obtain ⟨kept, refused⟩ := on_refresh_iff here
  refine ⟨fun plain => ?_, fun swells => ⟨refused.mpr swells.2, swells.malformed⟩, fun ok => ?_⟩
  · have same := size_le_iff_of_not_swells plain
    rw [kept, refused, ← Nat.not_le, ← Nat.not_le, same]
    exact ⟨Iff.rfl, Iff.rfl⟩
  · rw [on_refresh_of_short here (kept.mp ok)]
    rfl

end

end Session

/-! ## A directory that swells -/

namespace Machine

open Directory Session

/-- A directory at the root whose name is of bytes that start no character, inside it one of the same name, and
so on: six of them. -/
def gibberish : Tree :=
  ⟨(List.range 7).map fun i => .directory (i - 1)
    (if i < 6 then [(List.replicate maxName 0xFF, i + 1)] else [])⟩

/-- A session in the innermost of them. -/
def gibberishSession : Session Machine :=
  { console := { input := .reader (.ofScript []) }
    world := { tree := gibberish, here := 6 } }

/-- A path through six such names. -/
def gibberishPath : Bytes :=
  (List.replicate 6 (byte '/' :: List.replicate maxName 0xFF)).flatten

theorem here_gibberish : Host.here gibberishSession.world = .ok gibberishPath := by
  have path : gibberish.pathOf 6 = some gibberishPath := by decide +kernel
  simp [Host.here, currentPath, gibberishSession, path]

theorem units_gibberish (n : Nat) (rest : Bytes) :
    Utf8.units (List.replicate n 0xFF ++ rest) = List.replicate n none ++ Utf8.units rest := by
  induction n with
  | zero => rfl
  | succ n ih =>
    rw [List.replicate_succ, List.cons_append, Utf8.units_cons_of_none (by decide), ih,
      List.replicate_succ, List.cons_append]

theorem units_gibberishPath (n : Nat) :
    Utf8.units (List.replicate n (byte '/' :: List.replicate maxName 0xFF)).flatten =
      (List.replicate n (some '/' :: List.replicate maxName none)).flatten := by
  induction n with
  | zero =>
    rw [List.replicate_zero, List.flatten_nil, Utf8.units]
    rfl
  | succ n ih =>
    rw [List.replicate_succ, List.flatten_cons, List.cons_append, Utf8.units_cons_ascii (by decide),
      units_gibberish, ih, List.replicate_succ, List.flatten_cons, List.cons_append]
    rfl

theorem swells_gibberish : Swells gibberishPath := by
  refine ⟨by decide +kernel, ?_⟩
  rw [← Utf8.size_toList, Utf8.toList_decodeLossy, gibberishPath, units_gibberishPath]
  decide +kernel

/-- **A directory with a short path can be refused.** The path of six names of bytes that are no text has some
1500 bytes, and the text of it has three times as many. -/
theorem short_directory_is_refused : ¬∀ (session : Session Machine) (path : Bytes),
    Host.here session.world = .ok path →
      ((refresh.on session).1 = .ok (.ok ()) ↔ path.length ≤ maxLength) := by
  intro decides
  have kept := (decides gibberishSession gibberishPath here_gibberish).mpr swells_gibberish.1
  rw [on_refresh_of_long here_gibberish swells_gibberish.2] at kept
  cases kept

/-- The root is kept, and the end of the corridor is refused, both by their lengths. -/
theorem refresh_refuses_long_corridor :
    (Host.here (inCorridor 0) = .ok [0x2F] ∧ (refresh.on topSession).1 = .ok (.ok ())) ∧
      ∃ path session, Host.here (inCorridor 17) = .ok path ∧ path.length = 4098 ∧
        session.world = inCorridor 17 ∧
        refresh.on session = (.ok (.error tooLong), session) := by
  have root : Host.here topSession.world = .ok [0x2F] := by decide
  obtain ⟨path, eq, length, -⟩ := pathOf_corridor
  have last : Host.here (inCorridor 17) = .ok path := by
    simp [Host.here, currentPath, inCorridor, eq]
  have small : ¬Swells [0x2F] := fun swells => absurd swells.malformed.2 (by decide)
  have long : ¬Swells path := fun swells => absurd swells.1 (by rw [length]; decide)
  obtain ⟨kept, -⟩ := (refresh_refuses_long root).1 small
  let session : Session Machine := { topSession with world := inCorridor 17 }
  have here : Host.here session.world = .ok path := last
  obtain ⟨-, refused⟩ := (refresh_refuses_long here).1 long
  refine ⟨⟨root, kept.mpr (by decide)⟩, path, session, last, length, rfl, refused.mpr ?_⟩
  rw [length]
  decide

end Machine

end LineShell
