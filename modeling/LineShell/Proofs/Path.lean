import LineShell.Path
import LineShell.Proofs.Text.Utf8

/-!
# Paths from the home directory

A path with `~` in front is meant to be the home directory, or a path below it. It is one, but for a second slash
behind the tilde, which makes the rest absolute, so that the home directory is lost.

* `components_append_slash`, `components_join`: the components of a path that is put together.
* `IsName`: the names that a directory can have.
* `expand?_belowHome`, `expand?_of_not`: what is expanded, and what stays as it is typed.
* `tilde_gives_way_to_home`: the components of an expanded path.
-/

namespace LineShell.Path

/-! ## Components -/

@[simp] theorem components_nil : components [] = [] := by
  decide

/-- A slash parts the components in front of it from those behind it. -/
theorem components_append_slash (front behind : Bytes) :
    components (front ++ slash :: behind) = components front ++ components behind := by
  simp only [components, List.splitOn_eq_splitOnP]
  rw [List.splitOnP_append_cons _ _ (by decide), List.filter_append]

theorem components_slash (behind : Bytes) : components (slash :: behind) = components behind := by
  simpa using components_append_slash [] behind

/-- A name as a directory can have it: it is not empty, and has no slash. -/
def IsName (name : Bytes) : Prop :=
  name ≠ [] ∧ slash ∉ name

theorem IsName.components_eq {name : Bytes} (named : IsName name) : components name = [name] := by
  have free : ∀ b ∈ name, (b == slash) = false := by
    intro b mem
    rw [beq_eq_false_iff_ne]
    rintro rfl
    exact named.2 mem
  rw [components, List.splitOn_eq_splitOnP, List.splitOnP_eq_singleton free]
  simp [named.1]

/-- Where there is no component, there are only slashes. -/
theorem getLast?_of_components_eq_nil {path : Bytes} (some : path ≠ []) (none : components path = []) :
    path.getLast? = Option.some slash := by
  induction path with
  | nil => exact absurd rfl some
  | cons b rest ih =>
    have first : b = slash := by
      by_contra other
      obtain ⟨part, parts, cut⟩ := List.exists_cons_of_ne_nil (List.splitOn_ne_nil slash rest)
      have filled : (b :: rest).splitOn slash = (b :: part) :: parts := by
        rw [List.splitOn_eq_splitOnP] at cut ⊢
        rw [List.splitOnP_cons_eq_if_modifyHead, if_neg (by simpa using other), cut]
        rfl
      simp [components, filled] at none
    subst first
    rw [components_slash] at none
    cases rest with
    | nil => rfl
    | cons c rest => rw [List.getLast?_cons_cons, ih (List.cons_ne_nil _ _) none]

/-! ## Paths put together -/

theorem join_of_absolute {rest : Bytes} (absolute : rest.head? = some slash) (base : Bytes) :
    join base rest = rest :=
  if_pos absolute

/-- Behind a path there is a relative one, with a slash in between if the path does not end with one. -/
theorem join_of_relative {rest : Bytes} (relative : rest.head? ≠ some slash) (base : Bytes) :
    join base rest = base ++ rest ∧ (base = [] ∨ ∃ front, base = front ++ [slash]) ∨
      join base rest = base ++ slash :: rest := by
  rw [join, if_neg relative]
  split
  · next closed =>
    refine .inl ⟨rfl, ?_⟩
    rcases closed with empty | slash
    · exact .inl (List.getLast?_eq_none_iff.mp empty)
    · exact .inr (List.getLast?_eq_some_iff.mp slash)
  · exact .inr rfl

/-- The components of a relative path come behind those of the path that it continues. -/
theorem components_join {rest : Bytes} (relative : rest.head? ≠ some slash) (base : Bytes) :
    components (join base rest) = components base ++ components rest := by
  rcases join_of_relative relative base with ⟨eq, rfl | ⟨front, rfl⟩⟩ | eq
  · rw [eq, List.nil_append, components_nil, List.nil_append]
  · rw [eq, List.append_assoc, List.singleton_append, components_append_slash, components_append_slash,
      components_nil, List.append_nil]
  · rw [eq, components_append_slash]

theorem prefix_join {rest : Bytes} (relative : rest.head? ≠ some slash) (base : Bytes) :
    base <+: join base rest := by
  rcases join_of_relative relative base with ⟨eq, -⟩ | eq
  · exact ⟨rest, eq.symm⟩
  · exact ⟨slash :: rest, eq.symm⟩

theorem IsName.head?_ne {name : Bytes} (named : IsName name) : name.head? ≠ some slash :=
  fun first => named.2 (List.mem_of_mem_head? first)

/-- A name goes right behind a slash. -/
theorem IsName.join_slash {name : Bytes} (named : IsName name) (base : Bytes) :
    join (base ++ [slash]) name = base ++ [slash] ++ name := by
  simp [join, named.head?_ne]

/-- A name goes behind a dot with a slash in between. -/
theorem IsName.join_dot {name : Bytes} (named : IsName name) :
    join (Utf8.encode ".") name = Utf8.encode "./" ++ name := by
  have dot : Utf8.encode "." = [0x2E] ∧ Utf8.encode "./" = [0x2E, slash] := by decide
  have other : (0x2E : UInt8) ≠ slash := by decide
  simp [join, named.head?_ne, dot, other]

/-! ## Texts -/

theorem encode_slash : Utf8.encode "/" = [slash] := by
  decide

/-- No other character has a slash among its bytes. -/
theorem eq_slash_of_mem_encodeChar {c : Char} (mem : slash ∈ String.utf8EncodeChar c) : c = '/' := by
  have val := Utf8.val_of_mem_encodeChar mem (by decide)
  exact Char.ext (UInt32.toNat_inj.mp val)

theorem head?_encode_iff {text : String} :
    (Utf8.encode text).head? = some slash ↔ ∃ rest, text = "/" ++ rest := by
  constructor
  · intro first
    cases chars : text.toList with
    | nil => simp [Utf8.encode, chars] at first
    | cons c rest =>
      rw [Utf8.encode, chars, Utf8.encodeChars_cons, List.head?_append,
        Option.or_of_isSome (by simp)] at first
      obtain rfl := eq_slash_of_mem_encodeChar (List.mem_of_mem_head? first)
      exact ⟨String.ofList rest, String.toList_inj.mp (by simp [chars])⟩
  · rintro ⟨rest, rfl⟩
    rw [Utf8.encode_append, encode_slash]
    rfl

/-! ## What is expanded -/

/-- A path below the home directory, as it is typed. -/
def IsBelowHome (path : String) : Prop :=
  ∃ rest, path = "~/" ++ rest

theorem expand?_belowHome (home : Option Bytes) (rest : String) :
    expand? home ("~/" ++ rest) = home.map (join · (Utf8.encode rest)) := by
  simp [expand?, Utf8.encode]

/-- Slashes further behind are kept. -/
example : expand? (some (Utf8.encode "/home/u")) "~/a//b" = some (Utf8.encode "/home/u/a//b") := by
  decide

/-- Every other path stays as it is typed. -/
theorem expand?_of_not {path : String} (other : ¬IsBelowHome path) (long : path ≠ "~")
    (home : Option Bytes) : expand? home path = some (Utf8.encode path) := by
  unfold expand?
  split
  · next eq => exact absurd (String.toList_inj.mp eq) long
  · next rest eq => exact absurd ⟨String.ofList rest, String.toList_inj.mp (by simp [eq])⟩ other
  · rfl

/-- A path below the home directory with a second slash behind the tilde. -/
def DoublesSlash (path : String) : Prop :=
  ∃ rest, path = "~//" ++ rest

/-- **A leading `~` gives way to the home directory.** Of `~`, and of a path below it, what stands behind the tilde
is kept: its components come behind those of the home directory, and the path begins with the home directory.
Only a second slash behind the tilde is taken for the root directory, and the home directory is lost. Every other
path stays as it is. -/
theorem tilde_gives_way_to_home (home : Bytes) (path : String) :
    (path = "~" ∨ IsBelowHome path → ¬DoublesSlash path →
      ∃ whole, expand? (some home) path = some whole ∧ home <+: whole ∧
        components whole = components home ++ components ((Utf8.encode path).drop 1)) ∧
      (∀ rest, path = "~//" ++ rest → expand? (some home) path = some (Utf8.encode ("/" ++ rest))) ∧
      (path ≠ "~" → ¬IsBelowHome path → expand? (some home) path = some (Utf8.encode path)) := by
  refine ⟨?_, ?_, fun long other => expand?_of_not other long _⟩
  · rintro (rfl | ⟨rest, rfl⟩) single
    · have tilde : (Utf8.encode "~").drop 1 = [] := by decide
      exact ⟨home, rfl, List.prefix_rfl, by rw [tilde, components_nil, List.append_nil]⟩
    · have relative : (Utf8.encode rest).head? ≠ some slash := by
        intro first
        obtain ⟨behind, rfl⟩ := head?_encode_iff.mp first
        exact single ⟨behind, String.toList_inj.mp (by simp)⟩
      have typed : (Utf8.encode ("~/" ++ rest)).drop 1 = slash :: Utf8.encode rest := by
        rw [Utf8.encode_append]
        rfl
      refine ⟨join home (Utf8.encode rest), expand?_belowHome _ rest, prefix_join relative _, ?_⟩
      rw [typed, components_join relative, components_slash]
  · rintro rest rfl
    have typed : "~//" ++ rest = "~/" ++ ("/" ++ rest) := String.toList_inj.mp (by simp)
    rw [typed, expand?_belowHome, Option.map_some, join_of_absolute (head?_encode_iff.mpr ⟨rest, rfl⟩)]

/-- **The home directory is lost behind two slashes.** -/
theorem second_slash_loses_home : ¬∀ (home : Bytes) (path : String), home.head? = some slash →
    path = "~" ∨ IsBelowHome path →
      ∃ whole, expand? (some home) path = some whole ∧
        components whole = components home ++ components ((Utf8.encode path).drop 1) := by
  intro keeps
  obtain ⟨whole, expanded, parts⟩ :=
    keeps (Utf8.encode "/home/u") "~//x" (by decide) (.inr ⟨"/x", by decide⟩)
  have lost : expand? (some (Utf8.encode "/home/u")) "~//x" = some (Utf8.encode "/x") := by decide
  obtain rfl : Utf8.encode "/x" = whole := Option.some.inj (lost.symm.trans expanded)
  have differ : components (Utf8.encode "/x") ≠
      components (Utf8.encode "/home/u") ++ components ((Utf8.encode "~//x").drop 1) := by decide
  exact differ parts

end LineShell.Path
