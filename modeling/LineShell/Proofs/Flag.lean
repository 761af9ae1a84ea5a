import LineShell.CommandLine
import LineShell.Flag
import Mathlib.Data.List.TakeWhile

/-!
# Flags of an argument list

Which switches are set depends on which flags there are, and not on their order.

* `Flag.SpelledBy`, `Flag.ofSpelling?_eq_some_iff`: each switch has two spellings of its own.
* `Flags.Unknown`, `unknown_parse`: the reading ends at the first argument that only looks like a flag.
* `Flags.has_parse`: the switches that are set are those that were set or are spelled before it.
* `Flags.SameFlags`, `flags_parse_of_sameFlags`: lists with the same flags in them are read alike.
* `Flags.Reading.andThen`, `parse_append`: a list is read part by part.
* `Flags.reads_arguments`: the laws of reading.
-/

namespace LineShell

namespace Flag

/-- The argument is the short or the long spelling of the switch. -/
def SpelledBy (flag : Flag) (arg : String) : Prop :=
  arg = flag.short ∨ arg = flag.long

/-- No two switches share a spelling. -/
theorem ofSpelling?_eq_some_iff {arg : String} {flag : Flag} :
    ofSpelling? arg = some flag ↔ flag.SpelledBy arg := by
  constructor
  · intro found
    simpa [SpelledBy] using List.find?_some found
  · rintro (rfl | rfl)
    · cases flag <;> decide
    · cases flag <;> decide

theorem SpelledBy.unique {flag other : Flag} {arg : String} (h : flag.SpelledBy arg)
    (h' : other.SpelledBy arg) : flag = other :=
  Option.some.inj ((ofSpelling?_eq_some_iff.mpr h).symm.trans (ofSpelling?_eq_some_iff.mpr h'))

theorem SpelledBy.looksLikeFlag {flag : Flag} {arg : String} (h : flag.SpelledBy arg) :
    Flags.looksLikeFlag arg = true := by
  rcases h with rfl | rfl
  · cases flag <;> decide
  · cases flag <;> decide

/-- The switch is asked for in an argument list. -/
def AskedIn (flag : Flag) (args : List String) : Prop :=
  ∃ arg ∈ args, flag.SpelledBy arg

theorem askedIn_cons {flag : Flag} {arg : String} {args : List String} :
    flag.AskedIn (arg :: args) ↔ flag.SpelledBy arg ∨ flag.AskedIn args := by
  simp [AskedIn]

end Flag

namespace Flags

/-! ## One argument -/

/-- An argument that looks like a flag and spells no switch. -/
def Unknown (arg : String) : Prop :=
  looksLikeFlag arg = true ∧ ∀ flag : Flag, ¬flag.SpelledBy arg

theorem unknown_iff {arg : String} :
    Unknown arg ↔ looksLikeFlag arg = true ∧ Flag.ofSpelling? arg = none := by
  simp only [Unknown, Option.eq_none_iff_forall_ne_some, ne_eq, Flag.ofSpelling?_eq_some_iff]

instance : DecidablePred Unknown := fun _ => decidable_of_iff' _ unknown_iff

/-- An argument is unknown, spells a switch, or is positional. -/
theorem argument_cases (arg : String) :
    Unknown arg ∨ (∃ flag : Flag, flag.SpelledBy arg) ∨ looksLikeFlag arg = false := by
  by_cases spelled : ∃ flag : Flag, flag.SpelledBy arg
  · exact .inr (.inl spelled)
  · cases looks : looksLikeFlag arg with
    | true => exact .inl ⟨looks, fun flag spells => spelled ⟨flag, spells⟩⟩
    | false => exact .inr (.inr rfl)

theorem not_unknown_of_spelledBy {arg : String} {flag : Flag} (h : flag.SpelledBy arg) : ¬Unknown arg :=
  fun unknown => unknown.2 flag h

theorem not_unknown_of_positional {arg : String} (h : looksLikeFlag arg = false) : ¬Unknown arg := by
  rintro ⟨looks, -⟩
  rw [h] at looks
  cases looks

/-- A positional argument spells no switch. -/
theorem not_spelledBy_of_positional {arg : String} (h : looksLikeFlag arg = false) (flag : Flag) :
    ¬flag.SpelledBy arg := by
  intro spells
  rw [spells.looksLikeFlag] at h
  cases h

/-! ## One argument after another -/

section
variable {arg : String} (flags : Flags) (args : List String)

theorem parse_of_unknown (h : Unknown arg) :
    flags.parse (arg :: args) = { flags, unknown := some arg } := by
  obtain ⟨looks, none⟩ := unknown_iff.mp h
  rw [parse, none]
  exact if_pos looks

theorem parse_of_spelledBy {flag : Flag} (h : flag.SpelledBy arg) :
    flags.parse (arg :: args) = (flags.set flag).parse args := by
  rw [parse, Flag.ofSpelling?_eq_some_iff.mpr h]

/-- A positional argument is noted, and has no effect. -/
theorem parse_of_positional (h : looksLikeFlag arg = false) :
    flags.parse (arg :: args) =
      { flags.parse args with ignored := arg :: (flags.parse args).ignored } := by
  have none : Flag.ofSpelling? arg = none := by
    rw [Option.eq_none_iff_forall_ne_some]
    intro flag spelled
    exact not_spelledBy_of_positional h flag (Flag.ofSpelling?_eq_some_iff.mp spelled)
  rw [parse, none]
  simp only [h, Bool.false_eq_true, if_false]

end

/-! ## Argument lists -/

/-- The reading ends at the first unknown argument. -/
theorem unknown_parse (flags : Flags) (args : List String) :
    (flags.parse args).unknown = args.find? (Unknown ·) := by
  induction args generalizing flags with
  | nil => rfl
  | cons arg args ih =>
    rcases argument_cases arg with unknown | ⟨flag, spells⟩ | positional
    · rw [parse_of_unknown flags args unknown, List.find?_cons_of_pos (by simpa using unknown)]
    · have known := not_unknown_of_spelledBy spells
      rw [parse_of_spelledBy flags args spells, ih, List.find?_cons_of_neg (by simpa using known)]
    · have known := not_unknown_of_positional positional
      rw [parse_of_positional flags args positional, ih, List.find?_cons_of_neg (by simpa using known)]

/-- A switch is set if it was set, or is asked for in front of the first unknown argument. -/
theorem has_parse (flags : Flags) (args : List String) (flag : Flag) :
    (flags.parse args).flags.has flag = true ↔
      flags.has flag = true ∨ flag.AskedIn (args.takeWhile (¬Unknown ·)) := by
  induction args generalizing flags with
  | nil => simp [parse, Flag.AskedIn]
  | cons arg args ih =>
    rcases argument_cases arg with unknown | ⟨other, spells⟩ | positional
    · rw [parse_of_unknown flags args unknown, List.takeWhile_cons_of_neg (by simpa using unknown)]
      simp [Flag.AskedIn]
    · have known := not_unknown_of_spelledBy spells
      have same : flag = other ↔ flag.SpelledBy arg :=
        ⟨fun eq => eq ▸ spells, fun spells' => spells'.unique spells⟩
      rw [parse_of_spelledBy flags args spells, ih, List.takeWhile_cons_of_pos (by simpa using known),
        has_set, Bool.or_eq_true, beq_iff_eq, same, Flag.askedIn_cons, or_left_comm, or_assoc]
    · have known := not_unknown_of_positional positional
      have other := not_spelledBy_of_positional positional flag
      rw [parse_of_positional flags args positional, ih,
        List.takeWhile_cons_of_pos (by simpa using known), Flag.askedIn_cons, or_iff_right other]

/-- A set of switches is what is in it. -/
theorem ext_has {flags other : Flags} (h : ∀ flag, flags.has flag = other.has flag) : flags = other := by
  cases flags
  cases other
  simpa [has] using And.intro (h .debug) (And.intro (h .help) (And.intro (h .noColor) (h .version)))

section
variable {args : List String} (known : ∀ arg ∈ args, ¬Unknown arg)
include known

theorem unknown_parse_of_known (flags : Flags) : (flags.parse args).unknown = none := by
  rw [unknown_parse, List.find?_eq_none]
  intro arg mem
  simpa using known arg mem

theorem takeWhile_known : args.takeWhile (¬Unknown ·) = args := by
  rw [List.takeWhile_eq_self_iff]
  intro arg mem
  simpa using known arg mem

/-- Where no argument is unknown, every switch that is asked for is set. -/
theorem has_parse_of_all_known (flags : Flags) (flag : Flag) :
    (flags.parse args).flags.has flag = true ↔ flags.has flag = true ∨ flag.AskedIn args := by
  rw [has_parse, takeWhile_known known]

theorem has_parse_of_known (flag : Flag) : (parse {} args).flags.has flag = true ↔ flag.AskedIn args := by
  have unset : ({} : Flags).has flag = false := by cases flag <;> rfl
  rw [has_parse_of_all_known known, unset]
  simp

end

/-! ## Lists with the same flags -/

/-- The same flags are in both lists, in whatever order, however often, and with whatever positional arguments
between them. -/
def SameFlags (args args' : List String) : Prop :=
  ∀ arg, looksLikeFlag arg = true → (arg ∈ args ↔ arg ∈ args')

theorem SameFlags.askedIn {args args' : List String} (same : SameFlags args args') (flag : Flag) :
    flag.AskedIn args ↔ flag.AskedIn args' := by
  constructor
  · rintro ⟨arg, mem, spells⟩
    exact ⟨arg, (same arg spells.looksLikeFlag).mp mem, spells⟩
  · rintro ⟨arg, mem, spells⟩
    exact ⟨arg, (same arg spells.looksLikeFlag).mpr mem, spells⟩

theorem SameFlags.known {args args' : List String} (same : SameFlags args args')
    (known : ∀ arg ∈ args, ¬Unknown arg) : ∀ arg ∈ args', ¬Unknown arg := by
  intro arg mem unknown
  exact known arg ((same arg unknown.1).mpr mem) unknown

/-- They are read alike. -/
theorem flags_parse_of_sameFlags {flags : Flags} {args args' : List String}
    (same : SameFlags args args') (known : ∀ arg ∈ args, ¬Unknown arg) :
    (flags.parse args').flags = (flags.parse args).flags := by
  apply ext_has
  intro flag
  rw [Bool.eq_iff_iff, has_parse_of_all_known known, has_parse_of_all_known (same.known known),
    same.askedIn flag]

theorem SameFlags.of_perm {args args' : List String} (permuted : args.Perm args') :
    SameFlags args args' :=
  fun _ _ => permuted.mem_iff

/-! ## One list after another -/

attribute [ext] Reading

/-- One reading after another, unless an unknown flag has ended the first. -/
def Reading.andThen (first : Reading) (next : Flags → Reading) : Reading :=
  match first.unknown with
  | some _ => first
  | none => { next first.flags with ignored := first.ignored ++ (next first.flags).ignored }

/-- What a positional argument adds is added in front. -/
theorem Reading.andThen_ignored (first : Reading) (next : Flags → Reading) (arg : String) :
    { first with ignored := arg :: first.ignored }.andThen next =
      { first.andThen next with ignored := arg :: (first.andThen next).ignored } := by
  obtain ⟨flags, ignored, unknown⟩ := first
  cases unknown <;> rfl

/-- A list is read part by part. -/
theorem parse_append (flags : Flags) (args more : List String) :
    flags.parse (args ++ more) = (flags.parse args).andThen (·.parse more) := by
  induction args generalizing flags with
  | nil => rfl
  | cons arg args ih =>
    rw [List.cons_append]
    rcases argument_cases arg with unknown | ⟨flag, spells⟩ | positional
    · rw [parse_of_unknown flags _ unknown, parse_of_unknown flags _ unknown]
      rfl
    · rw [parse_of_spelledBy flags _ spells, parse_of_spelledBy flags _ spells, ih]
    · rw [parse_of_positional flags _ positional, parse_of_positional flags _ positional, ih,
        Reading.andThen_ignored]

/-- Nothing behind an unknown flag is read. -/
theorem parse_behind_unknown (flags : Flags) {arg : String} (unknown : Unknown arg)
    (before behind : List String) :
    flags.parse (before ++ arg :: behind) = flags.parse (before ++ [arg]) := by
  obtain ⟨first, ended⟩ : ∃ first, (flags.parse (before ++ [arg])).unknown = some first := by
    rw [unknown_parse, ← Option.isSome_iff_exists, List.find?_isSome]
    exact ⟨arg, by simp, by simpa using unknown⟩
  rw [List.append_cons, parse_append, Reading.andThen, ended]

/-- The positional arguments are those in front of the first unknown flag. -/
theorem ignored_parse (flags : Flags) (args : List String) :
    (flags.parse args).ignored = (args.takeWhile (¬Unknown ·)).filter (!looksLikeFlag ·) := by
  induction args generalizing flags with
  | nil => rfl
  | cons arg args ih =>
    rcases argument_cases arg with unknown | ⟨flag, spells⟩ | positional
    · rw [parse_of_unknown flags args unknown, List.takeWhile_cons_of_neg (by simpa using unknown)]
      rfl
    · have known := not_unknown_of_spelledBy spells
      rw [parse_of_spelledBy flags args spells, ih, List.takeWhile_cons_of_pos (by simpa using known),
        List.filter_cons_of_neg (by simp [spells.looksLikeFlag])]
    · have known := not_unknown_of_positional positional
      rw [parse_of_positional flags args positional, ih,
        List.takeWhile_cons_of_pos (by simpa using known), List.filter_cons_of_pos (by simp [positional])]

/-- A list that is read once more changes nothing more. -/
theorem parse_again (flags : Flags) (args : List String) :
    (flags.parse args).flags.parse args = flags.parse args := by
  ext1
  · apply ext_has
    intro flag
    rw [Bool.eq_iff_iff, has_parse, has_parse, or_assoc, or_self]
  · rw [ignored_parse, ignored_parse]
  · rw [unknown_parse, unknown_parse]

/-! ## The laws of reading -/

/-- What comes of reading an argument list: nothing more, or the fault of the flag that ended it. -/
def Reading.result (reading : Reading) : Except SessionFault Unit :=
  match reading.unknown with
  | none => .ok ()
  | some arg => .error (unknownFlag arg)

theorem result_parse_ok_iff (flags : Flags) (args : List String) :
    (flags.parse args).result = .ok () ↔ ∀ arg ∈ args, ¬Unknown arg := by
  rw [Reading.result, unknown_parse]
  cases found : args.find? (Unknown ·) with
  | none => simpa [List.find?_eq_none] using found
  | some arg =>
    have unknown : Unknown arg := by simpa using List.find?_some found
    simp only [reduceCtorEq, false_iff, not_forall, not_not]
    exact ⟨arg, List.mem_of_find?_eq_some found, unknown⟩

theorem result_parse_error_iff (flags : Flags) (args : List String) (fault : SessionFault) :
    (flags.parse args).result = .error fault ↔ ∃ before arg behind,
      args = before ++ arg :: behind ∧ (∀ earlier ∈ before, ¬Unknown earlier) ∧ Unknown arg ∧
        fault = unknownFlag arg := by
  have first : ∀ arg, args.find? (Unknown ·) = some arg ↔ ∃ before behind,
      args = before ++ arg :: behind ∧ (∀ earlier ∈ before, ¬Unknown earlier) ∧ Unknown arg := by
    intro arg
    simp only [List.find?_eq_some_iff_append, decide_eq_true_eq, Bool.not_eq_true',
      decide_eq_false_iff_not]
    constructor
    · rintro ⟨unknown, before, behind, split, known⟩
      exact ⟨before, behind, split, known, unknown⟩
    · rintro ⟨before, behind, split, known, unknown⟩
      exact ⟨unknown, before, behind, split, known⟩
  rw [Reading.result, unknown_parse]
  constructor
  · intro ended
    cases found : args.find? (Unknown ·) with
    | none => simp [found] at ended
    | some arg =>
      obtain ⟨before, behind, split, known, unknown⟩ := (first arg).mp found
      simp only [found, Except.error.injEq] at ended
      exact ⟨before, arg, behind, split, known, unknown, ended.symm⟩
  · rintro ⟨before, arg, behind, split, known, unknown, rfl⟩
    rw [(first arg).mpr ⟨before, behind, split, known, unknown⟩]

/-- How argument lists are read into a set of switches. -/
structure ReadsArguments (flags : Flags) : Prop where
  /-- A list is read to its end if everything in it that begins with a hyphen spells a switch. -/
  ok_iff : ∀ args, (flags.parse args).result = .ok () ↔
    ∀ arg ∈ args, arg.toList.head? = some '-' → ∃ flag : Flag, flag.SpelledBy arg
  /-- Otherwise the fault names the first that does not. -/
  error_iff : ∀ args fault, (flags.parse args).result = .error fault ↔ ∃ before arg behind,
    args = before ++ arg :: behind ∧ (∀ earlier ∈ before, ¬Unknown earlier) ∧ Unknown arg ∧
      fault = .flag s!"unknown flag {arg}"
  /-- Set are the switches that were set, and those that are spelled in front of the first unknown flag. -/
  has_iff : ∀ args flag, (flags.parse args).flags.has flag = true ↔
    flags.has flag = true ∨ flag.AskedIn (args.takeWhile (¬Unknown ·))
  /-- What is behind it makes no difference at all. -/
  behind : ∀ before arg behind, Unknown arg →
    flags.parse (before ++ arg :: behind) = flags.parse (before ++ [arg])
  /-- A list in two parts is read part by part, the second only if the first is read to its end. -/
  append : ∀ args more, flags.parse (args ++ more) = (flags.parse args).andThen (·.parse more)
  /-- Reading a list twice is reading it once. -/
  again : ∀ args, (flags.parse args).flags.parse args = flags.parse args
  /-- Without unknown flags, the order makes no difference. -/
  perm : ∀ args args', args.Perm args' → (∀ arg ∈ args, ¬Unknown arg) →
    (flags.parse args').flags = (flags.parse args).flags

/-- **Reading an argument list sets the switches in front of its first unknown flag**, whatever was set before,
and no reading unsets any. So lists are read part by part, and a list without unknown flags in any order. -/
theorem reads_arguments (flags : Flags) : ReadsArguments flags where
  ok_iff args := by
    rw [result_parse_ok_iff]
    simp only [Unknown, looksLikeFlag, beq_iff_eq, not_and, not_forall, not_not]
  error_iff args fault := result_parse_error_iff flags args fault
  has_iff args flag := has_parse flags args flag
  behind before _ behind unknown := parse_behind_unknown flags unknown before behind
  append args more := parse_append flags args more
  again args := parse_again flags args
  perm _ _ permuted known := flags_parse_of_sameFlags (.of_perm permuted) known

/-- Two flags in either order, and one that is nearly a flag. -/
theorem reads_arguments_swapped :
    ["-d", "x", "--help"].Perm ["--help", "x", "-d"] ∧
      (∀ arg ∈ ["-d", "x", "--help"], ¬Unknown arg) ∧
      (parse {} ["--help", "x", "-d"]).flags = (parse {} ["-d", "x", "--help"]).flags ∧
      Unknown "-hd" ∧ parse {} ["-n", "-hd", "-v"] = parse {} ["-n", "-hd"] := by
  have permuted : ["-d", "x", "--help"].Perm ["--help", "x", "-d"] := by decide
  have known : ∀ arg ∈ ["-d", "x", "--help"], ¬Unknown arg := by decide
  have nearly : Unknown "-hd" := by decide
  have reads := reads_arguments {}
  exact ⟨permuted, known, reads.perm _ _ permuted known, nearly, reads.behind ["-n"] "-hd" ["-v"] nearly⟩

end Flags

end LineShell
