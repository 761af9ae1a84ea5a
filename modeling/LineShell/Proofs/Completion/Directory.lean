import LineShell.Proofs.Completion.Candidates
import LineShell.Proofs.Session.ChangeDirectory
import LineShell.Proofs.Token.Words

/-!
# Directories that are completed and entered

What is completed behind `cd` is meant for `cd`, so both have to take a path for the same directory. They do but
for a leading `~`, which completion takes for a name, and `cd` for the home directory.

* `Session.Hands`, `hands_of_expand?`: the path that `cd` hands to the system.
* `Completion.ofLine_cd`, `candidates_perm`: what is offered behind `cd`.
* `Completion.cd_enters_completed`: the path that is listed is the one that would be entered, and what is completed
  to a directory is entered by a path that leads there.
-/

namespace LineShell

variable {W D : Type}

/-! ## Where `cd` goes -/

namespace Session

/-- In every session in a world, `cd` and the target hand a path to the system, if there is one. The session is
then where that leads, if it is entered, and otherwise stays. -/
def Hands [Host W] (world : W) (target : String) (path : Option Bytes) : Prop :=
  ∀ session : Session W, session.world = world →
    ((executeLine ("cd " ++ target)).on session).2.world =
      (path.bind fun path => (Host.enter world path).toOption).getD world

theorem MoveEnd.world_eq [Host W] {session after : Session W} {target : String}
    {outcome : Except CommandFault Unit} (ended : MoveEnd session target outcome after) :
    after.world = ((Path.expand? (Host.home session.world) target).bind fun path =>
      (Host.enter session.world path).toOption).getD session.world := by
  cases ended with
  | homeless expanded => rw [expanded, Option.bind_none, Option.getD_none]
  | refused path cause expanded entered =>
    rw [expanded, Option.bind_some, entered]
    rfl
  | unreadable path world cause expanded entered read =>
    rw [expanded, Option.bind_some, entered]
    rfl
  | moved path world text expanded entered read =>
    rw [expanded, Option.bind_some, entered]
    rfl

/-- A line of `cd` and one word hands over what the word is expanded to, whatever becomes of the reading of the
directory or of the report of a failure. -/
theorem hands_expand? [Host W] (world : W) {target : String} (some : target ≠ "")
    (free : ∀ c ∈ target.toList, Token.isDelimiter c = false) :
    Hands world target (Path.expand? (Host.home world) target) := by
  rintro session rfl
  have tokens : Token.tokens ("cd " ++ target) = ["cd", target] := by
    have parted : ("cd " ++ target).toList = "cd".toList ++ ' ' :: target.toList := by simp
    have command : Token.words "cd".toList = ["cd".toList] :=
      Token.words_of_free (by decide) (by simp [Token.isDelimiter])
    have argument : Token.words target.toList = [target.toList] :=
      Token.words_of_free (by simpa using some) free
    rw [Token.tokens_eq, parted, Token.words_append_cons (by decide), command, argument]
    simp
  have named : Builtin.lookup? "cd" = Option.some .cd := by decide
  obtain ⟨begun, logged, ran⟩ := executeLine_builtin tokens named session
  rw [ran, ← logged.world_eq (by simp) (by simp)]
  rcases cd_cases "cd" [target] begun with ⟨_, after, same, ended, eq⟩ |
      ⟨_, fault, between, same, ended, eq⟩ | ⟨arity, _⟩
  · cases same
    rw [runBuiltin, eq, ended.world_eq]
  · cases same
    rw [runBuiltin, eq, ← ended.world_eq]
    exact (within_report fault between).steps.world_eq (by simp) (by simp)
  · exact absurd rfl arity

/-- A path that stands for itself is handed over as it is typed. -/
theorem hands_typed [Host W] (world : W) {target : String} (some : target ≠ "") (long : target ≠ "~")
    (free : ∀ c ∈ target.toList, Token.isDelimiter c = false) (literal : ¬Path.IsBelowHome target) :
    Hands world target (Option.some (Utf8.encode target)) :=
  Path.expand?_of_not literal long (Host.home world) ▸ hands_expand? world some free

end Session

/-! ## What is offered behind `cd` -/

namespace Completion

open Session

section
variable [Host W] {word : String} (free : ∀ c ∈ word.toList, Token.isDelimiter c = false)

include free in
/-- Behind `cd` paths are offered for the whole word. -/
theorem ofLine_cd (world : W) :
    ofLine world ("cd " ++ word) ("cd " ++ word).utf8ByteSize = ⟨3, paths world word.toList⟩ := by
  have cut : Text.CutBehind ' ' ("cd " ++ word) "cd " word :=
    ⟨rfl, .inr (by decide), fun mem => absurd (free ' ' mem) (by decide)⟩
  have offered := ofLine_of_cut cut world ""
  rwa [String.append_empty, if_neg (by decide)] at offered

/-- The names at a path, none where nothing is listed. -/
def namesAt (world : W) (path : Bytes) : List Bytes :=
  (Host.entries world path).getD []

/-- The candidates are what the names are completed to that go on as typed. -/
theorem candidates_perm {world : W}
    (named : ∀ name ∈ namesAt world (Utf8.encode (searchedAt (directoryPart word))), Path.IsName name) :
    (paths world word.toList).Perm
      ((matchingNames (namesAt world (Utf8.encode (searchedAt (directoryPart word))))
        (typedPart word)).map (completed world (directoryPart word))) := by
  cases listed : Host.entries world (Utf8.encode (searchedAt (directoryPart word))) with
  | none => simp [paths_of_none listed, namesAt, listed, matchingNames]
  | some entries =>
    simp only [namesAt, listed, Option.getD_some] at named ⊢
    exact paths_eq listed named ▸ inOrder_perm _

end

theorem replacement_ofName_true (directory name : String) :
    (ofName directory name true).replacement = directory ++ name ++ "/" := rfl

/-- A candidate with no space behind it is that of a directory. -/
theorem ofName_of_free {directory name : String} {isDirectory : Bool}
    (free : ∀ c ∈ (ofName directory name isDirectory).replacement.toList,
      Token.isDelimiter c = false) : isDirectory = true := by
  cases isDirectory with
  | true => rfl
  | false => exact absurd (free ' ' (by simp [ofName])) (by decide)

/-- Where a directory is found, the system has answered. -/
theorem stat_of_isDirectory [Host W] {world : W} {path : Bytes}
    (found : Host.isDirectory world path = true) : Host.stat world path = .ok true := by
  rw [Host.isDirectory] at found
  split at found
  · next directory answered => rw [answered, found]
  · cases found

/-- What is searched for a word is typed in it, or is the current directory. -/
theorem mem_searchedAt {word : String} {c : Char} (mem : c ∈ (searchedAt (directoryPart word)).toList) :
    c = '.' ∨ c ∈ word.toList := by
  rw [searchedAt] at mem
  split at mem
  · exact .inl (by simpa using mem)
  · right
    rw [(cutBehind_directoryPart word).whole, String.toList_append]
    exact List.mem_append_left _ mem

/-- What is searched for a word is no tilde alone. -/
theorem searchedAt_ne_tilde (word : String) : searchedAt (directoryPart word) ≠ "~" := by
  rw [searchedAt]
  split
  · decide
  · next some =>
    intro tilde
    have last := (cutBehind_directoryPart word).closed.resolve_left some
    rw [tilde] at last
    cases last

theorem searchedAt_ne_empty (directory : String) : searchedAt directory ≠ "" := by
  rw [searchedAt]
  split
  · decide
  · assumption

/-! ## Completed directories are entered -/

/-- **Completion and `cd` take a path for the same directory**, but for a leading `~/`, which completion takes
for a name and `cd` for the home directory. The path that is listed is the one that `cd` hands to the system. What
is completed to a directory is handed over as it is, and leads to the directory that the name leads to from the one
that is listed. -/
theorem cd_enters_completed [Host W] {map : DirectoryMap W D} (faithful : map.Faithful) (world : W)
    (word : String) (free : ∀ c ∈ word.toList, Token.isDelimiter c = false)
    (named : ∀ name ∈ namesAt world (Utf8.encode (searchedAt (directoryPart word))),
      Path.IsName name) :
    let line := "cd " ++ word
    let completion := ofLine world line line.utf8ByteSize
    let directory := directoryPart word
    let listed := Utf8.encode (searchedAt directory)
    let names := matchingNames (namesAt world listed) (typedPart word)
    completion.start = 3 ∧
      completion.candidates.Perm (names.map (completed world directory)) ∧
      (¬Path.IsBelowHome directory → Hands world (searchedAt directory) (some listed)) ∧
      (∀ rest, directory = "~/" ++ rest →
        Hands world directory ((Host.home world).map (Path.join · (Utf8.encode rest)))) ∧
      ∀ c ∈ completion.candidates, (∀ d ∈ c.replacement.toList, Token.isDelimiter d = false) →
        ¬Path.IsBelowHome c.replacement →
        Hands world c.replacement (some (Utf8.encode c.replacement)) ∧
          ∃ name inside there, name ∈ names ∧ c = ofName directory name true ∧
            map.follow world listed = some inside ∧
            map.step world inside (Utf8.encode name) = some there ∧
            map.follow world (Utf8.encode c.replacement) = some there ∧
            ∀ after, Host.enter world (Utf8.encode c.replacement) = .ok after → map.here after = there := by
  intro line completion directory listed names
  have whole : completion = ⟨3, paths world word.toList⟩ := ofLine_cd free world
  have perm := candidates_perm named
  have searched : ∀ d ∈ (searchedAt directory).toList, Token.isDelimiter d = false := by
    intro d mem
    rcases mem_searchedAt mem with rfl | typed
    · rfl
    · exact free d typed
  rw [whole]
  refine ⟨rfl, perm, fun literal => ?_, fun rest below => ?_, fun c mem free' literal => ?_⟩
  · refine hands_typed world (searchedAt_ne_empty _) (searchedAt_ne_tilde word) searched ?_
    rw [searchedAt]
    split
    · rintro ⟨rest, eq⟩
      simpa using congrArg (·.toList.head?) eq
    · exact literal
  · have some : directory ≠ "" := by
      rw [below]
      intro eq
      simpa using congrArg (·.toList) eq
    have same : searchedAt directory = directory := if_neg some
    have hands := hands_expand? world some (same ▸ searched)
    rwa [below, Path.expand?_belowHome, ← below] at hands
  · obtain ⟨name, among, rfl⟩ := List.mem_map.mp (perm.mem_iff.mp mem)
    have isName := isName_of_mem named among
    have closed := (cutBehind_directoryPart word).closed
    have isDirectory : Host.isDirectory world (Utf8.encode (lookedAt directory name)) = true :=
      ofName_of_free free'
    rw [completed, isDirectory, replacement_ofName_true] at free' literal ⊢
    have ends : (directory ++ name ++ "/").toList.getLast? = some '/' := by simp
    obtain ⟨some, -⟩ := encode_closed ends
    have long : directory ++ name ++ "/" ≠ "~" := by
      intro eq
      simp [eq] at ends
    refine ⟨hands_typed world some long free' literal, ?_⟩
    obtain ⟨there, looked⟩ := (faithful.found (stat_of_isDirectory isDirectory)).mp rfl
    rw [follow_lookedAt map world closed isName] at looked
    have leads : map.follow world (Utf8.encode (directory ++ name ++ "/")) = Option.some there := by
      rw [Utf8.encode_append, Path.encode_slash, map.follow_append_slash world (by simp [isName.1]),
        follow_append map world closed isName, looked]
    obtain ⟨inside, reached, step⟩ := Option.bind_eq_some_iff.mp looked
    refine ⟨name, inside, there, among, rfl, reached, step, leads, fun after entered => ?_⟩
    exact Option.some.inj ((faithful.entered entered).symm.trans leads)

end Completion

/-! ## A directory that is named like the home directory -/

namespace Machine

open Completion Session

theorem enter_named_tilde : Host.enter (inHomes 0) (Utf8.encode "~/") = .ok (inHomes 2) := by
  have parts : Path.components (Utf8.encode "~/") = [Utf8.encode "~"] := by decide
  have inside : homes.isDirectory 2 = true := by decide
  refine enter_homes (by decide) (by decide) (by decide) ?_ inside
  rw [parts]
  exact leads_homes (by decide) (by decide) inside

theorem enter_home {path : Bytes} (zero : 0 ∉ path) (some : path ≠ []) (short : path.length < maxPath)
    (parts : Path.components path = [Utf8.encode "home"]) :
    Host.enter (inHomes 0) path = .ok (inHomes 1) := by
  have inside : homes.isDirectory 1 = true := by decide
  refine enter_homes zero some short ?_ inside
  rw [parts]
  exact leads_homes (by decide) (by decide) inside

/-- **A leading `~/` is completed from the directory of that name**, and not from the home directory, to which
`cd` goes. -/
theorem tilde_is_completed_as_name :
    ¬∀ (machine : Machine) (word name : String) (path : Bytes) (entries : List Bytes),
      (∀ c ∈ word.toList, Token.isDelimiter c = false) →
      Path.expand? (Host.home machine) (searchedAt (directoryPart word)) = some path →
      Host.entries machine path = some entries → (∀ name ∈ entries, Path.IsName name) →
      name ∈ matchingNames entries (typedPart word) →
      ∃ isDirectory, ofName (directoryPart word) name isDirectory ∈
        (ofLine machine ("cd " ++ word) ("cd " ++ word).utf8ByteSize).candidates := by
  intro lists
  have free : ∀ c ∈ "~/".toList, Token.isDelimiter c = false := by simp [Token.isDelimiter]
  have path : searchedAt (directoryPart "~/") = "~/" := by decide
  have typed : typedPart "~/" = "" := by decide
  have expanded : Path.expand? (Host.home (inHomes 0)) "~/" = some (Utf8.encode "/home/") := by decide
  have listed : Host.entries (inHomes 0) (Utf8.encode "/home/") = some [Utf8.encode "docs"] :=
    entries_of_enter (enter_home (by decide) (by decide) (by decide) (by decide))
  have named : ∀ name ∈ [Utf8.encode "docs"], Path.IsName name := by
    unfold Path.IsName
    decide
  have among : "docs" ∈ matchingNames [Utf8.encode "docs"] (typedPart "~/") := by
    rw [mem_matchingNames_iff, typed]
    exact ⟨List.mem_singleton_self _, List.nil_prefix, fun _ => by decide⟩
  obtain ⟨isDirectory, mem⟩ := lists (inHomes 0) "~/" "docs" _ _ free (path ▸ expanded) listed named among
  have nothing : Host.entries (inHomes 0) (Utf8.encode (searchedAt (directoryPart "~/"))) = some [] :=
    path ▸ entries_of_enter enter_named_tilde
  rw [ofLine_cd free, paths_eq nothing (by simp), (inOrder_perm _).mem_iff] at mem
  simp [matchingNames] at mem

/-- The home directory is offered by its name, and entered by what is offered. -/
theorem cd_enters_completed_home : ∃ c : Candidate, c.replacement = "home/" ∧
    c ∈ (ofLine (inHomes 0) "cd ho" 5).candidates ∧
      ∀ session : Session Machine, session.world = inHomes 0 →
        ((executeLine ("cd " ++ c.replacement)).on session).2.world = inHomes 1 := by
  have free : ∀ c ∈ "ho".toList, Token.isDelimiter c = false := by simp [Token.isDelimiter]
  have path : searchedAt (directoryPart "ho") = "." ∧ directoryPart "ho" = "" := by decide
  have typed : typedPart "ho" = "ho" := by decide
  have here : Host.enter (inHomes 0) (Utf8.encode ".") = .ok (inHomes 0) := enter_dot.mpr ⟨by decide, rfl⟩
  have listed : namesAt (inHomes 0) (Utf8.encode (searchedAt (directoryPart "ho"))) =
      [Utf8.encode "home", Utf8.encode "~"] := by
    rw [path.1, namesAt, entries_homes here, Option.getD_some]
  obtain ⟨-, offers, -, -, enters⟩ := cd_enters_completed faithful_directories (inHomes 0) "ho" free
    (listed ▸ listing_homes.named)
  have looked : Host.stat (inHomes 0) (Utf8.encode (lookedAt "" "home")) = .ok true :=
    stat_of_enter enter_home_from_dot
  have completion : completed (inHomes 0) "" "home" = ⟨"home/", "home/"⟩ := by
    rw [completed, Host.isDirectory, looked]
    rfl
  rw [listed, typed, matchingNames_ho, path.2, List.map_singleton, completion] at offers
  have mem := offers.mem_iff.mpr (List.mem_singleton_self _)
  have literal : ¬Path.IsBelowHome "home/" := by
    rintro ⟨rest, eq⟩
    simpa using congrArg (·.toList.head?) eq
  have whole : ∀ c ∈ "home/".toList, Token.isDelimiter c = false := by simp [Token.isDelimiter]
  obtain ⟨hands, -⟩ := enters _ mem whole literal
  refine ⟨_, rfl, mem, fun session world => ?_⟩
  rw [hands session world, Option.bind_some,
    enter_home (by decide) (by decide) (by decide) (by decide)]
  rfl

end Machine

end LineShell
