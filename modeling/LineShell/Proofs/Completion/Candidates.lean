import LineShell.Completion
import LineShell.Proofs.Machine.Walk
import LineShell.Proofs.Text.Cut
import LineShell.Proofs.Text.Decoding
import LineShell.Proofs.Text.Lossy
import Mathlib.Data.List.Nodup
import Mathlib.Data.Set.Function

/-!
# What is offered

A word is completed to what begins with it. In the place of a path it is completed to the names in one directory,
each one once and in the order of their display, in whatever order the system lists them.

* `prefix_of_mem_commands`, `prefix_of_mem_paths`: what is offered goes on from the word.
* `inOrder`, `pairwise_inOrder`, `inOrder_eq_of_perm`: candidates in the order of their displays.
* `Listing`, `matching`, `completed`: what a directory lists, which of it is offered, and as what.
* `follow_lookedAt`, `completed_eq`: which of the entries are found to be directories.
* `candidates_are_entries`: the candidates and the entries of the directory correspond one to one.
* `far_directory_is_no_directory`: a directory is offered as one only where the system looks that far.
-/

namespace LineShell

namespace Completion

/-! ## What goes on from a word -/

theorem prefix_of_mem_commands {word : List Char} {c : Candidate} (mem : c ∈ commands word) :
    word <+: c.replacement.toList := by
  obtain ⟨builtin, among, rfl⟩ := List.mem_map.mp mem
  have begins := List.isPrefixOf_iff_prefix.mp (List.mem_filter.mp among).2
  rw [String.toList_append]
  exact begins.trans (List.prefix_append _ _)

/-- The replacement is the directory part, the name, and what closes it. -/
theorem replacement_ofName (directory name : String) (isDirectory : Bool) :
    (ofName directory name isDirectory).replacement =
      directory ++ name ++ if isDirectory then "/" else " " := by
  cases isDirectory <;> rfl

theorem prefix_of_offers {typed name : List Char} (offered : offers typed name = true) :
    typed <+: name :=
  List.isPrefixOf_iff_prefix.mp (Bool.and_eq_true_iff.mp offered).1

theorem prefix_of_mem_paths {W : Type} [Host W] {world : W} {word : List Char} {c : Candidate}
    (mem : c ∈ paths world word) : word <+: c.replacement.toList := by
  obtain ⟨name, among, rfl⟩ := List.mem_map.mp ((List.mergeSort_perm _ _).mem_iff.mp mem)
  have begins := prefix_of_offers (List.mem_filter.mp among).2
  have goesOn := (List.prefix_append_right_inj (Text.uptoLast '/' word)).mpr begins
  rw [Text.uptoLast_append_afterLast] at goesOn
  rw [replacement_ofName, String.toList_append, String.toList_append, String.toList_ofList]
  exact goesOn.trans (List.prefix_append _ _)

/-! ## Candidates in order -/

/-- Candidates in the order of their displays. -/
def inOrder (cs : List Candidate) : List Candidate :=
  cs.mergeSort fun a b => a.display ≤ b.display

section
variable {cs ds : List Candidate}

theorem inOrder_perm (cs : List Candidate) : (inOrder cs).Perm cs :=
  List.mergeSort_perm _ _

/-- Candidates of different displays ascend. -/
theorem pairwise_inOrder (distinct : (cs.map (·.display)).Nodup) :
    (inOrder cs).Pairwise (·.display < ·.display) := by
  have sorted : (inOrder cs).Pairwise (·.display ≤ ·.display) := by
    refine (List.pairwise_mergeSort (fun a b c ab bc => ?_) (fun a b => ?_) cs).imp of_decide_eq_true
    · exact decide_eq_true (String.le_trans (of_decide_eq_true ab) (of_decide_eq_true bc))
    · simpa using String.le_total a.display b.display
  have other : ((inOrder cs).map (·.display)).Nodup :=
    ((inOrder_perm cs).map _).nodup_iff.mpr distinct
  refine sorted.imp₂ (fun a b le ne => String.not_le.mp fun ge => ?_) (List.pairwise_map.mp other)
  exact ne (String.le_antisymm le ge)

/-- The order in which they are found does not matter then. -/
theorem inOrder_eq_of_perm (perm : cs.Perm ds) (distinct : (cs.map (·.display)).Nodup) :
    inOrder cs = inOrder ds := by
  have same : (inOrder cs).Perm (inOrder ds) :=
    ((inOrder_perm cs).trans perm).trans (inOrder_perm ds).symm
  have distinct' : (ds.map (·.display)).Nodup := (perm.map _).nodup_iff.mp distinct
  refine same.eq_of_pairwise (fun a b _ _ less greater => ?_) (pairwise_inOrder distinct)
    (pairwise_inOrder distinct')
  exact absurd greater (String.lt_asymm less)

end

/-! ## The names of a directory -/

/-- What a directory lists: names, each one once. -/
structure Listing (entries : List Bytes) : Prop where
  nodup : entries.Nodup
  named : ∀ name ∈ entries, Path.IsName name

/-- The entries that go on as typed: those that are texts and begin with it. Hidden ones do so only once their
dot is typed. -/
def matching (entries : List Bytes) (typed : String) : Set String :=
  {name | Utf8.encode name ∈ entries ∧ typed.toList <+: name.toList ∧
    (typed = "" → name.toList.head? ≠ some '.')}

/-- The directory that is meant by the directory part of a word. -/
def searchedAt (directory : String) : String :=
  if directory = "" then "." else directory

/-- The path at which a name behind a directory part is looked at. -/
def lookedAt (directory name : String) : String :=
  (if directory = "" then "./" else directory) ++ name

/-- What is offered for a name behind a directory part. It is closed by a slash if the system finds a directory at
its path, and by a space otherwise. -/
def completed {W : Type} [Host W] (world : W) (directory name : String) : Candidate :=
  ofName directory name (Host.isDirectory world (Utf8.encode (lookedAt directory name)))

/-- The entries that match, as they are listed. -/
def matchingNames (entries : List Bytes) (typed : String) : List String :=
  (entries.filterMap Utf8.decode?).filter (offers typed.toList ·.toList)

/-- The bytes of a text that ends with a slash. -/
theorem encode_closed {text : String} (last : text.toList.getLast? = some '/') :
    text ≠ "" ∧ ∃ front, Utf8.encode text = front ++ [Path.slash] := by
  obtain ⟨front, eq⟩ := List.getLast?_eq_some_iff.mp last
  constructor
  · rintro rfl
    cases last
  · refine ⟨Utf8.encodeChars front, ?_⟩
    rw [Utf8.encode, eq, Utf8.encodeChars_append]
    rfl

section
variable {entries permuted : List Bytes} {typed name : String}

theorem offers_iff : offers typed.toList name.toList = true ↔
    typed.toList <+: name.toList ∧ (typed = "" → name.toList.head? ≠ some '.') := by
  rw [offers, Bool.and_eq_true, List.isPrefixOf_iff_prefix, Bool.not_eq_true', Bool.and_eq_false_iff]
  simp [imp_iff_not_or]

/-- A name is listed by its bytes. -/
theorem mem_matchingNames_iff : name ∈ matchingNames entries typed ↔ name ∈ matching entries typed := by
  have listed : name ∈ entries.filterMap Utf8.decode? ↔ Utf8.encode name ∈ entries := by
    rw [List.mem_filterMap]
    constructor
    · rintro ⟨entry, mem, decoded⟩
      rwa [Utf8.encode_of_decode? decoded]
    · intro mem
      exact ⟨_, mem, Utf8.decode?_encode name⟩
  rw [matchingNames, List.mem_filter, listed, offers_iff]
  rfl

theorem Listing.nodup_matchingNames (listing : Listing entries) (typed : String) :
    (matchingNames entries typed).Nodup := by
  refine List.Nodup.filter _ (listing.nodup.filterMap fun a b text decoded decoded' => ?_)
  rw [← Utf8.encode_of_decode? decoded, ← Utf8.encode_of_decode? decoded']

/-- A name that is offered is a name byte by byte. -/
theorem isName_of_mem (named : ∀ entry ∈ entries, Path.IsName entry)
    (mem : name ∈ matchingNames entries typed) : Path.IsName (Utf8.encode name) :=
  named _ (mem_matchingNames_iff.mp mem).1

theorem Listing.notMem_slash (listing : Listing entries) (mem : name ∈ matchingNames entries typed) :
    '/' ∉ name.toList := by
  intro slash
  apply (isName_of_mem listing.named mem).2
  obtain ⟨front, behind, eq⟩ := List.append_of_mem slash
  rw [Utf8.encode, eq, Utf8.encodeChars_append, Utf8.encodeChars_cons]
  exact List.mem_append_right _ (List.mem_append_left _ (by decide))

/-- A name is found again in its display. -/
theorem filter_display (directory : String) (plain : '/' ∉ name.toList) (isDirectory : Bool) :
    (ofName directory name isDirectory).display.toList.filter (· != '/') = name.toList := by
  have kept : name.toList.filter (· != '/') = name.toList := by
    rw [List.filter_eq_self]
    intro c mem
    simpa using ne_of_mem_of_not_mem mem plain
  cases isDirectory <;> simp [ofName, kept]

variable {W : Type} [Host W] (world : W) (directory : String)

theorem Listing.injOn_display (listing : Listing entries) :
    Set.InjOn (fun name => (completed world directory name).display) (matching entries typed) := by
  intro a mem b mem' same
  have plain := listing.notMem_slash (mem_matchingNames_iff.mpr mem)
  have plain' := listing.notMem_slash (mem_matchingNames_iff.mpr mem')
  apply String.toList_inj.mp
  rw [← filter_display directory plain (Host.isDirectory world (Utf8.encode (lookedAt directory a))),
    ← filter_display directory plain' (Host.isDirectory world (Utf8.encode (lookedAt directory b)))]
  exact congrArg (·.toList.filter (· != '/')) same

/-- No two candidates are shown the same. -/
theorem Listing.nodup_display (listing : Listing entries) (typed : String) :
    (((matchingNames entries typed).map (completed world directory)).map (·.display)).Nodup := by
  rw [List.map_map]
  refine (listing.nodup_matchingNames typed).map_on fun a mem b mem' same => ?_
  exact listing.injOn_display world directory (mem_matchingNames_iff.mp mem)
    (mem_matchingNames_iff.mp mem') same

omit [Host W] in
/-- A candidate is looked at in the directory that is searched. -/
theorem join_searchedAt (closed : directory = "" ∨ directory.toList.getLast? = some '/')
    (named : Path.IsName (Utf8.encode name)) :
    Path.join (Utf8.encode (searchedAt directory)) (Utf8.encode name) =
      Utf8.encode (lookedAt directory name) := by
  rcases closed with rfl | last
  · rw [searchedAt, lookedAt, if_pos rfl, if_pos rfl, Utf8.encode_append]
    exact named.join_dot
  · obtain ⟨some, front, eq⟩ := encode_closed last
    rw [searchedAt, lookedAt, if_neg some, if_neg some, Utf8.encode_append, eq]
    exact named.join_slash front

end

/-! ## The candidates of a path -/

/-- The directory part of a word, up to and with its last slash. -/
def directoryPart (word : String) : String :=
  String.ofList (Text.uptoLast '/' word.toList)

/-- What is typed of a name behind the directory part of a word. -/
def typedPart (word : String) : String :=
  String.ofList (Text.afterLast '/' word.toList)

theorem cutBehind_directoryPart (word : String) :
    Text.CutBehind '/' word (directoryPart word) (typedPart word) :=
  Text.cutBehind '/' word

section
variable {W : Type} [Host W] {world : W} {word : String} {entries : List Bytes}

theorem paths_searched (world : W) (word : String) : paths world word.toList =
    let searched := Utf8.encode (searchedAt (directoryPart word))
    inOrder ((matchingNames ((Host.entries world searched).getD []) (typedPart word)).map
      fun name => ofName (directoryPart word) name
        (Host.isDirectory world (Path.join searched (Utf8.encode name)))) := by
  have searched : searchedAt (directoryPart word) =
      if (directoryPart word).isEmpty then "." else directoryPart word := by
    simp [searchedAt]
  simp only [matchingNames, typedPart, String.toList_ofList, searched]
  rfl

/-- Nothing is offered in a directory that cannot be read. -/
theorem paths_of_none
    (none : Host.entries world (Utf8.encode (searchedAt (directoryPart word))) = none) :
    paths world word.toList = [] := by
  rw [paths_searched]
  simp [none, matchingNames, inOrder]

/-- The candidates are what the entries that match are completed to. -/
theorem paths_eq
    (listed : Host.entries world (Utf8.encode (searchedAt (directoryPart word))) = some entries)
    (named : ∀ name ∈ entries, Path.IsName name) : paths world word.toList =
      inOrder ((matchingNames entries (typedPart word)).map
        (completed world (directoryPart word))) := by
  have looked : ∀ name ∈ matchingNames entries (typedPart word),
      ofName (directoryPart word) name (Host.isDirectory world
          (Path.join (Utf8.encode (searchedAt (directoryPart word))) (Utf8.encode name))) =
        completed world (directoryPart word) name := by
    intro name mem
    rw [completed, join_searchedAt _ (cutBehind_directoryPart word).closed (isName_of_mem named mem)]
  rw [paths_searched]
  simp only [listed, Option.getD_some]
  rw [List.map_congr_left looked]

/-- The entries that match and the candidates correspond one to one. -/
theorem bijOn_paths (listed : Host.entries world (Utf8.encode (searchedAt (directoryPart word))) = some entries)
    (listing : Listing entries) :
    Set.BijOn (completed world (directoryPart word)) (matching entries (typedPart word))
      {c | c ∈ paths world word.toList} := by
  have image : {c | c ∈ paths world word.toList} =
      completed world (directoryPart word) '' matching entries (typedPart word) := by
    ext c
    rw [Set.mem_ofPred_eq, paths_eq listed listing.named, (inOrder_perm _).mem_iff, List.mem_map]
    simp only [mem_matchingNames_iff, Set.mem_image]
  rw [image]
  refine Set.InjOn.bijOn_image fun a mem b mem' same => ?_
  exact listing.injOn_display world (directoryPart word) mem mem' (congrArg (·.display) same)

theorem pairwise_paths (listed : Host.entries world (Utf8.encode (searchedAt (directoryPart word))) = some entries)
    (listing : Listing entries) :
    (paths world word.toList).Pairwise (·.display < ·.display) := by
  rw [paths_eq listed listing.named]
  exact pairwise_inOrder (listing.nodup_display world _ _)

theorem Listing.of_perm {permuted : List Bytes} (listing : Listing entries)
    (perm : permuted.Perm entries) : Listing permuted where
  nodup := perm.nodup_iff.mpr listing.nodup
  named := fun name mem => listing.named name (perm.mem_iff.mp mem)

/-- Where the same entries are listed in another order, the same is offered. -/
theorem paths_eq_of_perm (listed : Host.entries world (Utf8.encode (searchedAt (directoryPart word))) = some entries)
    (listing : Listing entries) {V : Type} [Host V] {other : V} {permuted : List Bytes}
    (perm : permuted.Perm entries)
    (listed' : Host.entries other (Utf8.encode (searchedAt (directoryPart word))) = some permuted)
    (looks : ∀ path, Host.isDirectory other path = Host.isDirectory world path) :
    paths other word.toList = paths world word.toList := by
  have names : (matchingNames permuted (typedPart word)).Perm (matchingNames entries (typedPart word)) :=
    (perm.filterMap _).filter _
  have same : completed other (directoryPart word) = completed world (directoryPart word) := by
    funext name
    rw [completed, completed, looks]
  rw [paths_eq listed listing.named, paths_eq listed' (listing.of_perm perm).named, same]
  exact inOrder_eq_of_perm (names.map _)
    ((listing.of_perm perm).nodup_display world (directoryPart word) (typedPart word))

end

/-! ## Names that are directories -/

section
variable {W D : Type} (map : DirectoryMap W D) (world : W) {directory name : String}

/-- A name behind a directory part leads where it leads from the directory that is searched. -/
theorem follow_append (closed : directory = "" ∨ directory.toList.getLast? = some '/')
    (named : Path.IsName (Utf8.encode name)) :
    map.follow world (Utf8.encode (directory ++ name)) =
      (map.follow world (Utf8.encode (searchedAt directory))).bind
        (map.step world · (Utf8.encode name)) := by
  rcases closed with rfl | last
  · rw [String.empty_append, searchedAt, if_pos rfl, map.follow_dot, map.follow_name world named]
    rfl
  · obtain ⟨some, front, eq⟩ := encode_closed last
    rw [searchedAt, if_neg some, Utf8.encode_append, eq]
    exact map.follow_append_name world named front

/-- So does the path at which it is looked at. -/
theorem follow_lookedAt (closed : directory = "" ∨ directory.toList.getLast? = some '/')
    (named : Path.IsName (Utf8.encode name)) :
    map.follow world (Utf8.encode (lookedAt directory name)) =
      (map.follow world (Utf8.encode (searchedAt directory))).bind
        (map.step world · (Utf8.encode name)) := by
  rcases closed with rfl | last
  · have dot : Utf8.encode "./" = Utf8.encode "." ++ [Path.slash] := by decide
    rw [lookedAt, searchedAt, if_pos rfl, if_pos rfl, Utf8.encode_append, dot,
      map.follow_append_name world named, map.follow_append_slash world (by decide)]
  · have some := (encode_closed last).1
    rw [← follow_append map world (.inr last) named, lookedAt, if_neg some]

/-- What the system finds where it looks at a name is what the name leads to from the directory that is
searched. -/
theorem completed_eq [Host W] {map : DirectoryMap W D} (faithful : map.Faithful)
    (closed : directory = "" ∨ directory.toList.getLast? = some '/')
    (named : Path.IsName (Utf8.encode name)) {inside : D}
    (reached : map.follow world (Utf8.encode (searchedAt directory)) = some inside) :
    completed world directory name = ofName directory name
      ((Host.stat world (Utf8.encode (lookedAt directory name))).isOk &&
        (map.step world inside (Utf8.encode name)).isSome) := by
  have leads := follow_lookedAt map world closed named
  rw [reached, Option.bind_some] at leads
  rw [completed, Host.isDirectory]
  cases looked : Host.stat world (Utf8.encode (lookedAt directory name)) with
  | error cause => rfl
  | ok isDirectory =>
    have found := faithful.found looked
    rw [leads, ← Option.isSome_iff_exists] at found
    rw [Bool.eq_iff_iff.mpr found]
    rfl

end

/-! ## What is offered -/

/-- The word before the cursor is completed, where the line is cut at its last space. -/
theorem ofLine_of_cut {before lead word : String} (cut : Text.CutBehind ' ' before lead word) {W : Type}
    [Host W] (world : W) (behind : String) :
    ofLine world (before ++ behind) before.utf8ByteSize = ⟨lead.utf8ByteSize,
      if Text.allBlank lead then commands word.toList else paths world word.toList⟩ := by
  have front : Text.takeBytes before.utf8ByteSize (before ++ behind).toList = before.toList := by
    rw [← Utf8.size_toList, String.toList_append, Text.takeBytes_size]
  obtain ⟨rfl, rfl⟩ := (Text.cutBehind ' ' before).unique cut
  rw [ofLine, front, Text.allBlank, String.toList_ofList, String.toList_ofList, ← Utf8.size_toList,
    String.toList_ofList]

/-- **The candidates are the entries of one directory that match.** What is completed is the word before the
cursor, and every candidate goes on from it. In the place of a path the entries that match, of the directory
in front of the last slash, and the candidates correspond one to one. They ascend by their displays, in
whatever order the entries are listed. A candidate is closed by a slash exactly if its entry is a directory, links
followed, and the system answers where it is looked at. -/
theorem candidates_are_entries {W : Type} [Host W] (world : W) (before behind : String) :
    let line := before ++ behind
    let completion := ofLine world line before.utf8ByteSize
    ∃ lead word, Text.CutBehind ' ' before lead word ∧ completion.start = lead.utf8ByteSize ∧
      (∀ c ∈ completion.candidates, word.toList <+: c.replacement.toList) ∧
      (Text.allBlank lead = false →
        ∃ directory typed, Text.CutBehind '/' word directory typed ∧
          (Host.entries world (Utf8.encode (searchedAt directory)) = none → completion.candidates = []) ∧
          ∀ entries, Host.entries world (Utf8.encode (searchedAt directory)) = some entries →
            Listing entries →
              Set.BijOn (completed world directory) (matching entries typed)
                  {c | c ∈ completion.candidates} ∧
                completion.candidates.Pairwise (·.display < ·.display) ∧
                (∀ (V : Type) [Host V] (other : V) (permuted : List Bytes), permuted.Perm entries →
                  Host.entries other (Utf8.encode (searchedAt directory)) = some permuted →
                  (∀ path, Host.isDirectory other path = Host.isDirectory world path) →
                    ofLine other line before.utf8ByteSize = completion) ∧
                ∀ (D : Type) (map : DirectoryMap W D), map.Faithful →
                  ∃ inside, map.follow world (Utf8.encode (searchedAt directory)) = some inside ∧
                    ∀ name ∈ matching entries typed, completed world directory name =
                      ofName directory name
                        ((Host.stat world (Utf8.encode (lookedAt directory name))).isOk &&
                          (map.step world inside (Utf8.encode name)).isSome)) := by
  intro line completion
  obtain ⟨lead, word, cut⟩ : ∃ lead word, Text.CutBehind ' ' before lead word :=
    ⟨_, _, Text.cutBehind ' ' before⟩
  have whole : completion = _ := ofLine_of_cut cut world behind
  refine ⟨lead, word, cut, by rw [whole], ?_, fun path => ?_⟩
  · rw [whole]
    intro c mem
    split at mem
    · exact prefix_of_mem_commands mem
    · exact prefix_of_mem_paths mem
  · have parts : ∀ {V : Type} [Host V] (other : V), ofLine other line before.utf8ByteSize =
        ⟨lead.utf8ByteSize, paths other word.toList⟩ := by
      intro V _ other
      rw [ofLine_of_cut cut other behind, if_neg (by simp [path])]
    have whole : completion = _ := parts world
    rw [whole]
    refine ⟨directoryPart word, typedPart word, cutBehind_directoryPart word, paths_of_none,
      fun entries listed listing => ?_⟩
    refine ⟨bijOn_paths listed listing, pairwise_paths listed listing, ?_, fun D map faithful => ?_⟩
    · intro V _ other permuted perm listed' looks
      rw [parts other, paths_eq_of_perm listed listing perm listed' looks]
    · obtain ⟨inside, reached⟩ := faithful.listed listed
      refine ⟨inside, reached, fun name match_ => ?_⟩
      exact completed_eq world faithful (cutBehind_directoryPart word).closed
        (listing.named _ match_.1) reached

end Completion

/-! ## Directories that are too far away -/

namespace Machine

open Completion

/-- A tree with a directory named `~` beside a home directory with something in it. -/
def homes : Tree :=
  ⟨[.directory 0 [(Utf8.encode "home", 1), (Utf8.encode "~", 2)],
    .directory 0 [(Utf8.encode "docs", 3)], .directory 0 [], .directory 1 []]⟩

/-- A machine in one of its directories. -/
def inHomes (i : Ino) : Machine :=
  { tree := homes, here := i, env := [("HOME", "/home")] }

theorem entries_homes {path : Bytes} (entered : Host.enter (inHomes 0) path = .ok (inHomes 0)) :
    Host.entries (inHomes 0) path = some [Utf8.encode "home", Utf8.encode "~"] :=
  entries_of_enter entered

theorem listing_homes : Listing [Utf8.encode "home", Utf8.encode "~"] where
  nodup := by decide
  named := by
    unfold Path.IsName
    decide

/-- One step down from the root, into a directory. -/
theorem leads_homes {name : Bytes} {i : Ino} (plain : Tree.isDots name = false)
    (found : homes.find 0 name = .ok i) (inside : homes.isDirectory i = true) :
    homes.Leads 0 [name] 0 i := by
  refine .down (by decide) plain found (fun target link => ?_) (.done i)
  simp [Tree.isDirectory, link] at inside

/-- Every path starts in the root directory, which is the current one. -/
theorem enter_homes {path : Bytes} {i : Ino} (zero : 0 ∉ path) (some : path ≠ [])
    (short : path.length < maxPath) (leads : homes.Leads 0 (Path.components path) 0 i)
    (inside : homes.isDirectory i = true) : Host.enter (inHomes 0) path = .ok (inHomes i) := by
  have start : Tree.origin (inHomes 0).here path = 0 := by
    unfold Tree.origin
    split <;> rfl
  have resolved : homes.resolve (inHomes 0).here path = .ok i := by
    rw [Tree.resolve_eq_ok_iff, start]
    exact ⟨some, short, 0, Nat.zero_le _, leads_names_iff.mpr ⟨leads, fun _ => inside⟩⟩
  exact enter_eq_ok_iff.mpr ⟨zero, i, resolved, inside, rfl⟩

theorem enter_home_from_dot : Host.enter (inHomes 0) (Utf8.encode "./home") = .ok (inHomes 1) := by
  have parts : Path.components (Utf8.encode "./home") = [Utf8.encode "."] ++ [Utf8.encode "home"] := by
    decide
  have inside : homes.isDirectory 1 = true := by decide
  refine enter_homes (by decide) (by decide) (by decide) ?_ inside
  rw [parts]
  exact .dot (by decide) (leads_homes (by decide) (by decide) inside)

/-- A name in plain letters is read as it stands. -/
theorem decode?_plain {name : Bytes} (plain : name.all (· < 0x80) = true) :
    Utf8.decode? name = some (String.ofList (name.map fun b => Char.ofNat b.toNat)) :=
  Utf8.decode?_ascii (by simpa using plain)

theorem matchingNames_ho : matchingNames [Utf8.encode "home", Utf8.encode "~"] "ho" = ["home"] := by
  have home : Utf8.decode? (Utf8.encode "home") = some "home" :=
    (decode?_plain (by decide)).trans (by decide)
  have tilde : Utf8.decode? (Utf8.encode "~") = some "~" :=
    (decode?_plain (by decide)).trans (by decide)
  simp only [matchingNames, List.filterMap_cons, List.filterMap_nil, home, tilde]
  decide

theorem step_home : directories.step (inHomes 0) 0 (Utf8.encode "home") = some 1 :=
  step_of_leads (Nat.zero_le _) (leads_homes (by decide) (by decide) (by decide)) (by decide)

/-- A long way to the current directory: a dot, and slashes behind it. -/
def slashes (n : Nat) : String :=
  String.ofList ('.' :: List.replicate n '/' ++ ['/'])

theorem encode_slashes (n : Nat) :
    Utf8.encode (slashes n) = Utf8.encode "." ++ List.replicate n Path.slash ++ [Path.slash] := by
  have many : Utf8.encodeChars (List.replicate n '/') = List.replicate n Path.slash := by
    induction n with
    | zero => rfl
    | succ n ih =>
      rw [List.replicate_succ, Utf8.encodeChars_cons, ih, List.replicate_succ]
      rfl
  rw [Utf8.encode, slashes, String.toList_ofList, List.cons_append, Utf8.encodeChars_cons,
    Utf8.encodeChars_append, many]
  rfl

theorem length_encode_slashes (n : Nat) : (Utf8.encode (slashes n)).length = n + 2 := by
  have dot : (Utf8.encode ".").length = 1 := by decide
  rw [encode_slashes, List.length_append, List.length_append, dot, List.length_replicate]
  simp only [List.length_singleton]
  omega

theorem slashes_ne_empty (n : Nat) : slashes n ≠ "" := by
  intro eq
  have size := length_encode_slashes n
  rw [eq] at size
  cases size

theorem space_notMem_slashes (n : Nat) : ' ' ∉ (slashes n).toList := by
  intro mem
  rw [slashes, String.toList_ofList] at mem
  simp only [List.cons_append, List.mem_cons, List.mem_append, List.mem_replicate, List.not_mem_nil,
    or_false] at mem
  rcases mem with same | ⟨-, same⟩ | same <;> cases same

theorem zero_notMem_slashes (n : Nat) : 0 ∉ Utf8.encode (slashes n) := by
  have dot : 0 ∉ Utf8.encode "." := by decide
  have slash : 0 ≠ Path.slash := by decide
  rw [encode_slashes]
  simp [dot, slash]

/-- However many slashes there are, the path has one component. -/
theorem components_slashes (n : Nat) :
    Path.components (Utf8.encode (slashes n)) = [Utf8.encode "."] := by
  rw [encode_slashes, Path.components_append_slash, Path.components_nil, List.append_nil]
  induction n with
  | zero => decide
  | succ n ih =>
    rw [List.replicate_succ', ← List.append_assoc, Path.components_append_slash, ih,
      Path.components_nil, List.append_nil]

theorem enter_slashes {machine : Machine} {n : Nat} (short : n + 2 < maxPath)
    (inside : machine.tree.isDirectory machine.here = true) :
    Host.enter machine (Utf8.encode (slashes n)) = .ok machine := by
  have start : Tree.origin machine.here (Utf8.encode (slashes n)) = machine.here := by
    rw [encode_slashes]
    rfl
  have some : Utf8.encode (slashes n) ≠ [] := by
    rw [encode_slashes]
    simp
  have leads : machine.tree.Leads machine.here [Utf8.encode "."] 0 machine.here :=
    .dot inside (.done _)
  refine enter_eq_ok_iff.mpr ⟨zero_notMem_slashes n, machine.here, ?_, inside, rfl⟩
  rw [Tree.resolve_eq_ok_iff, start, length_encode_slashes]
  refine ⟨some, short, 0, Nat.zero_le _, leads_names_iff.mpr ⟨?_, fun _ => inside⟩⟩
  rwa [components_slashes]

/-- There is nothing behind the slashes. -/
theorem cutBehind_slashes (n : Nat) : Text.CutBehind '/' (slashes n) (slashes n) "" where
  whole := String.append_empty.symm
  closed := by
    rw [slashes, String.toList_ofList]
    exact .inr List.getLast?_concat
  free := by simp

/-- No directory is found at a path that is too long. -/
theorem isDirectory_of_long {machine : Machine} {path : Bytes} (long : maxPath ≤ path.length) :
    Host.isDirectory machine path = false := by
  rw [Host.isDirectory]
  cases found : Host.stat machine path with
  | error cause => rfl
  | ok isDirectory =>
    obtain ⟨-, j, resolved, -⟩ := stat_eq_ok_iff.mp found
    obtain ⟨-, short, -⟩ := Tree.resolve_eq_ok_iff.mp resolved
    exact absurd short (Nat.not_lt.mpr long)

/-- Whatever name stands behind so many slashes, no directory is found there. -/
theorem isDirectory_behind_slashes {machine : Machine} {n : Nat} {name : String}
    (long : maxPath ≤ n + 3) (named : Path.IsName (Utf8.encode name)) :
    Host.isDirectory machine (Utf8.encode (lookedAt (slashes n) name)) = false := by
  have letters := List.length_pos_of_ne_nil named.1
  apply isDirectory_of_long
  rw [lookedAt, if_neg (slashes_ne_empty n), Utf8.encode_append, List.length_append,
    length_encode_slashes]
  omega

/-- **A directory in a directory is not offered as one** where the path to it is too long to be followed. -/
theorem far_directory_is_no_directory :
    ¬∀ (machine : Machine) (before lead word directory typed name : String) (entries : List Bytes)
        (inside : Ino),
      Text.CutBehind ' ' before lead word → Text.allBlank lead = false →
      Text.CutBehind '/' word directory typed →
      Host.entries machine (Utf8.encode (searchedAt directory)) = some entries → Listing entries →
      name ∈ matching entries typed →
      directories.follow machine (Utf8.encode (searchedAt directory)) = some inside →
      (directories.step machine inside (Utf8.encode name)).isSome = true →
      ofName directory name true ∈ (ofLine machine before before.utf8ByteSize).candidates := by
  intro offers
  have cut : Text.CutBehind ' ' ("cd " ++ slashes 4093) "cd " (slashes 4093) :=
    ⟨rfl, .inr (by decide), space_notMem_slashes 4093⟩
  have searches : searchedAt (slashes 4093) = slashes 4093 := if_neg (slashes_ne_empty 4093)
  have among : "home" ∈ matching [Utf8.encode "home", Utf8.encode "~"] "" :=
    ⟨List.mem_cons_self, List.nil_prefix, fun _ => by decide⟩
  have entered : Host.enter (inHomes 0) (Utf8.encode (slashes 4093)) = .ok (inHomes 0) :=
    enter_slashes (by decide) (by decide)
  have listed := entries_homes entered
  have reached := faithful_directories.entered entered
  have mem := offers (inHomes 0) ("cd " ++ slashes 4093) "cd " (slashes 4093) (slashes 4093) "" "home"
    _ 0 cut (by decide) (cutBehind_slashes 4093) (searches.symm ▸ listed) listing_homes among
    (searches.symm ▸ reached) (by rw [step_home]; rfl)
  have parted := (cutBehind_slashes 4093).unique (cutBehind_directoryPart (slashes 4093))
  have offered := ofLine_of_cut cut (inHomes 0) ""
  rw [String.append_empty, if_neg (by decide)] at offered
  rw [offered, paths_eq (parted.1 ▸ searches.symm ▸ listed) listing_homes.named,
    (inOrder_perm _).mem_iff, List.mem_map] at mem
  obtain ⟨name, among, eq⟩ := mem
  -- Whatever the name, the path to it is too long.
  have far : Host.isDirectory (inHomes 0) (Utf8.encode (lookedAt (slashes 4093) name)) = false :=
    isDirectory_behind_slashes (by decide) (isName_of_mem listing_homes.named among)
  rw [← parted.1, completed, far] at eq
  have last := congrArg (·.replacement.toList.getLast?) eq
  simp [replacement_ofName] at last

/-- Of two directories one goes on as it is typed, and is offered as a directory. -/
theorem candidates_are_entries_home :
    {c | c ∈ (ofLine (inHomes 0) "x ho" 4).candidates} = {⟨"home/", "home/"⟩} := by
  obtain ⟨lead, word, cut, -, -, path⟩ := candidates_are_entries (inHomes 0) "x ho" ""
  have behindSpace : Text.CutBehind ' ' "x ho" "x " "ho" := ⟨rfl, .inr (by decide), by decide⟩
  obtain ⟨rfl, rfl⟩ := cut.unique behindSpace
  obtain ⟨directory, typed, cut, -, offers⟩ := path (by decide)
  have noSlash : Text.CutBehind '/' "ho" "" "ho" := ⟨rfl, .inl rfl, by decide⟩
  obtain ⟨rfl, rfl⟩ := cut.unique noSlash
  have here : Host.enter (inHomes 0) (Utf8.encode ".") = .ok (inHomes 0) := enter_dot.mpr ⟨by decide, rfl⟩
  have listed := entries_homes here
  obtain ⟨bijective, -, -, closes⟩ := offers _ listed listing_homes
  obtain ⟨inside, reached, closes⟩ := closes Ino directories faithful_directories
  have only : matching [Utf8.encode "home", Utf8.encode "~"] "ho" = {"home"} := by
    ext name
    rw [← mem_matchingNames_iff, matchingNames_ho]
    exact List.mem_singleton
  have image := bijective.image_eq
  rw [only, Set.image_singleton] at image
  have among : "home" ∈ matching [Utf8.encode "home", Utf8.encode "~"] "ho" := only ▸ Set.mem_singleton _
  obtain rfl : 0 = inside := Option.some.inj ((faithful_directories.entered here).symm.trans reached)
  have looked : Host.stat (inHomes 0) (Utf8.encode (lookedAt "" "home")) = .ok true :=
    stat_of_enter enter_home_from_dot
  rw [closes "home" among, looked, step_home] at image
  exact image.symm

end Machine

end LineShell
