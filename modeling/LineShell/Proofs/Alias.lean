import LineShell.Alias
import LineShell.Proofs.Text.Order
import Mathlib.Data.List.Dedup

/-!
# Tables of aliases

* `AliasTable.Ascending`: the names stand in strictly ascending order, as `put` leaves them.
* `AliasTable.get?_put`: a later value replaces an earlier one of its name, and no other.
* `AliasTable.mem_put`: what is in a table was put there.
* `AliasTable.Ascending.ext`: an ascending table is what is found in it.
* `AliasTable.keeps_latest`: a table holds the latest value of every name that was put into it.
-/

namespace LineShell

section
variable (name : String) (entry : String × String) (entries : List (String × String))

theorem lookup_cons_eq : (entry :: entries).lookup name =
    if name = entry.1 then some entry.2 else entries.lookup name := by
  by_cases same : name = entry.1
  · rw [if_pos same, List.lookup_cons, beq_iff_eq.mpr same]
  · rw [if_neg same, List.lookup_cons, beq_false_of_ne same]

theorem lookup_eq_none_iff_notMem :
    entries.lookup name = none ↔ name ∉ entries.map Prod.fst := by
  rw [List.lookup_eq_none_iff, List.mem_map]
  simp only [bne_iff_ne, not_exists, not_and]
  exact forall₂_congr fun entry _ => ne_comm

end

theorem mem_insertSorted {name value : String} {entry : String × String}
    {entries : List (String × String)} (mem : entry ∈ insertSorted name value entries) :
    entry = (name, value) ∨ entry ∈ entries := by
  induction entries with
  | nil => exact .inl (List.mem_singleton.mp mem)
  | cons first rest ih =>
    simp only [insertSorted] at mem
    split at mem
    · rcases List.mem_cons.mp mem with eq | mem
      · exact .inl eq
      · exact .inr (List.mem_cons_of_mem first mem)
    · split at mem
      · exact List.mem_cons.mp mem
      · rcases List.mem_cons.mp mem with rfl | mem
        · exact .inr List.mem_cons_self
        · exact (ih mem).imp id (List.mem_cons_of_mem first)

namespace AliasTable

variable {table : AliasTable}

/-- The names stand in strictly ascending order. -/
def Ascending (table : AliasTable) : Prop :=
  table.entries.Pairwise fun entry later => entry.1 < later.1

theorem ascending_empty : empty.Ascending :=
  List.Pairwise.nil

/-- The order of the names is the order of their bytes. -/
theorem Ascending.bytes (ascending : table.Ascending) :
    table.entries.Pairwise fun entry later => Utf8.encode entry.1 < Utf8.encode later.1 := by
  apply ascending.imp
  intro entry later less
  exact Utf8.encode_lt_encode less

theorem Ascending.put (ascending : table.Ascending) (name value : String) :
    (table.put name value).Ascending := by
  unfold Ascending AliasTable.put at *
  generalize table.entries = entries at ascending
  induction entries with
  | nil => exact List.pairwise_singleton ..
  | cons first rest ih =>
    obtain ⟨below, sorted⟩ := List.pairwise_cons.mp ascending
    simp only [insertSorted]
    split
    · next same => exact List.pairwise_cons.mpr ⟨fun entry mem => same ▸ below entry mem, sorted⟩
    · next other =>
      split
      · next less =>
        refine List.pairwise_cons.mpr ⟨fun entry mem => ?_, ascending⟩
        rcases List.mem_cons.mp mem with rfl | mem
        · exact less
        · exact lt_trans less (below entry mem)
      · next notLess =>
        refine List.pairwise_cons.mpr ⟨fun entry mem => ?_, ih sorted⟩
        rcases mem_insertSorted mem with rfl | mem
        · exact lt_of_le_of_ne (not_lt.mp notLess) (Ne.symm other)
        · exact below entry mem

/-- A value replaces an earlier one of its name, and no other. -/
theorem get?_put (table : AliasTable) (name value other : String) :
    (table.put name value).get? other = if other = name then some value else table.get? other := by
  unfold get? put
  generalize table.entries = entries
  induction entries with
  | nil => exact lookup_cons_eq other (name, value) []
  | cons first rest ih =>
    simp only [insertSorted]
    split
    · next same =>
      rw [lookup_cons_eq, lookup_cons_eq, ← same]
      split <;> rfl
    · next differs =>
      split
      · exact lookup_cons_eq other (name, value) (first :: rest)
      · rw [lookup_cons_eq, lookup_cons_eq, ih]
        by_cases here : other = first.1
        · rw [if_pos here, if_pos here, if_neg fun eq => differs (eq.symm.trans here)]
        · rw [if_neg here, if_neg here]

/-- What is in a table was put there. -/
theorem mem_put {name value : String} {entry : String × String}
    (mem : entry ∈ (table.put name value).entries) :
    entry = (name, value) ∨ entry ∈ table.entries :=
  mem_insertSorted mem

/-- The table with entries put into it one after another. -/
def putAll (table : AliasTable) (entries : List (String × String)) : AliasTable :=
  entries.foldl (fun table entry => table.put entry.1 entry.2) table

theorem putAll_cons (table : AliasTable) (entry : String × String) (rest : List (String × String)) :
    table.putAll (entry :: rest) = (table.put entry.1 entry.2).putAll rest := rfl

theorem Ascending.putAll (ascending : table.Ascending) (entries : List (String × String)) :
    (table.putAll entries).Ascending := by
  induction entries generalizing table with
  | nil => exact ascending
  | cons entry rest ih => exact ih (ascending.put entry.1 entry.2)

theorem mem_putAll {entries : List (String × String)} {entry : String × String}
    (mem : entry ∈ (table.putAll entries).entries) : entry ∈ entries ∨ entry ∈ table.entries := by
  induction entries generalizing table with
  | nil => exact .inr mem
  | cons first rest ih =>
    rcases ih mem with later | earlier
    · exact .inl (List.mem_cons_of_mem first later)
    · rcases mem_put earlier with rfl | earlier
      · exact .inl List.mem_cons_self
      · exact .inr earlier

/-! ## What is found in a table -/

theorem Ascending.nodup_names (ascending : table.Ascending) :
    (table.entries.map Prod.fst).Nodup := by
  apply List.pairwise_map.mpr
  exact ascending.imp ne_of_lt

/-- Every entry is found under its name, and nothing else is. -/
theorem Ascending.mem_entries_iff (ascending : table.Ascending) {name value : String} :
    (name, value) ∈ table.entries ↔ table.get? name = some value := by
  unfold Ascending at ascending
  rw [get?, List.lookup_eq_some_iff]
  constructor
  · intro mem
    obtain ⟨before, behind, eq⟩ := List.append_of_mem mem
    refine ⟨before, behind, eq, fun entry earlier => ?_⟩
    rw [eq] at ascending
    have below := (List.pairwise_append.mp ascending).2.2 entry earlier _ List.mem_cons_self
    simpa using ne_of_gt below
  · rintro ⟨before, behind, eq, -⟩
    simp [eq]

/-- Ascending tables in which the same is found are the same. -/
theorem Ascending.ext {other : AliasTable} (ascending : table.Ascending)
    (ascending' : other.Ascending) (found : ∀ name, table.get? name = other.get? name) :
    table = other := by
  have members : ∀ entry, entry ∈ table.entries ↔ entry ∈ other.entries := by
    rintro ⟨name, value⟩
    rw [ascending.mem_entries_iff, ascending'.mem_entries_iff, found]
  have permuted : table.entries.Perm other.entries :=
    (List.perm_ext_iff_of_nodup ascending.nodup_names.of_map ascending'.nodup_names.of_map).mpr members
  have same : table.entries = other.entries :=
    permuted.eq_of_pairwise (fun _ _ _ _ less greater => absurd less (not_lt_of_gt greater))
      ascending ascending'
  exact congrArg AliasTable.mk same

/-- Values under different names are put into a table in any order. -/
theorem Ascending.put_comm (ascending : table.Ascending) {name other : String} (differ : name ≠ other)
    (value value' : String) :
    (table.put name value).put other value' = (table.put other value').put name value := by
  apply Ascending.ext ((ascending.put _ _).put _ _) ((ascending.put _ _).put _ _)
  intro key
  simp only [get?_put]
  by_cases first : key = name
  · rw [if_pos first, if_pos first, if_neg fun second => differ (first.symm.trans second)]
  · rw [if_neg first, if_neg first]

/-! ## What was put into a table -/

/-- The latest value that was put under a name. -/
def latest? (puts : List (String × String)) (name : String) : Option String :=
  puts.reverse.lookup name

theorem latest?_cons (entry : String × String) (puts : List (String × String)) (name : String) :
    latest? (entry :: puts) name =
      (latest? puts name).or (if name = entry.1 then some entry.2 else none) := by
  rw [latest?, List.reverse_cons, List.lookup_append, lookup_cons_eq]
  rfl

theorem latest?_eq_none_iff {puts : List (String × String)} {name : String} :
    latest? puts name = none ↔ name ∉ puts.map Prod.fst := by
  rw [latest?, lookup_eq_none_iff_notMem, List.map_reverse, List.mem_reverse]

/-- What was put later is found, and what was in the table before otherwise. -/
theorem get?_putAll (puts : List (String × String)) (table : AliasTable) (name : String) :
    (table.putAll puts).get? name = (latest? puts name).or (table.get? name) := by
  induction puts generalizing table with
  | nil => rfl
  | cons entry rest ih =>
    rw [putAll_cons, ih, get?_put, latest?_cons, Option.or_assoc]
    split <;> rfl

/-- An empty table holds nothing but what is put into it. -/
theorem get?_putAll_empty (puts : List (String × String)) (name : String) :
    (empty.putAll puts).get? name = latest? puts name := by
  rw [get?_putAll]
  exact Option.or_none

theorem mem_names_putAll {puts : List (String × String)} {name : String} :
    name ∈ (empty.putAll puts).entries.map Prod.fst ↔ name ∈ puts.map Prod.fst := by
  rw [← not_iff_not, ← lookup_eq_none_iff_notMem, ← latest?_eq_none_iff, ← get?_putAll_empty, get?]

/-- What can be seen of a table that some entries were put into, one after another. -/
structure KeepsLatest (table : AliasTable) (puts : List (String × String)) : Prop where
  /-- The entries are listed in strictly ascending order of the bytes of their names. -/
  ascending : table.toList.Pairwise fun entry later => Utf8.encode entry.1 < Utf8.encode later.1
  /-- Every name that was put is listed once, and no other name is. -/
  once : ∀ name, (table.toList.map Prod.fst).count name = if name ∈ puts.map Prod.fst then 1 else 0
  /-- It is listed with the latest value that was put under it. -/
  listed : ∀ name value, (name, value) ∈ table.toList ↔ latest? puts name = some value
  /-- That value is found under it. -/
  found : ∀ name, table.get? name = latest? puts name
  /-- Only under a name that was never put nothing is found. -/
  absent : ∀ name, table.get? name = none ↔ name ∉ puts.map Prod.fst
  /-- The size is the number of different names. -/
  size : table.size = (puts.map Prod.fst).dedup.length
  /-- Only a table that nothing was put into is empty. -/
  isEmpty : table.isEmpty = true ↔ puts = []

/-- **A table holds the latest value of every name that was put into it**, in the order of the names, whatever
was put into the empty table before; and the order in which different names are put makes no difference. -/
theorem keeps_latest (puts : List (String × String)) :
    KeepsLatest (empty.putAll puts) puts ∧
      ∀ name other value value', name ≠ other →
        ((empty.putAll puts).put name value).put other value' =
          ((empty.putAll puts).put other value').put name value := by
  have ascending := ascending_empty.putAll puts
  have names : ((empty.putAll puts).entries.map Prod.fst).Perm (puts.map Prod.fst).dedup := by
    apply (List.perm_ext_iff_of_nodup ascending.nodup_names (List.nodup_dedup _)).mpr
    intro name
    rw [mem_names_putAll, List.mem_dedup]
  have size : (empty.putAll puts).entries.length = (puts.map Prod.fst).dedup.length := by
    rw [← names.length_eq, List.length_map]
  refine ⟨⟨ascending.bytes, fun name => ?_, fun name value => ?_, get?_putAll_empty puts,
      fun name => ?_, size, ?_⟩,
    fun name other value value' differ => ascending.put_comm differ value value'⟩
  · rw [toList, ascending.nodup_names.count]
    simp only [mem_names_putAll]
  · rw [toList, ascending.mem_entries_iff, get?_putAll_empty]
  · rw [get?_putAll_empty, latest?_eq_none_iff]
  · rw [isEmpty, List.isEmpty_iff_length_eq_zero, size, List.length_eq_zero_iff, List.dedup_eq_nil,
      List.map_eq_nil_iff]

/-- A name may be empty, and it may begin another one. -/
theorem keeps_latest_beginnings :
    (empty.putAll [("ab", "1"), ("", "2"), ("ab", "3")]).get? "ab" = some "3" ∧ "a" ≠ "ab" ∧
      ((empty.putAll [("ab", "1"), ("", "2"), ("ab", "3")]).put "a" "4").put "ab" "5" =
        ((empty.putAll [("ab", "1"), ("", "2"), ("ab", "3")]).put "ab" "5").put "a" "4" := by
  obtain ⟨keeps, commutes⟩ := keeps_latest [("ab", "1"), ("", "2"), ("ab", "3")]
  exact ⟨(keeps.found "ab").trans (by decide), by decide, commutes "a" "ab" "4" "5" (by decide)⟩

end AliasTable

end LineShell
