import LineShell.Proofs.Text.Utf8
import LineShell.Text.Cut

/-!
# Texts that are cut

* `uptoLast_eq_nil_or`, `notMem_afterLast`, `CutBehind`: where a cut at the last occurrence of a character falls.
* `mem_of_mem_splitOn`: the parts between the occurrences.
* `takeBytes_prefix`, `takeBytes_size`: a beginning measured in bytes.
-/

namespace LineShell.Text

/-! ## Cuts at a character -/

/-- In front of the cut there is nothing, or the character that is cut at. -/
theorem uptoLast_eq_nil_or (c : Char) (cs : List Char) :
    uptoLast c cs = [] ∨ ∃ front, uptoLast c cs = front ++ [c] := by
  have stops := List.head?_dropWhile_not (· != c) cs.reverse
  unfold uptoLast
  cases left : cs.reverse.dropWhile (· != c) with
  | nil => exact .inl rfl
  | cons d front =>
    obtain rfl : d = c := by simpa [left] using stops
    exact .inr ⟨front.reverse, by rw [List.reverse_cons]⟩

/-- Behind the cut the character does not occur. -/
theorem notMem_afterLast (c : Char) (cs : List Char) : c ∉ afterLast c cs := by
  intro mem
  have free := List.all_eq_true.mp List.all_takeWhile c (List.mem_reverse.mp mem)
  simp at free

/-- A text is cut behind the last occurrence of a character; at its beginning when there is none. -/
structure CutBehind (c : Char) (text front behind : String) : Prop where
  whole : text = front ++ behind
  closed : front = "" ∨ front.toList.getLast? = some c
  free : c ∉ behind.toList

theorem cutBehind (c : Char) (text : String) :
    CutBehind c text (String.ofList (uptoLast c text.toList))
      (String.ofList (afterLast c text.toList)) where
  whole := by
    rw [← String.ofList_append, uptoLast_append_afterLast, String.ofList_toList]
  closed := by
    rcases uptoLast_eq_nil_or c text.toList with none | ⟨front, eq⟩
    · exact .inl (by rw [none, String.ofList_nil])
    · exact .inr (by simp [eq])
  free := by
    rw [String.toList_ofList]
    exact notMem_afterLast c _

/-- There is one such cut. -/
theorem CutBehind.unique {c : Char} {text front behind front' behind' : String}
    (cut : CutBehind c text front behind) (cut' : CutBehind c text front' behind') :
    front = front' ∧ behind = behind' := by
  -- What one cut has in front and the other one behind ends with the character, so that there is nothing of it.
  have nothing : ∀ {text front behind front' behind' : String} {middle : List Char},
      CutBehind c text front behind → CutBehind c text front' behind' →
      front'.toList = front.toList ++ middle → behind.toList = middle ++ behind'.toList →
      middle = [] := by
    intro text front behind front' behind' middle cut cut' eq eq'
    by_contra some
    have last : middle.getLast? = .some c := by
      rcases cut'.closed with rfl | last
      · simp [some] at eq
      · rwa [eq, List.getLast?_append, Option.or_of_isSome (by simpa using some)] at last
    apply cut.free
    rw [eq']
    exact List.mem_append_left _ (List.mem_of_getLast? last)
  have same : front.toList ++ behind.toList = front'.toList ++ behind'.toList := by
    rw [← String.toList_append, ← String.toList_append, ← cut.whole, ← cut'.whole]
  rcases List.append_eq_append_iff.mp same with ⟨middle, eq, eq'⟩ | ⟨middle, eq, eq'⟩
  · obtain rfl := nothing cut cut' eq eq'
    exact ⟨String.toList_inj.mp (by simpa using eq.symm), String.toList_inj.mp (by simpa using eq')⟩
  · obtain rfl := nothing cut' cut eq eq'
    exact ⟨String.toList_inj.mp (by simpa using eq), String.toList_inj.mp (by simpa using eq'.symm)⟩

/-- The parts of a split text are made of its characters other than the one that it was split at. -/
theorem mem_of_mem_splitOn {c : Char} {cs part : List Char} (mem : part ∈ cs.splitOn c) :
    ∀ d ∈ part, d ∈ cs ∧ d ≠ c := by
  induction cs generalizing part with
  | nil =>
    rw [List.splitOn_nil, List.mem_singleton] at mem
    rw [mem]
    simp
  | cons first cs ih =>
    have later : ∀ part ∈ cs.splitOn c, ∀ d ∈ part, d ∈ first :: cs ∧ d ≠ c := by
      intro part mem d inside
      exact ⟨List.mem_cons_of_mem _ (ih mem d inside).1, (ih mem d inside).2⟩
    obtain ⟨headPart, parts, eq⟩ := List.exists_cons_of_ne_nil (List.splitOn_ne_nil c cs)
    rw [List.splitOn_cons_eq_if_modifyHead, eq] at mem
    rw [eq] at later
    split at mem
    · rcases List.mem_cons.mp mem with rfl | mem
      · simp
      · exact later part mem
    · next other =>
      rcases List.mem_cons.mp mem with rfl | mem
      · rintro d inside
        rcases List.mem_cons.mp inside with rfl | inside
        · exact ⟨List.mem_cons_self, by simpa using other⟩
        · exact later headPart List.mem_cons_self d inside
      · exact later part (List.mem_cons_of_mem _ mem)

/-! ## Beginnings in bytes -/

theorem takeBytes_prefix (n : Nat) (cs : List Char) : takeBytes n cs <+: cs := by
  induction cs generalizing n with
  | nil => exact List.prefix_rfl
  | cons c cs ih =>
    rw [takeBytes]
    split
    · exact List.prefix_cons_inj c |>.mpr (ih _)
    · exact List.nil_prefix

/-- A text is found again by its length. -/
theorem takeBytes_size (front cs : List Char) : takeBytes (Utf8.size front) (front ++ cs) = front := by
  induction front with
  | nil =>
    cases cs with
    | nil => rfl
    | cons c cs =>
      have := c.utf8Size_pos
      rw [Utf8.size, List.nil_append, takeBytes, if_neg (by omega)]
  | cons c front ih =>
    rw [List.cons_append, takeBytes, Utf8.size, if_pos (by omega), Nat.add_sub_cancel_left, ih]

end LineShell.Text
