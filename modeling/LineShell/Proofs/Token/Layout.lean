import LineShell.Proofs.Token.Words

/-!
# Words laid out on a line

The same words can be laid out on a line in many ways, but a line is read in one way only.

* `IsGap`, `Layout`: words with runs of delimiters between them.
* `Layout.cons`: a word in front of a layout.
* `Layout.tokens_line`: what is laid out is read again.
* `Layout.exists_line_eq`: every line is laid out in some way.
* `tokens_eq_iff_layout`: the tokens of a line are the words of its layouts.
-/

namespace LineShell.Token

/-! ## Gaps -/

/-- A run of delimiters, perhaps an empty one. -/
def IsGap (text : String) : Prop :=
  ∀ c ∈ text.toList, isDelimiter c = true

/-- A gap in front of a text is no part of its words. -/
theorem IsGap.words_append {gap : String} (h : IsGap gap) (text : List Char) :
    words (gap.toList ++ text) = words text := by
  unfold IsGap at h
  generalize gap.toList = chars at h ⊢
  induction chars with
  | nil => rfl
  | cons d chars ih =>
    rw [List.cons_append, words_cons_delimiter (h d List.mem_cons_self)]
    exact ih fun c mem => h c (List.mem_cons_of_mem d mem)

theorem IsWord.words_eq {word : String} (h : IsWord word) : words word.toList = [word.toList] := by
  apply words_of_free _ h.2
  intro empty
  exact h.1 (String.toList_eq_nil_iff.mp empty)

/-- A gap parts a word from what is behind it, unless both the gap and what is behind it are empty. -/
theorem IsWord.words_append {word gap : String} (h : IsWord word) (between : IsGap gap)
    {text : List Char} (apart : gap = "" → text = []) :
    words (word.toList ++ (gap.toList ++ text)) = word.toList :: words text := by
  cases eq : gap.toList with
  | nil =>
    rw [apart (String.toList_eq_nil_iff.mp eq), List.append_nil, List.append_nil, h.words_eq, words_nil]
  | cons d rest =>
    have delimits : isDelimiter d = true := between d (by simp [eq])
    have behind := between.words_append text
    rw [eq, List.cons_append, words_cons_delimiter delimits] at behind
    rw [List.cons_append, words_append_cons delimits, h.words_eq, behind, List.singleton_append]

/-! ## Layouts -/

/-- Words one after another, each with the gap behind it. -/
def laidOut : List (String × String) → String
  | [] => ""
  | (word, gap) :: parts => word ++ gap ++ laidOut parts

/-- How words are laid out on a line: the gap in front of them, and each word with the gap behind it. Only the
gaps at both ends may be empty. -/
structure Layout where
  lead : String
  parts : List (String × String)
  lead_isGap : IsGap lead
  isWord : ∀ part ∈ parts, IsWord part.1
  isGap : ∀ part ∈ parts, IsGap part.2
  apart : ∀ gap ∈ (parts.map Prod.snd).dropLast, gap ≠ ""

namespace Layout

/-- The line. -/
def line (layout : Layout) : String :=
  layout.lead ++ laidOut layout.parts

/-- The words in their order. -/
def words (layout : Layout) : List String :=
  layout.parts.map Prod.fst

end Layout

/-- The words of parts that are laid out are the words that they were made of. -/
theorem words_laidOut {parts : List (String × String)} (isWord : ∀ part ∈ parts, IsWord part.1)
    (isGap : ∀ part ∈ parts, IsGap part.2)
    (apart : ∀ gap ∈ (parts.map Prod.snd).dropLast, gap ≠ "") :
    words (laidOut parts).toList = parts.map (·.1.toList) := by
  induction parts with
  | nil => exact words_nil
  | cons part parts ih =>
    obtain ⟨word, gap⟩ := part
    have last : gap = "" → (laidOut parts).toList = [] := by
      intro none
      cases parts with
      | nil => rfl
      | cons next parts => exact absurd none (apart gap (by simp))
    have rest := ih (fun part mem => isWord part (List.mem_cons_of_mem _ mem))
      (fun part mem => isGap part (List.mem_cons_of_mem _ mem)) fun gap mem => by
        cases parts with
        | nil => cases mem
        | cons next parts => exact apart gap (List.mem_cons_of_mem _ mem)
    rw [laidOut, String.toList_append, String.toList_append, List.append_assoc,
      (isWord _ List.mem_cons_self).words_append (isGap _ List.mem_cons_self) last, rest, List.map_cons]

namespace Layout

/-- What is laid out is read again. -/
theorem tokens_line (layout : Layout) : tokens layout.line = layout.words := by
  rw [tokens_eq, line, String.toList_append, layout.lead_isGap.words_append,
    words_laidOut layout.isWord layout.isGap layout.apart, List.map_map, words]
  simp

/-- A layout of a line that begins with no word has a gap in front, if it has any words. -/
theorem lead_ne_empty {layout : Layout} (some : layout.parts ≠ [])
    (first : ∀ c ∈ layout.line.toList.head?, isDelimiter c = true) : layout.lead ≠ "" := by
  intro none
  cases parts : layout.parts with
  | nil => exact some parts
  | cons part rest =>
    obtain ⟨word, gap⟩ := part
    obtain ⟨nonempty, free⟩ := layout.isWord (word, gap) (by simp [parts])
    cases chars : word.toList with
    | nil => exact nonempty (String.toList_eq_nil_iff.mp chars)
    | cons c behind =>
      have delimits : isDelimiter c = true := by
        apply first c
        simp [line, none, parts, laidOut, chars]
      rw [free c (by simp [chars])] at delimits
      cases delimits

/-- A gap and nothing else. -/
def ofGap (gap : String) (isGap : IsGap gap) : Layout where
  lead := gap
  parts := []
  lead_isGap := isGap
  isWord := by simp
  isGap := by simp
  apart := by simp

theorem line_ofGap {gap : String} (isGap : IsGap gap) : (ofGap gap isGap).line = gap := by
  simp [ofGap, line, laidOut]

/-- A gap and a word in front of a layout, whose own gap is then behind the word. -/
def cons (gap word : String) (behind : Layout) (isGap : IsGap gap) (isWord : IsWord word)
    (apart : behind.parts ≠ [] → behind.lead ≠ "") : Layout where
  lead := gap
  parts := (word, behind.lead) :: behind.parts
  lead_isGap := isGap
  isWord := List.forall_mem_cons.mpr ⟨isWord, behind.isWord⟩
  isGap := List.forall_mem_cons.mpr ⟨behind.lead_isGap, behind.isGap⟩
  apart := by
    cases parts : behind.parts with
    | nil => simp
    | cons next more =>
      have between := behind.apart
      rw [parts] at between apart
      exact List.forall_mem_cons.mpr ⟨apart (by simp), between⟩

theorem line_cons {gap word : String} {behind : Layout} (isGap : IsGap gap) (isWord : IsWord word)
    (apart : behind.parts ≠ [] → behind.lead ≠ "") :
    (cons gap word behind isGap isWord apart).line = gap ++ (word ++ behind.line) := by
  simp [cons, line, laidOut, String.append_assoc]

/-- Every line is laid out in some way: word by word, as it is read. -/
theorem exists_line_eq (line : String) : ∃ layout : Layout, layout.line = line := by
  suffices every : ∀ cursor : Cursor, ∃ layout : Layout, layout.line = String.ofList cursor.rest by
    obtain ⟨layout, eq⟩ := every (Cursor.ofLine line)
    exact ⟨layout, eq.trans String.ofList_toList⟩
  intro cursor
  induction cursor using Cursor.induction with
  | blank cursor skipped =>
    have none : Token.words cursor.rest = [] := by rw [← words_dropWhile, skipped, words_nil]
    have gap : IsGap (String.ofList cursor.rest) := by
      intro c mem
      rw [String.toList_ofList] at mem
      exact words_eq_nil_iff.mp none c mem
    exact ⟨.ofGap _ gap, line_ofGap gap⟩
  | token cursor c rest skipped ih =>
    obtain ⟨behind, eq⟩ := ih
    have gap : IsGap (String.ofList (cursor.rest.takeWhile isDelimiter)) := by
      intro d mem
      rw [String.toList_ofList] at mem
      exact List.all_eq_true.mp List.all_takeWhile d mem
    have word := isWord_read (isDelimiter_of_skipped skipped) rest
    -- What is behind the word begins with a delimiter, so its words do not run into this one.
    have apart : behind.parts ≠ [] → behind.lead ≠ "" := by
      intro some
      apply lead_ne_empty some
      rw [eq, String.toList_ofList]
      intro d first
      obtain ⟨more, starts⟩ := List.head?_eq_some_iff.mp first
      exact isDelimiter_of_behind starts
    refine ⟨.cons _ _ behind gap word apart, ?_⟩
    rw [line_cons, eq, ← String.ofList_append, ← String.ofList_append, List.cons_append,
      List.takeWhile_append_dropWhile, ← skipped, List.takeWhile_append_dropWhile]

end Layout

/-! ## Reading and laying out -/

/-- The tokens of a line are the words of its layouts. -/
theorem tokens_eq_iff_layout {line : String} {ts : List String} :
    ts = tokens line ↔ ∃ layout : Layout, layout.line = line ∧ layout.words = ts := by
  constructor
  · rintro rfl
    obtain ⟨layout, rfl⟩ := Layout.exists_line_eq line
    exact ⟨layout, rfl, layout.tokens_line.symm⟩
  · rintro ⟨layout, rfl, rfl⟩
    exact layout.tokens_line.symm

/-- A delimiter parts the tokens in front of it from those behind it. -/
theorem tokens_append_delimiter {d : Char} (delimits : isDelimiter d = true) (before behind : String) :
    tokens (before ++ String.singleton d ++ behind) = tokens before ++ tokens behind := by
  simp only [tokens_eq, String.toList_append, String.toList_singleton, List.append_assoc,
    List.singleton_append, words_append_cons delimits, List.map_append]

/-- Words with gaps between them are read again. -/
theorem tokens_laidOut {words gaps : List String} (isWord : ∀ word ∈ words, IsWord word)
    (isGap : ∀ gap ∈ gaps, IsGap gap ∧ gap ≠ "") (length : gaps.length = words.length - 1) :
    tokens (laidOut (words.zip (gaps ++ [""]))) = words := by
  by_cases none : words = []
  · subst none
    simp [laidOut, tokens_eq]
  have same : (gaps ++ [""]).length = words.length := by
    have := List.length_pos_iff.mpr none
    simp only [List.length_append, List.length_singleton]
    omega
  have firsts : (words.zip (gaps ++ [""])).map Prod.fst = words := List.map_fst_zip (Nat.le_of_eq same.symm)
  have seconds : (words.zip (gaps ++ [""])).map Prod.snd = gaps ++ [""] := List.map_snd_zip (Nat.le_of_eq same)
  let layout : Layout :=
    { lead := ""
      parts := words.zip (gaps ++ [""])
      lead_isGap := by simp [IsGap]
      isWord := fun part mem => isWord _ (List.of_mem_zip mem).1
      isGap := by
        intro part mem
        rcases List.mem_append.mp (List.of_mem_zip mem).2 with between | last
        · exact (isGap _ between).1
        · simp [List.mem_singleton.mp last, IsGap]
      apart := by
        rw [seconds, List.dropLast_concat]
        exact fun gap mem => (isGap gap mem).2 }
  have read := layout.tokens_line
  rwa [Layout.line, Layout.words, firsts, String.empty_append] at read

/-- Words can always be laid out on a line, for one with a space between them. -/
theorem exists_tokens_eq {words : List String} (isWord : ∀ word ∈ words, IsWord word) :
    ∃ line, tokens line = words := by
  have spaces : ∀ gap ∈ List.replicate (words.length - 1) " ", IsGap gap ∧ gap ≠ "" := by
    intro gap mem
    rw [List.eq_of_mem_replicate mem]
    exact ⟨by simp [IsGap, isDelimiter], by decide⟩
  exact ⟨_, tokens_laidOut isWord spaces List.length_replicate⟩

/-- **A line is read in the one way in which it can be laid out.** Its tokens are the words of its layouts, and
there is one. So a delimiter parts the tokens of a line, and words that are written with gaps between them are
read again. -/
theorem tokens_of_layouts :
    (∀ (line : String) (ts : List String),
      ts = tokens line ↔ ∃ layout : Layout, layout.line = line ∧ layout.words = ts) ∧
      (∀ (before behind : String) (d : Char), isDelimiter d = true →
        tokens (before ++ String.singleton d ++ behind) = tokens before ++ tokens behind) ∧
      ∀ words gaps : List String, (∀ word ∈ words, IsWord word) →
        (∀ gap ∈ gaps, IsGap gap ∧ gap ≠ "") → gaps.length = words.length - 1 →
        tokens (laidOut (words.zip (gaps ++ [""]))) = words :=
  ⟨fun _ _ => tokens_eq_iff_layout, fun before behind _ delimits =>
    tokens_append_delimiter delimits before behind, fun _ _ => tokens_laidOut⟩

/-- Two words with three delimiters between them, and one at each end. -/
example : tokens " ls \r -l\n" = ["ls", "-l"] := by
  cbv

end LineShell.Token
