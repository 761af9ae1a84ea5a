import LineShell.Highlight
import LineShell.Proofs.Text.Cut
import LineShell.Proofs.Text.Screen
import LineShell.Proofs.Token.Words

/-!
# Highlighted lines

A highlighted line has the parts of the line between its spaces, in the same places, and each token in a
style of its own. A screen shows it as the line, and every style ends with its part.

* `Ansi.paint?`: a text in a style or as it is.
* `Highlighter.styles`: the styles of tokens in their order.
* `Highlighter.map_isEmpty_paintWords`: the empty parts of a line stay empty, and no others become empty.
* `Highlighter.filter_paintWords`: the other parts are the tokens in their styles.
* `Highlighter.command_keeps_line`: what a screen shows of a highlighted line.
-/

namespace LineShell

namespace Ansi

/-- A text in a style, or as it is. -/
def paint? (style : Option Style) (text : List Char) : List Char :=
  match style with
  | some style => style.paintChars text
  | none => text

/-- A style hides no text, and makes none up. -/
theorem isEmpty_paint? (style : Option Style) {text : List Char} (some : text ≠ []) :
    (paint? style text).isEmpty = false := by
  cases style with
  | none => simpa [paint?] using some
  | some style => simp [paint?, Style.paintChars, some]

end Ansi

theorem Role.paint_eq (role : Role) (word : List Char) :
    role.paint word = Ansi.paint? role.style? word := by
  cases role <;> rfl

namespace Highlighter

open Ansi

/-- The styles of the words of a line: of the command, and of what is behind it. -/
def styles : List (List Char) → List (Option Style)
  | [] => []
  | command :: arguments =>
    (Role.ofCommand command).style? :: arguments.map fun word => (Role.ofArgument word).style?

theorem paintWords_cons (seen : Bool) {word : List Char} (some : word ≠ [])
    (parts : List (List Char)) :
    paintWords seen (word :: parts) =
      paint? (if seen then (Role.ofArgument word).style? else (Role.ofCommand word).style?) word ::
        paintWords true parts := by
  cases word with
  | nil => exact absurd rfl some
  | cons c word => cases seen <;> rw [paintWords, Role.paint_eq] <;> simp

/-- Empty parts stay empty, and no others become empty. -/
theorem map_isEmpty_paintWords (seen : Bool) (parts : List (List Char)) :
    (paintWords seen parts).map List.isEmpty = parts.map List.isEmpty := by
  induction parts generalizing seen with
  | nil => cases seen <;> rfl
  | cons part parts ih =>
    by_cases empty : part = []
    · subst empty
      cases seen <;> simp [paintWords, ih]
    · rw [paintWords_cons seen empty, List.map_cons, List.map_cons, ih, isEmpty_paint? _ empty,
        List.isEmpty_eq_false_iff.mpr empty]

/-- Behind the command, the parts that are not empty have the styles of arguments. -/
theorem filter_paintWords_true (parts : List (List Char)) :
    (paintWords true parts).filter (!·.isEmpty) =
      (parts.filter (!·.isEmpty)).map fun word => paint? (Role.ofArgument word).style? word := by
  induction parts with
  | nil => rfl
  | cons part parts ih =>
    by_cases empty : part = []
    · subst empty
      simp [paintWords, ih]
    · rw [paintWords_cons true empty, List.filter_cons_of_pos, ih, List.filter_cons_of_pos]
      · rfl
      · simpa using empty
      · simp [isEmpty_paint? _ empty]

/-- The parts that are not empty are those of the line, each in its style. -/
theorem filter_paintWords (parts : List (List Char)) :
    (paintWords false parts).filter (!·.isEmpty) =
      List.zipWith paint? (styles (parts.filter (!·.isEmpty))) (parts.filter (!·.isEmpty)) := by
  induction parts with
  | nil => rfl
  | cons part parts ih =>
    by_cases empty : part = []
    · subst empty
      simpa [paintWords] using ih
    · rw [paintWords_cons false empty, List.filter_cons_of_pos, filter_paintWords_true,
        List.filter_cons_of_pos]
      · simp [styles, List.zipWith_map_left]
      · simpa using empty
      · simp [isEmpty_paint? _ empty]

/-! ## What a screen shows -/

/-- The cells of a text in a style, or without one. Behind it no code is in force. -/
theorem draws_paint? (style : Option Style) {text : List Char} (none : escape ∉ text) :
    ∃ codes, Draws (paint? style text) [] (text.map (⟨·, codes⟩)) [] := by
  cases style with
  | none => exact ⟨[], .of_notMem none []⟩
  | some style => exact ⟨style.codes, draws_paintChars style none⟩

/-- A part is in some style, whether it is empty or not. -/
theorem exists_paintWords_cons (seen : Bool) (part : List Char) (parts : List (List Char)) :
    ∃ style later, paintWords seen (part :: parts) = paint? style part :: paintWords later parts := by
  by_cases empty : part = []
  · subst empty
    exact ⟨none, seen, by cases seen <;> rfl⟩
  · exact ⟨_, true, paintWords_cons seen empty parts⟩

/-- Joined by spaces, the parts are shown as they are, and the spaces between them in no style. -/
theorem draws_paintWords (seen : Bool) {parts : List (List Char)}
    (free : ∀ part ∈ parts, escape ∉ part ∧ ' ' ∉ part) :
    ∃ cells, Draws ([' '].intercalate (paintWords seen parts)) [] cells [] ∧
      cells.map (·.char) = [' '].intercalate parts ∧
      ∀ cell ∈ cells, cell.char = ' ' → cell.codes = [] := by
  induction parts generalizing seen with
  | nil =>
    have nothing : paintWords seen [] = [] := by cases seen <;> rfl
    rw [nothing]
    exact ⟨[], .nil [], rfl, by simp⟩
  | cons part parts ih =>
    obtain ⟨⟨noEscape, noSpace⟩, free'⟩ := List.forall_mem_cons.mp free
    obtain ⟨style, later, eq⟩ := exists_paintWords_cons seen part parts
    obtain ⟨codes, drawn⟩ := draws_paint? style noEscape
    have chars : (part.map (⟨·, codes⟩ : Char → Cell)).map (·.char) = part := by
      rw [List.map_map]
      exact List.map_id part
    have spaces : ∀ cell ∈ part.map (⟨·, codes⟩ : Char → Cell), cell.char = ' ' → cell.codes = [] := by
      intro cell mem space
      obtain ⟨c, among, rfl⟩ := List.mem_map.mp mem
      exact absurd (space ▸ among) noSpace
    rw [eq]
    cases parts with
    | nil =>
      have nothing : paintWords later [] = [] := by cases later <;> rfl
      rw [nothing, List.intercalate_singleton, List.intercalate_singleton]
      exact ⟨_, drawn, chars, spaces⟩
    | cons next parts =>
      obtain ⟨cells, behind, same, between⟩ := ih later free'
      obtain ⟨style', later', eq'⟩ := exists_paintWords_cons later next parts
      have space : Draws [' '] [] [⟨' ', []⟩] [] := .of_notMem (by decide) []
      refine ⟨part.map (⟨·, codes⟩) ++ [⟨' ', []⟩] ++ cells, ?_, ?_, ?_⟩
      · rw [eq', List.intercalate_cons_cons, ← eq']
        exact (drawn.append space).append behind
      · rw [List.map_append, List.map_append, chars, same, List.intercalate_cons_cons]
        rfl
      · intro cell mem blank
        rcases List.mem_append.mp mem with mem | mem
        · rcases List.mem_append.mp mem with mem | mem
          · exact spaces cell mem blank
          · rw [List.mem_singleton.mp mem]
        · exact between cell mem blank

/-- **Highlighting never changes the visible line.** Without its escape sequences a highlighted line is the line
that was typed, and on a screen there is no style in force at any space nor at the end. A plain line is not
changed at all. -/
theorem command_keeps_line (line : String) :
    plain.command line = line ∧
      (escape ∉ line.toList → ∀ highlighter : Highlighter,
        let shown := (highlighter.command line).toList
        erase shown = line.toList ∧ (screen [] shown).2 = [] ∧
          ∀ cell ∈ (screen [] shown).1, cell.char = ' ' → cell.codes = []) := by
  refine ⟨rfl, fun typed highlighter => ?_⟩
  have drawn : ∃ cells, Draws (highlighter.command line).toList [] cells [] ∧
      cells.map (·.char) = line.toList ∧ ∀ cell ∈ cells, cell.char = ' ' → cell.codes = [] := by
    cases highlighter with
    | plain =>
      refine ⟨_, .of_notMem typed [], ?_, ?_⟩
      · rw [List.map_map]
        exact List.map_id _
      · intro cell mem _
        obtain ⟨c, _, rfl⟩ := List.mem_map.mp mem
        rfl
    | colored =>
      have whole : [' '].intercalate (line.toList.splitOn ' ') = line.toList :=
        List.intercalate_splitOn ' '
      have free : ∀ part ∈ line.toList.splitOn ' ', escape ∉ part ∧ ' ' ∉ part := by
        intro part mem
        have made := Text.mem_of_mem_splitOn mem
        exact ⟨fun inside => typed (made _ inside).1, fun inside => (made _ inside).2 rfl⟩
      rw [command, String.toList_ofList]
      obtain ⟨cells, draws, chars, spaces⟩ := draws_paintWords false free
      exact ⟨cells, draws, chars.trans whole, spaces⟩
  obtain ⟨cells, draws, chars, spaces⟩ := drawn
  have shown := draws.eq
  refine ⟨?_, ?_, ?_⟩
  · rw [← map_char_screen [], shown, chars]
  · rw [shown]
  · rw [shown]
    exact spaces

/-- A line with a style of every kind, and spaces on both ends. -/
theorem command_keeps_line_spaced :
    escape ∉ " cd  -L $HOME ".toList ∧
      (colored.command " cd  -L $HOME ").toList ≠ " cd  -L $HOME ".toList ∧
      erase (colored.command " cd  -L $HOME ").toList = " cd  -L $HOME ".toList := by
  have typed : escape ∉ " cd  -L $HOME ".toList := by decide
  refine ⟨typed, by decide, ?_⟩
  obtain ⟨-, keeps⟩ := command_keeps_line " cd  -L $HOME "
  exact (keeps typed colored).1

end Highlighter

end LineShell
