import LineShell.Highlight

/-!
# Styled text without its style

A style is a matter of escape sequences only: behind their erasure there is the text that was styled.

* `Ansi.Erases`: a text that is left when the sequences of another are erased, wherever that stands.
* `Ansi.erases_paintChars`: what is left of a styled text.
* `Highlighter.Shows`: a text that says the same, styled or not.
-/

namespace LineShell

namespace Ansi

theorem erase_cons {c : Char} (other : c ≠ escape) (rest : List Char) :
    erase (c :: rest) = c :: erase rest := by
  cases rest with
  | nil => rw [erase, erase]
  | cons d rest =>
    have plain : ¬(c = escape ∧ d = '[') := fun both => other both.1
    rw [erase, if_neg plain]

/-- Parameters end with the first `m` behind them. -/
theorem afterM_append {parameters : List Char} (inner : 'm' ∉ parameters) (rest : List Char) :
    afterM (parameters ++ 'm' :: rest) = rest := by
  unfold afterM
  rw [List.dropWhile_append_of_pos]
  · rfl
  · intro c mem
    rw [bne_iff_ne]
    rintro rfl
    exact inner mem

theorem code_append (parameters : String) (rest : List Char) :
    code parameters ++ rest = escape :: '[' :: (parameters.toList ++ 'm' :: rest) := by
  simp [code]

/-- A sequence is erased up to its own end, whatever stands behind it. -/
theorem erase_code {parameters : String} (inner : 'm' ∉ parameters.toList) (rest : List Char) :
    erase (code parameters ++ rest) = erase rest := by
  rw [code_append, erase, if_pos ⟨rfl, rfl⟩, afterM_append inner]

/-- The second text is what is left of the first without its sequences, whatever stands behind it. -/
def Erases (shown said : List Char) : Prop :=
  ∀ rest, erase (shown ++ rest) = said ++ erase rest

namespace Erases

variable {shown said more others : List Char}

theorem nil : Erases [] [] := by
  intro rest
  rfl

theorem append (first : Erases shown said) (second : Erases more others) :
    Erases (shown ++ more) (said ++ others) := by
  intro rest
  rw [List.append_assoc, first, second, List.append_assoc]

/-- A text without escape sequences is left as it is. -/
theorem of_notMem (none : escape ∉ said) : Erases said said := by
  intro rest
  induction said with
  | nil => rfl
  | cons c said ih =>
    rw [List.mem_cons, not_or] at none
    rw [List.cons_append, erase_cons (Ne.symm none.1), ih none.2, List.cons_append]

theorem eq (erases : Erases shown said) : erase shown = said := by
  have alone := erases []
  rw [List.append_nil, erase, List.append_nil] at alone
  exact alone

end Erases

theorem erases_code {parameters : String} (inner : 'm' ∉ parameters.toList) :
    Erases (code parameters) [] := by
  intro rest
  exact erase_code inner rest

/-- Nothing is left of the codes that switch a style on. -/
theorem erases_opening (style : Style) : Erases style.opening [] := by
  have hue : Erases (code style.hue.parameters) [] := by
    apply erases_code
    cases style.hue <;> decide +kernel
  unfold Style.opening
  split
  · exact hue.append (erases_code (by decide +kernel))
  · exact hue.append .nil

/-- Of a styled text there is left the text. -/
theorem erases_paintChars (style : Style) {text : List Char} (none : escape ∉ text) :
    Erases (style.paintChars text) text := by
  have reset : Erases reset [] := erases_code (by decide +kernel)
  have painted := ((erases_opening style).append (.of_notMem none)).append reset
  rw [List.nil_append, List.append_nil] at painted
  exact painted

end Ansi

namespace Highlighter

open Ansi

/-- Plain, a text says what is left of it when it is coloured. -/
def Shows (text : Highlighter → String) : Prop :=
  escape ∉ (text .plain).toList → Erases (text .colored).toList (text .plain).toList

/-- A text that is not styled. -/
theorem Shows.const (text : String) : Shows fun _ => text := by
  intro none
  exact .of_notMem none

theorem Shows.styled (style : Style) (text : String) : Shows (·.styled style text) := by
  intro none
  show Erases (String.ofList (style.paintChars text.toList)).toList text.toList
  rw [String.toList_ofList]
  exact erases_paintChars style none

theorem Shows.append {text more : Highlighter → String} (first : Shows text) (second : Shows more) :
    Shows fun highlighter => text highlighter ++ more highlighter := by
  intro none
  simp only [String.toList_append, List.mem_append, not_or] at none ⊢
  exact (first none.1).append (second none.2)

end Highlighter

end LineShell
