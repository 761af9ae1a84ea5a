import LineShell.Proofs.Text.Ansi

/-!
# What a screen shows

A screen keeps the codes that it was sent until the reset, and shows every character in those that are in
force. So it can be said of a styled text where its styles end.

* `Ansi.screen`: the characters that are shown, each with the codes in force, and the codes left behind.
* `Ansi.map_char_screen`: the characters are those that an erasure leaves.
* `Ansi.Draws`: what is shown of a text, wherever it stands.
* `Ansi.draws_paintChars`: a styled text is shown in its style, and leaves no code in force.
-/

namespace LineShell.Ansi

/-- The parameters of the codes in force, in the order in which they came. -/
abbrev Codes := List (List Char)

/-- The codes in force behind another one: the reset takes back all of them. -/
def Codes.after (codes : Codes) (parameters : List Char) : Codes :=
  if parameters = ['0'] then [] else codes ++ [parameters]

/-- A character on the screen, with the codes in force when it came. -/
structure Cell where
  char : Char
  codes : Codes
deriving DecidableEq, Repr

/-- What is shown of a text where some codes are in force, and the codes in force behind it. -/
def screen (codes : Codes) : List Char → List Cell × Codes
  | [] => ([], codes)
  | [c] => ([⟨c, codes⟩], codes)
  | c :: d :: rest =>
    if c = escape ∧ d = '[' then screen (codes.after (rest.takeWhile (· != 'm'))) (afterM rest)
    else
      let behind := screen codes (d :: rest)
      (⟨c, codes⟩ :: behind.1, behind.2)
termination_by cs => cs.length
decreasing_by
  · have := length_afterM_le rest
    simp only [List.length_cons]
    omega
  · simp

/-- The characters on the screen are those that an erasure leaves. -/
theorem map_char_screen (codes : Codes) (cs : List Char) :
    (screen codes cs).1.map (·.char) = erase cs := by
  fun_induction screen codes cs with
  | case1 => rw [erase]; rfl
  | case2 => rw [erase]; rfl
  | case3 codes c d rest sequence ih => rw [erase, if_pos sequence, ih]
  | case4 codes c d rest other behind ih => rw [erase, if_neg other, List.map_cons, ih]

/-! ## One character or code -/

theorem screen_cons {c : Char} (other : c ≠ escape) (codes : Codes) (rest : List Char) :
    screen codes (c :: rest) = (⟨c, codes⟩ :: (screen codes rest).1, (screen codes rest).2) := by
  cases rest with
  | nil => rw [screen, screen]
  | cons d rest =>
    have plain : ¬(c = escape ∧ d = '[') := fun both => other both.1
    rw [screen, if_neg plain]

/-- A code is in force behind its own end. -/
theorem screen_code {parameters : String} (inner : 'm' ∉ parameters.toList) (codes : Codes)
    (rest : List Char) :
    screen codes (code parameters ++ rest) = screen (codes.after parameters.toList) rest := by
  have first : (parameters.toList ++ 'm' :: rest).takeWhile (· != 'm') = parameters.toList := by
    rw [List.takeWhile_append_of_pos]
    · simp
    · intro c mem
      rw [bne_iff_ne]
      rintro rfl
      exact inner mem
  rw [code_append, screen, if_pos ⟨rfl, rfl⟩, first, afterM_append inner]

/-! ## Parts of a text -/

/-- Of the text the cells are shown, and the codes in force change as it says, whatever stands behind it. -/
def Draws (text : List Char) (before : Codes) (cells : List Cell) (after : Codes) : Prop :=
  ∀ rest, screen before (text ++ rest) = (cells ++ (screen after rest).1, (screen after rest).2)

namespace Draws

variable {text more : List Char} {before between after : Codes} {cells others : List Cell}

theorem nil (codes : Codes) : Draws [] codes [] codes := by
  intro rest
  rfl

theorem append (first : Draws text before cells between) (second : Draws more between others after) :
    Draws (text ++ more) before (cells ++ others) after := by
  intro rest
  rw [List.append_assoc, first, second, List.append_assoc]

/-- A text without escape sequences is shown in the codes that are in force already. -/
theorem of_notMem (none : escape ∉ text) (codes : Codes) :
    Draws text codes (text.map (⟨·, codes⟩)) codes := by
  intro rest
  induction text with
  | nil => rfl
  | cons c text ih =>
    rw [List.mem_cons, not_or] at none
    rw [List.cons_append, screen_cons (Ne.symm none.1), ih none.2, List.map_cons, List.cons_append]

theorem eq (draws : Draws text before cells after) : screen before text = (cells, after) := by
  have alone := draws []
  rw [List.append_nil, screen, List.append_nil] at alone
  exact alone

end Draws

theorem draws_code {parameters : String} (inner : 'm' ∉ parameters.toList) (codes : Codes) :
    Draws (code parameters) codes [] (codes.after parameters.toList) := by
  intro rest
  exact screen_code inner codes rest

/-- The codes of a style. -/
def Style.codes (style : Style) : Codes :=
  style.hue.parameters.toList :: if style.bold then ["1".toList] else []

theorem draws_opening (style : Style) : Draws style.opening [] [] style.codes := by
  have hue : Draws (code style.hue.parameters) [] [] [style.hue.parameters.toList] := by
    have draws : Draws (code style.hue.parameters) [] [] _ :=
      draws_code (by cases style.hue <;> decide +kernel) []
    have other : style.hue.parameters.toList ≠ ['0'] := by cases style.hue <;> decide +kernel
    rwa [Codes.after, if_neg other] at draws
  have bold : Draws (code "1") [style.hue.parameters.toList] []
      [style.hue.parameters.toList, "1".toList] :=
    draws_code (by decide +kernel) _
  unfold Style.opening Style.codes
  split
  · exact hue.append bold
  · exact hue.append (.nil _)

/-- A styled text is shown in its style, and the style ends with it. -/
theorem draws_paintChars (style : Style) {text : List Char} (none : escape ∉ text) :
    Draws (style.paintChars text) [] (text.map (⟨·, style.codes⟩)) [] := by
  have reset : Draws reset style.codes [] [] := draws_code (by decide +kernel) _
  have painted := ((draws_opening style).append (.of_notMem none style.codes)).append reset
  rw [List.nil_append, List.append_nil] at painted
  exact painted

end LineShell.Ansi
