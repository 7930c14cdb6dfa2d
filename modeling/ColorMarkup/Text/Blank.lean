/-! Blank characters and the trimming of a text at both ends. -/

namespace ColorMarkup.Text

/-- Separators of words and lines: the space, tabs, line ends, the four information separators
and the spaces and separators of Unicode. -/
def isBlank (character : Char) : Bool :=
  let code := character.toNat
  (0x09 ≤ code && code ≤ 0x0d) || (0x1c ≤ code && code ≤ 0x20) || code == 0x85 || code == 0xa0
    || code == 0x1680 || (0x2000 ≤ code && code ≤ 0x200a) || code == 0x2028 || code == 0x2029
    || code == 0x202f || code == 0x205f || code == 0x3000

def trimStart (text : List Char) : List Char :=
  text.dropWhile isBlank

def trim (text : List Char) : List Char :=
  (trimStart (trimStart text).reverse).reverse

theorem trimStart_of_not_blank {character : Char} {rest : List Char}
    (solid : isBlank character = false) : trimStart (character :: rest) = character :: rest := by
  simp [trimStart, solid]

theorem trimStart_solid {text : List Char}
    (solid : ∀ character ∈ text, isBlank character = false) : trimStart text = text := by
  cases text with
  | nil => rfl
  | cons first rest => exact trimStart_of_not_blank (solid first List.mem_cons_self)

end ColorMarkup.Text
