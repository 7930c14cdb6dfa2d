import ColorMarkup.Text.Printable

/-!
Texts in quotation marks, as diagnostics show them: on one line and printable throughout. The mark
is an apostrophe, or a double quote if the text holds an apostrophe and no double quote.
-/

namespace ColorMarkup.Text

def hexDigit (value : Nat) : Char :=
  if value < 10 then Char.ofNat (value + 48) else Char.ofNat (value + 87)

def hex : (width : Nat) → (number : Nat) → List Char
  | 0, _ => []
  | width + 1, number => hex width (number / 16) ++ [hexDigit (number % 16)]

@[simp] theorem length_hex (width number : Nat) : (hex width number).length = width := by
  induction width generalizing number with
  | zero => rfl
  | succ width ih => simp [hex, ih]

def quoteMark (text : List Char) : Char :=
  if text.contains '\'' && !text.contains '"' then '"' else '\''

def escape (mark character : Char) : List Char :=
  if character = mark ∨ character = '\\' then ['\\', character]
  else if character = '\n' then ['\\', 'n']
  else if character = '\r' then ['\\', 'r']
  else if character = '\t' then ['\\', 't']
  else if isPrintable character then [character]
  else if character.toNat < 0x100 then '\\' :: 'x' :: hex 2 character.toNat
  else if character.toNat < 0x10000 then '\\' :: 'u' :: hex 4 character.toNat
  else '\\' :: 'U' :: hex 8 character.toNat

def quoted (text : List Char) : List Char :=
  let mark := quoteMark text
  mark :: (text.flatMap (escape mark) ++ [mark])

def quote (text : String) : String :=
  String.ofList (quoted text.toList)

theorem isPrintable_hexDigit {value : Nat} (small : value < 16) :
    isPrintable (hexDigit value) = true := by
  have every : ∀ value < 16, isPrintable (hexDigit value) = true := by decide
  exact every value small

theorem isPrintable_of_mem_hex {width number : Nat} {character : Char}
    (member : character ∈ hex width number) : isPrintable character = true := by
  induction width generalizing number with
  | zero => simp [hex] at member
  | succ width ih =>
    simp only [hex, List.mem_append, List.mem_singleton] at member
    rcases member with earlier | rfl
    · exact ih earlier
    · exact isPrintable_hexDigit (Nat.mod_lt _ (by decide))

end ColorMarkup.Text
