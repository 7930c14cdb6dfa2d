/-!
Letter case, as far as names in basic Latin letters need it. A character changes only if its full
upper or lower case consists of basic letters, so a text matches such a name here exactly if its
full case mapping does.
-/

namespace ColorMarkup.Text

/-- Upper case; ligatures and the sharp s become several letters. -/
def upperOf (character : Char) : List Char :=
  if 'a' ≤ character ∧ character ≤ 'z' then [Char.ofNat (character.toNat - 32)]
  else match character.toNat with
    | 0xdf => ['S', 'S']
    | 0x131 => ['I']
    | 0x17f => ['S']
    | 0xfb00 => ['F', 'F']
    | 0xfb01 => ['F', 'I']
    | 0xfb02 => ['F', 'L']
    | 0xfb03 => ['F', 'F', 'I']
    | 0xfb04 => ['F', 'F', 'L']
    | 0xfb05 => ['S', 'T']
    | 0xfb06 => ['S', 'T']
    | _ => [character]

def upper (text : List Char) : List Char :=
  text.flatMap upperOf

/-- Lower case; the Kelvin sign is the one character beyond the basic letters that becomes one. -/
def lowerOf (character : Char) : Char :=
  if 'A' ≤ character ∧ character ≤ 'Z' then Char.ofNat (character.toNat + 32)
  else if character.toNat = 0x212a then 'k' else character

def lower (text : List Char) : List Char :=
  text.map lowerOf

theorem of_basic_and_beyond {motive : Char → Prop} (basic : ∀ code < 128, motive (Char.ofNat code))
    (beyond : ∀ character : Char, 128 ≤ character.toNat → motive character) (character : Char) :
    motive character := by
  by_cases low : character.toNat < 128
  · have known := basic character.toNat low
    rwa [Char.ofNat_toNat] at known
  · exact beyond character (Nat.not_lt.mp low)

@[simp] theorem length_lower (text : List Char) : (lower text).length = text.length := by
  simp [lower]

end ColorMarkup.Text
