import ColorMarkup.Text.Quoted

/-!
Encodings of an output: the characters that they have. A text with other characters is refused as a
whole, and the refusal tells the first of them that stand together.
-/

namespace ColorMarkup.Text

/-- An encoding, and what it says of the characters that it does not have. All encodings have the
basic ones. -/
structure Encoding where
  name : String
  holds : Char → Bool
  reason : String
  basic : ∀ character, character.toNat < 0x80 → holds character = true

structure EncodeFault where
  name : String
  reason : String
  position : Nat
  refused : List Char
deriving DecidableEq

namespace EncodeFault

def numbered (character : Char) : List Char :=
  if character.toNat < 0x100 then '\\' :: 'x' :: hex 2 character.toNat
  else if character.toNat < 0x10000 then '\\' :: 'u' :: hex 4 character.toNat
  else '\\' :: 'U' :: hex 8 character.toNat

def message (fault : EncodeFault) : String :=
  "'" ++ fault.name ++ "' codec can't encode "
    ++ (match fault.refused with
      | [character] =>
        "character '" ++ String.ofList (numbered character)
          ++ "' in position " ++ toString fault.position
      | refused =>
        "characters in position " ++ toString fault.position ++ "-"
          ++ toString (fault.position + refused.length - 1))
    ++ ": " ++ fault.reason

end EncodeFault

namespace Encoding

def utf8 : Encoding where
  name := "utf-8"
  holds _ := true
  reason := "surrogates not allowed"
  basic _ _ := rfl

def ascii : Encoding where
  name := "ascii"
  holds character := character.toNat < 0x80
  reason := "ordinal not in range(128)"
  basic _ small := decide_eq_true small

def fault? (encoding : Encoding) (text : List Char) : Option EncodeFault :=
  match text.dropWhile encoding.holds with
  | [] => none
  | refused :: rest =>
    some {
      name := encoding.name
      reason := encoding.reason
      position := (text.takeWhile encoding.holds).length
      refused := refused :: rest.takeWhile fun character => !encoding.holds character }

end Encoding

end ColorMarkup.Text
