import ColorMarkup.Value

/-!
Writing documents in the JavaScript object notation, on one line of printable basic characters:
all others are written as escapes, those beyond the basic plane as pairs of surrogates.
-/

namespace ColorMarkup.Json

def writeUnit (unit : Nat) : List Char :=
  '\\' :: 'u' :: Text.hex 4 unit

def writeCharacter (character : Char) : List Char :=
  if character = '"' ∨ character = '\\' then ['\\', character]
  else if character = '\n' then ['\\', 'n']
  else if character = '\r' then ['\\', 'r']
  else if character = '\t' then ['\\', 't']
  else if character.toNat = 0x08 then ['\\', 'b']
  else if character.toNat = 0x0c then ['\\', 'f']
  else
    let code := character.toNat
    if 0x20 ≤ code ∧ code < 0x7f then [character]
    else if code < 0x10000 then writeUnit code
    else
      writeUnit (0xd800 + (code - 0x10000) / 0x400) ++ writeUnit (0xdc00 + (code - 0x10000) % 0x400)

def writeString (text : List Char) : List Char :=
  '"' :: (text.flatMap writeCharacter ++ ['"'])

mutual

def write : Value → List Char
  | .null => ['n', 'u', 'l', 'l']
  | .boolean true => ['t', 'r', 'u', 'e']
  | .boolean false => ['f', 'a', 'l', 's', 'e']
  | .integer value => (toString value).toList
  | .float value => value.display.toList
  | .text value => writeString value.toList
  | .moment value => writeString value.display.toList
  | .array items => '[' :: (writeItems items ++ [']'])
  | .table entries => '\x7b' :: (writeMembers entries ++ ['\x7d'])

def writeItems : List Value → List Char
  | [] => []
  | [item] => write item
  | item :: rest => write item ++ ',' :: ' ' :: writeItems rest

def writeMembers : List (String × Value) → List Char
  | [] => []
  | [(key, value)] => writeString key.toList ++ ':' :: ' ' :: write value
  | (key, value) :: rest =>
    writeString key.toList ++ ':' :: ' ' :: (write value ++ ',' :: ' ' :: writeMembers rest)

end

end ColorMarkup.Json
