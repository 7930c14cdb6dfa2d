import ColorMarkup.Text.Quoted

/-!
Writing the values and headers of a configuration document, as the writer that the program relies on
does it: one key in a line, and strings between double quotes.
-/

namespace ColorMarkup.Toml

def writeCharacter (character : Char) : List Char :=
  if character = '"' ∨ character = '\\' then ['\\', character]
  else if character = '\n' then ['\\', 'n']
  else if character = '\r' then ['\\', 'r']
  else if character = '\t' then ['\\', 't']
  else if character.toNat = 0x08 then ['\\', 'b']
  else if character.toNat = 0x0c then ['\\', 'f']
  else if character.toNat < 0x20 ∨ character.toNat = 0x7f then
    '\\' :: 'u' :: Text.hex 4 character.toNat
  else [character]

def writeString (text : List Char) : List Char :=
  '"' :: (text.flatMap writeCharacter ++ ['"'])

def writeBoolean (value : Bool) : List Char :=
  if value then ['t', 'r', 'u', 'e'] else ['f', 'a', 'l', 's', 'e']

def writeEntry (key : String) (value : List Char) : List Char :=
  key.toList ++ ' ' :: '=' :: ' ' :: (value ++ ['\n'])

def writeHeader (name : String) : List Char :=
  '[' :: (name.toList ++ [']', '\n'])

end ColorMarkup.Toml
