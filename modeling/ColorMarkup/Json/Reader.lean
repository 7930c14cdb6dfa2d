import ColorMarkup.Decimal.Numeral
import ColorMarkup.Value

/-!
Reading documents in the JavaScript object notation. Numbers without a point or an exponent are
integers of any size, and objects keep the order of their members. Each reader takes what it reads
from the front of a text and returns the rest.
-/

namespace ColorMarkup.Json

open Decimal (Numeral)

def isSpace (character : Char) : Bool :=
  character == ' ' || character == '\t' || character == '\n' || character == '\r'

def skipSpace (text : List Char) : List Char :=
  text.dropWhile isSpace

def hexValue? (character : Char) : Option Nat :=
  if '0' ≤ character ∧ character ≤ '9' then some (character.toNat - 48)
  else if 'a' ≤ character ∧ character ≤ 'f' then some (character.toNat - 87)
  else if 'A' ≤ character ∧ character ≤ 'F' then some (character.toNat - 55)
  else none

theorem hexValue?_hexDigit {digit : Nat} (small : digit < 16) :
    hexValue? (Text.hexDigit digit) = some digit := by
  have every : ∀ digit < 16, hexValue? (Text.hexDigit digit) = some digit := by decide
  exact every digit small

def unit? (first second third fourth : Char) : Option Nat :=
  match hexValue? first, hexValue? second, hexValue? third, hexValue? fourth with
  | some first, some second, some third, some fourth =>
    some (((first * 16 + second) * 16 + third) * 16 + fourth)
  | _, _, _, _ => none

def escaped? : Char → Option Char
  | '"' => some '"'
  | '\\' => some '\\'
  | '/' => some '/'
  | 'b' => some '\x08'
  | 'f' => some '\x0c'
  | 'n' => some '\n'
  | 'r' => some '\r'
  | 't' => some '\t'
  | _ => none

def isHighSurrogate (unit : Nat) : Bool := 0xd800 ≤ unit && unit < 0xdc00

def isLowSurrogate (unit : Nat) : Bool := 0xdc00 ≤ unit && unit < 0xe000

def joinSurrogates (high low : Nat) : Char :=
  Char.ofNat (0x10000 + (high - 0xd800) * 0x400 + (low - 0xdc00))

/-- Reads a string up to its closing mark. A high surrogate waits for the low one that has to
follow it; `done` holds the characters read, last first. -/
def readString (high : Option Nat) (done : List Char) :
    List Char → Option (List Char × List Char)
  | '\\' :: 'u' :: first :: second :: third :: fourth :: rest =>
    match unit? first second third fourth, high with
    | none, _ => none
    | some unit, some high =>
      if isLowSurrogate unit then readString none (joinSurrogates high unit :: done) rest else none
    | some unit, none =>
      if isHighSurrogate unit then readString (some unit) done rest
      else if isLowSurrogate unit then none
      else readString none (Char.ofNat unit :: done) rest
  | '\\' :: letter :: rest =>
    match escaped? letter, high with
    | some character, none => readString none (character :: done) rest
    | _, _ => none
  | '"' :: rest => if high.isNone then some (done.reverse, rest) else none
  | character :: rest =>
    if high.isNone && 0x20 ≤ character.toNat && character != '\\' then
      readString none (character :: done) rest
    else none
  | [] => none

def readNumber (text : List Char) : Option (Value × List Char) :=
  let (negative, text) := match text with
    | '-' :: rest => (true, rest)
    | rest => (false, rest)
  let whole := text.takeWhile Text.isPlainDigit
  let rest := text.dropWhile Text.isPlainDigit
  if whole.isEmpty || (whole.head? == some '0' && whole.length != 1) then none
  else
    let (fraction, rest) := match rest with
      | '.' :: digit :: more =>
        if Text.isPlainDigit digit then
          (digit :: more.takeWhile Text.isPlainDigit, more.dropWhile Text.isPlainDigit)
        else ([], rest)
      | _ => ([], rest)
    match Decimal.readExponent rest with
    | some (exponentNegative, exponent, rest) =>
      let numeral : Numeral := { negative, whole, fraction, exponentNegative, exponent }
      some (.float numeral.toBinary64, rest)
    | none =>
      if fraction.isEmpty then
        let number : Int := Text.plainValue whole
        some (.integer (if negative then -number else number), rest)
      else
        let numeral : Numeral := { negative, whole, fraction }
        some (.float numeral.toBinary64, rest)

def readWord (word : String) (value : Value) (text : List Char) : Option (Value × List Char) :=
  let letters := word.toList
  if text.take letters.length == letters then some (value, text.drop letters.length) else none

mutual

def readValue : (fuel : Nat) → List Char → Option (Value × List Char)
  | 0, _ => none
  | fuel + 1, text =>
    match skipSpace text with
    | '"' :: rest =>
      (readString none [] rest).map fun (characters, rest) =>
        (.text (String.ofList characters), rest)
    | '[' :: rest =>
      match skipSpace rest with
      | ']' :: rest => some (.array [], rest)
      | rest => readItems fuel [] rest
    | '\x7b' :: rest =>
      match skipSpace rest with
      | '\x7d' :: rest => some (.table [], rest)
      | rest => readMembers fuel [] rest
    | 't' :: rest => readWord "true" (.boolean true) ('t' :: rest)
    | 'f' :: rest => readWord "false" (.boolean false) ('f' :: rest)
    | 'n' :: rest => readWord "null" .null ('n' :: rest)
    | rest => readNumber rest

def readItems : (fuel : Nat) → (done : List Value) → List Char → Option (Value × List Char)
  | 0, _, _ => none
  | fuel + 1, done, text =>
    match readValue fuel text with
    | none => none
    | some (item, rest) =>
      match skipSpace rest with
      | ',' :: rest => readItems fuel (item :: done) rest
      | ']' :: rest => some (.array (item :: done).reverse, rest)
      | _ => none

def readMembers : (fuel : Nat) → (done : Entries) → List Char → Option (Value × List Char)
  | 0, _, _ => none
  | fuel + 1, done, text =>
    match skipSpace text with
    | '"' :: rest =>
      match readString none [] rest with
      | none => none
      | some (key, rest) =>
        match skipSpace rest with
        | ':' :: rest =>
          match readValue fuel rest with
          | none => none
          | some (value, rest) =>
            match skipSpace rest with
            | ',' :: rest => readMembers fuel ((String.ofList key, value) :: done) rest
            | '\x7d' :: rest =>
              some (.table ((String.ofList key, value) :: done).reverse, rest)
            | _ => none
        | _ => none
    | _ => none

end

/-- The value of a whole text. Each step that takes no character is followed by one that does, so
twice the length is fuel enough. -/
def parse (text : List Char) : Option Value :=
  match readValue (2 * text.length + 2) text with
  | some (value, rest) => if (skipSpace rest).isEmpty then some value else none
  | none => none

end ColorMarkup.Json
