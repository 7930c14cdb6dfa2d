import ColorMarkup.Decimal.Numeral
import ColorMarkup.Text.Blank
import ColorMarkup.Text.Case
import ColorMarkup.Toml.Dialect
import ColorMarkup.Value

/-!
Numbers of configuration documents. The strict notation is that of the format's definition. The
tolerant one also takes digits of other scripts and blanks at the end.
-/

namespace ColorMarkup.Toml

open Decimal (Binary64 Numeral)

def joinDigits (isDigit : Char → Bool) (afterDigit : Bool) : List Char → List Char
  | [] => []
  | '_' :: next :: rest =>
    if afterDigit && isDigit next then joinDigits isDigit false (next :: rest)
    else '_' :: joinDigits isDigit false (next :: rest)
  | character :: rest => character :: joinDigits isDigit (isDigit character) rest

structure Base where
  letter : Char
  size : Nat

namespace Base

def all : List Base :=
  [⟨'b', 2⟩, ⟨'o', 8⟩, ⟨'x', 16⟩]

def digit? (base : Base) (character : Char) : Option Nat :=
  let value? : Option Nat :=
    if '0' ≤ character ∧ character ≤ '9' then some (character.toNat - 48)
    else if 'a' ≤ character ∧ character ≤ 'f' then some (character.toNat - 87)
    else if 'A' ≤ character ∧ character ≤ 'F' then some (character.toNat - 55)
    else none
  value?.bind fun value => if value < base.size then some value else none

def isDigit (base : Base) (character : Char) : Bool :=
  (base.digit? character).isSome

def value? (base : Base) (digits : List Char) : Option Nat :=
  match digits with
  | [] => none
  | digits => (digits.mapM base.digit?).map fun values =>
    values.foldl (fun number value => base.size * number + value) 0

def ofPrefix? : List Char → Option (Base × List Char)
  | '0' :: letter :: rest => (all.find? fun base => base.letter == letter).map (·, rest)
  | _ => none

end Base

/-- A number without a sign whose digits are plain and joined: digits, perhaps a fraction and an
exponent, and nothing else. Whether it is one with a point or an exponent comes with its parts. A
point without digits behind it is refused unless it is allowed. -/
def readDecimal? (barePoint : Bool) (text : List Char) : Option (Bool × Numeral) :=
  let whole := text.takeWhile Text.isPlainDigit
  let rest := text.dropWhile Text.isPlainDigit
  let (pointed, fraction, rest) := match rest with
    | '.' :: more =>
      (true, more.takeWhile Text.isPlainDigit, more.dropWhile Text.isPlainDigit)
    | _ => (false, [], rest)
  if whole.isEmpty || (pointed && !barePoint && fraction.isEmpty) then none
  else
    match rest with
    | [] => some (pointed, { whole, fraction })
    | _ =>
      match Decimal.readExponent rest with
      | some (exponentNegative, exponent, []) =>
        some (true, { whole, fraction, exponentNegative, exponent })
      | _ => none

/-- The number of a numeral, an integer unless it has a point or an exponent. Integers beyond the
greatest length are read like numbers with a point. -/
def numberOf (negative : Bool) (isFloat : Bool) (numeral : Numeral) : Value :=
  if isFloat || Text.numeralLimit < numeral.whole.length then
    .float ({ numeral with negative } : Numeral).toBinary64
  else
    let number : Int := Text.plainValue numeral.whole
    .integer (if negative then -number else number)

def special? (negative : Bool) (name : List Char) : Option Value :=
  if name = ['i', 'n', 'f'] then some (.float (.infinite negative))
  else if name = ['n', 'a', 'n'] then some (.float .nan)
  else none

def splitSign : List Char → Option Bool × List Char
  | '-' :: rest => (some true, rest)
  | '+' :: rest => (some false, rest)
  | rest => (none, rest)

/-- A blank that may follow a number; the information separators may not. -/
def isTrailingBlank (character : Char) : Bool :=
  Text.isBlank character && !(0x1c ≤ character.toNat && character.toNat ≤ 0x1f)

def plainDigits (text : List Char) : List Char :=
  let plain := text.map fun character =>
    match Text.decimalValue? character with
    | some value => Char.ofNat (48 + value)
    | none => character
  (plain.reverse.dropWhile isTrailingBlank).reverse

def hasIdleZero : List Char → Bool
  | '0' :: second :: _ => !(['.', 'o', 'x', 'b', 'e', 'E'].contains second)
  | _ => false

def hasBarePoint (text : List Char) : Bool :=
  (text.takeWhile (· != 'e')).getLast? == some '.'

def tolerantNumber? (raw : List Char) : Option Value :=
  let (sign, body) := splitSign raw
  let negative := sign == some true
  if hasIdleZero body then none
  else
    match Base.ofPrefix? body, sign with
    | some _, some _ => none
    | some (base, digits), none =>
      let joined := joinDigits base.isDigit false digits
      (base.value? (plainDigits (Text.lower joined))).map fun number => .integer number
    | none, _ =>
      match special? negative body with
      | some value => some value
      | none =>
        let joined := Text.lower (joinDigits Text.isPlainDigit false body)
        if hasBarePoint joined then none
        else
          (readDecimal? true (plainDigits joined)).map fun (isFloat, numeral) =>
            numberOf negative isFloat numeral

def strictNumber? (raw : List Char) : Option Value :=
  let (sign, body) := splitSign raw
  let negative := sign == some true
  match Base.ofPrefix? raw with
  | some (base, digits) =>
    let joined := joinDigits base.isDigit false digits
    (base.value? joined).map fun number => .integer number
  | none =>
    match special? negative body with
    | some value => some value
    | none =>
      let joined := joinDigits Text.isPlainDigit false body
      match joined with
      | '0' :: digit :: _ => if Text.isPlainDigit digit then none else read negative joined
      | _ => read negative joined
where
  /-- Integers beyond the greatest length are refused. -/
  read (negative : Bool) (joined : List Char) : Option Value :=
    match readDecimal? false joined with
    | some (isFloat, numeral) =>
      if !isFloat && Text.numeralLimit < numeral.whole.length then none
      else some (numberOf negative isFloat numeral)
    | none => none

def number? (dialect : Dialect) (raw : List Char) : Option Value :=
  match dialect with
  | .tolerant => tolerantNumber? raw
  | .strict => strictNumber? raw

end ColorMarkup.Toml
