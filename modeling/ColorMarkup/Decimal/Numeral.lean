import ColorMarkup.Decimal.Binary64
import ColorMarkup.Text.Digit

/-! Decimal numerals in scientific notation: digits, a fraction and an exponent. -/

namespace ColorMarkup.Decimal

structure Numeral where
  negative : Bool := false
  whole : List Char := []
  fraction : List Char := []
  exponentNegative : Bool := false
  exponent : List Char := []

namespace Numeral

def scale (numeral : Numeral) : Int :=
  let exponent : Int := Text.plainValue numeral.exponent
  (if numeral.exponentNegative then -exponent else exponent) - numeral.fraction.length

def toBinary64 (numeral : Numeral) : Binary64 :=
  Binary64.ofDecimal numeral.negative (Text.plainValue (numeral.whole ++ numeral.fraction))
    numeral.scale

end Numeral

def readSign : List Char → Bool × List Char
  | '-' :: rest => (true, rest)
  | '+' :: rest => (false, rest)
  | rest => (false, rest)

def readExponent : List Char → Option (Bool × List Char × List Char)
  | mark :: rest =>
    if mark = 'e' ∨ mark = 'E' then
      let (negative, rest) := readSign rest
      match rest.takeWhile Text.isPlainDigit with
      | [] => none
      | digits => some (negative, digits, rest.dropWhile Text.isPlainDigit)
    else none
  | [] => none

end ColorMarkup.Decimal
