import ColorMarkup.Decimal.Binary64

/-!
The shortest decimal text that reads back as the same double. For one, two, … seventeen digits the
two neighbors of the value on that decimal grid are tested against the interval of numbers that
round to it; the first grid with a hit decides, and of two hits the nearer.
-/

namespace ColorMarkup.Decimal

structure Fraction where
  numerator : Nat
  denominator : Nat

namespace Fraction

def le (first second : Fraction) : Bool :=
  first.numerator * second.denominator ≤ second.numerator * first.denominator

def lt (first second : Fraction) : Bool :=
  !second.le first

def scaled (count base : Nat) (exponent : Int) : Fraction :=
  if 0 ≤ exponent then ⟨count * Nat.pow base exponent.toNat, 1⟩
  else ⟨count, Nat.pow base (-exponent).toNat⟩

def distance (first second : Fraction) : Fraction :=
  let left := first.numerator * second.denominator
  let right := second.numerator * first.denominator
  ⟨(left - right) + (right - left), first.denominator * second.denominator⟩

def floor (value : Fraction) : Nat :=
  value.numerator / value.denominator

end Fraction

/-- The numbers that round to a double; the ends belong to it if the significand is even. -/
structure Interval where
  low : Fraction
  high : Fraction
  closed : Bool

namespace Interval

def ofDouble (significand : Nat) (exponent : Int) : Interval where
  low :=
    if significand = Nat.pow 2 52 ∧ Binary64.minExponent < exponent then
      .scaled (4 * significand - 1) 2 (exponent - 2)
    else .scaled (4 * significand - 2) 2 (exponent - 2)
  high := .scaled (4 * significand + 2) 2 (exponent - 2)
  closed := significand % 2 = 0

def contains (interval : Interval) (value : Fraction) : Bool :=
  if interval.closed then interval.low.le value && value.le interval.high
  else interval.low.lt value && value.lt interval.high

end Interval

/-- The position of the decimal point before the first digit: the value lies in
`[10 ^ (point - 1), 10 ^ point)`. -/
def pointOf (value : Fraction) : Int :=
  if value.denominator ≤ value.numerator then
    ((Nat.toDigits 10 value.floor).length : Int)
  else
    let leading := (List.range 400).takeWhile
      (fun count => value.numerator * Nat.pow 10 (count + 1) < value.denominator)
    (-leading.length : Int)

/-- The neighbor on the grid `10 ^ scale` that lies in the interval and is nearest to the value;
of two equally near ones the even. -/
def gridHit? (value : Fraction) (interval : Interval) (scale : Int) : Option Nat :=
  let below := (if 0 ≤ scale then
    Fraction.mk value.numerator (value.denominator * Nat.pow 10 scale.toNat)
    else ⟨value.numerator * Nat.pow 10 (-scale).toNat, value.denominator⟩).floor
  let lower := Fraction.scaled below 10 scale
  let upper := Fraction.scaled (below + 1) 10 scale
  match interval.contains lower, interval.contains upper with
  | false, false => none
  | true, false => some below
  | false, true => some (below + 1)
  | true, true =>
    let toLower := value.distance lower
    let toUpper := value.distance upper
    if toLower.lt toUpper then some below
    else if toUpper.lt toLower then some (below + 1)
    else if below % 2 = 0 then some below else some (below + 1)

def dropTrailingZeros (digits : List Char) : List Char :=
  (digits.reverse.dropWhile (· == '0')).reverse

def shortest (significand : Nat) (exponent : Int) : List Char × Int :=
  let value := Fraction.scaled significand 2 exponent
  let interval := Interval.ofDouble significand exponent
  let point := pointOf value
  let scales : List Int := (List.range 17).map fun count => point - 1 - Int.ofNat count
  let hit := scales.findSome? fun scale =>
    (gridHit? value interval scale).map fun grid => (grid, scale)
  match hit with
  | some (grid, scale) =>
    let digits := Nat.toDigits 10 grid
    (dropTrailingZeros digits, (digits.length : Int) + scale)
  | none => (['0'], 1)

structure Layout where
  leastPoint : Int
  greatestPoint : Int
  exponentDigits : Nat

/-- Positional from one ten-thousandth to below ten to the sixteenth, and exponents of at least two
digits. -/
def Layout.plain : Layout :=
  { leastPoint := -3, greatestPoint := 16, exponentDigits := 2 }

namespace Layout

def exponentText (layout : Layout) (exponent : Int) : List Char :=
  let digits := Nat.toDigits 10 exponent.natAbs
  (if exponent < 0 then '-' else '+')
    :: (List.replicate (layout.exponentDigits - digits.length) '0' ++ digits)

def text (layout : Layout) (digits : List Char) (point : Int) : List Char :=
  if layout.leastPoint ≤ point ∧ point ≤ layout.greatestPoint then
    if point ≤ 0 then
      '0' :: '.' :: (List.replicate (-point).toNat '0' ++ digits)
    else if (digits.length : Int) ≤ point then
      digits ++ List.replicate (point.toNat - digits.length) '0' ++ ['.', '0']
    else digits.take point.toNat ++ '.' :: digits.drop point.toNat
  else
    match digits with
    | [] => []
    | lead :: rest =>
      lead :: ((if rest.isEmpty then [] else '.' :: rest)
        ++ 'e' :: layout.exponentText (point - 1))

end Layout

def Binary64.display : Binary64 → String
  | .nan => "nan"
  | .infinite negative => if negative then "-inf" else "inf"
  | .finite negative significand exponent =>
    let body :=
      if significand = 0 then ['0', '.', '0']
      else
        let (digits, point) := shortest significand exponent
        Layout.plain.text digits point
    String.ofList (if negative then '-' :: body else body)

end ColorMarkup.Decimal
