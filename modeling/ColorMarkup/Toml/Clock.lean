import ColorMarkup.Moment
import ColorMarkup.Text.Digit
import ColorMarkup.Toml.Dialect

/-!
Dates and times of configuration documents. In the tolerant notation a time may leave out its
seconds, and a bar may stand for the plus of an offset.
-/

namespace ColorMarkup.Toml

def twoDigits? : List Char → Option (Nat × List Char)
  | tens :: ones :: rest =>
    if Text.isPlainDigit tens && Text.isPlainDigit ones then
      some (Text.plainValue [tens, ones], rest)
    else none
  | _ => none

def twoDigits (number : Nat) : List Char :=
  [Char.ofNat (48 + number / 10), Char.ofNat (48 + number % 10)]

def afterMark? (mark : Char) : List Char → Option (List Char)
  | character :: rest => if character = mark then some rest else none
  | [] => none

def readDate? (text : List Char) : Option (Date × List Char) := do
  let (century, rest) ← twoDigits? text
  let (year, rest) ← twoDigits? rest
  let rest ← afterMark? '-' rest
  let (month, rest) ← twoDigits? rest
  let rest ← afterMark? '-' rest
  let (day, rest) ← twoDigits? rest
  let date : Date := { year := 100 * century + year, month, day }
  if date.isValid then some (date, rest) else none

/-- The first six digits after the point count. -/
def readFraction? : List Char → Option (Nat × List Char)
  | '.' :: rest =>
    match rest.takeWhile Text.isPlainDigit with
    | [] => none
    | digits =>
      let six := digits.take 6
      some (Text.plainValue (six ++ List.replicate (6 - six.length) '0'),
        rest.dropWhile Text.isPlainDigit)
  | rest => some (0, rest)

def readSeconds? (dialect : Dialect) (text : List Char) : Option (Nat × Nat × List Char) :=
  match dialect, text with
  | _, ':' :: rest => do
    let (second, rest) ← twoDigits? rest
    let (microsecond, rest) ← readFraction? rest
    some (second, microsecond, rest)
  | .tolerant, _ => some (0, 0, text)
  | .strict, _ => none

def readTime? (dialect : Dialect) (text : List Char) : Option (TimeOfDay × List Char) := do
  let (hour, rest) ← twoDigits? text
  let rest ← afterMark? ':' rest
  let (minute, rest) ← twoDigits? rest
  let (second, microsecond, rest) ← readSeconds? dialect rest
  let time : TimeOfDay := { hour, minute, second, microsecond }
  if time.isValid then some (time, rest) else none

def isOffsetSign (dialect : Dialect) (character : Char) : Bool :=
  character == '+' || character == '-' || (dialect == .tolerant && character == '|')

def readZone? (dialect : Dialect) : List Char → Option (Option Zone)
  | [] => some none
  | ['Z'] => some (some { minutes := 0, name := "UTC" })
  | ['z'] => some (some { minutes := 0, name := "UTC" })
  | sign :: rest => do
    let (hours, rest) ← twoDigits? rest
    let rest ← afterMark? ':' rest
    let (minutes, rest) ← twoDigits? rest
    if rest.isEmpty && isOffsetSign dialect sign && hours < 24 && minutes < 60 then
      let offset : Int := hours * 60 + minutes
      some (some {
        minutes := if sign = '-' then -offset else offset
        name := String.ofList (sign :: twoDigits hours ++ ':' :: twoDigits minutes) })
    else none

def moment? (dialect : Dialect) (text : List Char) : Option Moment :=
  match readDate? text with
  | some (date, []) => some (.date date)
  | some (date, separator :: rest) =>
    if separator = 'T' ∨ separator = 't' ∨ separator = ' ' then do
      let (time, rest) ← readTime? dialect rest
      let zone ← readZone? dialect rest
      some (.dateTime date time zone)
    else none
  | none =>
    match readTime? dialect text with
    | some (time, []) => some (.time time)
    | _ => none

end ColorMarkup.Toml
