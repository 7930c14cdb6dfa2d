import ColorMarkup.Text.Quoted

/-! Why a text cannot be rendered, and where. -/

namespace ColorMarkup

inductive FormatErrorKind where
  | indexOutOfRange
  | invalidArgument
  | unterminatedBracket
deriving DecidableEq

namespace FormatErrorKind

def all : List FormatErrorKind :=
  [indexOutOfRange, invalidArgument, unterminatedBracket]

def name : FormatErrorKind → String
  | indexOutOfRange => "argument-index-out-of-range"
  | invalidArgument => "invalid-argument-format"
  | unterminatedBracket => "unterminated-bracket"

def ofName? (name : String) : Option FormatErrorKind :=
  all.find? fun kind => kind.name == name

end FormatErrorKind

/-- The position is that of the directive's sign. An index too long to be read is left out and its
digits stand in the detail. -/
structure FormatError where
  kind : FormatErrorKind
  position : Int
  index : Option Int := none
  detail : String := ""
deriving DecidableEq

namespace FormatError

def message (error : FormatError) : String :=
  match error.kind with
  | .indexOutOfRange =>
    "color argument #" ++ (match error.index with
      | some index => toString index
      | none => error.detail)
      ++ " referenced at position " ++ toString error.position ++ " was not supplied"
  | .invalidArgument =>
    "color argument " ++ Text.quote error.detail ++ " at position " ++ toString error.position
      ++ " is not a non-negative integer"
  | .unterminatedBracket =>
    "closing bracket missing for directive at position " ++ toString error.position

def detailLimit : Nat := 24

/-- A detail as an error holds it: cut after the limit, followed by its length. -/
def shorten (detail : List Char) : List Char :=
  if detail.length ≤ detailLimit then detail
  else detail.take detailLimit
    ++ "... (".toList ++ (toString detail.length).toList ++ " chars)".toList

theorem shorten_of_le {detail : List Char} (short : detail.length ≤ detailLimit) :
    shorten detail = detail := by
  simp [shorten, short]

def shift (distance : Int) (error : FormatError) : FormatError :=
  { error with position := error.position + distance }

end FormatError

end ColorMarkup
