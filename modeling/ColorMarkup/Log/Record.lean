import ColorMarkup.Log.Level
import ColorMarkup.Text.Replace
import ColorMarkup.Value

/-! Log records, their messages and the templates of log lines. -/

namespace ColorMarkup.Log

structure Record where
  level : Level
  logger : String
  message : String
deriving DecidableEq

namespace Record

/-- A record is logged if its level reaches the threshold; records without a level never are. -/
def isLogged (threshold : Level) (record : Record) : Bool :=
  0 < record.level && threshold ≤ record.level

end Record

def fillPlaces : List Char → List Value → List Char
  | '%' :: 's' :: rest, argument :: arguments => argument.plain.toList ++ fillPlaces rest arguments
  | '%' :: 'd' :: rest, argument :: arguments => argument.plain.toList ++ fillPlaces rest arguments
  | '%' :: '%' :: rest, arguments => '%' :: fillPlaces rest arguments
  | character :: rest, arguments => character :: fillPlaces rest arguments
  | [], _ => []

/-- A message without arguments stays as it is, percent signs included. -/
def fillMessage (message : String) (arguments : List Value) : String :=
  if arguments.isEmpty then message else String.ofList (fillPlaces message.toList arguments)

inductive Field where
  | level
  | message
  | logger
  | line
deriving DecidableEq

namespace Field

def marker : Field → String
  | level => "%(levelname)s"
  | message => "%(message)s"
  | logger => "%(name)s"
  | line => "%(lineno)d"

def all : List Field :=
  [level, message, logger, line]

end Field

inductive Piece where
  | literal (character : Char)
  | field (field : Field)
deriving DecidableEq

abbrev Template := List Piece

namespace Template

def fieldAt? (text : List Char) : Option (Field × Nat) :=
  Field.all.findSome? fun field =>
    if Text.startsWith text field.marker.toList then some (field, field.marker.length) else none

/-- Reads a template; `skip` characters of the last marker are passed over first. -/
def parseFrom : (skip : Nat) → List Char → Template
  | _, [] => []
  | skip + 1, _ :: rest => parseFrom skip rest
  | 0, character :: rest =>
    match fieldAt? (character :: rest) with
    | some (field, length) => .field field :: parseFrom (length - 1) rest
    | none => .literal character :: parseFrom 0 rest

def parse (text : String) : Template :=
  parseFrom 0 text.toList

def plainText : String := "[%(levelname)s] %(message)s"

def locatedText : String := "[%(levelname)s] [%(name)s:%(lineno)d] %(message)s"

def forLevel (level : Level) : Template :=
  parse (if Level.info ≤ level then plainText else locatedText)

def fill (template : Template) (line : String) (record : Record) : List Char :=
  template.flatMap fun piece =>
    match piece with
    | .literal character => [character]
    | .field .level => (Level.display record.level).toList
    | .field .message => record.message.toList
    | .field .logger => record.logger.toList
    | .field .line => line.toList

end Template

end ColorMarkup.Log
