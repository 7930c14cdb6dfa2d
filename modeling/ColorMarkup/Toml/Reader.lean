import ColorMarkup.Text.Replace
import ColorMarkup.Toml.Clock
import ColorMarkup.Toml.Node
import ColorMarkup.Toml.Number
import ColorMarkup.Toml.Quoting

/-!
Keys and values of configuration documents. Each reader takes what it reads from the front of a text
and returns the rest.
-/

namespace ColorMarkup.Toml

inductive Flaw where
  | malformed
  | repeatedKey (key : String)
  | reopenedTable
deriving DecidableEq

def Clash.toFlaw : Clash → Flaw
  | .repeated key => .repeatedKey key
  | .reopened => .reopenedTable

/-- Why a reader stops: at a character that cannot stand there, or at a flaw. -/
inductive Obstacle where
  | unexpected (rest : List Char)
  | flaw (flaw : Flaw)

namespace Obstacle

def toFlaw : Obstacle → Flaw
  | .unexpected _ => .malformed
  | .flaw found => found

end Obstacle

def malformed {α : Type} : Except Obstacle α :=
  .error (.flaw .malformed)

def isSpace (character : Char) : Bool :=
  character == ' ' || character == '\t'

def skipSpace (text : List Char) : List Char :=
  text.dropWhile isSpace

def isBare (character : Char) : Bool :=
  ('a' ≤ character && character ≤ 'z') || ('A' ≤ character && character ≤ 'Z')
    || Text.isPlainDigit character || character == '_' || character == '-'

def skipComment (text : List Char) : Option (List Char) :=
  let comment := text.takeWhile (· != '\n')
  let allowed (character : Char) : Bool :=
    character == '\t' || (0x20 ≤ character.toNat && character.toNat != 0x7f)
  if comment.all allowed then some (text.dropWhile (· != '\n')) else none

def skipLine (text : List Char) : Except Obstacle (List Char) :=
  match skipSpace text with
  | [] => .ok []
  | '\n' :: rest => .ok rest
  | '#' :: rest =>
    match skipComment rest with
    | some rest => .ok (rest.drop 1)
    | none => malformed
  | _ => malformed

def readKeyPart (dialect : Dialect) (text : List Char) : Except Obstacle (String × List Char) :=
  let quotedPart (mark : Char) (rest : List Char) : Except Obstacle (String × List Char) :=
    match readQuoted dialect mark rest with
    | some (false, part, rest) => .ok (String.ofList part, skipSpace rest)
    | some (true, _, rest) => .error (.unexpected rest)
    | none => malformed
  match skipSpace text with
  | '"' :: rest => quotedPart '"' rest
  | '\'' :: rest => quotedPart '\'' rest
  | start =>
    let allowed (character : Char) : Bool := isBare character || isSpace character
    let part := Text.trim (start.takeWhile allowed)
    if part.isEmpty || part.any isSpace then malformed
    else .ok (String.ofList part, start.dropWhile allowed)

/-- A key with its parts; the fuel bounds their number. -/
def readKey (dialect : Dialect) :
    (fuel : Nat) → List Char → Except Obstacle (List String × List Char)
  | 0, _ => malformed
  | fuel + 1, text =>
    match readKeyPart dialect text with
    | .error obstacle => .error obstacle
    | .ok (part, '.' :: rest) =>
      match readKey dialect fuel rest with
      | .error obstacle => .error obstacle
      | .ok (parts, rest) => .ok (part :: parts, rest)
    | .ok (part, rest) => .ok ([part], rest)

def skipBetween : (fuel : Nat) → List Char → Option (List Char)
  | 0, _ => none
  | fuel + 1, text =>
    match text.dropWhile isGap with
    | '#' :: rest => (skipComment rest).bind (skipBetween fuel)
    | rest => some rest

def endsScalar (character : Char) : Bool :=
  isGap character || character == '\r' || character == '#' || character == ','
    || character == ']' || character == '\x7d'

def readAfterDate (dialect : Dialect) (date : Moment) (raw rest : List Char) :
    Except Obstacle (Value × List Char) :=
  let inLine (character : Char) : Bool := character == ' ' || !endsScalar character
  let more := rest.takeWhile inLine
  let time := (Text.trimStart more.reverse).reverse
  if time.isEmpty then .ok (.moment date, rest.dropWhile inLine)
  else
    match moment? dialect (raw ++ time) with
    | some (.dateTime date time zone) =>
      .ok (.moment (.dateTime date time zone), rest.dropWhile inLine)
    | _ => malformed

def readScalar (dialect : Dialect) (text : List Char) : Except Obstacle (Value × List Char) :=
  let raw := text.takeWhile (!endsScalar ·)
  let rest := text.dropWhile (!endsScalar ·)
  let number : Except Obstacle (Value × List Char) :=
    match number? dialect raw with
    | some value => .ok (value, rest)
    | none => malformed
  match text with
  | first :: _ =>
    if first = '+' ∨ first = '-' then number
    else if raw = ['i', 'n', 'f'] ∨ raw = ['n', 'a', 'n'] then number
    else if Text.isPlainDigit first then
      match moment? dialect raw with
      | some (.date date) => readAfterDate dialect (.date date) raw rest
      | some moment => .ok (.moment moment, rest)
      | none => number
    else .error (.unexpected text)
  | [] => .error (.unexpected [])

def readWord (value : Value) (word text : List Char) : Except Obstacle (Value × List Char) :=
  match Text.dropStart? word text with
  | some rest => .ok (value, rest)
  | none => .error (.unexpected text)

def readString (dialect : Dialect) (mark : Char) (afterMark : List Char) :
    Except Obstacle (Value × List Char) :=
  match readQuoted dialect mark afterMark with
  | some (_, text, rest) => .ok (.text (String.ofList text), rest)
  | none => malformed

/-- What an array does with an obstacle where an item was expected: in the tolerant notation it ends
there if a closing bracket stands in the way. -/
def endAtObstacle (dialect : Dialect) (done : List Value) (obstacle : Obstacle) :
    Except Obstacle (Value × List Char) :=
  match dialect, obstacle with
  | .tolerant, .unexpected (']' :: rest) => .ok (.array done.reverse, rest)
  | _, obstacle => .error obstacle

def skipInTable (dialect : Dialect) (text : List Char) : Option (List Char) :=
  match dialect with
  | .tolerant => skipBetween (text.length + 1) text
  | .strict => some (skipSpace text)

inductive MemberPlace where
  | first
  | afterMember
  | afterComma

mutual

/-- Reads a value; the fuel bounds the number of steps. -/
def readValue (dialect : Dialect) : (fuel : Nat) → List Char → Except Obstacle (Value × List Char)
  | 0, _ => malformed
  | fuel + 1, text =>
    match text with
    | '"' :: rest => readString dialect '"' rest
    | '\'' :: rest => readString dialect '\'' rest
    | 't' :: _ => readWord (.boolean true) ['t', 'r', 'u', 'e'] text
    | 'f' :: _ => readWord (.boolean false) ['f', 'a', 'l', 's', 'e'] text
    | '[' :: rest => readItems dialect fuel true [] rest
    | '\x7b' :: rest => readMembers dialect fuel .first [] rest
    | _ => readScalar dialect text

def readItems (dialect : Dialect) :
    (fuel : Nat) → (expected : Bool) → (done : List Value) → List Char →
      Except Obstacle (Value × List Char)
  | 0, _, _, _ => malformed
  | fuel + 1, expected, done, text =>
    match skipBetween (text.length + 1) text with
    | none => malformed
    | some (']' :: rest) => .ok (.array done.reverse, rest)
    | some start =>
      if expected then
        match readValue dialect fuel start with
        | .ok (value, rest) => readItems dialect fuel false (value :: done) rest
        | .error obstacle => endAtObstacle dialect done obstacle
      else
        match start with
        | ',' :: rest => readItems dialect fuel true done rest
        | _ => .error (.unexpected start)

def readMembers (dialect : Dialect) :
    (fuel : Nat) → MemberPlace → (done : Nodes) → List Char → Except Obstacle (Value × List Char)
  | 0, _, _, _ => malformed
  | fuel + 1, place, done, text =>
    match skipInTable dialect text with
    | none => malformed
    | some start =>
      match place, start with
      | .first, '\x7d' :: rest => .ok (.table (Node.toEntries done), rest)
      | .afterMember, '\x7d' :: rest => .ok (.table (Node.toEntries done), rest)
      | .afterMember, ',' :: rest => readMembers dialect fuel .afterComma done rest
      | .afterMember, _ => .error (.unexpected start)
      | .first, ',' :: _ => .error (.unexpected start)
      | .afterComma, '\x7d' :: rest =>
        if dialect = .tolerant then .ok (.table (Node.toEntries done), rest)
        else .error (.unexpected start)
      | .afterComma, ',' :: _ => .error (.unexpected start)
      | _, _ =>
        match readKey dialect (start.length + 1) start with
        | .error obstacle => .error obstacle
        | .ok (path, '=' :: rest) =>
          match readValue dialect fuel (skipSpace rest) with
          | .error obstacle => .error obstacle
          | .ok (value, rest) =>
            match Nodes.setValue value path done with
            | .error clash => .error (.flaw clash.toFlaw)
            | .ok done => readMembers dialect fuel .afterMember done rest
        | .ok (_, rest) => .error (.unexpected rest)

end

end ColorMarkup.Toml
