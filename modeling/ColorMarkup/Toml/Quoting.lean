import ColorMarkup.Json.Reader
import ColorMarkup.Toml.Dialect

/-!
Strings of configuration documents: basic ones with escapes and literal ones without, on one line or
on several. Reading goes character by character; what a character means depends on where in the
string the reader is.
-/

namespace ColorMarkup.Toml

/-- The kind of a string: the notation it stands in, the mark around it, and whether it may hold
line ends. -/
structure Quotation where
  dialect : Dialect
  mark : Char
  multiline : Bool

namespace Quotation

def isBasic (quotation : Quotation) : Bool :=
  quotation.mark == '"'

def allows (quotation : Quotation) (character : Char) : Bool :=
  let code := character.toNat
  if code = 0x7f then false
  else if 0x20 ≤ code then true
  else character == '\t' || (quotation.multiline && character == '\n')

end Quotation

inductive Place where
  | plain
  /-- after a backslash -/
  | escaped
  /-- in a numbered escape with digits left to read -/
  | numbered (left value : Nat)
  /-- in the space after a backslash, with or without a line end in it -/
  | gap (lineEnd : Bool)
  /-- after some closing marks of a string of several lines -/
  | closing (marks : Nat)

def isGap (character : Char) : Bool :=
  character == ' ' || character == '\t' || character == '\n'

/-- The character that a letter stands for after a backslash. Only the tolerant notation has a
letter for the escape character. -/
def named? (dialect : Dialect) : Char → Option Char
  | '"' => some '"'
  | '\\' => some '\\'
  | 'b' => some '\x08'
  | 'e' => if dialect = .tolerant then some '\x1b' else none
  | 'f' => some '\x0c'
  | 'n' => some '\n'
  | 'r' => some '\r'
  | 't' => some '\t'
  | _ => none

def digitsAfter? (dialect : Dialect) : Char → Option Nat
  | 'u' => some 4
  | 'U' => some 8
  | 'x' => if dialect = .tolerant then some 2 else none
  | _ => none

def scalar? (number : Nat) : Option Char :=
  if number < 0xd800 ∨ (0xe000 ≤ number ∧ number < 0x110000) then some (Char.ofNat number) else none

namespace Quotation

def afterPlain (quotation : Quotation) (done : List Char) (character : Char) :
    Option (Place × List Char) :=
  if character = quotation.mark then some (.closing 1, done)
  else if quotation.isBasic && character == '\\' then some (.escaped, done)
  else if quotation.allows character then some (.plain, character :: done)
  else none

def afterEscape (quotation : Quotation) (done : List Char) (character : Char) :
    Option (Place × List Char) :=
  if quotation.multiline && isGap character then some (.gap (character == '\n'), done)
  else
    match digitsAfter? quotation.dialect character with
    | some digits => some (.numbered digits 0, done)
    | none => (named? quotation.dialect character).map fun meant => (.plain, meant :: done)

def afterDigit (done : List Char) (left value : Nat) (character : Char) :
    Option (Place × List Char) :=
  match Json.hexValue? character with
  | none => none
  | some digit =>
    let value := value * 16 + digit
    if left = 1 then (scalar? value).map fun meant => (.plain, meant :: done)
    else some (.numbered (left - 1) value, done)

/-- Reads up to the closing marks; `done` holds the characters read, last first. A string of
several lines may end in up to two marks of its own. -/
def read (quotation : Quotation) (place : Place) (done : List Char) :
    List Char → Option (List Char × List Char)
  | [] =>
    match place with
    | .closing marks =>
      if !quotation.multiline && marks = 1 then some (done.reverse, [])
      else if 3 ≤ marks ∧ marks ≤ 5 then
        some ((List.replicate (marks - 3) quotation.mark ++ done).reverse, [])
      else none
    | _ => none
  | character :: rest =>
    match place with
    | .plain =>
      match quotation.afterPlain done character with
      | some (next, done) => quotation.read next done rest
      | none => none
    | .escaped =>
      match quotation.afterEscape done character with
      | some (next, done) => quotation.read next done rest
      | none => none
    | .numbered left value =>
      match afterDigit done left value character with
      | some (next, done) => quotation.read next done rest
      | none => none
    | .gap lineEnd =>
      if isGap character then quotation.read (.gap (lineEnd || character == '\n')) done rest
      else if lineEnd then
        match quotation.afterPlain done character with
        | some (next, done) => quotation.read next done rest
        | none => none
      else none
    | .closing marks =>
      if !quotation.multiline then some (done.reverse, character :: rest)
      else if character = quotation.mark then quotation.read (.closing (marks + 1)) done rest
      else if marks < 3 then
        match quotation.afterPlain (List.replicate marks quotation.mark ++ done) character with
        | some (next, done) => quotation.read next done rest
        | none => none
      else if marks ≤ 5 then
        some ((List.replicate (marks - 3) quotation.mark ++ done).reverse, character :: rest)
      else none

end Quotation

/-- A string that begins with its mark: whether it may hold line ends, its text and the rest. A line
end right after three marks does not count. -/
def readQuoted (dialect : Dialect) (mark : Char) (afterMark : List Char) :
    Option (Bool × List Char × List Char) :=
  let single := (({ dialect, mark, multiline := false } : Quotation).read .plain [] afterMark).map
    fun (text, rest) => (false, text, rest)
  match afterMark with
  | second :: third :: rest =>
    if second = mark ∧ third = mark then
      let body := match rest with
        | '\n' :: body => body
        | body => body
      (({ dialect, mark, multiline := true } : Quotation).read .plain [] body).map
        fun (text, rest) => (true, text, rest)
    else single
  | _ => single

end ColorMarkup.Toml
