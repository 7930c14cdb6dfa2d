import ColorMarkup.Text.Blank
import ColorMarkup.Text.Case
import ColorMarkup.Text.Digit
import ColorMarkup.Text.Quoted

/-! Severity levels of diagnostics. A level is a number; the usual ones have names. -/

namespace ColorMarkup.Log

abbrev Level := Int

namespace Level

def trace : Level := 5
def debug : Level := 10
def info : Level := 20
def warning : Level := 30
def error : Level := 40
def critical : Level := 50
def unset : Level := 0

def names : List (String × Level) :=
  [("TRACE", trace), ("DEBUG", debug), ("INFO", info), ("WARNING", warning), ("WARN", warning),
   ("ERROR", error), ("CRITICAL", critical), ("FATAL", critical), ("NOTSET", unset)]

def display (level : Level) : String :=
  match names.find? fun entry => entry.2 == level with
  | some entry => entry.1
  | none => "Level " ++ toString level

/-- Reads a name in any case or a numeral, with blanks around it. A text of neither kind is no
level; a text of digits that is no numeral is a fault. -/
def parse (text : String) : Except Text.NumeralFault (Option Level) :=
  let key := Text.upper (Text.trim text.toList)
  if !key.isEmpty && key.all Text.isDigit then
    match Text.numeral? key with
    | .ok number => .ok (some (Int.ofNat number))
    | .error fault => .error fault
  else .ok ((names.find? fun entry => entry.1.toList == key).map Prod.snd)

def ofVariable (setting : Option String) : Except Text.NumeralFault (Option Level) :=
  match setting with
  | none => .ok none
  | some text => parse text

def fallback (setting : Option String) : Except Text.NumeralFault Level :=
  (ofVariable setting).map fun level? =>
    match level? with
    | some level => if level = 0 then critical else level
    | none => critical

def choose (given : Option Level) (setting : Option String) : Except Text.NumeralFault Level :=
  match given with
  | some level => .ok level
  | none => fallback setting

end Level

end ColorMarkup.Log
