import ColorMarkup.Color
import ColorMarkup.Text.Quoted

/-! What a sink is told: pieces of text to write and colors to change. -/

namespace ColorMarkup

/-- A piece of text, or a new color for a slot. Rendering only writes pieces of one character. -/
inductive Event where
  | write (piece : List Char)
  | recolor (slot : Slot) (color : Option Color)
deriving DecidableEq

namespace Event

def isWrite : Event → Bool
  | write _ => true
  | recolor _ _ => false

def written : Event → List Char
  | write piece => piece
  | recolor _ _ => []

def recolored : Event → Palette → Palette
  | write _, palette => palette
  | recolor slot color, palette => palette.set slot color

def ofText (text : List Char) : List Event :=
  text.map fun character => write [character]

@[simp] theorem written_write (piece : List Char) : (write piece).written = piece := rfl

@[simp] theorem written_recolor (slot : Slot) (color : Option Color) :
    (recolor slot color).written = [] := rfl

@[simp] theorem ofText_nil : ofText [] = [] := rfl

@[simp] theorem ofText_append (first second : List Char) :
    ofText (first ++ second) = ofText first ++ ofText second := by
  simp [ofText]

def display : Event → String
  | write piece => "SinkEvent(kind='write', value=" ++ String.ofList (Text.quoted piece) ++ ")"
  | recolor slot color =>
    "SinkEvent(kind='" ++ slot.name ++ "', value=" ++ Palette.displayColor color ++ ")"

theorem flatMap_written_ofText (text : List Char) : (ofText text).flatMap written = text := by
  induction text with
  | nil => rfl
  | cons character rest ih => simpa [ofText] using ih

end Event

def Event.textOf (events : List Event) : List Char :=
  events.flatMap Event.written

def Event.changesOf (events : List Event) : List Event :=
  events.filter fun event => !event.isWrite

end ColorMarkup
