import ColorMarkup.Terminal

/-!
The appearance of a text: colors and attributes that are switched on or off before it, and the reset
after it.
-/

namespace ColorMarkup.Terminal

inductive Shade where
  | color (color : Color)
  | own
deriving DecidableEq

namespace Shade

def code (slot : Slot) : Shade → Nat
  | color shade => slot.code shade
  | own =>
    match slot with
    | .foreground => 39
    | .background => 49

end Shade

inductive Attribute where
  | bold
  | dim
  | underline
  | overline
  | italic
  | blink
  | reverse
  | strikethrough
deriving DecidableEq

namespace Attribute

def all : List Attribute :=
  [bold, dim, underline, overline, italic, blink, reverse, strikethrough]

def name : Attribute → String
  | bold => "bold"
  | dim => "dim"
  | underline => "underline"
  | overline => "overline"
  | italic => "italic"
  | blink => "blink"
  | reverse => "reverse"
  | strikethrough => "strikethrough"

def onCode : Attribute → Nat
  | bold => 1
  | dim => 2
  | italic => 3
  | underline => 4
  | blink => 5
  | reverse => 7
  | strikethrough => 9
  | overline => 53

/-- Bold and dim share the code that ends them. -/
def offCode : Attribute → Nat
  | bold => 22
  | dim => 22
  | italic => 23
  | underline => 24
  | blink => 25
  | reverse => 27
  | strikethrough => 29
  | overline => 55

def code (mark : Attribute) (on : Bool) : Nat :=
  if on then mark.onCode else mark.offCode

theorem mem_all (mark : Attribute) : mark ∈ all := by
  cases mark <;> decide

end Attribute

/-- What is not given is left as it is. -/
structure Appearance where
  foreground : Option Shade := none
  background : Option Shade := none
  marks : Attribute → Option Bool := fun _ => none
  reset : Bool := true

namespace Appearance

def colored (color : Color) : Appearance :=
  { foreground := some (.color color) }

def marked (mark : Attribute) : Appearance :=
  { marks := fun other => if other = mark then some true else none }

def codes (appearance : Appearance) : List Nat :=
  (appearance.foreground.map (Shade.code .foreground)).toList
    ++ (appearance.background.map (Shade.code .background)).toList
    ++ Attribute.all.filterMap fun mark => (appearance.marks mark).map mark.code

def apply (appearance : Appearance) (text : List Char) : List Char :=
  appearance.codes.flatMap graphic ++ text ++ if appearance.reset then resetAll else []

theorem apply_colored (color : Color) (text : List Char) :
    (colored color).apply text = styled .foreground color text := by
  simp [apply, colored, codes, styled, Shade.code, Attribute.all]

end Appearance

end ColorMarkup.Terminal
