/-!
The sixteen standard terminal colors, the two slots they fill, and the palette of active colors.
-/

namespace ColorMarkup

inductive Color where
  | black | red | green | yellow | blue | magenta | cyan | white
  | brightBlack | brightRed | brightGreen | brightYellow
  | brightBlue | brightMagenta | brightCyan | brightWhite
deriving DecidableEq

namespace Color

def all : List Color :=
  [black, red, green, yellow, blue, magenta, cyan, white,
   brightBlack, brightRed, brightGreen, brightYellow,
   brightBlue, brightMagenta, brightCyan, brightWhite]

def name : Color → String
  | black => "black"
  | red => "red"
  | green => "green"
  | yellow => "yellow"
  | blue => "blue"
  | magenta => "magenta"
  | cyan => "cyan"
  | white => "white"
  | brightBlack => "bright_black"
  | brightRed => "bright_red"
  | brightGreen => "bright_green"
  | brightYellow => "bright_yellow"
  | brightBlue => "bright_blue"
  | brightMagenta => "bright_magenta"
  | brightCyan => "bright_cyan"
  | brightWhite => "bright_white"

def label : Color → String
  | black => "TermColor.BLACK"
  | red => "TermColor.RED"
  | green => "TermColor.GREEN"
  | yellow => "TermColor.YELLOW"
  | blue => "TermColor.BLUE"
  | magenta => "TermColor.MAGENTA"
  | cyan => "TermColor.CYAN"
  | white => "TermColor.WHITE"
  | brightBlack => "TermColor.BRIGHT_BLACK"
  | brightRed => "TermColor.BRIGHT_RED"
  | brightGreen => "TermColor.BRIGHT_GREEN"
  | brightYellow => "TermColor.BRIGHT_YELLOW"
  | brightBlue => "TermColor.BRIGHT_BLUE"
  | brightMagenta => "TermColor.BRIGHT_MAGENTA"
  | brightCyan => "TermColor.BRIGHT_CYAN"
  | brightWhite => "TermColor.BRIGHT_WHITE"

def display (color : Color) : String :=
  "<" ++ color.label ++ ": '" ++ color.name ++ "'>"

def ofName? (text : String) : Option Color :=
  all.find? fun color => color.name == text

theorem mem_all (color : Color) : color ∈ all := by
  cases color <;> decide

theorem ofName?_name (color : Color) : ofName? color.name = some color := by
  cases color <;> decide

def foregroundCode : Color → Nat
  | black => 30
  | red => 31
  | green => 32
  | yellow => 33
  | blue => 34
  | magenta => 35
  | cyan => 36
  | white => 37
  | brightBlack => 90
  | brightRed => 91
  | brightGreen => 92
  | brightYellow => 93
  | brightBlue => 94
  | brightMagenta => 95
  | brightCyan => 96
  | brightWhite => 97

end Color

inductive Slot where
  | foreground
  | background
deriving DecidableEq

namespace Slot

def name : Slot → String
  | foreground => "fg"
  | background => "bg"

def code (slot : Slot) (color : Color) : Nat :=
  match slot with
  | foreground => color.foregroundCode
  | background => color.foregroundCode + 10

end Slot

/-- The active colors; an absent color is the terminal's own. -/
structure Palette where
  foreground : Option Color := none
  background : Option Color := none
deriving DecidableEq

namespace Palette

def get (palette : Palette) : Slot → Option Color
  | .foreground => palette.foreground
  | .background => palette.background

def set (palette : Palette) (slot : Slot) (color : Option Color) : Palette :=
  match slot with
  | .foreground => { palette with foreground := color }
  | .background => { palette with background := color }

@[simp] theorem get_set_same (palette : Palette) (slot : Slot) (color : Option Color) :
    (palette.set slot color).get slot = color := by
  cases slot <;> rfl

theorem get_set_other (palette : Palette) {slot other : Slot} (color : Option Color)
    (different : other ≠ slot) : (palette.set slot color).get other = palette.get other := by
  cases slot <;> cases other <;> first | rfl | contradiction

@[simp] theorem set_set (palette : Palette) (slot : Slot) (first second : Option Color) :
    (palette.set slot first).set slot second = palette.set slot second := by
  cases slot <;> rfl

def displayColor : Option Color → String
  | some color => color.display
  | none => "None"

def display (palette : Palette) : String :=
  "TerminalColors(foreground=" ++ displayColor palette.foreground
    ++ ", background=" ++ displayColor palette.background ++ ")"

end Palette

end ColorMarkup
