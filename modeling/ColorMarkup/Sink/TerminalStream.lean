import ColorMarkup.Sink
import ColorMarkup.Terminal
import ColorMarkup.Text.Encoding

/-!
A terminal stream: text with the control sequences that set its colors. With colors off the stream
still follows the palette, and only text reaches it, cleared of control sequences.
-/

namespace ColorMarkup

/-- The text put on the stream so far, last piece first, and the active colors. -/
structure TerminalStream where
  colored : Bool := true
  pieces : List (List Char) := []
  palette : Palette := {}

namespace TerminalStream

def output (stream : TerminalStream) : List Char :=
  stream.pieces.reverse.flatten

def emit (piece : List Char) (stream : TerminalStream) : TerminalStream :=
  { stream with pieces := Terminal.emitted stream.colored piece :: stream.pieces }

@[simp] theorem output_emit (piece : List Char) (stream : TerminalStream) :
    (stream.emit piece).output = stream.output ++ Terminal.emitted stream.colored piece := by
  simp [emit, output]

def reset (stream : TerminalStream) : TerminalStream :=
  if stream.colored then
    let cleared := stream.emit Terminal.resetAll
    if stream.palette = {} then cleared else cleared.emit (Terminal.setColors stream.palette)
  else stream

/-- Sets a color. The terminal's own color can only be had by a reset. -/
def recolor (slot : Slot) (color? : Option Color) (stream : TerminalStream) : TerminalStream :=
  let active := { stream with palette := stream.palette.set slot color? }
  match color? with
  | none => active.reset
  | some color =>
    if stream.colored then active.emit (Terminal.graphic (slot.code color)) else active

def sink : Sink Empty TerminalStream where
  palette := TerminalStream.palette
  write piece stream := .ok (stream.emit piece)
  recolor := recolor

/-- The stream behind an encoding, which refuses what the encoding does not have. The control
sequences are basic text. -/
def encodedSink (encoding : Text.Encoding) : Sink Text.EncodeFault TerminalStream where
  palette := TerminalStream.palette
  write piece stream :=
    match encoding.fault? (Terminal.emitted stream.colored piece) with
    | some fault => .error fault
    | none => .ok (stream.emit piece)
  recolor := recolor

def display (stream : TerminalStream) : String :=
  "AnsiSink(fg=" ++ Palette.displayColor stream.palette.foreground
    ++ ", bg=" ++ Palette.displayColor stream.palette.background
    ++ ", enable_color=" ++ (if stream.colored then "True" else "False") ++ ")"

end TerminalStream

end ColorMarkup
