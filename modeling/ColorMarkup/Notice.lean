import ColorMarkup.Color
import ColorMarkup.FormatError
import ColorMarkup.Log.Record

/-! What rendering has to report along the way, and the log records that carry it. -/

namespace ColorMarkup

inductive Notice where
  /-- a directive was applied -/
  | applied (position : Nat) (slot : Slot) (index : Nat) (color : Color)
  /-- a text could not be rendered to its end -/
  | aborted (error : FormatError)
  /-- the default colors were taken from a sink -/
  | captured (defaults : Palette)
  /-- the default colors are about to be restored -/
  | restoring (defaults : Palette)
  /-- a render ended early -/
  | stoppedEarly (error : FormatError)
deriving DecidableEq

namespace Notice

def level : Notice → Log.Level
  | applied .. => Log.Level.trace
  | aborted _ => Log.Level.debug
  | captured _ => Log.Level.debug
  | restoring _ => Log.Level.trace
  | stoppedEarly _ => Log.Level.info

def logger : Notice → String
  | applied .. => "colorformat.scanner.engine"
  | aborted _ => "colorformat.scanner.engine"
  | captured _ => "colorformat.sink.defaults"
  | restoring _ => "colorformat.sink.defaults"
  | stoppedEarly _ => "colorformat.api"

def message : Notice → String
  | applied position slot index color =>
    "pos=" ++ toString position ++ ": " ++ slot.name ++ " := #" ++ toString index
      ++ " (" ++ color.label ++ ")"
  | aborted error => "Scan aborted: " ++ error.message
  | captured defaults => "Captured default colors: " ++ defaults.display
  | restoring defaults => "Restoring default colors: " ++ defaults.display
  | stoppedEarly error => "Render stopped early: " ++ error.message

def record (notice : Notice) : Log.Record where
  level := notice.level
  logger := notice.logger
  message := notice.message

end Notice

end ColorMarkup
