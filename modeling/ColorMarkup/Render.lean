import ColorMarkup.Scan

/-!
Rendering: a scan after which the default colors are restored, with or without a line end. Colors
are restored on every way out, also when the text is faulty or the sink refuses a write.
-/

namespace ColorMarkup

namespace Run

variable {φ σ : Type}

def restored (run : Run φ σ) (sink : Sink φ σ) (defaults : Palette) : Run φ σ :=
  { run with
    state := sink.restore defaults run.state
    notices := run.notices.push (.restoring defaults) }

def reported (run : Run φ σ) : Run φ σ :=
  match run.result with
  | .ok { error := some error, .. } =>
    { run with notices := run.notices.push (.stoppedEarly error) }
  | _ => run

def terminated (run : Run φ σ) (sink : Sink φ σ) : Run φ σ :=
  match run.result with
  | .ok { error := none, .. } =>
    match sink.write ['\n'] run.state with
    | .ok state => { run with state }
    | .error fault => { run with result := .error fault }
  | _ => run

end Run

def write {φ σ : Type} (sink : Sink φ σ) (defaults : Palette) (restore : Bool) (signs : Signs)
    (colors : List Color) (text : List Char) (state : σ) : Run φ σ :=
  let run := scan sink signs colors text state
  (if restore then run.restored sink defaults else run).reported

/-- Like `write`, with a line end after a text that could be rendered. The line end follows the
restoration, so the next line begins in the default colors. -/
def writeLine {φ σ : Type} (sink : Sink φ σ) (defaults : Palette) (restore : Bool) (signs : Signs)
    (colors : List Color) (text : List Char) (state : σ) : Run φ σ :=
  (write sink defaults restore signs colors text state).terminated sink

def validate (signs : Signs) (colors : List Color) (text : List Char) : Outcome :=
  (record signs colors text).outcome

end ColorMarkup
