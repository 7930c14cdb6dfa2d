import ColorMarkup.Cli.Choice

/-!
What the user asks of the output: whether it is colored, in which form reports are written, and how
much is said.
-/

namespace ColorMarkup.Cli

structure Environment where
  logLevel : Option String := none
  forceColor : Option String := none
  noColor : Option String := none

inductive ColorMode where
  | auto
  | always
  | never
deriving DecidableEq

namespace ColorMode

def all : List ColorMode :=
  [auto, always, never]

def name : ColorMode → String
  | auto => "auto"
  | always => "always"
  | never => "never"

def choice : Choice ColorMode where
  title := "ColorMode"
  options := all
  name := name

def isForced (setting : Option String) : Bool :=
  match setting with
  | some text => text != "" && text != "0"
  | none => false

/-- Whether output is colored. A definite mode decides; else the environment, where a demand for
colors outweighs one for none; else whether the output is a terminal. -/
def decide (mode : Option ColorMode) (environment : Environment) (terminal : Bool) : Bool :=
  match mode with
  | some always => true
  | some never => false
  | _ =>
    if isForced environment.forceColor then true
    else if environment.noColor.isSome then false
    else terminal

end ColorMode

inductive OutputFormat where
  | text
  | json
deriving DecidableEq

namespace OutputFormat

def all : List OutputFormat :=
  [text, json]

def name : OutputFormat → String
  | text => "text"
  | json => "json"

def choice : Choice OutputFormat where
  title := "OutputFormat"
  options := all
  name := name

end OutputFormat

abbrev Verbosity := Int

end ColorMarkup.Cli
