import ColorMarkup.Cli.Options

/-! The commands with their operands and options, as they are read from the command line. -/

namespace ColorMarkup.Cli

inductive Command where
  | check (text : String) (colors : List Color) (format : OutputFormat)
  | colors (background : Bool)
  | config
  | render (text : String) (colors : List Color) (newline keepColors : Bool)
  | version (format : OutputFormat)

namespace Command

def readFormat (arguments : Arguments) : Except Misuse OutputFormat :=
  match arguments.value? .format with
  | some value => readChoice OutputFormat.choice .format value
  | none => .ok .text

def readColor (name : String) : Except Misuse Color :=
  match colorChoice.find? name.toList with
  | some color => .ok color
  | none => .error (.colorRefused (colorChoice.refusal name))

def readText (arguments : Arguments) : Except Misuse (String × List Color) :=
  match arguments.operands with
  | [] => .error .textMissing
  | text :: names => (names.mapM readColor).map (text, ·)

def refuseOperands (arguments : Arguments) : Except Misuse Unit :=
  if arguments.operands.isEmpty then .ok () else .error (.operandsUnwanted arguments.operands)

def ofArguments (name : CommandName) (arguments : Arguments) : Except Misuse Command :=
  match name with
  | .check => do
    let format ← readFormat arguments
    let (text, chosen) ← readText arguments
    .ok (check text chosen format)
  | .colors => do
    refuseOperands arguments
    .ok (colors (arguments.has .background))
  | .config => do
    refuseOperands arguments
    .ok config
  | .render => do
    let (text, chosen) ← readText arguments
    .ok (render text chosen (!arguments.has .noNewline) (arguments.has .keepColors))
  | .version => do
    let format ← readFormat arguments
    refuseOperands arguments
    .ok (version format)

def read (name : CommandName) (words : List String) : Except Misuse (Reading Command) :=
  Reading.ofArguments (.command name) true words (ofArguments name)

end Command

end ColorMarkup.Cli
