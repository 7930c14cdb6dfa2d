import ColorMarkup.Cli.Mode

/-! The switches of the command line, their names and what help texts say about them. -/

namespace ColorMarkup.Cli

inductive Switch where
  | quiet
  | verbose
  | noColor
  | color
  | noConfig
  | config
  | format
  | background
  | noNewline
  | keepColors
  | help
deriving DecidableEq

namespace Switch

def name : Switch → String
  | quiet => "--quiet"
  | verbose => "--verbose"
  | noColor => "--no-color"
  | color => "--color"
  | noConfig => "--no-config"
  | config => "--config"
  | format => "--format"
  | background => "--background"
  | noNewline => "--no-newline"
  | keepColors => "--keep-colors"
  | help => "--help"

def letter? : Switch → Option Char
  | quiet => some 'q'
  | verbose => some 'v'
  | noNewline => some 'n'
  | help => some 'h'
  | _ => none

/-- The word for the value of a switch that takes one. Such a switch has no letter. -/
def placeholder? : Switch → Option String
  | color => some ColorMode.choice.placeholder
  | config => some "FILE"
  | format => some OutputFormat.choice.placeholder
  | _ => none

def description : Switch → String
  | quiet => "Suppress status output."
  | verbose => "Increase program-output verbosity."
  | noColor => "Disable color output (same as --color=never)."
  | color => "Color output: auto (default), always, never."
  | noConfig => "Ignore pyproject.toml and colorformat.toml in the working directory."
  | config => "Extra TOML configuration file, merged last."
  | format => "Output format (" ++ ", ".intercalate OutputFormat.choice.names ++ ")."
  | background => "Show each color as a background instead of a foreground."
  | noNewline => "Do not write a trailing newline."
  | keepColors => "Leave the last applied colors active instead of restoring the defaults."
  | help => "Show this message and exit."

def heading (switch : Switch) : String :=
  (match switch.letter? with
    | some letter => "-" ++ String.singleton letter ++ ", "
    | none => "")
  ++ switch.name
  ++ match switch.placeholder? with
    | some word => " " ++ word
    | none => ""

end Switch

end ColorMarkup.Cli
