import ColorMarkup.Cli.Switch

/-! The program and its commands: what each accepts, and the usage and help texts. -/

namespace ColorMarkup.Cli

inductive CommandName where
  | check
  | colors
  | config
  | render
  | version
deriving DecidableEq

namespace CommandName

def all : List CommandName :=
  [check, colors, config, render, version]

def name : CommandName → String
  | check => "check"
  | colors => "colors"
  | config => "config"
  | render => "render"
  | version => "version"

def ofName? (text : String) : Option CommandName :=
  all.find? fun command => command.name == text

def takesText : CommandName → Bool
  | check => true
  | render => true
  | _ => false

def switches : CommandName → List Switch
  | check => [.format, .help]
  | colors => [.background, .help]
  | config => [.help]
  | render => [.noNewline, .keepColors, .help]
  | version => [.format, .help]

def summary : CommandName → String
  | check => "Validate TEXT and its COLORS without rendering."
  | colors => "List the color names accepted as COLORS arguments."
  | config => "Show the effective configuration as TOML."
  | render => "Render TEXT with inline color directives."
  | version => "Show the current version of ColorFormat."

def description (command : CommandName) : String :=
  if command.takesText then command.summary ++ " Use '-' to read TEXT from stdin."
  else command.summary

end CommandName

inductive Scope where
  | program
  | command (name : CommandName)
deriving DecidableEq

namespace Scope

def switches : Scope → List Switch
  | program => [.quiet, .verbose, .noColor, .color, .noConfig, .config, .help]
  | command name => name.switches

def operands : Scope → String
  | program => "[OPTIONS] [COMMAND] [ARGS]..."
  | command name => if name.takesText then "[OPTIONS] TEXT [COLORS]..." else "[OPTIONS]"

def description : Scope → String
  | program => "Render text with inline color directives."
  | command name => name.description

def path (programName : String) : Scope → String
  | program => programName
  | command name => programName ++ " " ++ name.name

def usage (programName : String) (scope : Scope) : String :=
  "Usage: " ++ scope.path programName ++ " " ++ scope.operands

def reminder (programName : String) (scope : Scope) : String :=
  scope.usage programName ++ "\nTry '" ++ scope.path programName ++ " --help' for help.\n\n"

end Scope

def helpWidth : Nat := 78

def spaces (count : Nat) : String :=
  String.ofList (List.replicate count ' ')

/-- Fills lines with words up to a width. A word too long for a line has one of its own. -/
def fillLines (width : Nat) : (line : String) → (words : List String) → List String
  | line, [] => [line]
  | line, word :: rest =>
    if line.length + 1 + word.length ≤ width then fillLines width (line ++ " " ++ word) rest
    else line :: fillLines width word rest

def wrapText (width : Nat) (text : String) : List String :=
  match text.splitToList (· == ' ') with
  | [] => []
  | word :: rest => fillLines width word rest

def listEntries (entries : List (String × String)) : List String :=
  let column := (entries.map fun entry => entry.1.length).foldl Nat.max 0 + 2
  entries.flatMap fun (heading, text) =>
    match wrapText (helpWidth - column - 2) text with
    | [] => [spaces 2 ++ heading]
    | line :: rest =>
      (spaces 2 ++ heading ++ spaces (column - heading.length) ++ line)
        :: rest.map fun line => spaces (column + 2) ++ line

namespace Scope

def helpLines (programName : String) (scope : Scope) : List String :=
  scope.usage programName :: ""
    :: (wrapText (helpWidth - 2) scope.description).map (spaces 2 ++ ·)
    ++ "" :: "Options:" :: listEntries (scope.switches.map fun switch =>
        (switch.heading, switch.description))
    ++ match scope with
      | program =>
        "" :: "Commands:" :: listEntries (CommandName.all.map fun command =>
          (command.name, command.summary))
      | command _ => []

def help (programName : String) (scope : Scope) : List Char :=
  ("\n".intercalate (scope.helpLines programName)).toList

end Scope

end ColorMarkup.Cli
