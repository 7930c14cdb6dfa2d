import ColorMarkup.Cli.Perform
import ColorMarkup.Log.Paint

/-!
A whole run of the program: reading the options and the command, deciding on detail, diagnostics and
color, and carrying the command out.
-/

namespace ColorMarkup.Cli

structure Invocation where
  programName : String := "colorformat"
  logger : String := "colorformat.cli.main"
  arguments : List String := []

structure Surroundings where
  environment : Environment := {}
  files : FileTree
  input : List Char := []
  terminal : Bool := false

structure Result where
  exitCode : Nat
  output : List Char
  errors : List Char
deriving DecidableEq

namespace Report

def toResult (programName : String) (threshold : Log.Level) (colored : Bool) (report : Report) :
    Result where
  exitCode := report.ending.exitCode
  output := report.output
  errors :=
    Log.linesOf threshold report.records
      ++ Terminal.emitted colored (report.ending.report programName)

end Report

def stateRecord (logger : String) (files : FileTree) (options : Options) (verbosity : Verbosity)
    (level? : Option Log.Level) (colored : Bool) : Log.Record where
  level := Log.Level.debug
  logger := logger
  message :=
    "CLI state: \x7b'verbosity_level': " ++ toString verbosity
      ++ ", 'log_level': " ++ (match level? with
        | some level => toString level
        | none => "None")
      ++ ", 'color_enabled': " ++ Config.displayBoolean colored
      ++ ", 'config_file': " ++ (match options.explicit with
        | some path => "PosixPath(" ++ Text.quote (files.label path) ++ ")"
        | none => "None")
      ++ ", 'no_config': " ++ Config.displayBoolean (!options.discover) ++ "\x7d"

/-- The record of a failure that nothing foresaw. The trace of calls that is logged with it is no
part of the record: it quotes the text of the program. -/
def surpriseRecord (logger : String) : Log.Record where
  level := Log.Level.debug
  logger := logger
  message := "Unhandled exception in command"

namespace Report

def noteSurprise (logger : String) (report : Report) : Report :=
  match report.ending with
  | .failed { kind := .unexpected, .. } =>
    { report with records := report.records ++ [surpriseRecord logger] }
  | _ => report

end Report

namespace Invocation

def hint (invocation : Invocation) (console : Console) : Console :=
  ((console.printLine
      "Hint: use 'colorformat render TEXT [COLORS...]' to render text.".toList).printLine
    []).printLine (Scope.program.help invocation.programName)

def runCommand (invocation : Invocation) (session : Session) (name : CommandName)
    (words : List String) : Report :=
  match Command.read name words with
  | .error misuse => { ending := .misused (.command name) misuse }
  | .ok .help =>
    .ofConsole (session.console.printLine ((Scope.command name).help invocation.programName))
  | .ok (.request command) => session.perform command

def start (invocation : Invocation) (surroundings : Surroundings) (options : Options)
    (command? : Option (CommandName × List String)) (streams : Streams := {}) : Result :=
  let fail (failure : Failure) : Result :=
    ({ ending := .failed failure } : Report).toResult invocation.programName
      Log.Level.critical false
  match Verbosity.ofCounts options.verbose options.quiet,
      Log.Level.ofVariable surroundings.environment.logLevel with
  | .error failure, _ => fail failure
  | .ok _, .error fault => fail (.unexpected fault.message)
  | .ok verbosity, .ok level? =>
    let colored :=
      ColorMode.decide options.colorMode surroundings.environment surroundings.terminal
    let session : Session :=
      { files := surroundings.files, input := surroundings.input, colored, verbosity
        source := { explicit := options.explicit, discover := options.discover }
        streams }
    let report : Report :=
      match command? with
      | none => .ofConsole (invocation.hint session.console)
      | some (name, words) => invocation.runCommand session name words
    let opening :=
      stateRecord invocation.logger surroundings.files options verbosity level? colored
    ((report.noteSurprise invocation.logger).after [opening]).toResult invocation.programName
      (level?.getD Log.Level.critical) colored

def misused (invocation : Invocation) (misuse : Misuse) : Result :=
  ({ ending := .misused .program misuse } : Report).toResult invocation.programName
    Log.Level.critical false

def showHelp (invocation : Invocation) : Result where
  exitCode := 0
  output := Scope.program.help invocation.programName ++ ['\n']
  errors := []

/-- Refuses a word that is no command. It is first read as an option, since it may stand behind two
dashes. -/
def refuseCommand (invocation : Invocation) (files : FileTree) (name : String)
    (words : List String) : Result :=
  match Options.read files (name :: words) with
  | .error misuse => invocation.misused misuse
  | .ok .help => invocation.showHelp
  | .ok (.request _) => invocation.misused (.unknownCommand name)

def paths (invocation : Invocation) : List Path :=
  let named :=
    match Options.read { workingDirectory := ".", entries := [] } invocation.arguments with
    | .ok (.request (options, _)) => options.explicit.toList
    | _ => []
  Path.ofString Config.projectFileName :: Path.ofString Config.fileName :: named

def mayRead (invocation : Invocation) : Bool :=
  invocation.arguments.contains inputMark

def run (invocation : Invocation) (surroundings : Surroundings) (streams : Streams := {}) :
    Result :=
  match Options.read surroundings.files invocation.arguments with
  | .error misuse => invocation.misused misuse
  | .ok .help => invocation.showHelp
  | .ok (.request (options, [])) => invocation.start surroundings options none streams
  | .ok (.request (options, name :: words)) =>
    match CommandName.ofName? name with
    | some command => invocation.start surroundings options (some (command, words)) streams
    | none => invocation.refuseCommand surroundings.files name words

end Invocation

end ColorMarkup.Cli
