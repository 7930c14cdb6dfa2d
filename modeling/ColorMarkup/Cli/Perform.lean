import ColorMarkup.Cli.Command
import ColorMarkup.Cli.Session
import ColorMarkup.Json.Writer
import ColorMarkup.Render

/-! Carrying out the commands. -/

namespace ColorMarkup.Cli

open Terminal (Appearance)

def programVersion : String := "0.1.0"

def outcomeTable (outcome : Outcome) : Entries :=
  [("ok", .boolean outcome.ok), ("written", .integer outcome.written),
   ("directives", .integer outcome.directives)]
  ++ match outcome.error with
    | none => []
    | some error =>
      [("error", .table [
        ("kind", .text error.kind.name),
        ("position", .integer error.position),
        ("index", (error.index.map Value.integer).getD .null),
        ("message", .text error.message)])]

namespace Session

def noticeRecords (notices : Array Notice) : List Log.Record :=
  notices.toList.map Notice.record

def outcomeReport (session : Session) (outcome : Outcome) (format : OutputFormat) : Report :=
  match format, outcome.error with
  | .json, error =>
    .ofConsole (session.console.printLine (Json.write (.table (outcomeTable outcome))))
      (if error.isSome then .exit FailureKind.format.exitCode else .done)
  | .text, some error => { ending := .failed (.ofFormatError error) }
  | .text, none =>
    if session.verbosity < 0 then {}
    else
      let success : Appearance :=
        { Appearance.marked .bold with foreground := some (.color .green) }
      let console := session.console
      let console := console.printLine (console.styled success "ok".toList)
      let console :=
        if 0 < session.verbosity then
          (console.printLine ("  characters: " ++ toString outcome.written).toList).printLine
            ("  directives: " ++ toString outcome.directives).toList
        else console
      .ofConsole console

def check (session : Session) (operand : String) (colors : List Color) (format : OutputFormat) :
    Report :=
  session.withConfig fun config =>
    session.withText operand fun text =>
      let run := record config.signs colors text
      (session.outcomeReport run.outcome format).after (noticeRecords run.notices)

/-- The report of a text that was rendered. What was put out before a faulty directive stands on a
line of its own. -/
def renderReport (run : Run Text.EncodeFault TerminalStream) : Report :=
  match run.result with
  | .error fault =>
    { output := run.state.output, ending := .failed (.unexpected fault.message) }
  | .ok { error := none, .. } => { output := run.state.output }
  | .ok { error := some error, written, .. } =>
    { output := (if written = 0 then run.state else run.state.emit ['\n']).output
      ending := .failed (.ofFormatError error) }

def render (session : Session) (operand : String) (colors : List Color)
    (newline keepColors : Bool) : Report :=
  session.withConfig fun config =>
    let stream := session.console.stream
    let defaults := stream.palette
    let report := session.withText operand fun text =>
      let render := if newline && config.newline then writeLine else write
      let run := render (TerminalStream.encodedSink session.streams.encoding) defaults
        (config.restoreDefaults && !keepColors) config.signs colors text stream
      (renderReport run).after (noticeRecords run.notices)
    report.after [(Notice.captured defaults).record]

def colors (session : Session) (background : Bool) : Report :=
  .ofConsole <| Color.all.foldl
    (fun console color =>
      let appearance : Appearance :=
        if background then { background := some (.color color) } else .colored color
      console.printLine (console.styled appearance color.name.toList))
    session.console

def config (session : Session) : Report :=
  session.withConfig fun config =>
    let console := session.console
    let console :=
      if 0 < session.verbosity then
        (config.sources.foldl
          (fun (console : Console) source => console.printLine ("# source: " ++ source).toList)
          console).printLine []
      else console
    .ofConsole (console.print config.dump false)

def version (session : Session) (format : OutputFormat) : Report :=
  let console := session.console
  let shown := console.styled (Appearance.marked .bold) programVersion.toList
  .ofConsole <| match format with
  | .json => console.printLine (Json.write (.table [("version", .text programVersion)]))
  | .text =>
    if 0 < session.verbosity then
      let title : Appearance :=
        { marks := fun mark => if mark = .bold ∨ mark = .underline then some true else none }
      (console.printLine (console.styled title "ColorFormat version:".toList)).printLine
        ("    ".toList ++ shown)
    else console.printLine shown

def perform (session : Session) : Command → Report
  | .check text colors format => session.check text colors format
  | .colors background => session.colors background
  | .config => session.config
  | .render text colors newline keepColors => session.render text colors newline keepColors
  | .version format => session.version format

end Session

end ColorMarkup.Cli
