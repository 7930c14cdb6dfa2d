import ColorMarkup.Cli.Report
import ColorMarkup.Config.Layers

/-!
What commands work with: the files, the input, the decisions about color and detail, and the
configuration, which is loaded when it is first needed and then kept.
-/

namespace ColorMarkup.Cli

inductive ConfigRefusal where
  | missing (label : String)
  | loading (fault : LoadFault)

namespace ConfigRefusal

def toFailure : ConfigRefusal → Failure
  | missing label =>
    { kind := .fileNotFound, message := (ConfigFault.missing label).message }
  | loading fault =>
    if fault.isExpected then { kind := .config, message := fault.message }
    else .unexpected fault.message

end ConfigRefusal

structure ConfigSource where
  explicit : Option Path := none
  discover : Bool := true
  loaded : Option Config := none

namespace ConfigSource

/-- Why the file that is named is not even opened: it is not there, or cannot be looked at. -/
def refusal? (files : FileTree) (source : ConfigSource) : Option ConfigRefusal :=
  source.explicit.bind fun path =>
    match (files.find path).isPresent with
    | .ok true => none
    | .ok false => some (.missing (files.label path))
    | .error fault => some (.loading (.barred (files.label path) fault))

def load (files : FileTree) (source : ConfigSource) :
    List ConfigNotice × Except ConfigRefusal Config :=
  match source.refusal? files with
  | some refusal => ([], .error refusal)
  | none =>
    let loading :=
      Config.load files { explicit := source.explicit, discover := source.discover }
    (loading.notices, loading.result.mapError .loading)

def get (files : FileTree) (source : ConfigSource) :
    ConfigSource × List ConfigNotice × Except ConfigRefusal Config :=
  match source.loaded with
  | some config => (source, [], .ok config)
  | none =>
    match source.load files with
    | (notices, .ok config) => ({ source with loaded := some config }, notices, .ok config)
    | (notices, .error refusal) => (source, notices, .error refusal)

end ConfigSource

/-- The encoding of the output, and what is wrong with the octets of the input if they are no
text. -/
structure Streams where
  encoding : Text.Encoding := .utf8
  inputFault : Option Text.DecodeFault := none

structure Session where
  files : FileTree
  input : List Char
  colored : Bool
  verbosity : Verbosity
  source : ConfigSource
  streams : Streams := {}

def inputMark : String := "-"

namespace Session

def console (session : Session) : Console :=
  { colored := session.colored, encoding := session.streams.encoding }

def withConfig (session : Session) (body : Config → Report) : Report :=
  match session.source.load session.files with
  | (notices, .ok config) => (body config).after (notices.map ConfigNotice.record)
  | (notices, .error refusal) =>
    { records := notices.map ConfigNotice.record, ending := .failed refusal.toFailure }

def dropLineEnd (text : List Char) : List Char :=
  if text.getLast? = some '\n' then text.dropLast else text

def readText (session : Session) (operand : String) : List Char × List Log.Record :=
  if operand = inputMark then
    let input := Text.unifyLineEnds session.input
    (dropLineEnd input,
     [{ level := Log.Level.debug, logger := "colorformat.cli.cmd_common"
        message := "Read " ++ toString input.length ++ " characters from stdin" }])
  else (operand.toList, [])

def textFault (session : Session) (operand : String) : Option Text.DecodeFault :=
  if operand = inputMark then session.streams.inputFault else none

def withText (session : Session) (operand : String) (body : List Char → Report) : Report :=
  match session.textFault operand with
  | some fault => { ending := .failed (.unexpected fault.message) }
  | none =>
    let (text, records) := session.readText operand
    (body text).after records

end Session

end ColorMarkup.Cli
