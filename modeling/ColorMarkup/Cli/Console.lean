import ColorMarkup.Cli.Failure
import ColorMarkup.Sink.TerminalStream
import ColorMarkup.Terminal.Appearance

/-! The console: the texts put on the output and on the error stream, colored or not. -/

namespace ColorMarkup.Cli

open Terminal (Appearance)

/-- The texts put out so far, and the refusal of one that the encoding of the output does not have.
The error stream takes any text. -/
structure Console where
  colored : Bool := true
  encoding : Text.Encoding := .utf8
  output : List Char := []
  errors : List Char := []
  fault : Option Text.EncodeFault := none

namespace Console

def lineEnd (wanted : Bool) : List Char :=
  if wanted then ['\n'] else []

/-- Puts a text out as a whole. Nothing follows a text that has been refused. -/
def print (text : List Char) (newline : Bool) (console : Console) : Console :=
  let emitted := Terminal.emitted console.colored (text ++ lineEnd newline)
  match console.fault, console.encoding.fault? emitted with
  | none, none => { console with output := console.output ++ emitted }
  | none, some fault => { console with fault := some fault }
  | some _, _ => console

def tell (text : List Char) (newline : Bool) (console : Console) : Console :=
  { console with
    errors := console.errors ++ Terminal.emitted console.colored (text ++ lineEnd newline) }

def warn (text : List Char) (newline : Bool) (console : Console) : Console :=
  console.tell ((Appearance.colored .yellow).apply text) newline

def error (text : List Char) (newline : Bool) (console : Console) : Console :=
  console.tell ((Appearance.colored .brightRed).apply text) newline

def styled (appearance : Appearance) (text : List Char) (console : Console) : List Char :=
  if console.colored then appearance.apply text else text

def printLine (text : List Char) (console : Console) : Console :=
  console.print text true

def stream (console : Console) : TerminalStream :=
  { colored := console.colored }

def addStream (stream : TerminalStream) (console : Console) : Console :=
  { console with output := console.output ++ stream.output }

def report (failure : Failure) (console : Console) : Console :=
  console.error failure.report true

end Console

end ColorMarkup.Cli
