import ColorMarkup.Cli.Arguments
import ColorMarkup.Cli.Choice
import ColorMarkup.Cli.Command
import ColorMarkup.Cli.Console
import ColorMarkup.Cli.Failure
import ColorMarkup.Cli.Misuse
import ColorMarkup.Cli.Mode
import ColorMarkup.Cli.Options
import ColorMarkup.Cli.Perform
import ColorMarkup.Cli.Program
import ColorMarkup.Cli.Report
import ColorMarkup.Cli.Scope
import ColorMarkup.Cli.Session
import ColorMarkup.Cli.Switch
import ColorMarkup.Color
import ColorMarkup.Config.Basic
import ColorMarkup.Config.Layers
import ColorMarkup.Config.Merge
import ColorMarkup.Construct
import ColorMarkup.Decimal.Binary64
import ColorMarkup.Decimal.Numeral
import ColorMarkup.Decimal.Shortest
import ColorMarkup.Event
import ColorMarkup.FileTree
import ColorMarkup.FormatError
import ColorMarkup.Json.Reader
import ColorMarkup.Json.Writer
import ColorMarkup.Log.Level
import ColorMarkup.Log.Paint
import ColorMarkup.Log.Record
import ColorMarkup.Main
import ColorMarkup.Moment
import ColorMarkup.Notice
import ColorMarkup.Proofs.Calls
import ColorMarkup.Proofs.ColorIndex
import ColorMarkup.Proofs.CommandLine
import ColorMarkup.Proofs.Concatenation
import ColorMarkup.Proofs.Decomposition
import ColorMarkup.Proofs.Delivery
import ColorMarkup.Proofs.Encoding
import ColorMarkup.Proofs.Grammar
import ColorMarkup.Proofs.Prediction
import ColorMarkup.Proofs.RenderedOutput
import ColorMarkup.Proofs.RoundTrip
import ColorMarkup.Proofs.Screen
import ColorMarkup.Proofs.Script
import ColorMarkup.Proofs.StreamText
import ColorMarkup.Proofs.Truncation
import ColorMarkup.Proofs.WrittenDocument
import ColorMarkup.Proofs.WrittenSetting
import ColorMarkup.Render
import ColorMarkup.Scan
import ColorMarkup.Signs
import ColorMarkup.Sink
import ColorMarkup.Sink.Recorder
import ColorMarkup.Sink.TerminalStream
import ColorMarkup.SupportedVersions
import ColorMarkup.Terminal
import ColorMarkup.Terminal.Appearance
import ColorMarkup.Text.Blank
import ColorMarkup.Text.Case
import ColorMarkup.Text.Digit
import ColorMarkup.Text.Printable
import ColorMarkup.Text.Quoted
import ColorMarkup.Text.Replace
import ColorMarkup.Text.Utf8
import ColorMarkup.Toml.Clock
import ColorMarkup.Toml.Dialect
import ColorMarkup.Toml.Document
import ColorMarkup.Toml.Node
import ColorMarkup.Toml.Number
import ColorMarkup.Toml.Quoting
import ColorMarkup.Toml.Reader
import ColorMarkup.Toml.Writer
import ColorMarkup.Value
import ColorMarkup.Proofs.Layer
import ColorMarkup.Proofs.Layering
import ColorMarkup.Proofs.Refusal
import ColorMarkup.Proofs.BadSources
import ColorMarkup.Proofs.ShownConfig
import ColorMarkup.Proofs.Escaping
import ColorMarkup.Proofs.Independence
import ColorMarkup.Proofs.Routine
import ColorMarkup.Proofs.Scopes
import ColorMarkup.Proofs.Uncolored
import ColorMarkup.Proofs.Boundary
import ColorMarkup.Proofs.Diagnosis
import ColorMarkup.Proofs.BracketedIndex
import ColorMarkup.Proofs.Respelling
import ColorMarkup.Proofs.Renaming
import ColorMarkup.Proofs.ColorLists
import ColorMarkup.Proofs.PartialMerge
import ColorMarkup.Proofs.ScanLog
import ColorMarkup.Proofs.JsonReport
import ColorMarkup.Proofs.ErrorLine
import ColorMarkup.Proofs.Choices
import ColorMarkup.Proofs.LevelSetting
import ColorMarkup.Proofs.Threshold
import ColorMarkup.Proofs.Classifiers
import ColorMarkup.Proofs.VersionList
import ColorMarkup.Proofs.VersionFallback
import ColorMarkup.Proofs.SignFaults
import ColorMarkup.Proofs.Cursor
