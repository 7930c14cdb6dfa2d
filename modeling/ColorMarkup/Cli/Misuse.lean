import ColorMarkup.Cli.Arguments
import ColorMarkup.Cli.Scope
import ColorMarkup.Text.Quoted

/-! What can be wrong with a command line, and how it is reported. -/

namespace ColorMarkup.Cli

inductive Misuse where
  | arguments (fault : ArgumentFault)
  | unknownCommand (name : String)
  | textMissing
  | operandsUnwanted (operands : List String)
  | switchRefused (switch : Switch) (reason : String)
  | colorRefused (reason : String)
deriving DecidableEq

namespace ArgumentFault

def message : ArgumentFault → String
  | unknownSwitch name => "No such option " ++ Text.quote name ++ "."
  | valueMissing name => "Option " ++ Text.quote name ++ " requires an argument."
  | valueUnwanted name => "Option " ++ Text.quote name ++ " does not take a value."

/-- A switch that is known but lacks a value, or has one too many, is reported without a reminder
of the usage. -/
def hasReminder : ArgumentFault → Bool
  | unknownSwitch _ => true
  | _ => false

end ArgumentFault

namespace Misuse

def message : Misuse → String
  | arguments fault => fault.message
  | unknownCommand name => "No such command " ++ Text.quote name ++ "."
  | textMissing => "Missing argument 'TEXT'."
  | operandsUnwanted [operand] => "Got unexpected extra argument (" ++ operand ++ ")"
  | operandsUnwanted operands =>
    "Got unexpected extra arguments (" ++ " ".intercalate operands ++ ")"
  | switchRefused switch reason => "Invalid value for '" ++ switch.name ++ "': " ++ reason
  | colorRefused reason => "Invalid value for '[COLORS]...': " ++ reason

def hasReminder : Misuse → Bool
  | arguments fault => fault.hasReminder
  | _ => true

def report (programName : String) (scope : Scope) (misuse : Misuse) : List Char :=
  (if misuse.hasReminder then (scope.reminder programName).toList else [])
    ++ ("Error: " ++ misuse.message ++ "\n").toList

end Misuse

end ColorMarkup.Cli
