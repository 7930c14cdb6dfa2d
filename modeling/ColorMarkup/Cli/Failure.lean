import ColorMarkup.FormatError
import ColorMarkup.Cli.Mode

/-! Failures that end the program, and the exit codes they end it with. -/

namespace ColorMarkup.Cli

inductive FailureKind where
  | general
  | usage
  | config
  | fileNotFound
  | format
  | unexpected
deriving DecidableEq

namespace FailureKind

def all : List FailureKind :=
  [general, usage, config, fileNotFound, format, unexpected]

def exitCode : FailureKind → Nat
  | general => 1
  | usage => 64
  | format => 65
  | fileNotFound => 66
  | config => 78
  | unexpected => 255

end FailureKind

def misuseExitCode : Nat := 2

structure Failure where
  kind : FailureKind
  message : String

namespace Failure

def exitCode (failure : Failure) : Nat :=
  failure.kind.exitCode

def ofFormatError (error : FormatError) : Failure :=
  { kind := .format, message := error.message }

def unexpected (message : String) : Failure :=
  { kind := .unexpected, message := "Unexpected error: " ++ message }

def report (failure : Failure) : List Char :=
  ("Error: " ++ failure.message).toList

end Failure

/-- The level that counts of both flags ask for; they exclude each other. -/
def Verbosity.ofCounts (verbose quiet : Int) : Except Failure Verbosity :=
  if 0 < verbose ∧ 0 < quiet then
    .error
      { kind := .usage
        message := "The '--verbose' and '--quiet' options are mutually exclusive." }
  else if verbose ≠ 0 then .ok verbose
  else .ok (-quiet)

end ColorMarkup.Cli
