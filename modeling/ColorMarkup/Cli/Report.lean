import ColorMarkup.Cli.Console
import ColorMarkup.Cli.Misuse
import ColorMarkup.Log.Record

/-! What a run of the program gives: its output, its diagnostics and the way it ends. -/

namespace ColorMarkup.Cli

inductive Ending where
  | done
  | exit (code : Nat)
  | failed (failure : Failure)
  | misused (scope : Scope) (misuse : Misuse)

namespace Ending

def exitCode : Ending → Nat
  | done => 0
  | exit code => code
  | failed failure => failure.exitCode
  | misused .. => misuseExitCode

def report (programName : String) : Ending → List Char
  | done => []
  | exit _ => []
  | failed failure => failure.report ++ ['\n']
  | misused scope misuse => misuse.report programName scope

end Ending

structure Report where
  output : List Char := []
  records : List Log.Record := []
  ending : Ending := .done

namespace Report

def after (records : List Log.Record) (report : Report) : Report :=
  { report with records := records ++ report.records }

/-- The report of what a console has put out, which ends as is said unless a text was refused. -/
def ofConsole (console : Console) (ending : Ending := .done) : Report where
  output := console.output
  ending :=
    match console.fault with
    | some fault => .failed (.unexpected fault.message)
    | none => ending

end Report

end ColorMarkup.Cli
