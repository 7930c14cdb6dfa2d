import ColorMarkup.Cli.Program

/-! The program: it looks at its surroundings, runs, and puts out what the run leaves behind. -/

open ColorMarkup ColorMarkup.Cli

def systemFault : IO.Error → SystemFault
  | .permissionDenied _ number text => { number := number.toNat, text }
  | .noFileOrDirectory _ number text => { number := number.toNat, text }
  | .inappropriateType _ number text => { number := number.toNat, text }
  | .invalidArgument _ number text => { number := number.toNat, text }
  | .resourceExhausted _ number text => { number := number.toNat, text }
  | _ => .missing

def lookAt (path : Path) : IO FileEntry := do
  let place := (← IO.currentDir) / FileTree.label { workingDirectory := ".", entries := [] } path
  match ← place.metadata.toBaseIO with
  | .error fault => return .barred (systemFault fault)
  | .ok found =>
    if found.type == .dir then return .directory
    match ← (IO.FS.readBinFile place).toBaseIO with
    | .error fault => return .unreadable (systemFault fault)
    | .ok octets => return .file octets.toList

def main (arguments : List String) : IO UInt32 := do
  let invocation : Invocation := { arguments }
  let output ← IO.getStdout
  let known ← invocation.paths.mapM fun path => return (path, ← lookAt path)
  let below := known.map fun (path, entry) =>
    ({ anchor := .workingDirectory, parts := path.parts : Path }, entry)
  let given ← if invocation.mayRead then (← IO.getStdin).readBinToEnd else pure .empty
  let (input, inputFault) : List Char × Option Text.DecodeFault :=
    match Text.decode given.toList with
    | .ok text => (text, none)
    | .error fault => ([], some fault)
  let surroundings : Surroundings := {
    environment := {
      logLevel := ← IO.getEnv "COLORFORMAT_LOG_LEVEL"
      forceColor := ← IO.getEnv "FORCE_COLOR"
      noColor := ← IO.getEnv "NO_COLOR" }
    files := {
      workingDirectory := (← IO.currentDir).toString
      entries := []
      outside := known ++ below }
    input
    terminal := ← output.isTty }
  let result := invocation.run surroundings { inputFault }
  output.putStr (String.ofList result.output)
  (← IO.getStderr).putStr (String.ofList result.errors)
  return UInt32.ofNat result.exitCode
