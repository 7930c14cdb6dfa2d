import ColorMarkup.Cli.Misuse
import ColorMarkup.FileTree

/-!
The options of the program as a whole: what stands on the command line before the command. The files
they name are looked at by the same library that takes the arguments apart; what it is assumed to
refuse is said at `readPath`.
-/

namespace ColorMarkup.Cli

structure Options where
  verbose : Nat := 0
  quiet : Nat := 0
  colorMode : Option ColorMode := none
  explicit : Option Path := none
  discover : Bool := true

inductive Reading (α : Type) where
  | help
  | request (content : α)

def Reading.ofArguments {α : Type} (scope : Scope) (mixed : Bool) (words : List String)
    (read : Arguments → Except Misuse α) : Except Misuse (Reading α) :=
  match Arguments.ofList scope.switches mixed words with
  | .error fault => .error (.arguments fault)
  | .ok arguments =>
    if arguments.has .help then .ok .help else (read arguments).map .request

def readChoice {α : Type} (choice : Choice α) (switch : Switch) (value : String) :
    Except Misuse α :=
  match choice.find? value.toList with
  | some option => .ok option
  | none => .error (.switchRefused switch (choice.refusal value))

namespace Options

def canLookAt (value : String) : Bool :=
  value ≠ "" && FileTree.octetCount value ≤ FileTree.pathLimit

/-- A configuration file may be missing or out of reach, but not be a directory, and not be closed
to reading. -/
def readPath (files : FileTree) (value : String) : Except Misuse Path :=
  let path := Path.ofString value
  let refuse (reason : String) : Except Misuse Path :=
    .error (.switchRefused .config ("File " ++ Text.quote value ++ reason))
  match canLookAt value, files.find path with
  | true, .directory => refuse " is a directory."
  | true, .unreadable fault => if fault = .denied then refuse " is not readable." else .ok path
  | _, _ => .ok path

def addSetting (files : FileTree) (options : Options) (setting : Switch × String) :
    Except Misuse Options :=
  match setting with
  | (.color, value) => do
    let mode ← readChoice ColorMode.choice .color value
    .ok { options with colorMode := some mode }
  | (.config, value) => do
    let path ← readPath files value
    .ok { options with explicit := some path }
  | _ => .ok options

/-- The options given. A wish for no color outweighs the color mode. -/
def ofArguments (files : FileTree) (arguments : Arguments) : Except Misuse Options := do
  let options ← arguments.settings.foldlM (addSetting files) {}
  .ok { options with
    verbose := arguments.count .verbose
    quiet := arguments.count .quiet
    colorMode := if arguments.has .noColor then some .never else options.colorMode
    discover := !arguments.has .noConfig }

def read (files : FileTree) (words : List String) :
    Except Misuse (Reading (Options × List String)) :=
  Reading.ofArguments .program false words fun arguments =>
    (ofArguments files arguments).map (·, arguments.operands)

end Options

end ColorMarkup.Cli
