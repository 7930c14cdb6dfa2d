import ColorMarkup.Cli.Switch

/-!
Arguments taken apart into switches and operands. A switch is given by its name, with a value in the
same argument after an equals sign or in the next one, or by its letter, alone or among others after
one dash. Two dashes end the switches. The program leaves this to a library for command lines, which
is assumed to take arguments apart in this way. All arguments are taken to be decoded; the octets of
one that is no text are left out.
-/

namespace ColorMarkup.Cli

inductive ArgumentFault where
  | unknownSwitch (name : String)
  | valueMissing (name : String)
  | valueUnwanted (name : String)
deriving DecidableEq

inductive Argument where
  | operand
  | endOfSwitches
  | flags (switches : List Switch)
  | setting (switch : Switch) (value? : Option String)

namespace Argument

def split (argument : List Char) : List Char × Option String :=
  match argument.dropWhile (· != '=') with
  | [] => (argument, none)
  | _ :: value => (argument.takeWhile (· != '='), some (String.ofList value))

def ofLetters (accepted : List Switch) : List Char → Except ArgumentFault (List Switch)
  | [] => .ok []
  | letter :: rest =>
    match accepted.find? fun switch => switch.letter? == some letter with
    | none => .error (.unknownSwitch ("-" ++ String.singleton letter))
    | some switch => (ofLetters accepted rest).map (switch :: ·)

def ofString (accepted : List Switch) (argument : String) : Except ArgumentFault Argument :=
  match argument.toList with
  | ['-', '-'] => .ok .endOfSwitches
  | '-' :: character :: letters =>
    let (name, value?) := split argument.toList
    match accepted.find? fun switch => switch.name.toList == name with
    | some switch =>
      match switch.placeholder?, value? with
      | some _, _ => .ok (.setting switch value?)
      | none, some _ => .error (.valueUnwanted switch.name)
      | none, none => .ok (.flags [switch])
    | none =>
      if character = '-' then .error (.unknownSwitch (String.ofList name))
      else (ofLetters accepted (character :: letters)).map .flags
  | _ => .ok .operand

end Argument

structure Arguments where
  given : List (Switch × Option String) := []
  operands : List String := []

namespace Arguments

def addFlags (flags : List Switch) (arguments : Arguments) : Arguments :=
  { arguments with given := flags.map (·, none) ++ arguments.given }

def addSetting (switch : Switch) (value : String) (arguments : Arguments) : Arguments :=
  { arguments with given := (switch, some value) :: arguments.given }

def addOperand (operand : String) (arguments : Arguments) : Arguments :=
  { arguments with operands := operand :: arguments.operands }

/-- Takes arguments apart. Where switches may not stand among operands, the first operand ends
them. -/
def ofList (accepted : List Switch) (mixed : Bool) :
    List String → Except ArgumentFault Arguments
  | [] => .ok {}
  | argument :: rest =>
    match Argument.ofString accepted argument with
    | .error fault => .error fault
    | .ok .endOfSwitches => .ok { operands := rest }
    | .ok .operand =>
      if mixed then (ofList accepted mixed rest).map (addOperand argument)
      else .ok { operands := argument :: rest }
    | .ok (.flags switches) => (ofList accepted mixed rest).map (addFlags switches)
    | .ok (.setting switch (some value)) =>
      (ofList accepted mixed rest).map (addSetting switch value)
    | .ok (.setting switch none) =>
      match rest with
      | [] => .error (.valueMissing switch.name)
      | value :: rest => (ofList accepted mixed rest).map (addSetting switch value)

def count (switch : Switch) (arguments : Arguments) : Nat :=
  (arguments.given.filter fun occurrence => occurrence.1 == switch).length

def has (switch : Switch) (arguments : Arguments) : Bool :=
  arguments.given.any fun occurrence => occurrence.1 == switch

def value? (switch : Switch) (arguments : Arguments) : Option String :=
  (arguments.given.reverse.find? fun occurrence => occurrence.1 == switch).bind Prod.snd

/-- The switches that have values, in the order in which they first appear. -/
def settings (arguments : Arguments) : List (Switch × String) :=
  (arguments.given.map Prod.fst).eraseDups.filterMap fun switch =>
    (arguments.value? switch).map (switch, ·)

end Arguments

end ColorMarkup.Cli
