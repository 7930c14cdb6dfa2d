import ColorMarkup.Construct
import ColorMarkup.Notice
import ColorMarkup.Sink.Recorder

/-!
Playing a text to a sink. The constructs of the text are played in order: literal text is written
character by character, directives recolor a slot. The first directive without a color ends the
scan, as does a faulty bracket; what was played before stays.
-/

namespace ColorMarkup

structure Outcome where
  error : Option FormatError := none
  written : Nat := 0
  directives : Nat := 0
deriving DecidableEq

namespace Outcome

def ok (outcome : Outcome) : Bool :=
  outcome.error.isNone

end Outcome

def indexDigitLimit : Nat := 19

def significant (digits : List Char) : List Char :=
  match digits.dropWhile (· == '0') with
  | [] => ['0']
  | lead :: rest => lead :: rest

def resolveIndex (colors : List Color) (index : Int) (position : Int) : Except FormatError Color :=
  let missing : FormatError := { kind := .indexOutOfRange, position, index := some index }
  if 0 ≤ index then
    match colors[index.toNat]? with
    | some color => .ok color
    | none => .error missing
  else .error missing

/-- The color that the digits of a directive select. Indices too long for any list are refused
unread. -/
def resolveDigits (colors : List Color) (digits : List Char) (position : Int) :
    Except FormatError (Nat × Color) :=
  let shown := significant digits
  if indexDigitLimit < shown.length then
    .error { kind := .indexOutOfRange, position
             detail := String.ofList (FormatError.shorten shown) }
  else
    let index := Text.plainValue shown
    (resolveIndex colors index position).map fun color => (index, color)

def BracketFault.toError (fault : BracketFault) (position : Int) : FormatError :=
  match fault with
  | .unterminated => { kind := .unterminatedBracket, position }
  | .notNumber content =>
    { kind := .invalidArgument, position, detail := String.ofList (FormatError.shorten content) }

structure Progress (σ : Type) where
  state : σ
  position : Nat := 0
  written : Nat := 0
  directives : Nat := 0
  notices : Array Notice := #[]

/-- A scan that ended. If the sink refused a write there is no outcome. -/
structure Run (φ σ : Type) where
  state : σ
  position : Nat
  notices : Array Notice
  result : Except φ Outcome

namespace Progress

variable {φ σ : Type}

def finish (progress : Progress σ) (error : Option FormatError) : Run φ σ where
  state := progress.state
  position := progress.position
  notices := match error with
    | some error => progress.notices.push (.aborted error)
    | none => progress.notices
  result := .ok { error, written := progress.written, directives := progress.directives }

def refuse (progress : Progress σ) (state : σ) (fault : φ) : Run φ σ where
  state := state
  position := progress.position
  notices := progress.notices
  result := .error fault

def step (sink : Sink φ σ) (signs : Signs) (colors : List Color) (progress : Progress σ)
    (construct : Construct) : Except (Run φ σ) (Progress σ) :=
  match construct.meaning signs with
  | .literal text =>
    match sink.sendAll (Event.ofText text) progress.state with
    | (state, none) =>
      .ok { progress with
            state, position := progress.position + construct.width
            written := progress.written + text.length }
    | (state, some fault) => .error (progress.refuse state fault)
  | .directive slot digits =>
    match resolveDigits colors digits progress.position with
    | .ok (index, color) =>
      .ok { progress with
            state := sink.recolor slot (some color) progress.state
            position := progress.position + construct.width
            directives := progress.directives + 1
            notices := progress.notices.push (.applied progress.position slot index color) }
    | .error error => .error (progress.finish (some error))

def play (sink : Sink φ σ) (signs : Signs) (colors : List Color) (fault : Option BracketFault) :
    Progress σ → List Construct → Run φ σ
  | progress, [] =>
    progress.finish (fault.map fun fault => fault.toError progress.position)
  | progress, construct :: rest =>
    match progress.step sink signs colors construct with
    | .ok next => play sink signs colors fault next rest
    | .error run => run

end Progress

def scan {φ σ : Type} (sink : Sink φ σ) (signs : Signs) (colors : List Color) (text : List Char)
    (state : σ) : Run φ σ :=
  let reading := Reading.ofText signs text
  Progress.play sink signs colors reading.fault { state } reading.constructs

def record (signs : Signs) (colors : List Color) (text : List Char) : Run Empty Recorder :=
  scan Recorder.sink signs colors text {}

namespace Run

def outcome {φ σ : Type} (run : Run φ σ) : Outcome :=
  match run.result with
  | .ok outcome => outcome
  | .error _ => {}

end Run

end ColorMarkup
