import ColorMarkup.Color

/-!
Control sequences of a terminal: those that set graphic attributes, and the removal of all of them
from a text.
-/

namespace ColorMarkup

namespace Terminal

def graphic (code : Nat) : List Char :=
  '\x1b' :: '[' :: ((toString code).toList ++ ['m'])

def resetAll : List Char := graphic 0

def setColors (palette : Palette) : List Char :=
  (match palette.foreground with
    | some color => graphic (Slot.foreground.code color)
    | none => [])
  ++ match palette.background with
    | some color => graphic (Slot.background.code color)
    | none => []

def isParameter (character : Char) : Bool := '0' ≤ character && character ≤ '?'

def isIntermediate (character : Char) : Bool := ' ' ≤ character && character ≤ '/'

def isFinal (character : Char) : Bool := '@' ≤ character && character ≤ '~'

/-- The length of the control sequence that a text begins with: an escape, an opening bracket,
parameters, intermediates and one final character. -/
def sequenceLength? : List Char → Option Nat
  | '\x1b' :: '[' :: rest =>
    let afterParameters := rest.dropWhile isParameter
    match afterParameters.dropWhile isIntermediate with
    | final :: after =>
      if isFinal final then some (rest.length + 2 - after.length) else none
    | [] => none
  | _ => none

/-- Removes control sequences; `skip` characters of the last one are passed over first. -/
def stripFrom : (skip : Nat) → List Char → List Char
  | _, [] => []
  | skip + 1, _ :: rest => stripFrom skip rest
  | 0, character :: rest =>
    match sequenceLength? (character :: rest) with
    | some length => stripFrom (length - 1) rest
    | none => character :: stripFrom 0 rest

def strip (text : List Char) : List Char :=
  stripFrom 0 text

def emitted (colored : Bool) (piece : List Char) : List Char :=
  if colored then piece else strip piece

def styled (slot : Slot) (color : Color) (text : List Char) : List Char :=
  graphic (slot.code color) ++ text ++ resetAll

end Terminal

end ColorMarkup
