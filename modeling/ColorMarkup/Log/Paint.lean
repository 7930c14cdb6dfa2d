import ColorMarkup.Log.Record
import ColorMarkup.Terminal

/-!
The colors of log lines. A style switches attributes on before a line and off after it; inside, it
is switched on again after every code that would end it, and off around line ends and resets. The
program has its lines painted by a library that is assumed to do this, whatever the text holds.
-/

namespace ColorMarkup.Log

open Terminal (graphic)

structure Attribute where
  on : Nat
  off : Nat

abbrev Style := List Attribute

namespace Style

def forLevel (level : Level) : Style :=
  if Level.critical ≤ level then [⟨91, 39⟩]
  else if Level.error ≤ level then [⟨31, 39⟩]
  else if Level.warning ≤ level then [⟨33, 39⟩]
  else if Level.info ≤ level then [⟨32, 39⟩]
  else if Level.debug ≤ level then [⟨90, 39⟩]
  else if Level.trace ≤ level then [⟨34, 39⟩]
  else [⟨2, 22⟩, ⟨31, 39⟩]

def switchOn (style : Style) : List Char :=
  style.flatMap fun code => graphic code.on

def switchOff (style : Style) : List Char :=
  style.flatMap fun code => graphic code.off

def hasReset : List Char → Bool
  | [] => false
  | character :: rest =>
    character != '\n' && (Text.startsWith (character :: rest) (graphic 0) || hasReset rest)

/-- Where the walk over resets is: outside a pair of them, or inside with characters left to copy
before the second one may begin. -/
inductive ResetWalk where
  | outside
  | inside (copy : Nat)
  | closing (copy : Nat)

def guardResets (style : Style) : ResetWalk → List Char → List Char
  | _, [] => []
  | .outside, character :: rest =>
    if Text.startsWith (character :: rest) (graphic 0) && hasReset (rest.drop 3) then
      style.switchOff ++ character :: guardResets style (.inside 3) rest
    else character :: guardResets style .outside rest
  | .inside (copy + 1), character :: rest => character :: guardResets style (.inside copy) rest
  | .inside 0, character :: rest =>
    character :: guardResets style
      (if Text.startsWith (character :: rest) (graphic 0) then .closing 2 else .inside 0) rest
  | .closing (copy + 1), character :: rest => character :: guardResets style (.closing copy) rest
  | .closing 0, character :: rest =>
    character :: (style.switchOn ++ guardResets style .outside rest)

def guardLineEnds (style : Style) : List Char → List Char
  | [] => []
  | '\r' :: '\n' :: rest =>
    style.switchOff ++ '\r' :: '\n' :: (style.switchOn ++ guardLineEnds style rest)
  | '\n' :: rest => style.switchOff ++ '\n' :: (style.switchOn ++ guardLineEnds style rest)
  | character :: rest => character :: guardLineEnds style rest

def reopen (style : Style) (text : List Char) : List Char :=
  style.foldl
    (fun text (code : Attribute) =>
      Text.replaceAll (graphic code.off) (graphic code.off ++ graphic code.on) text)
    text

def apply (style : Style) (text : List Char) : List Char :=
  style.switchOn ++ guardLineEnds style (guardResets style .outside (reopen style text))
    ++ style.switchOff

end Style

def paint (template : Template) (line : String) (record : Record) : List Char :=
  (Style.forLevel record.level).apply (template.fill line record)

/-- What a threshold lets through of a list of records, one painted line for each. The place in
the program is not told: `N` stands for its line. -/
def linesOf (threshold : Level) (records : List Record) : List Char :=
  (records.filter fun record => record.isLogged threshold).flatMap fun record =>
    paint (Template.forLevel threshold) "N" record ++ ['\n']

@[simp] theorem linesOf_nil (threshold : Level) : linesOf threshold [] = [] := rfl

end ColorMarkup.Log
