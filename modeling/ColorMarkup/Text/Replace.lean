/-! Replacement inside texts, and the line ends that reading a text file makes alike. -/

namespace ColorMarkup.Text

def dropStart? : (start : List Char) → (text : List Char) → Option (List Char)
  | [], text => some text
  | _ :: _, [] => none
  | wanted :: start, character :: text =>
    if wanted = character then dropStart? start text else none

theorem dropStart?_eq_some {start text rest : List Char}
    (found : dropStart? start text = some rest) : text = start ++ rest := by
  induction start generalizing text with
  | nil => simpa [dropStart?] using found
  | cons wanted start ih =>
    cases text with
    | nil => simp [dropStart?] at found
    | cons character text =>
      simp only [dropStart?] at found
      split at found
      · subst_vars
        simp [ih found]
      · contradiction

theorem dropStart?_append (start rest : List Char) :
    dropStart? start (start ++ rest) = some rest := by
  induction start with
  | nil => rfl
  | cons character start ih => simpa [dropStart?] using ih

def startsWith (text start : List Char) : Bool :=
  (dropStart? start text).isSome

/-- Replaces every occurrence from left to right; `skip` characters of the last one are passed
over first. An empty target is never found. -/
def replaceFrom (target replacement : List Char) : (skip : Nat) → List Char → List Char
  | _, [] => []
  | skip + 1, _ :: rest => replaceFrom target replacement skip rest
  | 0, character :: rest =>
    if !target.isEmpty && startsWith (character :: rest) target then
      replacement ++ replaceFrom target replacement (target.length - 1) rest
    else character :: replaceFrom target replacement 0 rest

def replaceAll (target replacement text : List Char) : List Char :=
  replaceFrom target replacement 0 text

def unifyLineEnds : List Char → List Char
  | [] => []
  | '\r' :: '\n' :: rest => '\n' :: unifyLineEnds rest
  | '\r' :: rest => '\n' :: unifyLineEnds rest
  | character :: rest => character :: unifyLineEnds rest

end ColorMarkup.Text
