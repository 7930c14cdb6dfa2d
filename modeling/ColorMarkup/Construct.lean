import ColorMarkup.Color
import ColorMarkup.Signs

/-!
The constructs of the markup and their reader. A text is read from left to right; each step takes
one construct and leaves a shorter rest, so reading ends. Reading does not depend on the colors.
-/

namespace ColorMarkup

inductive Construct where
  /-- a character that is no sign -/
  | ordinary (character : Char)
  /-- a stop sign at the end of the text -/
  | finalStop
  /-- two stop signs -/
  | doubledStop
  /-- literal text between two stop signs -/
  | segment (text : List Char)
  /-- literal text from a stop sign to the end -/
  | openSegment (text : List Char)
  /-- a directive sign and one digit -/
  | singleDigit (slot : Slot) (digit : Char)
  /-- a directive sign and digits in brackets -/
  | bracketed (slot : Slot) (digits : List Char)
  /-- a directive sign that introduces nothing -/
  | loneSign (slot : Slot)
deriving DecidableEq

inductive Meaning where
  | literal (text : List Char)
  | directive (slot : Slot) (digits : List Char)
deriving DecidableEq

inductive BracketFault where
  | unterminated
  | notNumber (content : List Char)
deriving DecidableEq

namespace Signs

def directiveSign (signs : Signs) : Slot → Char
  | .foreground => signs.fore
  | .background => signs.back

def slot? (signs : Signs) (character : Char) : Option Slot :=
  if character = signs.fore then some .foreground
  else if character = signs.back then some .background
  else none

theorem eq_directiveSign_of_slot? {signs : Signs} {character : Char} {slot : Slot}
    (found : signs.slot? character = some slot) : character = signs.directiveSign slot := by
  unfold slot? at found
  split at found
  · injection found with same
    subst same
    assumption
  · split at found
    · injection found with same
      subst same
      assumption
    · contradiction

end Signs

namespace Construct

def source (signs : Signs) : Construct → List Char
  | ordinary character => [character]
  | finalStop => [signs.stop]
  | doubledStop => [signs.stop, signs.stop]
  | segment text => signs.stop :: (text ++ [signs.stop])
  | openSegment text => signs.stop :: text
  | singleDigit slot digit => [signs.directiveSign slot, digit]
  | bracketed slot digits =>
    signs.directiveSign slot :: signs.openBracket :: (digits ++ [signs.closeBracket])
  | loneSign slot => [signs.directiveSign slot]

def width : Construct → Nat
  | ordinary _ => 1
  | finalStop => 1
  | doubledStop => 2
  | segment text => text.length + 2
  | openSegment text => text.length + 1
  | singleDigit _ _ => 2
  | bracketed _ digits => digits.length + 3
  | loneSign _ => 1

@[simp] theorem length_source (signs : Signs) (construct : Construct) :
    (construct.source signs).length = construct.width := by
  cases construct <;> simp [source, width]

theorem width_pos (construct : Construct) : 0 < construct.width := by
  cases construct <;> simp [width]

def meaning (signs : Signs) : Construct → Meaning
  | ordinary character => .literal [character]
  | finalStop => .literal [signs.stop]
  | doubledStop => .literal [signs.stop]
  | segment text => .literal text
  | openSegment text => .literal text
  | singleDigit slot digit => .directive slot [digit]
  | bracketed slot digits => .directive slot digits
  | loneSign slot => .literal [signs.directiveSign slot]

def afterStop (signs : Signs) : List Char → Construct × List Char
  | [] => (finalStop, [])
  | second :: rest =>
    if second = signs.stop then (doubledStop, rest)
    else
      match (second :: rest).dropWhile (· != signs.stop) with
      | [] => (openSegment (second :: rest), [])
      | _ :: after => (segment ((second :: rest).takeWhile (· != signs.stop)), after)

def bracketContent (slot : Slot) (content after : List Char) :
    Except BracketFault (Construct × List Char) :=
  if content ≠ [] ∧ content.all Text.isPlainDigit then .ok (bracketed slot content, after)
  else .error (.notNumber content)

def afterBracket (signs : Signs) (slot : Slot) (inside : List Char) :
    Except BracketFault (Construct × List Char) :=
  match inside.dropWhile (· != signs.closeBracket) with
  | [] => .error .unterminated
  | _ :: after =>
    bracketContent slot (inside.takeWhile (· != signs.closeBracket)) after

/-- Reads the construct that begins with a directive sign. An opening bracket at the end of the
text opens nothing. -/
def afterDirectiveSign (signs : Signs) (slot : Slot) :
    List Char → Except BracketFault (Construct × List Char)
  | [] => .ok (loneSign slot, [])
  | second :: rest =>
    if Text.isPlainDigit second then .ok (singleDigit slot second, rest)
    else if second = signs.openBracket ∧ rest ≠ [] then afterBracket signs slot rest
    else .ok (loneSign slot, second :: rest)

def next (signs : Signs) (first : Char) (rest : List Char) :
    Except BracketFault (Construct × List Char) :=
  if first = signs.stop then .ok (afterStop signs rest)
  else
    match signs.slot? first with
    | some slot => afterDirectiveSign signs slot rest
    | none => .ok (ordinary first, rest)

theorem span_sign {inside after : List Char} {sign found : Char}
    (tail : inside.dropWhile (· != sign) = found :: after) :
    inside = inside.takeWhile (· != sign) ++ sign :: after := by
  have split : inside.takeWhile (· != sign) ++ inside.dropWhile (· != sign) = inside :=
    List.takeWhile_append_dropWhile
  have head : found = sign := by
    have stopped := List.head_dropWhile_not (· != sign) (l := inside) (by simp [tail])
    simpa [tail] using stopped
  rw [tail, head] at split
  exact split.symm

theorem source_afterStop (signs : Signs) (rest : List Char) :
    (afterStop signs rest).1.source signs ++ (afterStop signs rest).2 = signs.stop :: rest := by
  unfold afterStop
  split
  · rfl
  · split
    · subst_vars
      rfl
    · split
      · simp [source]
      · rename_i tail
        simp only [source, List.cons_append, List.append_assoc, List.nil_append]
        rw [← span_sign tail]

theorem source_afterBracket {signs : Signs} {slot : Slot} {inside after : List Char}
    {construct : Construct}
    (success : afterBracket signs slot inside = .ok (construct, after)) :
    construct.source signs ++ after
      = signs.directiveSign slot :: signs.openBracket :: inside := by
  unfold afterBracket at success
  split at success
  · contradiction
  · rename_i tail
    unfold bracketContent at success
    split at success
    · injection success with pair
      injection pair with same rest
      subst same rest
      simp only [source, List.cons_append, List.append_assoc, List.nil_append]
      rw [← span_sign tail]
    · contradiction

theorem source_next {signs : Signs} {first : Char} {rest after : List Char} {construct : Construct}
    (success : next signs first rest = .ok (construct, after)) :
    construct.source signs ++ after = first :: rest := by
  unfold next at success
  split at success
  · rename_i isStop
    injection success with pair
    have whole := source_afterStop signs rest
    rw [pair] at whole
    rw [isStop]
    exact whole
  · split at success
    · rename_i slot found
      have sign := Signs.eq_directiveSign_of_slot? found
      unfold afterDirectiveSign at success
      split at success
      · injection success with pair
        injection pair with same empty
        subst same empty
        simp [source, sign]
      · split at success
        · injection success with pair
          injection pair with same left
          subst same left
          simp [source, sign]
        · split at success
          · rename_i bracket
            have whole := source_afterBracket success
            rw [whole, sign, bracket.1]
          · injection success with pair
            injection pair with same left
            subst same left
            simp [source, sign]
    · injection success with pair
      injection pair with same left
      subst same left
      rfl

theorem length_next_lt {signs : Signs} {first : Char} {rest after : List Char}
    {construct : Construct} (success : next signs first rest = .ok (construct, after)) :
    after.length < (first :: rest).length := by
  have total := congrArg List.length (source_next success)
  have positive := construct.width_pos
  simp only [List.length_append, length_source] at total
  omega

end Construct

/-- The constructs of a text up to its end or to the first faulty bracket, which has the text
left from its directive sign on. -/
structure Reading where
  constructs : List Construct
  fault : Option BracketFault

namespace Reading

/-- The constructs read before, last first, and those of the text. -/
def continued (signs : Signs) (before : List Construct) (text : List Char) : Reading :=
  match text with
  | [] => { constructs := before.reverse, fault := none }
  | first :: rest =>
    match _step : Construct.next signs first rest with
    | .ok (construct, after) => continued signs (construct :: before) after
    | .error fault => { constructs := before.reverse, fault := some fault }
termination_by text.length
decreasing_by exact Construct.length_next_lt _step

def ofText (signs : Signs) (text : List Char) : Reading :=
  continued signs [] text

theorem continued_before (signs : Signs) (before : List Construct) (text : List Char) :
    continued signs before text =
      { constructs := before.reverse ++ (ofText signs text).constructs
        fault := (ofText signs text).fault } := by
  have general : ∀ (length : Nat) (text : List Char) (before : List Construct),
      text.length ≤ length →
      continued signs before text =
        { constructs := before.reverse ++ (continued signs [] text).constructs
          fault := (continued signs [] text).fault } := by
    intro length
    induction length with
    | zero =>
      intro text before short
      have empty : text = [] := List.eq_nil_of_length_eq_zero (by omega)
      subst empty
      simp [continued]
    | succ length ih =>
      intro text before short
      cases text with
      | nil => simp [continued]
      | cons first rest =>
        rw [continued, continued]
        split
        · rename_i construct after step
          have shorter := Construct.length_next_lt step
          have fits : after.length ≤ length := by omega
          rw [ih after (construct :: before) fits, ih after [construct] fits]
          simp
        · simp
  exact general text.length text before (Nat.le_refl _)

@[simp] theorem ofText_nil (signs : Signs) :
    ofText signs [] = { constructs := [], fault := none } := by
  simp [ofText, continued]

theorem ofText_cons_ok {signs : Signs} {first : Char} {rest after : List Char}
    {construct : Construct} (step : Construct.next signs first rest = .ok (construct, after)) :
    ofText signs (first :: rest) =
      { constructs := construct :: (ofText signs after).constructs
        fault := (ofText signs after).fault } := by
  rw [ofText, continued]
  split
  · rename_i construct' after' step'
    rw [step] at step'
    injection step' with pair
    injection pair with same left
    subst same left
    rw [continued_before]
    rfl
  · rename_i fault step'
    rw [step] at step'
    contradiction

theorem ofText_cons_error {signs : Signs} {first : Char} {rest : List Char} {fault : BracketFault}
    (step : Construct.next signs first rest = .error fault) :
    ofText signs (first :: rest) = { constructs := [], fault := some fault } := by
  rw [ofText, continued]
  split
  · rename_i construct' after' step'
    rw [step] at step'
    contradiction
  · rename_i fault' step'
    rw [step] at step'
    injection step' with same
    subst same
    rfl

end Reading

end ColorMarkup
