import ColorMarkup.Proofs.Script

/-!
Texts made for given calls. Any characters and any colors of a list can be spelled out so that a
scan plays back exactly these calls: each piece of the text ends by itself, whatever follows it. So
every text can be escaped, signs included.
-/

namespace ColorMarkup

/-- A call that a text is to bring about. The index of a color may be given leading zeros. -/
inductive Wanted (colors : List Color) where
  | write (character : Char)
  | recolor (slot : Slot) (zeros : Nat) (index : Fin colors.length)

def numeral (zeros index : Nat) : List Char :=
  List.replicate zeros '0' ++ (toString index).toList

def escape (signs : Signs) (character : Char) : List Char :=
  if character = signs.stop then [signs.stop, signs.stop]
  else [signs.stop, character, signs.stop]

theorem plainValue_numeral (zeros index : Nat) : Text.plainValue (numeral zeros index) = index := by
  rw [numeral, plainValue_zeros, plainValue_toString]

theorem numeral_ne_nil (zeros index : Nat) : numeral zeros index ≠ [] := by
  simp [numeral, Nat.toString_eq_repr, Nat.toList_repr, Nat.toDigits_ne_nil]

theorem isPlainDigit_of_mem_numeral {zeros index : Nat} {digit : Char}
    (member : digit ∈ numeral zeros index) : Text.isPlainDigit digit :=
  isPlainDigit_of_mem_zeros (fun _ => isPlainDigit_of_mem_toString) zeros digit member

namespace Wanted

variable {colors : List Color}

def event : Wanted colors → Event
  | write character => .write [character]
  | recolor slot _ index => .recolor slot (some colors[index])

def spelling (signs : Signs) : Wanted colors → List Char
  | write character => escape signs character
  | recolor slot zeros index =>
    signs.directiveSign slot :: signs.openBracket :: (numeral zeros index ++ [signs.closeBracket])

def construct (signs : Signs) : Wanted colors → Construct
  | write character => if character = signs.stop then .doubledStop else .segment [character]
  | recolor slot zeros index => .bracketed slot (numeral zeros index)

theorem heads (signs : Signs) (wanted : Wanted colors) (rest : List Char) :
    (wanted.construct signs).Heads signs (wanted.spelling signs ++ rest) rest := by
  cases wanted with
  | write character =>
    by_cases isStop : character = signs.stop
    · simp only [construct, spelling, escape, if_pos isStop]
      exact .doubledStop
    · simp only [construct, spelling, escape, if_neg isStop]
      have absent : signs.stop ∉ [character] := by simpa using Ne.symm isStop
      exact .segment (by simp) absent
  | recolor slot zeros index =>
    simp only [construct, spelling, List.cons_append, List.append_assoc]
    exact .bracketed (numeral_ne_nil zeros index) fun digit => isPlainDigit_of_mem_numeral

theorem supplied (signs : Signs) (bounded : colors.length ≤ longestList) (wanted : Wanted colors) :
    (wanted.construct signs).missing? signs colors = none := by
  cases wanted with
  | write character =>
    simp only [construct]
    split <;> rfl
  | recolor slot zeros index =>
    apply (Construct.missing?_of_directive rfl).mpr
    rw [resolveDigits_ok_iff bounded fun digit => isPlainDigit_of_mem_numeral, plainValue_numeral]
    exact index.isLt

theorem events_construct (signs : Signs) (wanted : Wanted colors) :
    (wanted.construct signs).events signs colors = [wanted.event] := by
  cases wanted with
  | write character =>
    by_cases isStop : character = signs.stop
    · simp [construct, isStop, Construct.events, Construct.meaning, event, Event.ofText]
    · simp [construct, isStop, Construct.events, Construct.meaning, event, Event.ofText]
  | recolor slot zeros index =>
    simp [construct, Construct.events, Construct.meaning, plainValue_numeral, event]

end Wanted

section

variable {colors : List Color}

theorem Script.ofText_spelling (signs : Signs) (bounded : colors.length ≤ longestList)
    (wanted : List (Wanted colors)) :
    (ofText signs colors (wanted.flatMap (Wanted.spelling signs))).events = wanted.map Wanted.event
      ∧ (ofText signs colors (wanted.flatMap (Wanted.spelling signs))).error = none := by
  induction wanted with
  | nil => simp
  | cons first rest ih =>
    have heads := first.heads signs (rest.flatMap (Wanted.spelling signs))
    rw [List.flatMap_cons, ofText_of_heads heads (first.supplied signs bounded)]
    constructor
    · simp [preceded, Wanted.events_construct, ih.1]
    · simp [preceded, ih.2]

end

/-- The text that spells out calls is rendered to its end, and it is played as exactly these calls.
In particular every literal text can be escaped, so that it is written as it is and no color
changes. -/
theorem spelled_calls_are_played (signs : Signs) (colors : List Color)
    (bounded : colors.length ≤ longestList) :
    (∀ wanted : List (Wanted colors),
      let run := record signs colors (wanted.flatMap (Wanted.spelling signs))
      let events := wanted.map Wanted.event
      run.state.events = events
        ∧ run.result = .ok {
            written := (Event.textOf events).length
            directives := (Event.changesOf events).length })
      ∧ ∀ literal : List Char,
        let run := record signs colors (literal.flatMap (escape signs))
        run.state.events = Event.ofText literal
          ∧ run.result = .ok { written := literal.length } := by
  have spelled : ∀ wanted : List (Wanted colors),
      let run := record signs colors (wanted.flatMap (Wanted.spelling signs))
      let events := wanted.map Wanted.event
      run.state.events = events
        ∧ run.result = .ok {
            written := (Event.textOf events).length
            directives := (Event.changesOf events).length } := by
    intro wanted
    obtain ⟨events, result⟩ := record_eq signs colors (wanted.flatMap (Wanted.spelling signs))
    obtain ⟨played, ended⟩ := Script.ofText_spelling signs bounded wanted
    refine ⟨events.trans played, ?_⟩
    rw [result, Script.outcome, played, ended]
  refine ⟨spelled, ?_⟩
  intro literal
  -- A literal text is the case of calls that all write.
  let wanted : List (Wanted colors) := literal.map .write
  have characters : wanted.flatMap (Wanted.spelling signs) = literal.flatMap (escape signs) := by
    rw [List.flatMap_map]
    rfl
  have written : wanted.map Wanted.event = Event.ofText literal := by
    rw [List.map_map]
    rfl
  obtain ⟨events, result⟩ := spelled wanted
  rw [written, Event.textOf_ofText, Event.changesOf_ofText] at result
  rw [characters] at events result
  exact ⟨events.trans written, result⟩

/-- Stop signs next to each other, a directive sign, a bracket and an index with zeros before it. -/
theorem spelled_calls_are_played_between_stops :
    let text := ['~', '~', '~', '%', '~', '~', '~', '&', '\x7b', '0', '0', '0', '\x7d',
      '~', '\x7d', '~']
    [Color.red].length ≤ longestList
      ∧ (record Signs.standard [.red] text).state.events
        = [.write ['~'], .write ['%'], .write ['~'], .recolor .background (some .red),
            .write ['\x7d']]
      ∧ (record Signs.standard [.red] ['~', '%', '~', '~', '0', '~', '~', '~']).state.events
        = [.write ['%'], .write ['0'], .write ['~']] := by
  intro text
  have bounded : [Color.red].length ≤ longestList := by decide
  let wanted : List (Wanted [Color.red]) := [.write '~', .write '%', .write '~',
    .recolor .background 2 ⟨0, Nat.one_pos⟩, .write '\x7d']
  have spelling : wanted.flatMap (Wanted.spelling Signs.standard) = text := by decide +kernel
  obtain ⟨spelled, escaped⟩ := spelled_calls_are_played Signs.standard [.red] bounded
  refine ⟨bounded, ?_, (escaped ['%', '0', '~']).1⟩
  rw [← spelling]
  exact (spelled wanted).1

end ColorMarkup
