import ColorMarkup.Proofs.Truncation

/-!
One text scanned with several lists of colors. Colors behind the others only let a scan get further,
other colors only take the places of those they replace, and how a scan ends is decided by the number
of colors alone.
-/

namespace ColorMarkup

def Event.repainted (change : Color → Color) : Event → Event
  | write piece => write piece
  | recolor slot color => recolor slot (color.map change)

variable {signs : Signs} {colors : List Color} {text rest : List Char} {construct : Construct}

namespace Event

theorem textOf_repainted (change : Color → Color) (events : List Event) :
    textOf (events.map (repainted change)) = textOf events := by
  induction events with
  | nil => rfl
  | cons event others ih =>
    cases event <;> simpa [textOf, repainted] using ih

theorem length_changesOf_repainted (change : Color → Color) (events : List Event) :
    (changesOf (events.map (repainted change))).length = (changesOf events).length := by
  induction events with
  | nil => rfl
  | cons event others ih =>
    cases event <;> simpa [changesOf, repainted, isWrite] using ih

theorem ofText_repainted (change : Color → Color) (written : List Char) :
    (ofText written).map (repainted change) = ofText written := by
  simp [ofText, repainted]

end Event

theorem resolveDigits_map (change : Color → Color) (colors : List Color) (digits : List Char)
    (position : Int) : resolveDigits (colors.map change) digits position
      = (resolveDigits colors digits position).map fun found => (found.1, change found.2) := by
  unfold resolveDigits
  by_cases long : indexDigitLimit < (significant digits).length
  · simp only [if_pos long]
    rfl
  · simp only [if_neg long, resolveIndex, List.getElem?_map]
    cases colors[(Int.ofNat (Text.plainValue (significant digits))).toNat]? <;> simp [Except.map]

theorem resolveDigits_append {digits : List Char} {position : Int} {found : Nat × Color}
    (resolved : resolveDigits colors digits position = .ok found) (more : List Color) :
    resolveDigits (colors ++ more) digits position = .ok found := by
  obtain ⟨index, color⟩ := found
  obtain ⟨rfl, present⟩ := resolveDigits_ok resolved
  have inside := (List.getElem?_eq_some_iff.mp present).1
  have kept : (colors ++ more)[Text.plainValue digits]? = some color := by
    rw [List.getElem?_append_left inside, present]
  unfold resolveDigits at resolved ⊢
  by_cases long : indexDigitLimit < (significant digits).length
  · simp [long] at resolved
  · simp only [if_neg long, plainValue_significant, resolveIndex_eq_ok.mpr kept, Except.map]

namespace Construct

theorem missing?_map (change : Color → Color) (signs : Signs) (colors : List Color)
    (construct : Construct) :
    construct.missing? signs (colors.map change) = construct.missing? signs colors := by
  unfold missing?
  cases construct.meaning signs with
  | literal written => rfl
  | directive slot digits =>
    simp only [resolveDigits_map]
    cases resolveDigits colors digits 0 <;> rfl

theorem events_map (change : Color → Color) (signs : Signs) (colors : List Color)
    (construct : Construct) : construct.events signs (colors.map change)
      = (construct.events signs colors).map (Event.repainted change) := by
  unfold events
  cases construct.meaning signs with
  | literal written => exact (Event.ofText_repainted change written).symm
  | directive slot digits =>
    simp only [List.getElem?_map]
    cases colors[Text.plainValue digits]? <;> rfl

theorem supplied_append (supplied : construct.missing? signs colors = none) (more : List Color) :
    construct.missing? signs (colors ++ more) = none
      ∧ construct.events signs (colors ++ more) = construct.events signs colors
      ∧ construct.notices signs (colors ++ more) = construct.notices signs colors := by
  unfold events notices
  cases meaning : construct.meaning signs with
  | literal written =>
    refine ⟨?_, rfl, rfl⟩
    simp [missing?, meaning]
  | directive slot digits =>
    obtain ⟨⟨index, color⟩, resolved⟩ := (missing?_of_directive meaning).mp supplied
    have further := resolveDigits_append resolved more
    refine ⟨(missing?_of_directive meaning).mpr ⟨_, further⟩, ?_, ?_⟩
    · simp only [(resolveDigits_ok resolved).2, (resolveDigits_ok further).2]
    · simp only [(resolveDigits_ok resolved).2, (resolveDigits_ok further).2]

end Construct

namespace Script

theorem ofText_map (change : Color → Color) (signs : Signs) (colors : List Color)
    (text : List Char) :
    (ofText signs (colors.map change) text).events
        = (ofText signs colors text).events.map (Event.repainted change)
      ∧ (ofText signs (colors.map change) text).error = (ofText signs colors text).error := by
  induction text using reading_induction signs with
  | nil => simp
  | @more construct text rest heads ih =>
    have alike := Construct.missing?_map change signs colors construct
    cases missing : construct.missing? signs colors with
    | some error =>
      rw [ofText_of_missing heads missing, ofText_of_missing heads (alike.trans missing)]
      exact ⟨rfl, rfl⟩
    | none =>
      obtain ⟨events, error⟩ := ih
      rw [ofText_of_heads heads missing, ofText_of_heads heads (alike.trans missing)]
      simp [preceded, Construct.events_map, events, error]
  | faulty faulty =>
    rw [ofText_of_faulty faulty, ofText_of_faulty faulty]
    exact ⟨rfl, rfl⟩

theorem outcome_map (change : Color → Color) (signs : Signs) (colors : List Color)
    (text : List Char) :
    (ofText signs (colors.map change) text).outcome = (ofText signs colors text).outcome := by
  obtain ⟨events, error⟩ := ofText_map change signs colors text
  simp only [outcome, events, error, Event.textOf_repainted, Event.length_changesOf_repainted]

theorem outcome_of_length {others : List Color} (length : others.length = colors.length)
    (signs : Signs) (text : List Char) :
    (ofText signs others text).outcome = (ofText signs colors text).outcome := by
  -- Painted over in one color, lists of one length are the same list.
  let plain : Color → Color := fun _ => .black
  have painted : others.map plain = colors.map plain := by
    rw [List.map_const', List.map_const', length]
  rw [← outcome_map plain signs others text, painted, outcome_map]

/-- What more colors make of a script: nothing else, or if it lacks a color, a script that goes on. -/
inductive Extends (script : Script) : Script → Prop
  | same : Extends script script
  | further {error longer} : script.error = some error → error.kind = .indexOutOfRange →
      script.events <+: longer.events →
      (∀ later, longer.error = some later → error.position ≤ later.position) →
      Extends script longer

theorem Extends.preceded {script longer : Script} (extended : script.Extends longer) :
    (script.preceded signs colors construct).Extends (longer.preceded signs colors construct) := by
  cases extended with
  | same => exact .same
  | @further error _ stopped kind events behind =>
    refine .further (congrArg (Option.map _) stopped) kind ?_ ?_
    · exact (List.prefix_append_right_inj _).mpr events
    · intro later found
      obtain ⟨inner, ended, rfl⟩ := Option.map_eq_some_iff.mp found
      have order := behind inner ended
      simp only [FormatError.shift]
      omega

theorem ofText_extends (signs : Signs) (colors more : List Color) (text : List Char) :
    (ofText signs colors text).Extends (ofText signs (colors ++ more) text) := by
  induction text using reading_induction signs with
  | nil =>
    rw [ofText_nil, ofText_nil]
    exact .same
  | @more construct text rest heads ih =>
    cases missing : construct.missing? signs colors with
    | some error =>
      obtain ⟨_, _, _, refused⟩ := Construct.missing?_eq_some_iff.mp missing
      rw [ofText_of_missing heads missing]
      refine .further rfl (resolveDigits_error refused).2 List.nil_prefix ?_
      intro later found
      rw [Construct.position_of_missing missing]
      exact position_nonneg found
    | none =>
      obtain ⟨supplied, events, notices⟩ := Construct.supplied_append missing more
      have alike : (ofText signs (colors ++ more) rest).preceded signs (colors ++ more) construct
          = (ofText signs (colors ++ more) rest).preceded signs colors construct := by
        simp only [preceded, events, notices]
      rw [ofText_of_heads heads missing, ofText_of_heads heads supplied, alike]
      exact ih.preceded
  | faulty faulty =>
    rw [ofText_of_faulty faulty, ofText_of_faulty faulty]
    exact .same

end Script

/-- With more colors a scan does the same, unless it lacks one: then it does at least as much as
before, and what fails lies no earlier. The outcome is the same for all lists of one length, and
other colors change the colors of the events and nothing else. -/
theorem scan_with_other_colors (signs : Signs) (colors : List Color) (text : List Char) :
    ∃ outcome, (record signs colors text).result = .ok outcome
      ∧ (∀ more, ∃ other, (record signs (colors ++ more) text).result = .ok other
        ∧ ((∀ error, outcome.error = some error → error.kind ≠ .indexOutOfRange) →
          (record signs (colors ++ more) text).state.events = (record signs colors text).state.events
            ∧ other = outcome)
        ∧ ∀ error, outcome.error = some error → error.kind = .indexOutOfRange →
          (record signs colors text).state.events
              <+: (record signs (colors ++ more) text).state.events
            ∧ ∀ later, other.error = some later → error.position ≤ later.position)
      ∧ (∀ others, others.length = colors.length → (record signs others text).result = .ok outcome)
      ∧ ∀ change, (record signs (colors.map change) text).state.events
          = (record signs colors text).state.events.map (Event.repainted change) := by
  refine ⟨_, (record_eq signs colors text).2, ?_, ?_, ?_⟩
  · intro more
    refine ⟨_, (record_eq signs (colors ++ more) text).2, ?_⟩
    rw [(record_eq signs colors text).1, (record_eq signs (colors ++ more) text).1]
    have extended := Script.ofText_extends signs colors more text
    generalize Script.ofText signs colors text = script at extended ⊢
    generalize Script.ofText signs (colors ++ more) text = longer at extended ⊢
    cases extended with
    | same =>
      refine ⟨fun _ => ⟨rfl, rfl⟩, ?_⟩
      intro error stopped _
      refine ⟨List.prefix_rfl, ?_⟩
      intro later found
      exact Int.le_of_eq
        (congrArg FormatError.position (Option.some.inj (stopped.symm.trans found)))
    | @further error _ stopped kind events behind =>
      refine ⟨fun other => absurd kind (other error stopped), ?_⟩
      intro first found _
      rw [← Option.some.inj (stopped.symm.trans found)]
      exact ⟨events, behind⟩
  · intro others length
    rw [(record_eq signs others text).2, Script.outcome_of_length length]
  · intro change
    rw [(record_eq signs _ text).1, (record_eq signs colors text).1]
    exact (Script.ofText_map change signs colors text).1

/-- The second directive lacks a color. Another color in the place of the first is shown instead, and
the same directive lacks one. -/
theorem scan_with_other_colors_longer :
    let text := ['%', '0', 'a', '&', '1', 'b', '%', '\x7b', 'x', '\x7d']
    (record Signs.standard [.red] text).state.events
        <+: (record Signs.standard [.red, .blue] text).state.events
      ∧ (record Signs.standard [.green] text).state.events
          = [.recolor .foreground (some .green), .write ['a']]
      ∧ (record Signs.standard [.green] text).result
          = .ok { written := 1, directives := 1
                  error := some { kind := .indexOutOfRange, position := 3, index := some 1 } } := by
  intro text
  have script : (Script.ofText Signs.standard [.red] text).events
        = [.recolor .foreground (some .red), .write ['a']]
      ∧ (Script.ofText Signs.standard [.red] text).outcome
        = { written := 1, directives := 1
            error := some { kind := .indexOutOfRange, position := 3, index := some 1 } } := by
    decide +kernel
  obtain ⟨outcome, ended, longer, sameLength, repainted⟩ :=
    scan_with_other_colors Signs.standard [.red] text
  rw [(record_eq _ _ _).2, script.2] at ended
  injection ended with same
  subst same
  obtain ⟨_, _, _, lacking⟩ := longer [.blue]
  have green := repainted fun _ => .green
  rw [(record_eq Signs.standard [.red] text).1, script.1] at green
  exact ⟨(lacking _ rfl rfl).1, green, sameLength [.green] rfl⟩

end ColorMarkup
