import ColorMarkup.Proofs.Decomposition

/-!
Texts put one after the other. A scan of both does what a scan of each does, one after the other,
unless the first text has an open end: one that turns into something else when more text follows.
A text that fails stays as it is, whatever follows that does not close its bracket.
-/

namespace ColorMarkup

/-- The last constructs of a text if more text would turn them into something else. -/
inductive OpenEnding (signs : Signs) : List Construct → Prop
  | finalStop : OpenEnding signs [.finalStop]
  | openSegment {text} : OpenEnding signs [.openSegment text]
  | loneSign {slot} : OpenEnding signs [.loneSign slot]
  | openBracket {slot} : OpenEnding signs [.loneSign slot, .ordinary signs.openBracket]

def EndsOpen (signs : Signs) (constructs : List Construct) : Prop :=
  ∃ ending, OpenEnding signs ending ∧ ending <:+ constructs

def Construct.TouchesEnd (signs : Signs) (rest : List Char) : Construct → Prop
  | finalStop => True
  | openSegment _ => True
  | loneSign _ => rest = [] ∨ rest = [signs.openBracket]
  | _ => False

variable {signs : Signs} {colors : List Color} {construct : Construct} {text rest more : List Char}

theorem Signs.openBracket_ne_closeBracket (signs : Signs) :
    signs.openBracket ≠ signs.closeBracket := by
  have distinct := signs.distinct
  simp only [PerSign.toList, List.nodup_cons, List.mem_singleton] at distinct
  exact distinct.2.2.2.1

theorem Construct.TouchesEnd.of_final (final : construct.Final) : construct.TouchesEnd signs rest := by
  cases construct with
  | finalStop => trivial
  | openSegment _ => trivial
  | _ => exact final.elim

namespace Construct.Heads

theorem of_openBracket (signs : Signs) (rest : List Char) :
    Construct.Heads signs (.ordinary signs.openBracket) (signs.openBracket :: rest) rest := by
  have distinct := signs.distinct
  simp only [PerSign.toList, List.nodup_cons, List.mem_cons, not_or] at distinct
  exact .ordinary (Ne.symm distinct.1.2.2.1) (Ne.symm distinct.2.1.2.1) (Ne.symm distinct.2.2.1.1)

theorem of_digit (signs : Signs) {digit : Char} (plain : Text.isPlainDigit digit) (rest : List Char) :
    Construct.Heads signs (.ordinary digit) (digit :: rest) rest := by
  have noSign : ∀ sign ∈ signs.toList, digit ≠ sign := by
    rintro sign member rfl
    simp [signs.noDigit _ member] at plain
  simp only [PerSign.toList, List.mem_cons, List.not_mem_nil, or_false, forall_eq_or_imp] at noSign
  exact .ordinary noSign.1 noSign.2.1 noSign.2.2.1

theorem rest_of_touchesEnd (heads : construct.Heads signs text rest)
    (touches : construct.TouchesEnd signs rest) : rest = [] ∨ rest = [signs.openBracket] := by
  cases heads with
  | finalStop => exact .inl rfl
  | openSegment _ _ => exact .inl rfl
  | loneSign _ => exact touches
  | _ => exact touches.elim

theorem append (heads : construct.Heads signs text rest)
    (settled : ¬construct.TouchesEnd signs rest) (more : List Char) :
    construct.Heads signs (text ++ more) (rest ++ more) := by
  rw [← heads.source_append, List.append_assoc]
  apply heads.before
  · intro final
    exact absurd (.of_final final) settled
  · rintro slot rfl introduces
    simp only [TouchesEnd, not_or] at settled
    cases rest with
    | nil => exact absurd rfl settled.1
    | cons second inside =>
      rcases introduces with digit | ⟨bracket, _⟩
      · exact .inl digit
      · refine .inr ⟨bracket, ?_⟩
        rintro rfl
        exact settled.2 (by rw [bracket])

end Construct.Heads

namespace Reading

theorem splits (sound : (ofText signs text).fault = none) :
    Splits signs text (ofText signs text).constructs [] := by
  induction text using reading_induction signs with
  | nil =>
    rw [ofText_nil]
    exact .done
  | more heads ih =>
    rw [ofText_of_heads heads] at sound ⊢
    exact .more heads (ih sound)
  | faulty heads =>
    rw [ofText_of_faulty heads] at sound
    contradiction

theorem text_of_constructs {constructs : List Construct} (sound : (ofText signs text).fault = none)
    (read : (ofText signs text).constructs = constructs) :
    text = constructs.flatMap (Construct.source signs) := by
  have whole := (splits sound).flatMap_source
  rw [read, List.append_nil] at whole
  exact whole.symm

theorem endsOpen_iff (heads : construct.Heads signs text rest)
    (sound : (ofText signs rest).fault = none) :
    EndsOpen signs (ofText signs text).constructs
      ↔ construct.TouchesEnd signs rest ∨ EndsOpen signs (ofText signs rest).constructs := by
  rw [ofText_of_heads heads]
  constructor
  · rintro ⟨ending, isOpen, suffix⟩
    rcases List.suffix_cons_iff.mp suffix with whole | later
    · left
      cases isOpen with
      | finalStop =>
        rw [← (List.cons.inj whole).1]
        exact trivial
      | openSegment =>
        rw [← (List.cons.inj whole).1]
        exact trivial
      | loneSign =>
        rw [← (List.cons.inj whole).1]
        exact .inl (text_of_constructs sound (List.cons.inj whole).2.symm)
      | openBracket =>
        rw [← (List.cons.inj whole).1]
        exact .inr (text_of_constructs sound (List.cons.inj whole).2.symm)
    · exact .inr ⟨ending, isOpen, later⟩
  · rintro (touches | ⟨ending, isOpen, suffix⟩)
    · cases heads with
      | finalStop =>
        refine ⟨_, .finalStop, ?_⟩
        simp
      | @openSegment inside _ _ =>
        refine ⟨[.openSegment inside], .openSegment, ?_⟩
        simp
      | @loneSign slot _ _ =>
        rcases touches with rfl | rfl
        · refine ⟨[.loneSign slot], .loneSign, ?_⟩
          simp
        · refine ⟨[.loneSign slot, .ordinary signs.openBracket], .openBracket, ?_⟩
          rw [ofText_of_heads (.of_openBracket signs [])]
          simp
      | _ => exact touches.elim
    · exact ⟨ending, isOpen, suffix.trans (List.suffix_cons _ _)⟩

end Reading

namespace Script

def followed (script next : Script) : Script where
  events := script.events ++ next.events
  reach := script.reach + next.reach
  error := next.error.map (FormatError.shift script.reach)
  notices := script.notices ++ next.notices.map (Notice.shift script.reach)

theorem followed_of_nothing (next : Script) : followed {} next = next := by
  simp [followed, FormatError.shift_zero, Notice.shift_zero]

theorem preceded_followed (construct : Construct) (script next : Script) :
    (script.preceded signs colors construct).followed next
      = (script.followed next).preceded signs colors construct := by
  simp [followed, preceded, Function.comp_def, FormatError.shift_shift, Notice.shift_shift,
    Nat.add_assoc]

theorem fault_of_ofConstructs {fault : Option BracketFault} {constructs : List Construct}
    (ended : (ofConstructs signs colors fault constructs).error = none) : fault = none := by
  induction constructs with
  | nil =>
    cases fault with
    | none => rfl
    | some fault => simp [ofConstructs, failed] at ended
  | cons construct rest ih =>
    simp only [ofConstructs] at ended
    split at ended
    · simp [failed] at ended
    · exact ih (by simpa [preceded] using ended)

theorem fault_of_ended (ended : (ofText signs colors text).error = none) :
    (Reading.ofText signs text).fault = none :=
  fault_of_ofConstructs ended

theorem ended_of_heads (heads : construct.Heads signs text rest)
    (ended : (ofText signs colors text).error = none) :
    construct.missing? signs colors = none ∧ (ofText signs colors rest).error = none := by
  cases missing : construct.missing? signs colors with
  | some error =>
    rw [ofText_of_missing heads missing] at ended
    simp [failed] at ended
  | none =>
    rw [ofText_of_heads heads missing] at ended
    exact ⟨rfl, by simpa [preceded] using ended⟩

theorem not_ended_of_faulty {fault : BracketFault} (heads : fault.Heads signs text) :
    (ofText signs colors text).error ≠ none := by
  simp [ofText_of_faulty heads, failed]

theorem reach_of_ended (ended : (ofText signs colors text).error = none) :
    (ofText signs colors text).reach = text.length := by
  induction text using reading_induction signs with
  | nil => simp
  | more heads ih =>
    obtain ⟨supplied, tail⟩ := ended_of_heads heads ended
    rw [ofText_of_heads heads supplied, heads.length_eq, ← ih tail]
    rfl
  | faulty heads => exact absurd ended (not_ended_of_faulty heads)

theorem ofText_append (ended : (ofText signs colors text).error = none)
    (closed : ¬EndsOpen signs (Reading.ofText signs text).constructs) (more : List Char) :
    ofText signs colors (text ++ more)
      = (ofText signs colors text).followed (ofText signs colors more) := by
  induction text using reading_induction signs with
  | nil => simp [followed_of_nothing]
  | more heads ih =>
    obtain ⟨supplied, tail⟩ := ended_of_heads heads ended
    rw [Reading.endsOpen_iff heads (fault_of_ended tail), not_or] at closed
    rw [ofText_of_heads (heads.append closed.1 more) supplied, ofText_of_heads heads supplied,
      preceded_followed, ih tail closed.2]
  | faulty heads => exact absurd ended (not_ended_of_faulty heads)

theorem ofText_append_of_error {error : FormatError}
    (stopped : (ofText signs colors text).error = some error)
    (unclosed : error.kind = .unterminatedBracket → signs.closeBracket ∉ more) :
    ofText signs colors (text ++ more) = ofText signs colors text := by
  induction text using reading_induction signs generalizing error with
  | nil => simp at stopped
  | @more construct text rest heads ih =>
    cases missing : construct.missing? signs colors with
    | some first =>
      have settled : ¬construct.TouchesEnd signs rest := by
        obtain ⟨slot, digits, directive, _⟩ := Construct.missing?_eq_some_iff.mp missing
        cases construct <;> simp_all [Construct.meaning, Construct.TouchesEnd]
      rw [ofText_of_missing (heads.append settled more) missing, ofText_of_missing heads missing]
    | none =>
      rw [ofText_of_heads heads missing] at stopped
      obtain ⟨inner, found, rfl⟩ := Option.map_eq_some_iff.mp stopped
      have settled : ¬construct.TouchesEnd signs rest := by
        intro touches
        rcases heads.rest_of_touchesEnd touches with rfl | rfl
        · simp at found
        · rw [ofText_of_heads (.of_openBracket signs []) rfl] at found
          simp [preceded] at found
      rw [ofText_of_heads (heads.append settled more) missing, ofText_of_heads heads missing,
        ih found unclosed]
  | @faulty fault text heads =>
    rw [ofText_of_faulty heads] at stopped ⊢
    injection stopped with same
    apply ofText_of_faulty
    cases heads with
    | unterminated filled absent =>
      have noBracket : signs.closeBracket ∉ more := unclosed (by rw [← same]; rfl)
      refine .unterminated (by simp [filled]) ?_
      simp [absent, noBracket]
    | notNumber absent noNumber =>
      simp only [List.cons_append, List.append_assoc]
      exact .notNumber absent noNumber

theorem length_events_directive {slot : Slot} {digits : List Char}
    (directive : construct.meaning signs = .directive slot digits) :
    (construct.events signs colors).length ≤ 1 := by
  simp only [Construct.events, directive, List.length_map]
  cases colors[Text.plainValue digits]? <;> simp

theorem length_events_digit (signs : Signs) (colors : List Color) (slot : Slot) (digit : Char)
    (plain : Text.isPlainDigit digit) :
    (ofText signs colors [signs.directiveSign slot, digit]).events.length ≤ 1 := by
  have heads : Construct.Heads signs (.singleDigit slot digit) [signs.directiveSign slot, digit] [] :=
    .singleDigit plain
  cases missing : (Construct.singleDigit slot digit).missing? signs colors with
  | some error =>
    rw [ofText_of_missing heads missing]
    exact Nat.zero_le 1
  | none =>
    rw [ofText_of_heads heads missing]
    have short : ((Construct.singleDigit slot digit).events signs colors).length ≤ 1 :=
      length_events_directive rfl
    simpa [preceded] using short

theorem exists_shorter_of_touchesEnd (heads : construct.Heads signs text rest)
    (touches : construct.TouchesEnd signs rest) : ∃ more,
      (ofText signs colors (text ++ more)).events.length
        < (ofText signs colors text).events.length + (ofText signs colors more).events.length := by
  have bracket := Construct.Heads.of_openBracket signs
  cases heads with
  | finalStop =>
    refine ⟨[signs.stop], ?_⟩
    have doubled : Construct.doubledStop.Heads signs ([signs.stop] ++ [signs.stop]) [] :=
      .doubledStop
    rw [ofText_of_heads doubled rfl, ofText_of_heads .finalStop rfl]
    simp [preceded, Construct.events, Construct.meaning, Event.ofText]
  | @openSegment inside filled absent =>
    refine ⟨[signs.stop], ?_⟩
    have closed : (Construct.segment inside).Heads signs (signs.stop :: inside ++ [signs.stop]) [] :=
      .segment filled absent
    rw [ofText_of_heads closed rfl, ofText_of_heads (.openSegment filled absent) rfl,
      ofText_of_heads .finalStop rfl]
    simp [preceded, Construct.events, Construct.meaning, Event.ofText]
  | @loneSign slot _ introducesNot =>
    rcases touches with rfl | rfl
    · refine ⟨['0'], ?_⟩
      have zero : Construct.Heads signs (.ordinary '0') ['0'] [] := .of_digit signs rfl []
      have short := length_events_digit signs colors slot '0' rfl
      rw [ofText_of_heads (.loneSign introducesNot) rfl, ofText_of_heads zero rfl]
      simp only [preceded, Construct.events, Construct.meaning, Event.ofText, ofText_nil,
        List.map_cons, List.map_nil, List.append_nil, List.length_cons, List.length_nil]
      exact Nat.lt_succ_of_le short
    · refine ⟨[signs.openBracket], ?_⟩
      have unterminated : BracketFault.unterminated.Heads signs
          (signs.directiveSign slot :: [signs.openBracket] ++ [signs.openBracket]) := by
        refine .unterminated (by simp) ?_
        simpa using Ne.symm signs.openBracket_ne_closeBracket
      rw [ofText_of_faulty unterminated, ofText_of_heads (.loneSign introducesNot) rfl,
        ofText_of_heads (bracket []) rfl]
      simp [failed, preceded, Construct.events, Construct.meaning, Event.ofText]
  | _ => exact touches.elim

theorem exists_shorter_of_endsOpen (ended : (ofText signs colors text).error = none)
    (isOpen : EndsOpen signs (Reading.ofText signs text).constructs) : ∃ more,
      (ofText signs colors (text ++ more)).events.length
        < (ofText signs colors text).events.length + (ofText signs colors more).events.length := by
  induction text using reading_induction signs with
  | nil =>
    obtain ⟨ending, shape, suffix⟩ := isOpen
    rw [Reading.ofText_nil, List.suffix_nil] at suffix
    subst suffix
    cases shape
  | @more construct text rest heads ih =>
    obtain ⟨supplied, tail⟩ := ended_of_heads heads ended
    by_cases touches : construct.TouchesEnd signs rest
    · exact exists_shorter_of_touchesEnd heads touches
    · rw [Reading.endsOpen_iff heads (fault_of_ended tail)] at isOpen
      obtain ⟨more, shorter⟩ := ih tail (isOpen.resolve_left touches)
      refine ⟨more, ?_⟩
      rw [ofText_of_heads (heads.append touches more) supplied, ofText_of_heads heads supplied]
      simp only [preceded, List.length_append]
      omega
  | faulty heads => exact absurd ended (not_ended_of_faulty heads)

end Script

/-- A run does what the first and then the second of two other runs do. -/
structure Run.Joins (first second joined : Run Empty Recorder) (distance : Nat) : Prop where
  events : joined.state.events = first.state.events ++ second.state.events
  result : ∃ before after, first.result = .ok before ∧ second.result = .ok after
    ∧ joined.result = .ok {
        error := after.error.map (FormatError.shift distance)
        written := before.written + after.written
        directives := before.directives + after.directives }

theorem joins_of_followed
    (followed : Script.ofText signs colors (text ++ more)
      = (Script.ofText signs colors text).followed (Script.ofText signs colors more))
    (reach : (Script.ofText signs colors text).reach = text.length) :
    Run.Joins (record signs colors text) (record signs colors more)
      (record signs colors (text ++ more)) text.length := by
  obtain ⟨events, ended⟩ := record_eq signs colors text
  obtain ⟨moreEvents, moreEnded⟩ := record_eq signs colors more
  obtain ⟨bothEvents, bothEnded⟩ := record_eq signs colors (text ++ more)
  rw [followed] at bothEvents bothEnded
  constructor
  · rw [bothEvents, events, moreEvents]
    rfl
  · refine ⟨_, _, ended, moreEnded, ?_⟩
    rw [bothEnded]
    simp [Script.outcome, Script.followed, reach, Event.textOf_append, Event.changesOf_append]

/-- A rendered text is joined by every other text exactly if it has no open end. A text that fails
fails alike whatever follows, but a bracket left open must stay open. -/
theorem record_append (signs : Signs) (colors : List Color) (text : List Char) :
    let run := record signs colors text
    ∃ outcome, run.result = .ok outcome
      ∧ (outcome.ok → (¬EndsOpen signs (Reading.ofText signs text).constructs
          ↔ ∀ more, Run.Joins run (record signs colors more) (record signs colors (text ++ more))
              text.length))
      ∧ ∀ error, outcome.error = some error → ∀ more,
          (error.kind = .unterminatedBracket → signs.closeBracket ∉ more) →
          (record signs colors (text ++ more)).state.events = run.state.events
            ∧ (record signs colors (text ++ more)).result = run.result := by
  intro run
  obtain ⟨events, result⟩ := record_eq signs colors text
  refine ⟨_, result, ?_, ?_⟩
  · intro ok
    have ended : (Script.ofText signs colors text).error = none := Option.isNone_iff_eq_none.mp ok
    constructor
    · intro closed more
      exact joins_of_followed (Script.ofText_append ended closed more) (Script.reach_of_ended ended)
    · intro joins isOpen
      obtain ⟨more, shorter⟩ := Script.exists_shorter_of_endsOpen ended isOpen
      have total := congrArg List.length (joins more).events
      rw [(record_eq signs colors (text ++ more)).1, events, (record_eq signs colors more).1,
        List.length_append] at total
      omega
  · intro error stopped more unclosed
    have same := Script.ofText_append_of_error stopped unclosed
    rw [(record_eq signs colors (text ++ more)).1, (record_eq signs colors (text ++ more)).2, same]
    exact ⟨events.symm, result.symm⟩

/-- A bracket at the end opens nothing, but with more text behind it it does. -/
theorem record_append_bracket :
    (Run.Joins (record Signs.standard [.red] ['%', '0']) (record Signs.standard [.red] ['%', '\x7b'])
        (record Signs.standard [.red] ['%', '0', '%', '\x7b']) 2)
      ∧ (¬∀ more, Run.Joins (record Signs.standard [.red] ['%', '\x7b'])
          (record Signs.standard [.red] more) (record Signs.standard [.red] ('%' :: '\x7b' :: more)) 2)
      ∧ (record Signs.standard [.red] ['%', '1', '\x7d']).result
          = (record Signs.standard [.red] ['%', '1']).result := by
  refine ⟨?_, ?_, ?_⟩
  · obtain ⟨outcome, ended, joins, _⟩ := record_append Signs.standard [.red] ['%', '0']
    cases (record_eq _ _ _).2.symm.trans ended
    refine (joins (by decide +kernel)).mp ?_ ['%', '\x7b']
    have read : (Reading.ofText Signs.standard ['%', '0']).constructs
        = [.singleDigit .foreground '0'] := by decide +kernel
    rintro ⟨ending, shape, suffix⟩
    rw [read] at suffix
    cases shape <;> simp [List.suffix_cons_iff] at suffix
  · intro all
    obtain ⟨outcome, ended, joins, _⟩ := record_append Signs.standard [.red] ['%', '\x7b']
    cases (record_eq _ _ _).2.symm.trans ended
    have read : (Reading.ofText Signs.standard ['%', '\x7b']).constructs
        = [.loneSign .foreground, .ordinary '\x7b'] := by decide +kernel
    refine (joins (by decide +kernel)).mpr all
      ⟨[.loneSign .foreground, .ordinary '\x7b'], .openBracket, ?_⟩
    simp [read]
  · obtain ⟨outcome, ended, _, fails⟩ := record_append Signs.standard [.red] ['%', '1']
    cases (record_eq _ _ _).2.symm.trans ended
    have stopped : (Script.ofText Signs.standard [.red] ['%', '1']).outcome.error
        = some { kind := .indexOutOfRange, position := 0, index := some 1 } := by decide +kernel
    exact (fails _ stopped ['\x7d'] (by simp)).2

end ColorMarkup
