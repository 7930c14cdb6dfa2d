import ColorMarkup.Proofs.Boundary

/-!
Which error a scan reports. It reports one exactly if a directive at some boundary of the text cannot
be rendered, and then the error describes the first of these.
-/

namespace ColorMarkup

/-- What an error shows of a text: all of it, or its beginning and its length. -/
inductive Excerpt (text : List Char) : String → Prop
  | whole : text.length ≤ 24 → Excerpt text (String.ofList text)
  | beginning : 24 < text.length →
      Excerpt text
        (String.ofList (text.take 24) ++ "... (" ++ toString text.length ++ " chars)")

/-- An error refers to a missing color: by its index, or by the digits if there are too many. -/
inductive ReportsMissing (place : Int) (index : Nat) : FormatError → Prop
  | number : (toString index).length ≤ 19 →
      ReportsMissing place index
        { kind := .indexOutOfRange, position := place, index := some index }
  | digits {detail} : 19 < (toString index).length → Excerpt (toString index).toList detail →
      ReportsMissing place index { kind := .indexOutOfRange, position := place, detail }

/-- The text at a place begins with a directive sign that cannot be rendered, as the error says. -/
inductive Unrenderable (signs : Signs) (colors : List Color) (place : Int) :
    List Char → FormatError → Prop
  | unterminated {slot inside} : inside ≠ [] → signs.closeBracket ∉ inside →
      Unrenderable signs colors place (signs.directiveSign slot :: signs.openBracket :: inside)
        { kind := .unterminatedBracket, position := place }
  | notNumber {slot content rest detail} : signs.closeBracket ∉ content →
      (content = [] ∨ ∃ character ∈ content, Text.isPlainDigit character = false) →
      Excerpt content detail →
      Unrenderable signs colors place
        (signs.directiveSign slot :: signs.openBracket :: (content ++ signs.closeBracket :: rest))
        { kind := .invalidArgument, position := place, detail }
  | missingDigit {slot digit rest error} : Text.isPlainDigit digit →
      colors.length ≤ Text.plainValue [digit] →
      ReportsMissing place (Text.plainValue [digit]) error →
      Unrenderable signs colors place (signs.directiveSign slot :: digit :: rest) error
  | missingNumber {slot digits rest error} : digits ≠ [] →
      (∀ digit ∈ digits, Text.isPlainDigit digit) → colors.length ≤ Text.plainValue digits →
      ReportsMissing place (Text.plainValue digits) error →
      Unrenderable signs colors place
        (signs.directiveSign slot :: signs.openBracket :: (digits ++ signs.closeBracket :: rest))
        error

/-- The first boundary with a directive that cannot be rendered. -/
structure FirstUnrenderable (signs : Signs) (colors : List Color) (text : List Char) (place : Nat)
    (error : FormatError) : Prop where
  boundary : Boundary signs text place
  fails : Unrenderable signs colors place (text.drop place) error
  first : ∀ earlier < place, Boundary signs text earlier →
    ∀ other, ¬Unrenderable signs colors earlier (text.drop earlier) other

/-- Where an error may point: at a directive sign, and into no construct but a directive that refers
to a missing color. -/
structure PointsAt (signs : Signs) (colors : List Color) (text : List Char) (place : Nat) : Prop where
  sign : ∃ slot, text[place]? = some (signs.directiveSign slot)
  outside : ∀ before construct rest after, Splits signs text before rest →
    Construct.Heads signs construct rest after →
    let start := (before.flatMap (Construct.source signs)).length
    start ≤ place → place < start + construct.width →
      place = start ∧ ∃ index, construct.index? = some index ∧ colors.length ≤ index

/-- What the kind of an error says about its index and its detail. -/
structure FormatError.Consistent (error : FormatError) : Prop where
  index_set : ∀ index, error.index = some index → error.kind = .indexOutOfRange ∧ error.detail = ""
    ∧ ∃ number : Nat, index = number ∧ (toString number).length ≤ 19
  index_unset : error.kind = .indexOutOfRange → error.index = none →
    ∃ number : Nat, 19 < (toString number).length ∧ Excerpt (toString number).toList error.detail
  unterminated : error.kind = .unterminatedBracket → error.detail = ""

variable {signs : Signs} {colors : List Color} {text rest : List Char} {construct : Construct}
  {place : Nat} {error : FormatError}

theorem ofList_shorten_of_long (long : 24 < text.length) :
    String.ofList (FormatError.shorten text)
      = String.ofList (text.take 24) ++ "... (" ++ toString text.length ++ " chars)" := by
  have notShort : ¬text.length ≤ FormatError.detailLimit := Nat.not_le.mpr long
  rw [FormatError.shorten, if_neg notShort]
  simp only [String.ofList_append, String.ofList_toList]
  rfl

theorem excerpt_iff {shown : String} :
    Excerpt text shown ↔ shown = String.ofList (FormatError.shorten text) := by
  constructor
  · intro excerpt
    cases excerpt with
    | whole short => rw [FormatError.shorten_of_le short]
    | beginning long => rw [ofList_shorten_of_long long]
  · rintro rfl
    by_cases short : text.length ≤ 24
    · rw [FormatError.shorten_of_le short]
      exact .whole short
    · have long : 24 < text.length := Nat.not_le.mp short
      rw [ofList_shorten_of_long long]
      exact .beginning long

theorem reportsMissing_iff_of_short {position : Int} {index : Nat}
    (short : (toString index).length ≤ 19) :
    ReportsMissing position index error
      ↔ error = { kind := .indexOutOfRange, position, index := some index } := by
  constructor
  · intro reports
    cases reports with
    | number _ => rfl
    | digits long _ => omega
  · rintro rfl
    exact .number short

theorem reportsMissing_iff_of_long {position : Int} {index : Nat}
    (long : 19 < (toString index).length) :
    ReportsMissing position index error
      ↔ error = { kind := .indexOutOfRange, position
                  detail := String.ofList (FormatError.shorten (toString index).toList) } := by
  constructor
  · intro reports
    cases reports with
    | number short => omega
    | digits _ excerpt => rw [excerpt_iff.mp excerpt]
  · rintro rfl
    exact .digits long (excerpt_iff.mpr rfl)

theorem exists_reportsMissing (place : Int) (index : Nat) :
    ∃ error, ReportsMissing place index error := by
  by_cases short : (toString index).length ≤ 19
  · exact ⟨_, .number short⟩
  · exact ⟨_, .digits (Nat.not_le.mp short) (excerpt_iff.mpr rfl)⟩

theorem resolveDigits_eq_error_iff {digits : List Char} {position : Int}
    (bounded : colors.length ≤ longestList) (plain : ∀ digit ∈ digits, Text.isPlainDigit digit) :
    resolveDigits colors digits position = .error error
      ↔ colors.length ≤ Text.plainValue digits
        ∧ ReportsMissing position (Text.plainValue digits) error := by
  have beyond := longestList_lt_plainValue plain
  rw [significant_eq_toString plain, String.length_toList] at beyond
  simp only [resolveDigits, plainValue_significant]
  rw [significant_eq_toString plain, String.length_toList]
  by_cases long : indexDigitLimit < (toString (Text.plainValue digits)).length
  · have tooLarge := beyond long
    have missing : colors.length ≤ Text.plainValue digits := by omega
    rw [if_pos long, Except.error.injEq, reportsMissing_iff_of_long long, eq_comm]
    exact (and_iff_right missing).symm
  · have short : (toString (Text.plainValue digits)).length ≤ 19 := Nat.not_lt.mp long
    rw [if_neg long, reportsMissing_iff_of_short short]
    by_cases inside : Text.plainValue digits < colors.length
    · have notMissing : ¬colors.length ≤ Text.plainValue digits := Nat.not_le.mpr inside
      simp [resolveIndex, List.getElem?_eq_getElem inside, Except.map, notMissing]
    · have missing : colors.length ≤ Text.plainValue digits := Nat.not_lt.mp inside
      simp [resolveIndex, Except.map, missing, eq_comm]

theorem notNumber_iff {content : List Char} :
    ¬(content ≠ [] ∧ ∀ character ∈ content, Text.isPlainDigit character)
      ↔ content = [] ∨ ∃ character ∈ content, Text.isPlainDigit character = false := by
  by_cases empty : content = []
  · simp [empty]
  · simp [empty]

theorem exists_missing_of_refused {digits : List Char} {position : Int}
    (refused : resolveDigits colors digits position = .error error) :
    ∃ base, resolveDigits colors digits 0 = .error base ∧ error = base.shift position := by
  rw [resolveDigits_shift] at refused
  cases resolved : resolveDigits colors digits 0 with
  | ok pair =>
    rw [resolved] at refused
    change Except.ok pair = Except.error error at refused
    contradiction
  | error base =>
    rw [resolved] at refused
    change Except.error (base.shift position) = Except.error error at refused
    injection refused with same
    exact ⟨base, rfl, same.symm⟩

namespace Script

theorem failed_injective {first second : FormatError} (same : failed first = failed second) :
    first = second := by
  have errors := congrArg Script.error same
  exact Option.some.inj errors

theorem missing_of_failed (heads : construct.Heads signs text rest)
    (fails : ofText signs colors text = failed error) :
    construct.missing? signs colors = some error := by
  cases missing : construct.missing? signs colors with
  | some refused =>
    rw [ofText_of_missing heads missing] at fails
    rw [failed_injective fails]
  | none =>
    -- A construct that is played takes the scan further than to the start of the text.
    have reach := congrArg Script.reach (ofText_of_heads heads missing)
    have positive := construct.width_pos
    rw [fails] at reach
    simp only [failed, preceded] at reach
    omega

theorem exists_failed_of_missing {slot : Slot} {digits : List Char} {position : Int}
    (heads : construct.Heads signs text rest)
    (directive : construct.meaning signs = .directive slot digits)
    (refused : resolveDigits colors digits position = .error error) :
    ∃ base, ofText signs colors text = failed base ∧ error = base.shift position := by
  obtain ⟨base, missing, shifted⟩ := exists_missing_of_refused refused
  refine ⟨base, ofText_of_missing heads ?_, shifted⟩
  exact Construct.missing?_eq_some_iff.mpr ⟨slot, digits, directive, missing⟩

end Script

namespace Unrenderable

theorem exists_failed {position : Int} (bounded : colors.length ≤ longestList)
    (fails : Unrenderable signs colors position text error) :
    ∃ base, Script.ofText signs colors text = .failed base ∧ error = base.shift position := by
  cases fails with
  | unterminated filled unclosed =>
    exact ⟨_, Script.ofText_of_faulty (.unterminated filled unclosed), by
      simp [BracketFault.toError, FormatError.shift]⟩
  | notNumber unclosed noNumber excerpt =>
    exact ⟨_, Script.ofText_of_faulty (.notNumber unclosed (notNumber_iff.mpr noNumber)), by
      simp [BracketFault.toError, FormatError.shift, excerpt_iff.mp excerpt]⟩
  | @missingDigit _ digit _ _ plain missing reports =>
    have every : ∀ other ∈ [digit], Text.isPlainDigit other := by simpa using plain
    exact Script.exists_failed_of_missing (.singleDigit plain) rfl
      ((resolveDigits_eq_error_iff bounded every).mpr ⟨missing, reports⟩)
  | missingNumber filled plain missing reports =>
    exact Script.exists_failed_of_missing (.bracketed filled plain) rfl
      ((resolveDigits_eq_error_iff bounded plain).mpr ⟨missing, reports⟩)

theorem of_refused {slot : Slot} {digits : List Char} {position : Int}
    (bounded : colors.length ≤ longestList) (heads : construct.Heads signs text rest)
    (directive : construct.meaning signs = .directive slot digits)
    (refused : resolveDigits colors digits position = .error error) :
    Unrenderable signs colors position text error := by
  cases heads with
  | @singleDigit _ digit _ plain =>
    injection directive with _ same
    subst same
    have every : ∀ other ∈ [digit], Text.isPlainDigit other := by simpa using plain
    obtain ⟨missing, reports⟩ := (resolveDigits_eq_error_iff bounded every).mp refused
    exact .missingDigit plain missing reports
  | bracketed filled plain =>
    injection directive with _ same
    subst same
    obtain ⟨missing, reports⟩ := (resolveDigits_eq_error_iff bounded plain).mp refused
    exact .missingNumber filled plain missing reports
  | _ => cases directive

theorem of_faulty {fault : BracketFault} (position : Int) (faulty : fault.Heads signs text) :
    Unrenderable signs colors position text ((fault.toError 0).shift position) := by
  cases faulty with
  | unterminated filled unclosed =>
    simp only [BracketFault.toError, FormatError.shift, Int.zero_add]
    exact .unterminated filled unclosed
  | notNumber unclosed noNumber =>
    simp only [BracketFault.toError, FormatError.shift, Int.zero_add]
    exact .notNumber unclosed (notNumber_iff.mp noNumber) (excerpt_iff.mpr rfl)

theorem of_failed (bounded : colors.length ≤ longestList)
    (fails : Script.ofText signs colors text = .failed error) (position : Int) :
    Unrenderable signs colors position text (error.shift position) := by
  cases text with
  | nil =>
    have errors := congrArg Script.error fails
    simp [Script.failed] at errors
  | cons first inside =>
    rcases Construct.heads_or_faulty signs first inside with
      ⟨construct, rest, heads⟩ | ⟨fault, faulty⟩
    · have missing := Script.missing_of_failed heads fails
      obtain ⟨slot, digits, directive, refused⟩ := Construct.missing?_eq_some_iff.mp missing
      refine of_refused bounded heads directive ?_
      rw [resolveDigits_shift, refused]
      rfl
    · rw [Script.ofText_of_faulty faulty] at fails
      rw [← Script.failed_injective fails]
      exact of_faulty position faulty

theorem exists_sign {position : Int} (fails : Unrenderable signs colors position text error) :
    ∃ slot inside, text = signs.directiveSign slot :: inside := by
  cases fails <;> exact ⟨_, _, rfl⟩

theorem position {position : Int} (fails : Unrenderable signs colors position text error) :
    error.position = position := by
  cases fails with
  | missingDigit _ _ reports => cases reports <;> rfl
  | missingNumber _ _ _ reports => cases reports <;> rfl
  | _ => rfl

theorem consistent {position : Int} (fails : Unrenderable signs colors position text error) :
    error.Consistent := by
  have reported : ∀ {number : Nat}, ReportsMissing position number error → error.Consistent := by
    rintro number (short | ⟨long, excerpt⟩)
    · refine ⟨?_, by simp, by simp⟩
      intro index set
      exact ⟨rfl, rfl, number, (Option.some.inj set).symm, short⟩
    · refine ⟨by simp, ?_, by simp⟩
      intro _ _
      exact ⟨number, long, excerpt⟩
  cases fails with
  | unterminated _ _ => exact ⟨by simp, by simp, fun _ => rfl⟩
  | notNumber _ _ _ => exact ⟨by simp, by simp, by simp⟩
  | missingDigit _ _ reports => exact reported reports
  | missingNumber _ _ _ reports => exact reported reports

end Unrenderable

namespace Script

theorem not_failed_of_supplied (heads : construct.Heads signs text rest)
    (supplied : construct.missing? signs colors = none) (other : FormatError) :
    ofText signs colors text ≠ failed other := by
  intro fails
  rw [missing_of_failed heads fails] at supplied
  contradiction

theorem not_failed_of_ended (ended : (ofText signs colors text).error = none)
    (boundary : Boundary signs text place) (other : FormatError) :
    ofText signs colors (text.drop place) ≠ failed other := by
  induction text using reading_induction signs generalizing place with
  | nil => simp [failed]
  | more heads ih =>
    obtain ⟨supplied, tail⟩ := ended_of_heads heads ended
    rcases boundary.cases_of_heads heads with rfl | ⟨inner, rfl, later⟩
    · exact not_failed_of_supplied heads supplied other
    · rw [heads.drop]
      exact ih tail later
  | faulty faulty => exact absurd ended (not_ended_of_faulty faulty)

/-- The first boundary from which a scan fails at once. -/
structure FirstFailed (signs : Signs) (colors : List Color) (text : List Char) (place : Nat)
    (base : FormatError) : Prop where
  boundary : Boundary signs text place
  fails : ofText signs colors (text.drop place) = failed base
  first : ∀ earlier < place, Boundary signs text earlier →
    ∀ other, ofText signs colors (text.drop earlier) ≠ failed other

theorem FirstFailed.start (fails : ofText signs colors text = failed error) :
    FirstFailed signs colors text 0 error where
  boundary := .zero signs text
  fails := fails
  first earlier before := absurd before (Nat.not_lt_zero earlier)

theorem FirstFailed.preceded (failure : FirstFailed signs colors rest place error)
    (heads : construct.Heads signs text rest) (supplied : construct.missing? signs colors = none) :
    FirstFailed signs colors text (construct.width + place) error where
  boundary := failure.boundary.of_rest heads
  fails := by
    rw [heads.drop]
    exact failure.fails
  first := by
    intro earlier before reached other
    rcases reached.cases_of_heads heads with rfl | ⟨inner, rfl, later⟩
    · exact not_failed_of_supplied heads supplied other
    · rw [heads.drop]
      exact failure.first inner (by omega) later other

theorem exists_firstFailed (stopped : (ofText signs colors text).error = some error) :
    ∃ place base, FirstFailed signs colors text place base ∧ error = base.shift place := by
  induction text using reading_induction signs generalizing error with
  | nil => simp at stopped
  | @more construct text rest heads ih =>
    cases missing : construct.missing? signs colors with
    | some refused =>
      have fails := ofText_of_missing heads missing
      rw [fails] at stopped
      injection stopped with same
      subst same
      exact ⟨0, refused, .start fails, by simp [FormatError.shift]⟩
    | none =>
      rw [ofText_of_heads heads missing] at stopped
      obtain ⟨inner, found, rfl⟩ := Option.map_eq_some_iff.mp stopped
      obtain ⟨place, base, failure, rfl⟩ := ih found
      refine ⟨construct.width + place, base, failure.preceded heads missing, ?_⟩
      rw [FormatError.shift_shift]
      rfl
  | @faulty fault text faulty =>
    have fails : ofText signs colors text = failed (fault.toError 0) := ofText_of_faulty faulty
    rw [fails] at stopped
    injection stopped with same
    exact ⟨0, _, .start fails, by simp [← same, FormatError.shift]⟩

theorem error_eq_some_iff :
    (ofText signs colors text).error = some error
      ↔ ∃ place base, FirstFailed signs colors text place base ∧ error = base.shift place := by
  refine ⟨exists_firstFailed, ?_⟩
  rintro ⟨place, base, failure, rfl⟩
  cases stopped : (ofText signs colors text).error with
  | none => exact absurd failure.fails (not_failed_of_ended stopped failure.boundary base)
  | some reported =>
    obtain ⟨other, otherBase, otherFailure, rfl⟩ := exists_firstFailed stopped
    -- Neither of the two boundaries lies before the other, as both are first.
    rcases Nat.lt_trichotomy place other with before | rfl | after
    · exact absurd failure.fails (otherFailure.first place before failure.boundary base)
    · rw [failed_injective (failure.fails.symm.trans otherFailure.fails)]
    · exact absurd otherFailure.fails (failure.first other after otherFailure.boundary otherBase)

end Script

section

variable (bounded : colors.length ≤ longestList)
include bounded

theorem firstUnrenderable_iff :
    FirstUnrenderable signs colors text place error
      ↔ ∃ base, Script.FirstFailed signs colors text place base ∧ error = base.shift place := by
  constructor
  · intro found
    obtain ⟨base, fails, shifted⟩ := found.fails.exists_failed bounded
    refine ⟨base, ⟨found.boundary, fails, ?_⟩, shifted⟩
    intro earlier before boundary other failed
    exact found.first earlier before boundary _ (.of_failed bounded failed earlier)
  · rintro ⟨base, failure, rfl⟩
    refine ⟨failure.boundary, .of_failed bounded failure.fails place, ?_⟩
    intro earlier before boundary other fails
    obtain ⟨otherBase, failed, _⟩ := fails.exists_failed bounded
    exact failure.first earlier before boundary otherBase failed

theorem error_of_unrenderable (boundary : Boundary signs text place)
    (fails : Unrenderable signs colors place (text.drop place) error) :
    (Script.ofText signs colors text).error ≠ none := by
  intro ended
  obtain ⟨base, failed, _⟩ := fails.exists_failed bounded
  exact Script.not_failed_of_ended ended boundary base failed

theorem FirstUnrenderable.pointsAt (found : FirstUnrenderable signs colors text place error) :
    PointsAt signs colors text place := by
  constructor
  · obtain ⟨slot, inside, left⟩ := found.fails.exists_sign
    refine ⟨slot, ?_⟩
    have head := congrArg List.head? left
    rwa [List.head?_drop] at head
  · intro before construct rest after splits heads start reached inside
    have same : place = start := by
      rcases found.boundary.not_inside splits heads with early | late
      · exact Nat.le_antisymm early reached
      · omega
    refine ⟨same, ?_⟩
    have dropped := (splits.take_drop splits.length_eq).2
    have fails := found.fails
    rw [same, dropped] at fails
    obtain ⟨base, failed, _⟩ := fails.exists_failed bounded
    have missing := Script.missing_of_failed heads failed
    have notSupplied : ¬construct.Supplied colors := by
      rw [← Construct.missing?_eq_none_iff bounded heads, missing]
      simp
    simpa [Construct.Supplied] using notSupplied

end

/-- A scan reports an error exactly if some boundary of the text holds a directive that cannot be
rendered, and it reports the first of these. The error points at a sign and into nothing else. -/
theorem scan_reports_first_unrenderable (signs : Signs) (colors : List Color) (text : List Char)
    (bounded : colors.length ≤ longestList) :
    ∃ outcome, (record signs colors text).result = .ok outcome
      ∧ (outcome.ok = false ↔ ∃ place error, Boundary signs text place
          ∧ Unrenderable signs colors place (text.drop place) error)
      ∧ (∀ error, outcome.error = some error
          ↔ ∃ place, FirstUnrenderable signs colors text place error)
      ∧ ∀ error, outcome.error = some error → error.Consistent
          ∧ ∃ place : Nat, error.position = place ∧ PointsAt signs colors text place := by
  have reported : ∀ error, (Script.ofText signs colors text).error = some error
      ↔ ∃ place, FirstUnrenderable signs colors text place error := by
    intro error
    rw [Script.error_eq_some_iff]
    simp only [firstUnrenderable_iff bounded]
  refine ⟨_, (record_eq signs colors text).2, ?_, reported, ?_⟩
  · constructor
    · intro failed
      obtain ⟨error, stopped⟩ : ∃ error, (Script.ofText signs colors text).error = some error := by
        rw [← Option.isSome_iff_exists]
        simpa [Outcome.ok, Script.outcome] using failed
      obtain ⟨place, found⟩ := (reported error).mp stopped
      exact ⟨place, error, found.boundary, found.fails⟩
    · rintro ⟨place, error, boundary, fails⟩
      have stopped := error_of_unrenderable bounded boundary fails
      simpa [Outcome.ok, Script.outcome, Option.isSome_iff_ne_none] using stopped
  · intro error stopped
    obtain ⟨place, found⟩ := (reported error).mp stopped
    exact ⟨found.fails.consistent, place, found.fails.position, found.pointsAt bounded⟩

/-- A segment hides a directive and another has its color; the first bracket without a number counts,
not the open one behind it. -/
theorem scan_reports_first_unrenderable_nested :
    let text := ['~', '%', '9', '~', '%', '0', '&', '\x7b', '\x7b', '1', '\x7d', '%', '\x7b', 'x']
    [Color.red].length ≤ longestList
      ∧ FirstUnrenderable Signs.standard [.red] text 6
          { kind := .invalidArgument, position := 6, detail := String.ofList ['\x7b', '1'] } := by
  intro text
  have bounded : [Color.red].length ≤ longestList := by decide
  obtain ⟨outcome, ended, _, reported, _⟩ :=
    scan_reports_first_unrenderable Signs.standard [.red] text bounded
  cases (record_eq _ _ _).2.symm.trans ended
  have stopped : (Script.ofText Signs.standard [.red] text).error
      = some { kind := .invalidArgument, position := 6, detail := String.ofList ['\x7b', '1'] } := by
    decide +kernel
  obtain ⟨place, found⟩ := (reported _).mp stopped
  have position := found.fails.position
  have same : place = 6 := by
    simp only at position
    omega
  subst same
  exact ⟨bounded, found⟩

end ColorMarkup
