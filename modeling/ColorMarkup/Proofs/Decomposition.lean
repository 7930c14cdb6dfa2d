import ColorMarkup.Proofs.Script
import Mathlib.Data.List.Forall2

/-!
What a scan plays. A text that can be rendered falls into constructs in one way only, and the scan
plays their meanings in order; any other text is played up to the directive that fails.
-/

namespace ColorMarkup

namespace Construct

def index? : Construct → Option Nat
  | singleDigit _ digit => some (Text.plainValue [digit])
  | bracketed _ digits => some (Text.plainValue digits)
  | _ => none

def Supplied (colors : List Color) (construct : Construct) : Prop :=
  ∀ index, construct.index? = some index → index < colors.length

/-- What each construct does: it writes characters, one by one, or it changes a color. -/
inductive Does (signs : Signs) (colors : List Color) : Construct → List Event → Prop
  | ordinary (character : Char) : Does signs colors (.ordinary character) [.write [character]]
  | finalStop : Does signs colors .finalStop [.write [signs.stop]]
  | doubledStop : Does signs colors .doubledStop [.write [signs.stop]]
  | segment (text : List Char) :
      Does signs colors (.segment text) (text.map fun character => .write [character])
  | openSegment (text : List Char) :
      Does signs colors (.openSegment text) (text.map fun character => .write [character])
  | singleDigit {slot : Slot} {digit : Char} {color : Color} :
      colors[Text.plainValue [digit]]? = some color →
      Does signs colors (.singleDigit slot digit) [.recolor slot (some color)]
  | bracketed {slot : Slot} {digits : List Char} {color : Color} :
      colors[Text.plainValue digits]? = some color →
      Does signs colors (.bracketed slot digits) [.recolor slot (some color)]
  | loneFore : Does signs colors (.loneSign .foreground) [.write [signs.fore]]
  | loneBack : Does signs colors (.loneSign .background) [.write [signs.back]]

theorem Supplied.does {signs : Signs} {colors : List Color} {construct : Construct}
    (supplied : construct.Supplied colors) :
    construct.Does signs colors (construct.events signs colors) := by
  cases construct with
  | ordinary character => exact .ordinary character
  | finalStop => exact .finalStop
  | doubledStop => exact .doubledStop
  | segment text => exact .segment text
  | openSegment text => exact .openSegment text
  | singleDigit slot digit =>
    have found := List.getElem?_eq_getElem (supplied _ rfl)
    simp only [events, meaning, found]
    exact .singleDigit found
  | bracketed slot digits =>
    have found := List.getElem?_eq_getElem (supplied _ rfl)
    simp only [events, meaning, found]
    exact .bracketed found
  | loneSign slot =>
    cases slot with
    | foreground => exact .loneFore
    | background => exact .loneBack

theorem missing?_eq_none_iff {signs : Signs} {colors : List Color} {construct : Construct}
    {text rest : List Char} (bounded : colors.length ≤ longestList)
    (heads : construct.Heads signs text rest) :
    construct.missing? signs colors = none ↔ construct.Supplied colors := by
  cases heads with
  | singleDigit plain =>
    rw [missing?_of_directive rfl, resolveDigits_ok_iff bounded (by simpa using plain)]
    simp [Supplied, index?]
  | bracketed _ plain =>
    rw [missing?_of_directive rfl, resolveDigits_ok_iff bounded plain]
    simp [Supplied, index?]
  | _ => simp [missing?, meaning, Supplied, index?]

end Construct

theorem Splits.flatMap_source {signs : Signs} {text rest : List Char} {constructs : List Construct}
    (splits : Splits signs text constructs rest) :
    constructs.flatMap (Construct.source signs) ++ rest = text := by
  induction splits with
  | done => rfl
  | more heads _ ih =>
    rw [List.flatMap_cons, List.append_assoc, ih, heads.source_append]

theorem Splits.take_drop {signs : Signs} {text rest : List Char} {constructs : List Construct}
    {place : Nat} (splits : Splits signs text constructs rest)
    (length : text.length = place + rest.length) :
    text.take place = constructs.flatMap (Construct.source signs) ∧ text.drop place = rest := by
  have sources := splits.flatMap_source
  have width : (constructs.flatMap (Construct.source signs)).length = place := by
    have total := congrArg List.length sources
    simp only [List.length_append] at total
    omega
  rw [← sources, ← width]
  exact ⟨List.take_left, List.drop_left⟩

namespace Script

variable {signs : Signs} {colors : List Color} {text : List Char}

theorem exists_splits (signs : Signs) (bounded : colors.length ≤ longestList) (text : List Char) :
    ∃ constructs rest, Splits signs text constructs rest
      ∧ (∀ construct ∈ constructs, construct.Supplied colors)
      ∧ (ofText signs colors text).events = constructs.flatMap (Construct.events signs colors)
      ∧ text.length = (ofText signs colors text).reach + rest.length
      ∧ ((ofText signs colors text).error = none → rest = [])
      ∧ ∀ error, (ofText signs colors text).error = some error →
          error.position = (ofText signs colors text).reach := by
  induction text using reading_induction signs with
  | nil => exact ⟨[], [], .done, by simp⟩
  | @more construct text after heads ih =>
    cases missing : construct.missing? signs colors with
    | some error =>
      have position : error.position = 0 := Construct.position_of_missing missing
      rw [ofText_of_missing heads missing]
      exact ⟨[], text, .done, by simp [failed, position]⟩
    | none =>
      obtain ⟨constructs, rest, splits, supplied, events, length, whole, place⟩ := ih
      rw [ofText_of_heads heads missing]
      refine ⟨construct :: constructs, rest, .more heads splits, ?_, ?_, ?_, ?_, ?_⟩
      · exact List.forall_mem_cons.mpr
          ⟨(Construct.missing?_eq_none_iff bounded heads).mp missing, supplied⟩
      · simp [preceded, events]
      · simp only [preceded, heads.length_eq, length]
        omega
      · intro ended
        exact whole (by simpa [preceded] using ended)
      · intro error failed
        obtain ⟨inner, found, rfl⟩ := Option.map_eq_some_iff.mp failed
        have start := place inner found
        simp only [FormatError.shift, preceded, start]
        omega
  | @faulty fault text heads =>
    rw [ofText_of_faulty heads]
    refine ⟨[], text, .done, ?_⟩
    cases fault <;> simp [failed, BracketFault.toError]

theorem error_eq_none_of_splits (bounded : colors.length ≤ longestList)
    {constructs : List Construct} (splits : Splits signs text constructs [])
    (supplied : ∀ construct ∈ constructs, construct.Supplied colors) :
    (ofText signs colors text).error = none := by
  induction constructs generalizing text with
  | nil =>
    cases splits
    simp
  | cons construct rest ih =>
    cases splits with
    | more heads tail =>
      have first : construct.Supplied colors := supplied construct (by simp)
      have others : ∀ other ∈ rest, other.Supplied colors := by
        intro other member
        exact supplied other (by simp [member])
      rw [ofText_of_heads heads ((Construct.missing?_eq_none_iff bounded heads).mpr first)]
      simp [preceded, ih tail others]

end Script

/-- A run recorded what constructs do, whose colors are all supplied, and counted it. -/
structure Plays (signs : Signs) (colors : List Color) (constructs : List Construct)
    (run : Run Empty Recorder) (outcome : Outcome) : Prop where
  supplied : ∀ construct ∈ constructs, construct.Supplied colors
  events : ∃ pieces, List.Forall₂ (Construct.Does signs colors) constructs pieces
    ∧ run.state.events = pieces.flatten
  written : outcome.written = (Event.textOf run.state.events).length
  directives : outcome.directives = (Event.changesOf run.state.events).length

/-- A text falls into constructs in at most one way. It is rendered if it does and all colors are
supplied, and the scan plays the constructs; otherwise it plays those before the error. -/
theorem record_plays_unique_decomposition (signs : Signs) (colors : List Color) (text : List Char)
    (bounded : colors.length ≤ longestList) :
    (∀ first second, Splits signs text first [] → Splits signs text second [] → first = second)
      ∧ ∃ outcome, (record signs colors text).result = .ok outcome
        ∧ (outcome.ok ↔ ∃ constructs, Splits signs text constructs []
            ∧ ∀ construct ∈ constructs, construct.Supplied colors)
        ∧ (outcome.ok → ∃ constructs, Splits signs text constructs []
            ∧ constructs.flatMap (Construct.source signs) = text
            ∧ Plays signs colors constructs (record signs colors text) outcome)
        ∧ ∀ error, outcome.error = some error → ∃ (place : Nat) (constructs : List Construct),
            error.position = place
            ∧ Splits signs text constructs (text.drop place)
            ∧ constructs.flatMap (Construct.source signs) = text.take place
            ∧ Plays signs colors constructs (record signs colors text) outcome := by
  obtain ⟨constructs, rest, splits, supplied, events, length, whole, place⟩ :=
    Script.exists_splits signs bounded text
  obtain ⟨recorded, ended⟩ := record_eq signs colors text
  have done : List.Forall₂ (Construct.Does signs colors) constructs
      (constructs.map (Construct.events signs colors)) :=
    List.forall₂_map_right_iff.mpr
      (List.forall₂_same.mpr fun construct member => (supplied construct member).does)
  have plays : Plays signs colors constructs (record signs colors text)
      (Script.ofText signs colors text).outcome := by
    refine ⟨supplied, ⟨_, done, ?_⟩, by rw [recorded]; rfl, by rw [recorded]; rfl⟩
    rw [recorded, events, List.flatMap_def]
  have rendered : (Script.ofText signs colors text).outcome.ok
      ↔ (Script.ofText signs colors text).error = none := Option.isNone_iff_eq_none
  have covered : (Script.ofText signs colors text).outcome.ok → Splits signs text constructs [] := by
    intro ok
    rw [← whole (rendered.mp ok)]
    exact splits
  obtain ⟨taken, dropped⟩ := splits.take_drop length
  refine ⟨fun first second => Splits.unique, _, ended, ⟨?_, ?_⟩, ?_, ?_⟩
  · intro ok
    exact ⟨constructs, covered ok, supplied⟩
  · rintro ⟨others, otherSplits, otherSupplied⟩
    exact rendered.mpr (Script.error_eq_none_of_splits bounded otherSplits otherSupplied)
  · intro ok
    refine ⟨constructs, covered ok, ?_, plays⟩
    simpa using (covered ok).flatMap_source
  · intro error failed
    refine ⟨_, constructs, place error failed, ?_, taken.symm, plays⟩
    rw [dropped]
    exact splits

/-- A color change, a lone sign, a segment and a sign that the end of the text leaves alone. -/
theorem record_plays_unique_decomposition_mixed :
    let text := ['%', '0', '&', '%', '~', '%', '~', '%']
    [Color.red].length ≤ longestList
      ∧ ∃ outcome, (record Signs.standard [.red] text).result = .ok outcome
        ∧ outcome.ok
        ∧ (record Signs.standard [.red] text).state.events
          = [.recolor .foreground (some .red), .write ['&'], .write ['%'], .write ['%'],
            .write ['%']]
        ∧ outcome.written = 4
        ∧ outcome.directives = 1 := by
  intro text
  have bounded : [Color.red].length ≤ longestList := by decide
  have known : Splits Signs.standard text [.singleDigit .foreground '0', .loneSign .background,
      .loneSign .foreground, .segment ['%'], .loneSign .foreground] [] := by
    refine .more (.singleDigit (by decide)) (.more (.loneSign ?_) (.more (.loneSign ?_)
      (.more (.segment (by decide) (by decide)) (.more (.loneSign ?_) .done))))
    all_goals simp [Signs.Introduces, Text.isPlainDigit, Signs.standard, Signs.standardSigns]
  obtain ⟨unique, outcome, ended, rendered, played, _⟩ :=
    record_plays_unique_decomposition Signs.standard [.red] text bounded
  have ok : outcome.ok := rendered.mpr
    ⟨_, known, by simp [Construct.Supplied, Construct.index?, Text.plainValue, Text.ofDigits]⟩
  obtain ⟨constructs, splits, -, plays⟩ := played ok
  obtain rfl := unique _ _ splits known
  obtain ⟨pieces, done, recorded⟩ := plays.events
  have events : (record Signs.standard [.red] text).state.events
      = [.recolor .foreground (some .red), .write ['&'], .write ['%'], .write ['%'],
        .write ['%']] := by
    rw [recorded]
    rcases done with _ | ⟨first, done⟩
    rcases done with _ | ⟨second, done⟩
    rcases done with _ | ⟨third, done⟩
    rcases done with _ | ⟨fourth, done⟩
    rcases done with _ | ⟨fifth, done⟩
    cases done
    cases first with
    | singleDigit found =>
      injection found with color
      cases second
      cases third
      cases fourth
      cases fifth
      rw [← color]
      rfl
  have written := plays.written
  have directives := plays.directives
  rw [events] at written directives
  exact ⟨bounded, outcome, ended, ok, events, written, directives⟩

end ColorMarkup
