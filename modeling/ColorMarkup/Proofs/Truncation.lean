import ColorMarkup.Proofs.Script

/-!
A text cut off at its error. No construct before the error looks at what follows the cut in a way
that matters, so the part before it can be rendered and the part after it fails at once.
-/

namespace ColorMarkup

variable {signs : Signs} {colors : List Color}

theorem Construct.Heads.cut {construct : Construct} {text kept lost : List Char}
    (heads : construct.Heads signs text (kept ++ lost)) (nonempty : lost ≠ []) :
    construct.Heads signs (construct.source signs ++ kept) kept := by
  apply heads.before
  · intro final
    exact (List.append_eq_nil_iff.mp (heads.rest_of_final final)).1
  · intro _ _ introduces
    -- An opening bracket behind the sign would have to be the last character, but more was lost.
    cases kept with
    | nil => exact introduces.elim
    | cons second inside =>
      rcases introduces with digit | ⟨bracket, _⟩
      · exact .inl digit
      · exact .inr ⟨bracket, by simp [nonempty]⟩

theorem Construct.Heads.take_add {construct : Construct} {text rest : List Char}
    (heads : construct.Heads signs text rest) (count : Nat) :
    text.take (construct.width + count) = construct.source signs ++ rest.take count
      ∧ text.drop (construct.width + count) = rest.drop count := by
  rw [← heads.source_append, ← construct.length_source signs]
  exact ⟨List.take_length_add_append count, List.drop_length_add_append count⟩

namespace Script

/-- The script of a text breaks at a place: up to there it does not fail, and from there it fails at
once. -/
structure BreaksAt (signs : Signs) (colors : List Color) (text : List Char) (error : FormatError)
    (place : Nat) : Prop where
  position : error.position = place
  events : (ofText signs colors (text.take place)).events = (ofText signs colors text).events
  ended : (ofText signs colors (text.take place)).error = none
  fails : ofText signs colors (text.drop place) = failed { error with position := 0 }

theorem breaksAt_zero {text : List Char} {error : FormatError} (position : error.position = 0)
    (fails : ofText signs colors text = failed error) : BreaksAt signs colors text error 0 where
  position := position
  events := by simp [fails, failed]
  ended := by simp
  fails := by
    rw [List.drop_zero, fails, ← position]

theorem BreaksAt.preceded {construct : Construct} {text rest : List Char} {error : FormatError}
    {place : Nat} (breaks : BreaksAt signs colors rest error place)
    (heads : construct.Heads signs text rest) (supplied : construct.missing? signs colors = none) :
    BreaksAt signs colors text (error.shift construct.width) (construct.width + place) := by
  obtain ⟨taken, dropped⟩ := heads.take_add place
  -- An empty text does not fail, so the cut lies before the end.
  have lost : rest.drop place ≠ [] := by
    intro empty
    have fails := breaks.fails
    simp [empty, failed] at fails
  have kept : construct.Heads signs (construct.source signs ++ rest.take place)
      (rest.take place) := by
    have split := heads
    rw [← List.take_append_drop place rest] at split
    exact split.cut lost
  constructor
  · simp [FormatError.shift, breaks.position, Int.add_comm]
  · rw [taken, ofText_of_heads kept supplied, ofText_of_heads heads supplied]
    simp [Script.preceded, breaks.events]
  · rw [taken, ofText_of_heads kept supplied]
    simp [Script.preceded, breaks.ended]
  · rw [dropped, breaks.fails]
    rfl

theorem exists_breaksAt {text : List Char} {error : FormatError}
    (stopped : (ofText signs colors text).error = some error) :
    ∃ place, BreaksAt signs colors text error place := by
  induction text using reading_induction signs generalizing error with
  | nil => simp at stopped
  | @more construct text rest heads ih =>
    cases missing : construct.missing? signs colors with
    | some first =>
      have fails := ofText_of_missing heads missing
      rw [fails] at stopped
      injection stopped with same
      subst same
      exact ⟨0, breaksAt_zero (Construct.position_of_missing missing) fails⟩
    | none =>
      rw [ofText_of_heads heads missing] at stopped
      obtain ⟨inner, found, rfl⟩ := Option.map_eq_some_iff.mp stopped
      obtain ⟨place, breaks⟩ := ih found
      exact ⟨construct.width + place, breaks.preceded heads missing⟩
  | @faulty fault text heads =>
    have fails : ofText signs colors text = failed (fault.toError 0) := ofText_of_faulty heads
    rw [fails] at stopped
    injection stopped with same
    subst same
    refine ⟨0, breaksAt_zero ?_ fails⟩
    cases fault <;> rfl

theorem position_nonneg {text : List Char} {error : FormatError}
    (stopped : (ofText signs colors text).error = some error) : 0 ≤ error.position := by
  obtain ⟨place, breaks⟩ := exists_breaksAt stopped
  rw [breaks.position]
  exact Int.natCast_nonneg place

end Script

/-- A scan that fails has done exactly what a scan of the text before its error does, and the text
from there on fails before anything is sent. -/
theorem scan_cut_at_error {φ σ : Type} (sink : Sink φ σ) (signs : Signs) (colors : List Color)
    (text : List Char) (state : σ) {outcome : Outcome} {error : FormatError}
    (ended : (scan sink signs colors text state).result = .ok outcome)
    (stopped : outcome.error = some error) :
    ∃ place : Nat, error.position = place
      ∧ (scan sink signs colors (text.take place) state).state
          = (scan sink signs colors text state).state
      ∧ (scan sink signs colors (text.take place) state).result
          = .ok { outcome with error := none }
      ∧ (record signs colors (text.take place)).state.events
          = (record signs colors text).state.events
      ∧ (record signs colors (text.drop place)).state.events = []
      ∧ ∀ other, (scan sink signs colors (text.drop place) other).state = other
          ∧ (scan sink signs colors (text.drop place) other).result
              = .ok { error := some { error with position := 0 } } := by
  obtain ⟨sent, rfl⟩ := sent_of_scan_ok ended
  obtain ⟨place, breaks⟩ := Script.exists_breaksAt stopped
  refine ⟨place, breaks.position, ?_, ?_, ?_, ?_, ?_⟩
  · rw [← breaks.events] at sent
    rw [scan_of_sent sent]
  · rw [← breaks.events] at sent
    rw [scan_of_sent sent]
    simp [Script.outcome, breaks.events, breaks.ended]
  · rw [(record_eq _ _ _).1, (record_eq _ _ _).1, breaks.events]
  · rw [(record_eq _ _ _).1, breaks.fails]
    rfl
  · intro other
    have silent : sink.sendAll (Script.ofText signs colors (text.drop place)).events other
        = (other, none) := by
      rw [breaks.fails]
      rfl
    rw [scan_of_sent silent, breaks.fails]
    exact ⟨rfl, rfl⟩

/-- The cut leaves the first sign at the end of the text, where it is as lone as before. -/
theorem scan_cut_at_error_after_lone_sign :
    let text := ['%', '%', '\x7b', '1', '2', '\x7d', '~']
    (scan Recorder.sink Signs.standard [.red] text {}).result
        = .ok { error := some { kind := .indexOutOfRange, position := 1, index := some 12 }
                written := 1 }
      ∧ (record Signs.standard [.red] ['%']).state.events
          = (record Signs.standard [.red] text).state.events := by
  intro text
  have ended : (scan Recorder.sink Signs.standard [.red] text {}).result
      = .ok { error := some { kind := .indexOutOfRange, position := 1, index := some 12 }
              written := 1 } := by
    obtain ⟨_, sent⟩ := Sink.exists_sendAll Recorder.accepting
      (Script.ofText Signs.standard [.red] text).events {}
    rw [scan_of_sent sent]
    exact congrArg Except.ok (by decide +kernel)
  obtain ⟨place, position, _, _, events, _, _⟩ :=
    scan_cut_at_error Recorder.sink Signs.standard [.red] text {} ended rfl
  have first : place = 1 := (Int.ofNat.inj position).symm
  subst first
  exact ⟨ended, events⟩

end ColorMarkup
