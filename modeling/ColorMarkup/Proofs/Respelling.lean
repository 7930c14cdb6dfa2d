import ColorMarkup.Proofs.Boundary

/-!
The two notations of a directive. Wherever a sign and a digit are read, the digit may stand in brackets
behind zeros as well; nothing changes but the places behind it.
-/

namespace ColorMarkup

namespace FormatError

def moved (place added : Int) (error : FormatError) : FormatError :=
  if error.position ≤ place then error else error.shift added

theorem moved_of_le {place added : Int} {error : FormatError} (early : error.position ≤ place) :
    error.moved place added = error := by
  rw [moved, if_pos early]

theorem moved_of_lt {place added : Int} {error : FormatError} (late : place < error.position) :
    error.moved place added = error.shift added := by
  rw [moved, if_neg (by omega)]

theorem shift_moved (place added distance : Int) (error : FormatError) :
    (error.moved place added).shift distance
      = (error.shift distance).moved (place + distance) added := by
  by_cases early : error.position ≤ place
  · have still : (error.shift distance).position ≤ place + distance := by
      simp only [shift]
      omega
    rw [moved_of_le early, moved_of_le still]
  · have late : place < error.position := by omega
    have still : place + distance < (error.shift distance).position := by
      simp only [shift]
      omega
    rw [moved_of_lt late, moved_of_lt still, shift_shift, shift_shift, Int.add_comm]

end FormatError

def Outcome.moved (place added : Int) (outcome : Outcome) : Outcome :=
  { outcome with error := outcome.error.map (FormatError.moved place added) }

variable {signs : Signs} {colors : List Color} {text kept tail other : List Char} {slot : Slot}
  {digit : Char} {before : List Construct}

theorem resolveDigits_zeros {digits : List Char}
    (plain : ∀ digit ∈ digits, Text.isPlainDigit digit) (zeros : Nat) (position : Int) :
    resolveDigits colors (List.replicate zeros '0' ++ digits) position
      = resolveDigits colors digits position := by
  have same : significant (List.replicate zeros '0' ++ digits) = significant digits := by
    rw [significant_eq_toString (isPlainDigit_of_mem_zeros plain zeros),
      significant_eq_toString plain, plainValue_zeros]
  simp only [resolveDigits, same]

theorem Signs.Introduces.exchange
    (introduces : signs.Introduces (kept ++ signs.directiveSign slot :: other)) :
    signs.Introduces (kept ++ signs.directiveSign slot :: tail) := by
  cases kept with
  | nil => exact absurd introduces (signs.not_introduces_directiveSign slot other)
  | cons second inside =>
    rcases introduces with isDigit | ⟨isBracket, _⟩
    · exact .inl isDigit
    · exact .inr ⟨isBracket, by simp⟩

theorem Splits.exchange (splits : Splits signs text before (signs.directiveSign slot :: tail))
    (other : List Char) :
    Splits signs (before.flatMap (Construct.source signs) ++ signs.directiveSign slot :: other) before
      (signs.directiveSign slot :: other) := by
  induction before generalizing text with
  | nil => exact .done
  | cons first others ih =>
    cases splits with
    | more heads later =>
      rw [List.flatMap_cons, List.append_assoc]
      -- The sign is no end of the text, and behind a lone sign it is neither digit nor bracket.
      refine .more (heads.before ?_ ?_) (ih later)
      · intro final
        have left := later.flatMap_source
        rw [heads.rest_of_final final] at left
        simp at left
      · intro _ _ introduces
        rw [← later.flatMap_source]
        exact introduces.exchange

namespace Script

/-- One script does what another does, but its error lies further on if it is behind a place. -/
structure Moves (place added : Int) (script moved : Script) : Prop where
  events : moved.events = script.events
  error : moved.error = script.error.map (FormatError.moved place added)

theorem moves_of_alike {short long : Construct} {longer rest : List Char} {added : Nat}
    (heads : short.Heads signs text rest) (longHeads : long.Heads signs longer rest)
    (missing : long.missing? signs colors = short.missing? signs colors)
    (events : long.events signs colors = short.events signs colors)
    (width : long.width = short.width + added) :
    Moves 0 added (ofText signs colors text) (ofText signs colors longer) := by
  cases refused : short.missing? signs colors with
  | some error =>
    rw [refused] at missing
    rw [ofText_of_missing heads refused, ofText_of_missing longHeads missing]
    have early : error.position ≤ 0 := Int.le_of_eq (Construct.position_of_missing refused)
    refine ⟨rfl, ?_⟩
    simp [failed, FormatError.moved_of_le early]
  | none =>
    rw [refused] at missing
    rw [ofText_of_heads heads refused, ofText_of_heads longHeads missing]
    refine ⟨by simp only [preceded, events], ?_⟩
    cases stopped : (ofText signs colors rest).error with
    | none => simp [preceded, stopped]
    | some error =>
      have behind := position_nonneg stopped
      have positive := short.width_pos
      have late : 0 < (error.shift short.width).position := by
        simp only [FormatError.shift]
        omega
      have further : (long.width : Int) = added + short.width := by omega
      simp only [preceded, stopped, Option.map_some, FormatError.moved_of_lt late,
        FormatError.shift_shift, further]

theorem moves_directive (plain : Text.isPlainDigit digit) (zeros : Nat) (rest : List Char) :
    Moves 0 (zeros + 2 : Nat) (ofText signs colors (signs.directiveSign slot :: digit :: rest))
      (ofText signs colors (signs.directiveSign slot :: signs.openBracket
        :: (List.replicate zeros '0' ++ digit :: signs.closeBracket :: rest))) := by
  have every : ∀ character ∈ [digit], Text.isPlainDigit character := by simpa using plain
  have bracketed : Construct.Heads signs (.bracketed slot (List.replicate zeros '0' ++ [digit]))
      (signs.directiveSign slot :: signs.openBracket
        :: (List.replicate zeros '0' ++ [digit] ++ signs.closeBracket :: rest)) rest :=
    .bracketed (by simp) (isPlainDigit_of_mem_zeros every zeros)
  rw [List.append_assoc] at bracketed
  refine moves_of_alike (.singleDigit plain) bracketed ?_ ?_ ?_
  · simp only [Construct.missing?, Construct.meaning, resolveDigits_zeros every]
  · simp only [Construct.events, Construct.meaning, plainValue_zeros]
  · simp only [Construct.width, List.length_append, List.length_replicate, List.length_singleton]
    omega

theorem Moves.andThen {script moved : Script} {added : Int} (moves : Moves 0 added script moved)
    (before : List Construct) :
    Moves (before.flatMap (Construct.source signs)).length added
      ((ofConstructs signs colors none before).andThen script)
      ((ofConstructs signs colors none before).andThen moved) := by
  cases stopped : (ofConstructs signs colors none before).error with
  | some error =>
    have early := (position_ofConstructs stopped).2
    have kept : error.moved (before.flatMap (Construct.source signs)).length added = error :=
      FormatError.moved_of_le (Int.le_of_lt early)
    simp only [Script.andThen, stopped]
    refine ⟨rfl, ?_⟩
    rw [stopped, Option.map_some, kept]
  | none =>
    have reach := reach_ofConstructs stopped
    simp only [Script.andThen, stopped]
    constructor
    · simp [followed, moves.events]
    · cases later : script.error with
      | none => simp [followed, moves.error, later]
      | some error =>
        simp [followed, moves.error, later, reach, FormatError.shift_moved]

end Script

theorem scan_of_moves {φ σ : Type} {place added : Int} {respelled : List Char}
    (moves : Script.Moves place added (Script.ofText signs colors text)
      (Script.ofText signs colors respelled)) (sink : Sink φ σ) (state : σ) :
    (scan sink signs colors respelled state).state = (scan sink signs colors text state).state
      ∧ (scan sink signs colors respelled state).result
          = (scan sink signs colors text state).result.map (Outcome.moved place added) := by
  rcases sent : sink.sendAll (Script.ofText signs colors text).events state with
    ⟨after, _ | refusal⟩
  · have again := sent
    rw [← moves.events] at again
    rw [scan_of_sent sent, scan_of_sent again]
    simp [Script.outcome, Outcome.moved, moves.events, moves.error, Except.map]
  · have again := sent
    rw [← moves.events] at again
    obtain ⟨left, failed⟩ := scan_of_refused sent
    obtain ⟨respelledLeft, respelledFailed⟩ := scan_of_refused again
    rw [left, failed, respelledLeft, respelledFailed]
    exact ⟨rfl, rfl⟩

/-- A directive sign and a digit do on every sink what the sign and the digit in brackets behind zeros
do. An error behind them moves with the text, and all else stays the same. -/
theorem notations_interchangeable {φ σ : Type} (sink : Sink φ σ) (signs : Signs)
    (colors : List Color) (text : List Char) (state : σ)
    {place : Nat} {slot : Slot} {digit : Char} {rest : List Char}
    (zeros : Nat) (boundary : Boundary signs text place)
    (directive : text.drop place = signs.directiveSign slot :: digit :: rest)
    (plain : Text.isPlainDigit digit) :
    let respelled := text.take place ++ signs.directiveSign slot :: signs.openBracket
      :: (List.replicate zeros '0' ++ digit :: signs.closeBracket :: rest)
    (scan sink signs colors respelled state).state = (scan sink signs colors text state).state
      ∧ (scan sink signs colors respelled state).result
          = (scan sink signs colors text state).result.map (Outcome.moved place (zeros + 2)) := by
  intro respelled
  obtain ⟨before, splits, width⟩ := boundary.split
  have taken := (splits.take_drop splits.length_eq).1
  rw [width] at taken
  rw [directive] at splits
  have exchanged := splits.exchange
    (signs.openBracket :: (List.replicate zeros '0' ++ digit :: signs.closeBracket :: rest))
  rw [← taken] at exchanged
  apply scan_of_moves
  rw [Script.ofText_of_splits colors splits, Script.ofText_of_splits colors exchanged, ← width]
  exact (Script.moves_directive plain zeros rest).andThen before

/-- The directive stands behind a lone sign, and the error of the text behind it. -/
theorem notations_interchangeable_behind_lone_sign :
    let text := ['%', '&', '0', 'x', '%', '7']
    Boundary Signs.standard text 1
      ∧ (scan Recorder.sink Signs.standard [.red]
          ['%', '&', '\x7b', '0', '0', '0', '\x7d', 'x', '%', '7'] {}).result
        = .ok { error := some { kind := .indexOutOfRange, position := 8, index := some 7 }
                written := 2, directives := 1 } := by
  intro text
  have lone : Construct.Heads Signs.standard (.loneSign .foreground) text ['&', '0', 'x', '%', '7'] :=
    .loneSign (Signs.standard.not_introduces_directiveSign .background ['0', 'x', '%', '7'])
  have boundary : Boundary Signs.standard text 1 := ⟨by decide, [.loneSign .foreground], .more lone .done⟩
  have ended : (scan Recorder.sink Signs.standard [.red] text {}).result
      = .ok { error := some { kind := .indexOutOfRange, position := 4, index := some 7 }
              written := 2, directives := 1 } := by
    rw [← record, (record_eq _ _ _).2]
    exact congrArg Except.ok (by decide +kernel)
  have directive : text.drop 1 = Signs.standard.directiveSign .background :: '0' :: ['x', '%', '7'] :=
    rfl
  have moved := (notations_interchangeable Recorder.sink Signs.standard [.red] text {} 2 boundary
    directive (by decide)).2
  rw [ended] at moved
  exact ⟨boundary, moved⟩

end ColorMarkup
