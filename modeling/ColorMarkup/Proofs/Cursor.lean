import ColorMarkup.Proofs.Concatenation

/-!
A scan by a cursor. The text stays whole and is looked at by position, and every look is checked
against its bounds. The cursor only moves forward, it stays within the text and no look strays
outside of it, so a scan takes as many turns as the text has characters, or fewer.
-/

namespace ColorMarkup

/-- A look outside of a text: at a character, or at what stands between two places. -/
inductive Stray where
  | character (position : Nat)
  | span (first last : Nat)

namespace Text

def charAt (text : List Char) (position : Nat) : Except Stray Char :=
  match text[position]? with
  | some character => .ok character
  | none => .error (.character position)

def span (text : List Char) (first last : Nat) : Except Stray (List Char) :=
  if first ≤ last ∧ last ≤ text.length then .ok ((text.drop first).take (last - first))
  else .error (.span first last)

def find (text : List Char) (sign : Char) (first : Nat) : Except Stray (Option Nat) :=
  if first ≤ text.length then
    .ok (((text.drop first).findIdx? (· == sign)).map (first + ·))
  else .error (.span first text.length)

section Looks

variable {text rest : List Char} {character sign : Char} {first : Nat}

theorem charAt_of_split (front : List Char) (split : text = front ++ character :: rest)
    (place : front.length = first) : charAt text first = .ok character := by
  have found : text[first]? = some character := by
    rw [split, ← place, List.getElem?_append_right (Nat.le_refl _), Nat.sub_self]
    rfl
  simp only [charAt, found]

theorem charAt_second {before : Char} {front : List Char}
    (split : text = front ++ before :: character :: rest) :
    charAt text (front.length + 1) = .ok character := by
  have opened : text = (front ++ [before]) ++ character :: rest := by rw [split, List.append_cons]
  exact charAt_of_split (front ++ [before]) opened List.length_append

theorem span_of_split (front content : List Char) (split : text = front ++ (content ++ rest))
    (place : front.length = first) : span text first (first + content.length) = .ok content := by
  have bounds : first ≤ first + content.length ∧ first + content.length ≤ text.length := by
    rw [split, List.length_append, List.length_append]
    omega
  rw [span, if_pos bounds, split, ← place, List.drop_left, Nat.add_sub_cancel_left, List.take_left]

theorem missing_findIdx? (absent : sign ∉ text) : text.findIdx? (· == sign) = none := by
  rw [List.findIdx?_eq_none_iff]
  intro character member
  rw [beq_eq_false_iff_ne]
  rintro rfl
  exact absent member

theorem find_of_split (front content : List Char)
    (split : text = front ++ (content ++ sign :: rest)) (absent : sign ∉ content)
    (place : front.length = first) : find text sign first = .ok (some (first + content.length)) := by
  have bound : first ≤ text.length := by
    rw [split, List.length_append]
    omega
  have found : (content ++ sign :: rest).findIdx? (· == sign) = some content.length := by
    rw [List.findIdx?_append, missing_findIdx? absent, List.findIdx?_cons, beq_self_eq_true]
    simp
  rw [find, if_pos bound, split, ← place, List.drop_left, found]
  rfl

theorem find_of_absent (front content : List Char) (split : text = front ++ content)
    (absent : sign ∉ content) (place : front.length = first) : find text sign first = .ok none := by
  have bound : first ≤ text.length := by
    rw [split, List.length_append]
    omega
  rw [find, if_pos bound, split, ← place, List.drop_left, missing_findIdx? absent]
  rfl

end Looks

end Text

/-- What is done at the cursor, and where the cursor is put afterwards. -/
inductive Turn where
  | write (text : List Char) (target : Nat)
  | recolor (slot : Slot) (digits : List Char) (target : Nat)
  | refuse (fault : BracketFault)

namespace Turn

def ofStop (signs : Signs) (text : List Char) (start : Nat) : Except Stray Turn :=
  if start + 1 = text.length then .ok (.write [signs.stop] text.length)
  else do
    let second ← Text.charAt text (start + 1)
    if second = signs.stop then .ok (.write [signs.stop] (start + 2))
    else
      match ← Text.find text signs.stop (start + 1) with
      | none =>
        let inside ← Text.span text (start + 1) text.length
        .ok (.write inside text.length)
      | some close =>
        let inside ← Text.span text (start + 1) close
        .ok (.write inside (close + 1))

def ofBracket (signs : Signs) (slot : Slot) (text : List Char) (start : Nat) :
    Except Stray Turn := do
  match ← Text.find text signs.closeBracket (start + 2) with
  | none => .ok (.refuse .unterminated)
  | some close =>
    let content ← Text.span text (start + 2) close
    if content ≠ [] ∧ content.all Text.isPlainDigit then .ok (.recolor slot content (close + 1))
    else .ok (.refuse (.notNumber content))

def ofDirectiveSign (signs : Signs) (slot : Slot) (text : List Char) (start : Nat) :
    Except Stray Turn :=
  let lone : Turn := .write [signs.directiveSign slot] (start + 1)
  if start + 1 < text.length then do
    let following ← Text.charAt text (start + 1)
    if Text.isPlainDigit following then .ok (.recolor slot [following] (start + 2))
    else if following = signs.openBracket ∧ start + 2 < text.length then
      ofBracket signs slot text start
    else .ok lone
  else .ok lone

def look (signs : Signs) (text : List Char) (position : Nat) : Except Stray Turn := do
  let first ← Text.charAt text position
  if first = signs.stop then ofStop signs text position
  else
    match signs.slot? first with
    | some slot => ofDirectiveSign signs slot text position
    | none => .ok (.write [first] (position + 1))

def ofConstruct (signs : Signs) (position : Nat) (construct : Construct) : Turn :=
  match construct.meaning signs with
  | .literal text => .write text (position + construct.width)
  | .directive slot digits => .recolor slot digits (position + construct.width)

section Looks

variable {signs : Signs} {text front rest : List Char} {construct : Construct}

theorem look_stop (split : text = front ++ signs.stop :: rest) :
    look signs text front.length = ofStop signs text front.length := by
  rw [look, Text.charAt_of_split front split rfl]
  exact if_pos rfl

theorem look_directiveSign {slot : Slot}
    (split : text = front ++ signs.directiveSign slot :: rest) :
    look signs text front.length = ofDirectiveSign signs slot text front.length := by
  rw [look, Text.charAt_of_split front split rfl]
  simp [bind, Except.bind, signs.directiveSign_ne_stop]

theorem ofStop_open {content : List Char} (filled : content ≠ []) (absent : signs.stop ∉ content)
    (split : text = front ++ signs.stop :: content) :
    ofStop signs text front.length = .ok (.write content text.length) := by
  obtain ⟨second, others, rfl⟩ := List.exists_cons_of_ne_nil filled
  have inside : front.length + 1 ≠ text.length := by simp [split]
  have notStop : second ≠ signs.stop := fun same => absent (same ▸ List.mem_cons_self)
  have opened : text = (front ++ [signs.stop]) ++ second :: others := by
    rw [split, List.append_cons]
  have place : (front ++ [signs.stop]).length = front.length + 1 := List.length_append
  have missing := Text.find_of_absent (front ++ [signs.stop]) _ opened absent place
  have all : text = (front ++ [signs.stop]) ++ ((second :: others) ++ []) := by
    rw [List.append_nil, opened]
  have taken := Text.span_of_split (front ++ [signs.stop]) (second :: others) all place
  have last : front.length + 1 + (second :: others).length = text.length := by
    rw [← place, ← List.length_append, ← opened]
  rw [last] at taken
  rw [ofStop, if_neg inside, Text.charAt_second split]
  simp [bind, Except.bind, notStop, missing, taken]

theorem ofStop_closed {content : List Char} (filled : content ≠ [])
    (absent : signs.stop ∉ content)
    (split : text = front ++ signs.stop :: (content ++ signs.stop :: rest)) :
    ofStop signs text front.length
      = .ok (.write content (front.length + 1 + content.length + 1)) := by
  have inside : front.length + 1 ≠ text.length := by simp [split]
  have opened : text = (front ++ [signs.stop]) ++ (content ++ signs.stop :: rest) := by
    rw [split, List.append_cons]
  have place : (front ++ [signs.stop]).length = front.length + 1 := List.length_append
  have found := Text.find_of_split (front ++ [signs.stop]) content opened absent place
  have taken := Text.span_of_split (front ++ [signs.stop]) content opened place
  obtain ⟨second, others, rfl⟩ := List.exists_cons_of_ne_nil filled
  have notStop : second ≠ signs.stop := fun same => absent (same ▸ List.mem_cons_self)
  rw [ofStop, if_neg inside, Text.charAt_second split]
  simp only [bind, Except.bind, if_neg notStop, found, taken]

theorem ofBracket_closed {slot : Slot} {content : List Char} (absent : signs.closeBracket ∉ content)
    (split : text = front ++ signs.directiveSign slot :: signs.openBracket
      :: (content ++ signs.closeBracket :: rest)) :
    ofBracket signs slot text front.length
      = if content ≠ [] ∧ content.all Text.isPlainDigit then
          .ok (.recolor slot content (front.length + 2 + content.length + 1))
        else .ok (.refuse (.notNumber content)) := by
  have opened : text = (front ++ [signs.directiveSign slot, signs.openBracket])
      ++ (content ++ signs.closeBracket :: rest) := by simp [split]
  have place : (front ++ [signs.directiveSign slot, signs.openBracket]).length = front.length + 2 :=
    List.length_append
  have found := Text.find_of_split _ content opened absent place
  have taken := Text.span_of_split _ content opened place
  simp only [ofBracket, bind, Except.bind, found, taken]

theorem ofBracket_open {slot : Slot} {inside : List Char} (absent : signs.closeBracket ∉ inside)
    (split : text = front ++ signs.directiveSign slot :: signs.openBracket :: inside) :
    ofBracket signs slot text front.length = .ok (.refuse .unterminated) := by
  have opened : text = (front ++ [signs.directiveSign slot, signs.openBracket]) ++ inside := by
    simp [split]
  have place : (front ++ [signs.directiveSign slot, signs.openBracket]).length = front.length + 2 :=
    List.length_append
  have missing := Text.find_of_absent _ inside opened absent place
  simp only [ofBracket, bind, Except.bind, missing]

theorem ofDirectiveSign_bracket {slot : Slot} {inside : List Char} (filled : inside ≠ [])
    (split : text = front ++ signs.directiveSign slot :: signs.openBracket :: inside) :
    ofDirectiveSign signs slot text front.length = ofBracket signs slot text front.length := by
  have length : text.length = front.length + (inside.length + 2) := by simp [split]
  have more : front.length + 1 < text.length := by omega
  have further : front.length + 2 < text.length := by
    have positive := List.length_pos_iff.mpr filled
    omega
  rw [ofDirectiveSign, if_pos more, Text.charAt_second split]
  simp [bind, Except.bind, further]

theorem ofDirectiveSign_lone {slot : Slot} (introducesNot : ¬signs.Introduces rest)
    (split : text = front ++ signs.directiveSign slot :: rest) :
    ofDirectiveSign signs slot text front.length
      = .ok (.write [signs.directiveSign slot] (front.length + 1)) := by
  cases rest with
  | nil =>
    have last : ¬front.length + 1 < text.length := by simp [split]
    exact if_neg last
  | cons second inside =>
    have length : text.length = front.length + (inside.length + 2) := by simp [split]
    have more : front.length + 1 < text.length := by omega
    simp only [Signs.Introduces, not_or, Bool.not_eq_true] at introducesNot
    obtain ⟨noDigit, noBracket⟩ := introducesNot
    have closed : ¬(second = signs.openBracket ∧ front.length + 2 < text.length) := by
      rintro ⟨bracket, further⟩
      have filled : inside ≠ [] := by
        rintro rfl
        simp [length] at further
      exact noBracket ⟨bracket, filled⟩
    rw [ofDirectiveSign, if_pos more, Text.charAt_second split]
    simp only [bind, Except.bind, noDigit, if_neg closed]
    rfl

theorem look_heads {tail : List Char} (heads : construct.Heads signs tail rest)
    (split : text = front ++ tail) :
    look signs text front.length = .ok (ofConstruct signs front.length construct) := by
  cases heads with
  | ordinary notFore notBack notStop =>
    rw [look, Text.charAt_of_split front split rfl]
    simp [bind, Except.bind, notStop, Signs.slot?_eq_none notFore notBack, ofConstruct,
      Construct.meaning, Construct.width]
  | finalStop =>
    have last : front.length + 1 = text.length := by simp [split]
    rw [look_stop split, ofStop, if_pos last, ← last]
    rfl
  | doubledStop =>
    have inside : front.length + 1 ≠ text.length := by simp [split]
    rw [look_stop split, ofStop, if_neg inside, Text.charAt_second split]
    exact if_pos rfl
  | @segment content _ filled absent =>
    rw [look_stop split, ofStop_closed filled absent split]
    simp [ofConstruct, Construct.meaning, Construct.width]
    omega
  | @openSegment content filled absent =>
    have last : text.length = front.length + (content.length + 1) := by simp [split]
    rw [look_stop split, ofStop_open filled absent split, last]
    rfl
  | @singleDigit slot digit _ plain =>
    have more : front.length + 1 < text.length := by simp [split]
    rw [look_directiveSign split, ofDirectiveSign, if_pos more, Text.charAt_second split]
    exact if_pos plain
  | @bracketed slot digits _ filled plain =>
    have absent : signs.closeBracket ∉ digits := by
      intro member
      have digit := plain _ member
      simp at digit
    rw [look_directiveSign split, ofDirectiveSign_bracket (by simp) split,
      ofBracket_closed absent split, if_pos ⟨filled, List.all_eq_true.mpr plain⟩]
    simp [ofConstruct, Construct.meaning, Construct.width]
    omega
  | @loneSign slot _ introducesNot =>
    rw [look_directiveSign split, ofDirectiveSign_lone introducesNot split]
    rfl

theorem look_faulty {tail : List Char} {fault : BracketFault} (heads : fault.Heads signs tail)
    (split : text = front ++ tail) : look signs text front.length = .ok (.refuse fault) := by
  cases heads with
  | unterminated filled absent =>
    rw [look_directiveSign split, ofDirectiveSign_bracket filled split, ofBracket_open absent split]
  | @notNumber slot content _ absent noNumber =>
    have refused : ¬(content ≠ [] ∧ content.all Text.isPlainDigit = true) := by
      rwa [List.all_eq_true]
    rw [look_directiveSign split, ofDirectiveSign_bracket (by simp) split,
      ofBracket_closed absent split, if_neg refused]

end Looks

end Turn

namespace Progress

variable {φ σ : Type} {sink : Sink φ σ} {signs : Signs} {colors : List Color}
  {text rest : List Char}
  {progress next : Progress σ} {construct : Construct}

def take (sink : Sink φ σ) (colors : List Color) (progress : Progress σ) :
    Turn → Except (Run φ σ) (Progress σ)
  | .write written target =>
    match sink.sendAll (Event.ofText written) progress.state with
    | (state, none) =>
      .ok { progress with
            state, position := target
            written := progress.written + written.length }
    | (state, some fault) => .error (progress.refuse state fault)
  | .recolor slot digits target =>
    match resolveDigits colors digits progress.position with
    | .ok (index, color) =>
      .ok { progress with
            state := sink.recolor slot (some color) progress.state
            position := target
            directives := progress.directives + 1
            notices := progress.notices.push (.applied progress.position slot index color) }
    | .error error => .error (progress.finish (some error))
  | .refuse fault => .error (progress.finish (some (fault.toError progress.position)))

def turn (sink : Sink φ σ) (signs : Signs) (colors : List Color) (text : List Char)
    (progress : Progress σ) : Except Stray (Except (Run φ σ) (Progress σ)) :=
  (Turn.look signs text progress.position).map (progress.take sink colors)

/-- Takes turns until the cursor is at the end or a turn ends the scan. There is no result if the
turns allowed are not enough. -/
def takeTurns (sink : Sink φ σ) (signs : Signs) (colors : List Color) (text : List Char) :
    Nat → Progress σ → Except Stray (Option (Run φ σ))
  | 0, progress =>
    .ok (if progress.position < text.length then none else some (progress.finish none))
  | allowed + 1, progress =>
    if progress.position < text.length then
      match progress.turn sink signs colors text with
      | .ok (.ok next) => takeTurns sink signs colors text allowed next
      | .ok (.error run) => .ok (some run)
      | .error stray => .error stray
    else .ok (some (progress.finish none))

theorem takeTurns_at_end (last : ¬progress.position < text.length) (allowed : Nat) :
    takeTurns sink signs colors text allowed progress = .ok (some (progress.finish none)) := by
  cases allowed with
  | zero => rw [takeTurns, if_neg last]
  | succ allowed => rw [takeTurns, if_neg last]

theorem take_ofConstruct (progress : Progress σ) (construct : Construct) :
    progress.take sink colors (Turn.ofConstruct signs progress.position construct)
      = progress.step sink signs colors construct := by
  unfold Turn.ofConstruct step
  cases construct.meaning signs with
  | literal text => rfl
  | directive slot digits => rfl

theorem position_of_step (goes : progress.step sink signs colors construct = .ok next) :
    next.position = progress.position + construct.width := by
  unfold step at goes
  split at goes
  · split at goes
    · injection goes with same
      rw [← same]
    · contradiction
  · split at goes
    · injection goes with same
      rw [← same]
    · contradiction

theorem turn_heads {front tail : List Char} (heads : construct.Heads signs tail rest)
    (split : text = front ++ tail) (place : front.length = progress.position) :
    progress.turn sink signs colors text = .ok (progress.step sink signs colors construct) := by
  rw [turn, ← place, Turn.look_heads heads split, place, ← take_ofConstruct]
  rfl

theorem turn_faulty {front tail : List Char} {fault : BracketFault}
    (heads : fault.Heads signs tail) (split : text = front ++ tail)
    (place : front.length = progress.position) :
    progress.turn sink signs colors text
      = .ok (.error (progress.finish (some (fault.toError progress.position)))) := by
  rw [turn, ← place, Turn.look_faulty heads split, place]
  rfl

theorem turn_advances (inside : progress.position < text.length) :
    ∃ outcome, progress.turn sink signs colors text = .ok outcome
      ∧ ∀ next, outcome = .ok next →
        progress.position < next.position ∧ next.position ≤ text.length := by
  have split : text = text.take progress.position ++ text.drop progress.position :=
    (List.take_append_drop _ _).symm
  have place : (text.take progress.position).length = progress.position :=
    List.length_take_of_le (Nat.le_of_lt inside)
  obtain ⟨first, others, ahead⟩ := List.exists_cons_of_ne_nil
    (List.ne_nil_of_length_pos (List.length_drop ▸ Nat.sub_pos_of_lt inside))
  rcases Construct.heads_or_faulty signs first others with ⟨construct, after, heads⟩ | ⟨fault, heads⟩
  · rw [← ahead] at heads
    refine ⟨_, turn_heads heads split place, fun next goes => ?_⟩
    have moved := position_of_step goes
    have positive := construct.width_pos
    have length := heads.length_eq
    rw [List.length_drop] at length
    omega
  · rw [← ahead] at heads
    refine ⟨_, turn_faulty heads split place, fun next goes => ?_⟩
    contradiction

theorem takeTurns_eq_play {front tail : List Char} {allowed : Nat} (enough : tail.length ≤ allowed)
    (split : text = front ++ tail) (place : front.length = progress.position) :
    takeTurns sink signs colors text allowed progress
      = .ok (some (play sink signs colors (Reading.ofText signs tail).fault progress
          (Reading.ofText signs tail).constructs)) := by
  induction tail using reading_induction signs generalizing allowed front progress with
  | nil =>
    have last : ¬progress.position < text.length := by simp [split, place]
    rw [takeTurns_at_end last, Reading.ofText_nil]
    rfl
  | @more construct tail rest heads ih =>
    have positive := construct.width_pos
    have length := heads.length_eq
    have inside : progress.position < text.length := by
      rw [split, List.length_append]
      omega
    obtain ⟨allowed, rfl⟩ : ∃ fewer, allowed = fewer + 1 := Nat.exists_eq_add_one.mpr (by omega)
    rw [takeTurns, if_pos inside, Reading.ofText_of_heads heads]
    simp only [turn_heads heads split place, play]
    cases goes : progress.step sink signs colors construct with
    | error run => rfl
    | ok next =>
      have moved := position_of_step goes
      have passed : text = (front ++ construct.source signs) ++ rest := by
        rw [split, List.append_assoc, heads.source_append]
      have moves : (front ++ construct.source signs).length = next.position := by
        rw [List.length_append, construct.length_source, place, moved]
      exact ih (by omega) passed moves
  | @faulty fault tail heads =>
    obtain ⟨first, others, rfl⟩ := heads.exists_cons
    have inside : progress.position < text.length := by simp [split, place]
    obtain ⟨allowed, rfl⟩ : ∃ fewer, allowed = fewer + 1 :=
      Nat.exists_eq_add_one.mpr (Nat.lt_of_lt_of_le (Nat.succ_pos _) enough)
    rw [takeTurns, if_pos inside, Reading.ofText_of_faulty heads]
    simp only [turn_faulty heads split place]
    rfl

end Progress

namespace Script

theorem position_of_error {signs : Signs} {colors : List Color} {text : List Char}
    {error : FormatError} (stopped : (ofText signs colors text).error = some error) :
    error.position = (ofText signs colors text).reach := by
  induction text using reading_induction signs generalizing error with
  | nil => simp at stopped
  | @more construct text rest heads ih =>
    cases missing : construct.missing? signs colors with
    | some first =>
      rw [ofText_of_missing heads missing] at stopped ⊢
      injection stopped with same
      rw [← same, Construct.position_of_missing missing]
      rfl
    | none =>
      rw [ofText_of_heads heads missing] at stopped ⊢
      obtain ⟨inner, found, rfl⟩ := Option.map_eq_some_iff.mp stopped
      have tail := ih found
      simp only [FormatError.shift, preceded]
      omega
  | faulty heads =>
    rw [ofText_of_faulty heads] at stopped ⊢
    injection stopped with same
    rw [← same]
    cases heads <;> rfl

end Script

/-- A scan never looks outside of its text. Each turn that does not end it moves the cursor forward
and not beyond the end, so that there are no more turns than characters, and in the end the cursor
stands behind the text or at the error. -/
theorem cursor_advances_within_text {φ σ : Type} (sink : Sink φ σ) (signs : Signs)
    (colors : List Color) (text : List Char) (state : σ) :
    let run := scan sink signs colors text state
    (∀ progress : Progress σ, progress.position < text.length →
        ∃ outcome, progress.turn sink signs colors text = .ok outcome
          ∧ ∀ next, outcome = .ok next →
            progress.position < next.position ∧ next.position ≤ text.length)
      ∧ Progress.takeTurns sink signs colors text text.length { state } = .ok (some run)
      ∧ ∀ outcome, run.result = .ok outcome →
        (outcome.error = none → run.position = text.length)
          ∧ ∀ error, outcome.error = some error → error.position = run.position := by
  intro run
  refine ⟨fun progress => Progress.turn_advances, ?_, ?_⟩
  · have front : text = [] ++ text := rfl
    exact Progress.takeTurns_eq_play (Nat.le_refl _) front rfl
  · intro outcome ended
    obtain ⟨sent, same⟩ := sent_of_scan_ok ended
    have place : run.position = (Script.ofText signs colors text).reach := by
      have whole := congrArg Run.position (scan_of_sent sent)
      exact whole
    rw [place, same]
    exact ⟨fun finished => Script.reach_of_ended finished, fun error => Script.position_of_error⟩

/-- A directive without a color, behind a segment. -/
theorem cursor_advances_within_text_missing_color :
    let text := "~%0~&\x7b12\x7d~".toList
    let run := record .standard [] text
    let error : FormatError := { kind := .indexOutOfRange, position := 4, index := some 12 }
    Progress.takeTurns Recorder.sink .standard [] text text.length { state := {} } = .ok (some run)
      ∧ run.result = .ok { error := some error, written := 2 } ∧ run.position = 4 := by
  intro text run error
  obtain ⟨-, turns, ended⟩ := cursor_advances_within_text Recorder.sink .standard [] text {}
  have stopped : run.result = .ok { error := some error, written := 2 } := by
    obtain ⟨_, sent⟩ := Sink.exists_sendAll Recorder.accepting
      (Script.ofText Signs.standard [] text).events {}
    have ended := congrArg Run.result (scan_of_sent sent)
    exact ended.trans (congrArg Except.ok (by decide +kernel))
  obtain ⟨-, place⟩ := ended _ stopped
  have same : (4 : Int) = run.position := place error rfl
  exact ⟨turns, stopped, by omega⟩

end ColorMarkup
