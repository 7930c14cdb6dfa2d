import ColorMarkup.Proofs.Calls
import ColorMarkup.Proofs.ColorIndex
import ColorMarkup.Proofs.Grammar

/-!
The script of a text: what a scan sends and reports, told without a sink. A scan sends the events of
the script one by one, and unless the sink refuses one it ends as the script says.
-/

namespace ColorMarkup

theorem FormatError.shift_shift (error : FormatError) (first second : Int) :
    (error.shift first).shift second = error.shift (second + first) := by
  simp only [shift, FormatError.mk.injEq, and_true, true_and]
  omega

theorem FormatError.shift_zero : FormatError.shift 0 = id := by
  funext error
  simp [shift]

def Notice.shift (distance : Nat) : Notice → Notice
  | .applied position slot index color => .applied (position + distance) slot index color
  | .aborted error => .aborted (error.shift distance)
  | notice => notice

theorem Notice.shift_shift (notice : Notice) (first second : Nat) :
    (notice.shift first).shift second = notice.shift (second + first) := by
  cases notice with
  | applied position slot index color =>
    simp only [shift, Notice.applied.injEq, and_true]
    omega
  | aborted error => simp [shift, FormatError.shift_shift]
  | _ => rfl

theorem Notice.shift_zero : Notice.shift 0 = id := by
  funext notice
  cases notice <;> simp [shift, FormatError.shift_zero]

namespace Construct

def events (signs : Signs) (colors : List Color) (construct : Construct) : List Event :=
  match construct.meaning signs with
  | .literal text => Event.ofText text
  | .directive slot digits =>
    colors[Text.plainValue digits]?.toList.map fun color => .recolor slot (some color)

def notices (signs : Signs) (colors : List Color) (construct : Construct) : List Notice :=
  match construct.meaning signs with
  | .literal _ => []
  | .directive slot digits =>
    colors[Text.plainValue digits]?.toList.map fun color =>
      .applied 0 slot (Text.plainValue digits) color

def missing? (signs : Signs) (colors : List Color) (construct : Construct) : Option FormatError :=
  match construct.meaning signs with
  | .literal _ => none
  | .directive _ digits =>
    match resolveDigits colors digits 0 with
    | .ok _ => none
    | .error error => some error

theorem missing?_eq_some_iff {signs : Signs} {colors : List Color} {construct : Construct}
    {error : FormatError} :
    construct.missing? signs colors = some error
      ↔ ∃ slot digits, construct.meaning signs = .directive slot digits
          ∧ resolveDigits colors digits 0 = .error error := by
  unfold missing?
  cases construct.meaning signs with
  | literal text => simp
  | directive slot digits =>
    constructor
    · intro missing
      refine ⟨slot, digits, rfl, ?_⟩
      cases resolved : resolveDigits colors digits 0 with
      | ok pair => simp [resolved] at missing
      | error refused => simpa [resolved] using missing
    · rintro ⟨_, _, same, refused⟩
      injection same with slots digits
      subst slots digits
      simp [refused]

theorem missing?_of_directive {signs : Signs} {colors : List Color} {construct : Construct}
    {slot : Slot} {digits : List Char} (directive : construct.meaning signs = .directive slot digits) :
    construct.missing? signs colors = none
      ↔ ∃ pair, resolveDigits colors digits 0 = .ok pair := by
  unfold missing?
  rw [directive]
  cases resolved : resolveDigits colors digits 0 <;> simp [resolved]

theorem position_of_missing {signs : Signs} {colors : List Color} {construct : Construct}
    {error : FormatError} (missing : construct.missing? signs colors = some error) :
    error.position = 0 := by
  obtain ⟨slot, digits, _, refused⟩ := missing?_eq_some_iff.mp missing
  exact (resolveDigits_error refused).1

end Construct

/-- What a scan does: the events it sends, how far it reads, why it stops early and what it
notes. -/
structure Script where
  events : List Event := []
  reach : Nat := 0
  error : Option FormatError := none
  notices : List Notice := []

namespace Script

def failed (error : FormatError) : Script :=
  { error := some error, notices := [.aborted error] }

def preceded (signs : Signs) (colors : List Color) (construct : Construct) (script : Script) :
    Script where
  events := construct.events signs colors ++ script.events
  reach := construct.width + script.reach
  error := script.error.map (FormatError.shift construct.width)
  notices := construct.notices signs colors ++ script.notices.map (Notice.shift construct.width)

def ofConstructs (signs : Signs) (colors : List Color) (fault : Option BracketFault) :
    List Construct → Script
  | [] =>
    match fault with
    | some fault => failed (fault.toError 0)
    | none => {}
  | construct :: rest =>
    match construct.missing? signs colors with
    | some error => failed error
    | none => (ofConstructs signs colors fault rest).preceded signs colors construct

def ofText (signs : Signs) (colors : List Color) (text : List Char) : Script :=
  let reading := Reading.ofText signs text
  ofConstructs signs colors reading.fault reading.constructs

def outcome (script : Script) : Outcome where
  error := script.error
  written := (Event.textOf script.events).length
  directives := (Event.changesOf script.events).length

@[simp] theorem ofText_nil (signs : Signs) (colors : List Color) : ofText signs colors [] = {} := by
  simp [ofText, ofConstructs]

variable {signs : Signs} {colors : List Color} {text rest : List Char}

theorem ofText_of_heads {construct : Construct} (heads : construct.Heads signs text rest)
    (supplied : construct.missing? signs colors = none) :
    ofText signs colors text = (ofText signs colors rest).preceded signs colors construct := by
  simp only [ofText, Reading.ofText_of_heads heads, ofConstructs, supplied]

theorem ofText_of_missing {construct : Construct} {error : FormatError}
    (heads : construct.Heads signs text rest)
    (missing : construct.missing? signs colors = some error) :
    ofText signs colors text = failed error := by
  simp only [ofText, Reading.ofText_of_heads heads, ofConstructs, missing]

theorem ofText_of_faulty {fault : BracketFault} (heads : fault.Heads signs text) :
    ofText signs colors text = failed (fault.toError 0) := by
  simp only [ofText, Reading.ofText_of_faulty heads, ofConstructs]

end Script

namespace Progress

variable {φ σ : Type} {sink : Sink φ σ} {signs : Signs} {colors : List Color}
  {progress : Progress σ} {construct : Construct}

def advance (progress : Progress σ) (signs : Signs) (colors : List Color) (construct : Construct)
    (state : σ) : Progress σ where
  state := state
  position := progress.position + construct.width
  written := progress.written + (Event.textOf (construct.events signs colors)).length
  directives := progress.directives + (Event.changesOf (construct.events signs colors)).length
  notices := progress.notices
    ++ ((construct.notices signs colors).map (Notice.shift progress.position)).toArray

def conclude (progress : Progress σ) (script : Script) (state : σ) : Run φ σ where
  state := state
  position := progress.position + script.reach
  notices := progress.notices ++ (script.notices.map (Notice.shift progress.position)).toArray
  result := .ok {
    error := script.error.map (FormatError.shift progress.position)
    written := progress.written + (Event.textOf script.events).length
    directives := progress.directives + (Event.changesOf script.events).length }

theorem finish_some (progress : Progress σ) (error : FormatError) :
    (progress.finish (some (error.shift progress.position)) : Run φ σ)
      = progress.conclude (Script.failed error) progress.state := by
  simp [finish, conclude, Script.failed, Event.textOf, Event.changesOf, Notice.shift]

theorem finish_none (progress : Progress σ) :
    (progress.finish none : Run φ σ) = progress.conclude {} progress.state := by
  simp [finish, conclude, Event.textOf, Event.changesOf]

theorem conclude_advance (script : Script) (between state : σ) :
    ((progress.advance signs colors construct between).conclude script state : Run φ σ)
      = progress.conclude (script.preceded signs colors construct) state := by
  simp [conclude, advance, Script.preceded, Event.textOf_append, Event.changesOf_append,
    Function.comp_def, FormatError.shift_shift, Notice.shift_shift, Nat.add_assoc]

theorem step_missing {error : FormatError} (missing : construct.missing? signs colors = some error) :
    progress.step sink signs colors construct
      = .error (progress.finish (some (error.shift progress.position))) := by
  obtain ⟨slot, digits, directive, refused⟩ := Construct.missing?_eq_some_iff.mp missing
  simp only [step, directive]
  rw [resolveDigits_shift, refused]
  rfl

theorem step_supplied (supplied : construct.missing? signs colors = none) :
    progress.step sink signs colors construct
      = match sink.sendAll (construct.events signs colors) progress.state with
        | (state, none) => .ok (progress.advance signs colors construct state)
        | (state, some fault) => .error (progress.refuse state fault) := by
  unfold step advance Construct.events Construct.notices
  cases meaning : construct.meaning signs with
  | literal text =>
    rcases sent : sink.sendAll (Event.ofText text) progress.state with ⟨state, _ | fault⟩ <;>
      simp [sent, Event.textOf_ofText, Event.changesOf_ofText]
  | directive slot digits =>
    obtain ⟨⟨index, color⟩, resolved⟩ := (Construct.missing?_of_directive meaning).mp supplied
    obtain ⟨rfl, found⟩ := resolveDigits_ok resolved
    simp [resolveDigits_of_ok resolved, found, Sink.sendAll, Sink.send, Event.textOf,
      Event.changesOf, Event.isWrite, Notice.shift]

theorem play_nil (sink : Sink φ σ) (signs : Signs) (colors : List Color)
    (fault : Option BracketFault) (progress : Progress σ) :
    play sink signs colors fault progress []
      = progress.conclude (Script.ofConstructs signs colors fault []) progress.state := by
  cases fault with
  | none => exact progress.finish_none
  | some fault =>
    rw [play, Script.ofConstructs, ← finish_some]
    cases fault <;> simp [BracketFault.toError, FormatError.shift]

theorem play_missing {error : FormatError} (missing : construct.missing? signs colors = some error)
    (fault : Option BracketFault) (rest : List Construct) :
    play sink signs colors fault progress (construct :: rest)
      = progress.conclude (Script.ofConstructs signs colors fault (construct :: rest))
          progress.state := by
  simp only [play, step_missing missing, Script.ofConstructs, missing, finish_some]

/-- Playing constructs sends the events of their script. It ends as the script says, or with the
fault of the sink. -/
theorem play_eq (sink : Sink φ σ) (signs : Signs) (colors : List Color)
    (fault : Option BracketFault) (constructs : List Construct) (progress : Progress σ) :
    match sink.sendAll (Script.ofConstructs signs colors fault constructs).events progress.state with
    | (state, none) =>
      play sink signs colors fault progress constructs
        = progress.conclude (Script.ofConstructs signs colors fault constructs) state
    | (state, some refusal) =>
      (play sink signs colors fault progress constructs).state = state
        ∧ (play sink signs colors fault progress constructs).result = .error refusal := by
  induction constructs generalizing progress with
  | nil =>
    have silent : (Script.ofConstructs signs colors fault []).events = [] := by
      cases fault <;> rfl
    rw [silent]
    exact play_nil sink signs colors fault progress
  | cons construct rest ih =>
    cases supplied : construct.missing? signs colors with
    | some error =>
      have silent : (Script.ofConstructs signs colors fault (construct :: rest)).events = [] := by
        simp [Script.ofConstructs, supplied, Script.failed]
      rw [silent]
      exact play_missing supplied fault rest
    | none =>
      simp only [play, step_supplied supplied, Script.ofConstructs, supplied, Script.preceded,
        sink.sendAll_append]
      obtain ⟨between, refusal⟩ := sink.sendAll (construct.events signs colors) progress.state
      cases refusal with
      | some refusal => exact ⟨rfl, rfl⟩
      | none =>
        have tail := ih (progress.advance signs colors construct between)
        simp only [conclude_advance] at tail
        exact tail

end Progress

section

variable {φ σ : Type} {sink : Sink φ σ} {signs : Signs} {colors : List Color} {text : List Char}
  {state after : σ}

theorem scan_of_sent
    (sent : sink.sendAll (Script.ofText signs colors text).events state = (after, none)) :
    scan sink signs colors text state = {
      state := after
      position := (Script.ofText signs colors text).reach
      notices := (Script.ofText signs colors text).notices.toArray
      result := .ok (Script.ofText signs colors text).outcome } := by
  have played := Progress.play_eq sink signs colors (Reading.ofText signs text).fault
    (Reading.ofText signs text).constructs { state }
  simp only [Script.ofText] at sent
  simp only [sent] at played
  simp [scan, played, Progress.conclude, Script.ofText, Script.outcome, FormatError.shift_zero,
    Notice.shift_zero]

theorem scan_of_refused {refusal : φ}
    (sent : sink.sendAll (Script.ofText signs colors text).events state = (after, some refusal)) :
    (scan sink signs colors text state).state = after
      ∧ (scan sink signs colors text state).result = .error refusal := by
  have played := Progress.play_eq sink signs colors (Reading.ofText signs text).fault
    (Reading.ofText signs text).constructs { state }
  simp only [Script.ofText] at sent
  simp only [sent] at played
  exact played

theorem sent_of_scan_ok {outcome : Outcome}
    (ended : (scan sink signs colors text state).result = .ok outcome) :
    sink.sendAll (Script.ofText signs colors text).events state
        = ((scan sink signs colors text state).state, none)
      ∧ outcome = (Script.ofText signs colors text).outcome := by
  rcases sent : sink.sendAll (Script.ofText signs colors text).events state with
    ⟨after, _ | refusal⟩
  · rw [scan_of_sent sent] at ended ⊢
    injection ended with same
    exact ⟨rfl, same.symm⟩
  · rw [(scan_of_refused sent).2] at ended
    contradiction

end

theorem record_eq (signs : Signs) (colors : List Color) (text : List Char) :
    (record signs colors text).state.events = (Script.ofText signs colors text).events
      ∧ (record signs colors text).result = .ok (Script.ofText signs colors text).outcome := by
  obtain ⟨after, sent⟩ :=
    Sink.exists_sendAll Recorder.accepting (Script.ofText signs colors text).events {}
  have recorded := Recorder.events_sendAll sent
  rw [record, scan_of_sent sent]
  exact ⟨by simpa [Recorder.events] using recorded, rfl⟩

end ColorMarkup
