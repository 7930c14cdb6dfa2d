import ColorMarkup.Proofs.StreamText

/-!
Two sinks side by side. If every call takes related states to related states, so does a whole
render, and it ends alike on both.
-/

namespace ColorMarkup

variable {φ σ τ υ : Type}

/-- Both sinks accept a color and every piece that is allowed, and related states stay related. -/
structure Sink.Parallel (one : Sink φ σ) (other : Sink φ τ) (allowed : List Char → Prop)
    (related : σ → τ → Prop) : Prop where
  single : ∀ character, allowed [character]
  write : ∀ {piece state opposite}, allowed piece → related state opposite →
    ∃ next across, one.write piece state = .ok next ∧ other.write piece opposite = .ok across
      ∧ related next across
  recolor : ∀ {slot color state opposite}, related state opposite →
    related (one.recolor slot color state) (other.recolor slot color opposite)

/-- Two runs with the same result that leave related states. -/
structure Run.Parallel (related : σ → τ → Prop) (run : Run φ σ) (across : Run φ τ) : Prop where
  state : related run.state across.state
  result : run.result = across.result

def Event.Allowed (allowed : List Char → Prop) : Event → Prop
  | write piece => allowed piece
  | recolor _ _ => True

theorem Event.short_of_allowed {event : Event}
    (fits : event.Allowed fun piece => piece.length ≤ 1) : event.written.length ≤ 1 := by
  cases event with
  | write piece => simpa [Allowed] using fits
  | recolor slot color => simp

theorem Run.reported_fields (run : Run φ σ) :
    run.reported.state = run.state ∧ run.reported.result = run.result := by
  unfold Run.reported
  split <;> exact ⟨rfl, rfl⟩

namespace Sink.Parallel

variable {one : Sink φ σ} {other : Sink φ τ} {allowed : List Char → Prop} {related : σ → τ → Prop}
  {state : σ} {opposite : τ} {run : Run φ σ} {across : Run φ τ}

theorem of_send (single : ∀ character, allowed [character]) (accepting : one.Accepting)
    (otherAccepting : other.Accepting)
    (preserved : ∀ (event : Event) {state opposite next across}, event.Allowed allowed →
      one.send event state = .ok next → other.send event opposite = .ok across →
      related state opposite → related next across) :
    one.Parallel other allowed related where
  single := single
  write := by
    intro piece state opposite fits here
    obtain ⟨next, accepted⟩ := exists_send accepting (.write piece) state
    obtain ⟨across, beside⟩ := exists_send otherAccepting (.write piece) opposite
    exact ⟨next, across, accepted, beside, preserved (.write piece) fits accepted beside here⟩
  recolor := by
    intro slot color state opposite here
    exact preserved (.recolor slot color) trivial rfl rfl here

theorem send (parallel : one.Parallel other allowed related) {event : Event}
    (fits : event.Allowed allowed) (here : related state opposite) :
    ∃ next across, one.send event state = .ok next ∧ other.send event opposite = .ok across
      ∧ related next across := by
  cases event with
  | write piece => exact parallel.write fits here
  | recolor slot color => exact ⟨_, _, rfl, rfl, parallel.recolor here⟩

theorem sendAll (parallel : one.Parallel other allowed related) {events : List Event}
    (fit : ∀ event ∈ events, event.Allowed allowed) (here : related state opposite) :
    ∃ after across, one.sendAll events state = (after, none)
      ∧ other.sendAll events opposite = (across, none) ∧ related after across := by
  induction events generalizing state opposite with
  | nil => exact ⟨state, opposite, rfl, rfl, here⟩
  | cons event rest ih =>
    obtain ⟨next, beside, accepted, otherAccepted, between⟩ :=
      parallel.send (fit event (by simp)) here
    obtain ⟨after, across, sent, otherSent, there⟩ :=
      ih (fun later member => fit later (by simp [member])) between
    exact ⟨after, across, sendAll_cons_sent.mpr ⟨next, accepted, sent⟩,
      sendAll_cons_sent.mpr ⟨beside, otherAccepted, otherSent⟩, there⟩

theorem allowed_script (parallel : one.Parallel other allowed related) (signs : Signs)
    (colors : List Color) (text : List Char) :
    ∀ event ∈ (Script.ofText signs colors text).events, event.Allowed allowed := by
  intro event member
  cases Script.sendable signs colors text event member with
  | write _ => exact parallel.single _
  | recolor => exact trivial

theorem scan (parallel : one.Parallel other allowed related) (signs : Signs) (colors : List Color)
    (text : List Char) (here : related state opposite) :
    Run.Parallel related (ColorMarkup.scan one signs colors text state)
      (ColorMarkup.scan other signs colors text opposite) := by
  obtain ⟨after, across, sent, otherSent, there⟩ :=
    parallel.sendAll (parallel.allowed_script signs colors text) here
  rw [scan_of_sent sent, scan_of_sent otherSent]
  exact ⟨there, rfl⟩

theorem restore (parallel : one.Parallel other allowed related) (defaults : Palette)
    (here : related state opposite) :
    related (one.restore defaults state) (other.restore defaults opposite) :=
  parallel.recolor (parallel.recolor here)

theorem rendered (parallel : one.Parallel other allowed related) (defaults : Palette)
    (restore : Bool) (signs : Signs) (colors : List Color) (text : List Char)
    (here : related state opposite) :
    Run.Parallel related (ColorMarkup.write one defaults restore signs colors text state)
      (ColorMarkup.write other defaults restore signs colors text opposite) := by
  obtain ⟨there, ends⟩ := parallel.scan signs colors text here
  unfold ColorMarkup.write
  constructor
  · rw [(Run.reported_fields _).1, (Run.reported_fields _).1]
    cases restore with
    | true => exact parallel.restore defaults there
    | false => exact there
  · rw [(Run.reported_fields _).2, (Run.reported_fields _).2]
    cases restore <;> exact ends

theorem terminated (parallel : one.Parallel other allowed related)
    (runs : Run.Parallel related run across) :
    Run.Parallel related (run.terminated one) (across.terminated other) := by
  obtain ⟨there, ends⟩ := runs
  unfold Run.terminated
  rw [← ends]
  split
  · obtain ⟨next, beside, accepted, otherAccepted, after⟩ :=
      parallel.write (parallel.single '\n') there
    simp only [accepted, otherAccepted]
    exact ⟨after, rfl⟩
  · exact ⟨there, ends⟩

theorem line (parallel : one.Parallel other allowed related) (defaults : Palette)
    (restore : Bool) (signs : Signs) (colors : List Color) (text : List Char)
    (here : related state opposite) :
    Run.Parallel related (writeLine one defaults restore signs colors text state)
      (writeLine other defaults restore signs colors text opposite) :=
  parallel.terminated (parallel.rendered defaults restore signs colors text here)

theorem through {third : Sink φ υ} {reference : σ → υ → Prop} {counterpart : τ → υ → Prop}
    (first : one.Parallel third allowed reference)
    (second : other.Parallel third allowed counterpart) :
    one.Parallel other allowed fun state opposite =>
      ∃ middle, reference state middle ∧ counterpart opposite middle where
  single := first.single
  write := by
    rintro piece state opposite fits ⟨middle, left, right⟩
    obtain ⟨next, between, accepted, shared, nextLeft⟩ := first.write fits left
    obtain ⟨across, same, otherAccepted, alsoShared, nextRight⟩ := second.write fits right
    rw [shared] at alsoShared
    injection alsoShared with equal
    subst equal
    exact ⟨next, across, accepted, otherAccepted, between, nextLeft, nextRight⟩
  recolor := by
    rintro slot color state opposite ⟨middle, left, right⟩
    exact ⟨_, first.recolor left, second.recolor right⟩

end Sink.Parallel

end ColorMarkup
