import ColorMarkup.Proofs.Routine

/-!
Renders one after the other. A render that restores the default colors leaves none of its own, so
what the next one puts out does not depend on what was rendered before it.
-/

namespace ColorMarkup

variable {φ σ μ α : Type}

/-- A text to be rendered, with or without a line end. -/
structure Job extends Markup where
  line : Bool

def Job.render (job : Job) (sink : Sink φ σ) (defaults : Palette) (state : σ) : Run φ σ :=
  if job.line then writeLine sink defaults true job.signs job.colors job.text state
  else write sink defaults true job.signs job.colors job.text state

def renderAll (sink : Sink φ σ) (defaults : Palette) (jobs : List Job) (state : σ) : σ :=
  jobs.foldl (fun state job => (job.render sink defaults state).state) state

/-- What a call adds to a view of the sink is settled by the call, by the active colors and by a mode
of the sink that no call changes. -/
structure Sink.Additive (sink : Sink φ σ) (view : σ → List α) (mode : σ → μ)
    (added : μ → Palette → Event → List α) : Prop where
  accepting : sink.Accepting
  tracking : sink.Tracking
  steady : ∀ {event state next}, sink.send event state = .ok next → mode next = mode state
  grows : ∀ {event state next}, event.written.length ≤ 1 → sink.send event state = .ok next →
    view next = view state ++ added (mode state) (sink.palette state) event

/-- Two states that have taken the same addition since two earlier ones, and still agree. -/
structure Sink.Abreast (sink : Sink φ σ) (view : σ → List α) (mode : σ → μ) (start otherStart : σ)
    (state opposite : σ) : Prop where
  palette : sink.palette state = sink.palette opposite
  steady : mode state = mode start
  oppositeSteady : mode opposite = mode start
  added : ∃ addition, view state = view start ++ addition
    ∧ view opposite = view otherStart ++ addition

namespace Sink.Additive

variable {sink : Sink φ σ} {view : σ → List α} {mode : σ → μ} {added : μ → Palette → Event → List α}
  {start otherStart state opposite next across : σ}

theorem abreast_send (additive : sink.Additive view mode added) {event : Event}
    (accepted : sink.send event state = .ok next) (beside : sink.send event opposite = .ok across)
    (short : event.written.length ≤ 1)
    (abreast : sink.Abreast view mode start otherStart state opposite) :
    sink.Abreast view mode start otherStart next across := by
  obtain ⟨addition, here, there⟩ := abreast.added
  constructor
  · rw [additive.tracking.palette_send accepted, additive.tracking.palette_send beside,
      abreast.palette]
  · rw [additive.steady accepted, abreast.steady]
  · rw [additive.steady beside, abreast.oppositeSteady]
  · refine ⟨addition ++ added (mode state) (sink.palette state) event, ?_, ?_⟩
    · rw [additive.grows short accepted, here, List.append_assoc]
    · rw [additive.grows short beside, there, abreast.oppositeSteady, abreast.steady, abreast.palette,
        List.append_assoc]

theorem parallel (additive : sink.Additive view mode added) (start otherStart : σ) :
    sink.Parallel sink (fun piece => piece.length ≤ 1)
      (sink.Abreast view mode start otherStart) := by
  refine .of_send (fun _ => Nat.le_refl 1) additive.accepting additive.accepting ?_
  intro event state opposite next across fits accepted beside abreast
  exact additive.abreast_send accepted beside (Event.short_of_allowed fits) abreast

end Sink.Additive

namespace Job

variable {sink : Sink φ σ} {view : σ → List α} {mode : σ → μ} {added : μ → Palette → Event → List α}
  {defaults : Palette} {state : σ}

theorem parallel {τ : Type} {other : Sink φ τ} {allowed : List Char → Prop} {related : σ → τ → Prop}
    {opposite : τ} (parallel : sink.Parallel other allowed related) (job : Job)
    (here : related state opposite) :
    Run.Parallel related (job.render sink defaults state) (job.render other defaults opposite) := by
  unfold render
  split
  · exact parallel.line defaults true job.signs job.colors job.text here
  · exact parallel.rendered defaults true job.signs job.colors job.text here

theorem palette_render (accepting : sink.Accepting) (tracking : sink.Tracking) (job : Job)
    (state : σ) : sink.palette (job.render sink defaults state).state = defaults := by
  have written := Run.Sends.of_write accepting defaults true job.signs job.colors job.text state
  unfold render
  split
  · rw [writeLine, tracking.palette_sendAll (written.terminated accepting).sent, List.foldl_append]
    simp only [if_true, recolored_restoration]
    split <;> rfl
  · rw [tracking.palette_sendAll written.sent]
    exact recolored_restoration _ defaults (sink.palette state)

theorem mode_render (additive : sink.Additive view mode added) (job : Job) (state : σ) :
    mode (job.render sink defaults state).state = mode state := by
  have abreast : sink.Abreast view mode state state state state :=
    ⟨rfl, rfl, rfl, [], by simp, by simp⟩
  exact (job.parallel (additive.parallel state state) abreast).state.steady

theorem renderAll_preserves (additive : sink.Additive view mode added) (jobs : List Job)
    (clean : sink.palette state = defaults) :
    sink.palette (renderAll sink defaults jobs state) = defaults
      ∧ mode (renderAll sink defaults jobs state) = mode state := by
  induction jobs generalizing state with
  | nil => exact ⟨clean, rfl⟩
  | cons job rest ih =>
    obtain ⟨palette, same⟩ :=
      ih (job.palette_render additive.accepting additive.tracking state)
    exact ⟨palette, same.trans (job.mode_render additive state)⟩

end Job

/-- Two runs with the same result that add the same to a view of their sinks. -/
structure Run.AddsAlike (view : σ → List α) (start : σ) (run : Run φ σ) (otherStart : σ)
    (other : Run φ σ) : Prop where
  result : run.result = other.result
  added : ∃ addition, view run.state = view start ++ addition
    ∧ view other.state = view otherStart ++ addition

theorem Sink.Additive.addsAlike {sink : Sink φ σ} {view : σ → List α} {mode : σ → μ}
    {added : μ → Palette → Event → List α} (additive : sink.Additive view mode added)
    {defaults : Palette} {state alone : σ} (job : Job) (palette : sink.palette state = defaults)
    (clean : sink.palette alone = defaults) (same : mode alone = mode state) :
    Run.AddsAlike view state (job.render sink defaults state) alone
      (job.render sink defaults alone) := by
  have abreast : sink.Abreast view mode state alone state alone :=
    ⟨palette.trans clean.symm, rfl, same, [], by simp, by simp⟩
  obtain ⟨there, ends⟩ := job.parallel (additive.parallel state alone) abreast
  exact ⟨ends, there.added⟩

theorem TerminalStream.additive :
    sink.Additive TerminalStream.output TerminalStream.colored Event.streamed where
  accepting := accepting
  tracking := tracking
  steady := by
    intro event stream next accepted
    cases event with
    | write piece =>
      injection accepted with same
      rw [← same]
      rfl
    | recolor slot color =>
      injection accepted with same
      rw [← same]
      exact (shows_recolor stream slot color).colored
  grows := by
    intro event stream next short accepted
    exact (shows_of_send accepted short).output

theorem Recorder.additive :
    sink.Additive Recorder.events (fun _ => ()) fun _ _ event => [event] where
  accepting := accepting
  tracking := tracking
  steady _ := rfl
  grows := by
    intro event recorder next _ accepted
    rw [send_sink] at accepted
    injection accepted with same
    rw [← same, events_record]

/-- On a sink in the default colors, a render that restores them puts out and reports what it does
alone, on any other sink of the kind in the default colors, whatever has been rendered before. -/
theorem renders_do_not_bleed (defaults : Palette) (before : List Job) (job : Job) :
    (∀ stream alone : TerminalStream, stream.palette = defaults → alone.palette = defaults →
      alone.colored = stream.colored →
      let earlier := renderAll TerminalStream.sink defaults before stream
      earlier.palette = defaults
        ∧ Run.AddsAlike TerminalStream.output earlier
            (job.render TerminalStream.sink defaults earlier) alone
            (job.render TerminalStream.sink defaults alone))
      ∧ ∀ recorder alone : Recorder, recorder.palette = defaults → alone.palette = defaults →
        let earlier := renderAll Recorder.sink defaults before recorder
        earlier.palette = defaults
          ∧ Run.AddsAlike Recorder.events earlier (job.render Recorder.sink defaults earlier) alone
              (job.render Recorder.sink defaults alone) := by
  constructor
  · intro stream alone clean aloneClean same earlier
    obtain ⟨palette, mode⟩ := Job.renderAll_preserves TerminalStream.additive before clean
    exact ⟨palette, TerminalStream.additive.addsAlike job palette aloneClean (same.trans mode.symm)⟩
  · intro recorder alone clean aloneClean earlier
    obtain ⟨palette, _⟩ := Job.renderAll_preserves Recorder.additive before clean
    exact ⟨palette, Recorder.additive.addsAlike job palette aloneClean rfl⟩

/-- The first render fails in red on green; the second one starts in the default blue all the same,
as it does on a fresh stream. -/
theorem renders_do_not_bleed_after_error :
    let defaults : Palette := { foreground := some .blue }
    let stream : TerminalStream := { palette := defaults, pieces := [['x']] }
    let fresh : TerminalStream := { palette := defaults }
    let failing : Job :=
      { line := true, signs := Signs.standard, colors := [.red, .green]
        text := ['%', '0', '&', '1', 'a', '%', '9'] }
    let job : Job := { line := true, signs := Signs.standard, colors := [], text := ['b'] }
    let earlier := renderAll TerminalStream.sink defaults [failing] stream
    stream.palette = defaults ∧ fresh.palette = defaults ∧ earlier.palette = defaults
      ∧ Run.AddsAlike TerminalStream.output earlier (job.render TerminalStream.sink defaults earlier)
          fresh (job.render TerminalStream.sink defaults fresh) := by
  intro defaults stream fresh failing job earlier
  have separate := (renders_do_not_bleed defaults [failing] job).1 stream fresh rfl rfl rfl
  exact ⟨rfl, rfl, separate.1, separate.2⟩

end ColorMarkup
