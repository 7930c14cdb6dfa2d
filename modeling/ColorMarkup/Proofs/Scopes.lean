import ColorMarkup.Proofs.Routine

/-!
Scopes that restore colors. However a scope is left, the sink then has the scope's own colors, and
what the sink has received is what the body sent and one restoration. An exception leaves scope
after scope, the innermost first, and comes out as it was raised.
-/

namespace ColorMarkup

variable {φ σ ε : Type}

theorem Sink.Tracking.palette_restore {sink : Sink φ σ} (tracking : sink.Tracking)
    (defaults : Palette) (state : σ) : sink.palette (sink.restore defaults state) = defaults := by
  rw [Sink.restore, tracking.recolor, tracking.recolor]
  rfl

theorem Sink.calls_of_watched {sink : Sink φ σ} (accepting : sink.Accepting) {calls : List Event}
    {watched after : σ × List Event} (sent : sink.watched.sendAll calls watched = (after, none)) :
    after.2 = watched.2 ++ calls := by
  obtain ⟨plain, sentPlain⟩ := exists_sendAll accepting calls watched.1
  have watching : sink.watched.sendAll calls watched = ((plain, watched.2 ++ calls), none) :=
    sendAll_watched sentPlain watched.2
  rw [sent] at watching
  rw [(Prod.mk.inj watching).1]

/-- The same device beside the calls it has received; a reset is none of them. -/
def Device.watched (device : Device φ σ) : Device φ (σ × List Event) :=
  { device.toSink.watched with reset := fun state => (device.reset state.1, state.2) }

theorem Device.watched_parallel {device : Device φ σ} (accepting : device.toSink.Accepting) :
    device.Parallel device.watched (fun _ => True) fun state watched => watched.1 = state where
  toParallel := by
    refine .of_send (fun _ => trivial) accepting (Sink.watched_accepting accepting) ?_
    rintro event _ watched next after - accepted sent rfl
    injection (Sink.send_watched accepted watched.2).symm.trans sent with same
    rw [← same]
  palette := by
    rintro _ watched rfl
    rfl
  reset := by
    rintro _ watched rfl
    rfl

/-- What can be seen of a sink that begins to be watched. -/
def Snapshot.watched (snapshot : Snapshot σ) : Snapshot (σ × List Event) :=
  { state := (snapshot.state, []), captured := snapshot.captured, outcomes := snapshot.outcomes }

theorem Rendering.exists_outcome {sink : Sink φ σ} (accepting : sink.Accepting)
    (rendering : Rendering) (markup : Markup) (snapshot : Snapshot σ) :
    ∃ outcome, (rendering.run sink markup snapshot).result = .ok outcome := by
  cases rendering with
  | scan => exact ⟨_, (Run.Sends.of_scan accepting _ _ _ _).result⟩
  | write defaults restore => exact ⟨_, (Run.Sends.of_write accepting _ _ _ _ _ _).result⟩
  | writeLine defaults restore =>
    exact ⟨_, ((Run.Sends.of_write accepting _ _ _ _ _ _).terminated accepting).result⟩

/-- What surrounds a routine in a scope: the scope's colors and the steps before and behind it. -/
structure Frame (ε : Type) where
  defaults : Defaults
  enabled : Bool
  before : Routine ε
  behind : Routine ε

def Frame.around (frame : Frame ε) (inner : Routine ε) : Routine ε :=
  .restoring frame.defaults frame.enabled (frame.before.andThen (inner.andThen frame.behind))

def nested (frames : List (Frame ε)) (innermost : Routine ε) : Routine ε :=
  frames.foldr Frame.around innermost

def entering (frames : List (Frame ε)) : Routine ε :=
  frames.foldr (fun frame inner => frame.before.andThen inner) .pass

def closing (device : Device φ σ) : List (Frame ε) → Stage σ → List Event
  | [], _ => []
  | frame :: inner, stage =>
    closing device inner (frame.before.run device stage).1
      ++ if frame.enabled then restoration (stage.resolve frame.defaults) else []

namespace Routine

variable {device : Device φ σ}

theorem run_restoring (device : Device φ σ) (defaults : Defaults) (enabled : Bool)
    (body : Routine ε) (stage : Stage σ) :
    let inside := body.run device stage
    let left := (restoring defaults enabled body).run device stage
    left.1.state = (if enabled then device.restore (stage.resolve defaults) inside.1.state
        else inside.1.state)
      ∧ left.2 = inside.2 :=
  ⟨rfl, rfl⟩

theorem run_andThen (first second : Routine ε) (stage : Stage σ)
    (ends : (first.run device stage).2 = none) :
    (first.andThen second).run device stage = second.run device (first.run device stage).1 := by
  rw [run]
  rcases firstRun : first.run device stage with ⟨between, interrupt⟩
  rw [firstRun] at ends
  simp only at ends
  subst ends
  rfl

theorem run_andThen_raised (first second : Routine ε) (stage : Stage σ) {interrupt : Interrupt φ ε}
    (broken : (first.run device stage).2 = some interrupt) :
    (first.andThen second).run device stage = first.run device stage := by
  rw [run]
  rcases firstRun : first.run device stage with ⟨between, stopped⟩
  rw [firstRun] at broken
  simp only at broken
  subst broken
  rfl

theorem interrupt_run (accepting : device.toSink.Accepting) (routine : Routine ε) (stage : Stage σ) :
    (routine.run device stage).2 = routine.raised?.map .raised := by
  induction routine generalizing stage with
  | send call =>
    obtain ⟨next, accepted⟩ := Sink.exists_send accepting call stage.state
    simp [run, accepted, raised?]
  | render rendering markup =>
    obtain ⟨outcome, ended⟩ := rendering.exists_outcome accepting markup stage.toSnapshot
    simp [run, ended, raised?]
  | andThen first second ihFirst ihSecond =>
    have firstEnds := ihFirst stage
    rw [raised?]
    cases raises : first.raised? with
    | none =>
      rw [raises] at firstEnds
      rw [run_andThen first second stage firstEnds, ihSecond]
      rfl
    | some exception =>
      rw [raises] at firstEnds
      rw [run_andThen_raised first second stage firstEnds, firstEnds]
      rfl
  | restoring defaults enabled body ih => exact ih stage
  | _ => rfl

theorem raised?_nested {frames : List (Frame ε)} {innermost : Routine ε} {exception : ε}
    (silent : ∀ frame ∈ frames, frame.before.raised? = none)
    (raises : innermost.raised? = some exception) :
    (nested frames innermost).raised? = some exception := by
  induction frames with
  | nil => exact raises
  | cons frame inner ih =>
    have within := ih fun other member => silent other (by simp [member])
    simp only [nested] at within
    simp [nested, Frame.around, raised?, silent frame (by simp), within]

theorem sent_closing (accepting : device.toSink.Accepting) {frames : List (Frame ε)}
    {innermost : Routine ε} {exception : ε}
    (silent : ∀ frame ∈ frames, frame.before.raised? = none)
    (raises : innermost.raised? = some exception) (stage : Stage σ) :
    device.sendAll (closing device frames stage)
        (innermost.run device ((entering frames).run device stage).1).1.state
      = (((nested frames innermost).run device stage).1.state, none) := by
  induction frames generalizing stage with
  | nil => rfl
  | cons frame inner ih =>
    have innerSilent : ∀ other ∈ inner, other.before.raised? = none := by
      intro other member
      exact silent other (by simp [member])
    have entered : (frame.before.run device stage).2 = none := by
      rw [interrupt_run accepting, silent frame (by simp)]
      rfl
    have broken : ((nested inner innermost).run device (frame.before.run device stage).1).2
        = some (.raised exception) := by
      rw [interrupt_run accepting, raised?_nested innerSilent raises]
      rfl
    -- What stands behind the raising routine in the scope is not run.
    have body : (frame.before.andThen ((nested inner innermost).andThen frame.behind)).run device
          stage
        = (nested inner innermost).run device (frame.before.run device stage).1 := by
      rw [run_andThen _ _ _ entered, run_andThen_raised _ _ _ broken]
    have steps : (entering (frame :: inner)).run device stage
        = (entering inner).run device (frame.before.run device stage).1 :=
      run_andThen _ _ _ entered
    have left : ((nested (frame :: inner) innermost).run device stage).1.state
        = if frame.enabled then
            device.restore (stage.resolve frame.defaults)
              ((nested inner innermost).run device (frame.before.run device stage).1).1.state
          else ((nested inner innermost).run device (frame.before.run device stage).1).1.state := by
      rw [← body]
      exact (run_restoring device frame.defaults frame.enabled _ stage).1
    rw [steps, closing, Sink.sendAll_append, ih innerSilent, left]
    cases frame.enabled <;> rfl

end Routine

/-- A scope is left with its own colors active, after the calls of its body and one restoration, and
with whatever exception its body was left with; a disabled scope adds nothing. An exception raised
in scopes within scopes comes out as it is, after the restorations from the innermost scope to the
outermost. -/
theorem scopes_restore_innermost_first {device : Device φ σ} (accepting : device.toSink.Accepting)
    (tracking : device.toSink.Tracking) :
    (∀ (defaults : Defaults) (enabled : Bool) (body : Routine ε) (stage : Stage (σ × List Event)),
      let inside := body.run device.watched stage
      let left := (Routine.restoring defaults enabled body).run device.watched stage
      left.2 = inside.2
        ∧ left.1.state.2 = inside.1.state.2
            ++ (if enabled then restoration (stage.resolve defaults) else [])
        ∧ (enabled = true → device.palette left.1.state.1 = stage.resolve defaults)
        ∧ (enabled = false → left.1.state = inside.1.state))
      ∧ (∀ (frames : List (Frame ε)) (innermost : Routine ε) (exception : ε)
          (stage : Stage (σ × List Event)),
        (∀ frame ∈ frames, frame.before.raised? = none) → innermost.raised? = some exception →
          let reached := ((entering frames).run device.watched stage).1
          let broken := (innermost.run device.watched reached).1
          let left := (nested frames innermost).run device.watched stage
          left.2 = some (.raised exception)
            ∧ left.1.state.2 = broken.state.2 ++ closing device.watched frames stage)
      ∧ ∀ (routine : Routine ε) (snapshot : Snapshot σ),
        let plain := routine.run device { toSnapshot := snapshot }
        let watched := routine.run device.watched { toSnapshot := snapshot.watched }
        plain.2 = routine.raised?.map .raised ∧ watched.2 = plain.2
          ∧ watched.1.state.1 = plain.1.state := by
  have watchedAccepting : device.watched.toSink.Accepting := Sink.watched_accepting accepting
  refine ⟨?_, ?_, ?_⟩
  · intro defaults enabled body stage inside left
    obtain ⟨state, ends⟩ := Routine.run_restoring device.watched defaults enabled body stage
    refine ⟨ends, ?_, ?_, ?_⟩
    · cases enabled with
      | true =>
        have restored : device.watched.sendAll (restoration (stage.resolve defaults))
            inside.1.state = (left.1.state, none) := by
          rw [state]
          rfl
        exact Sink.calls_of_watched accepting restored
      | false =>
        rw [state]
        exact (List.append_nil _).symm
    · rintro rfl
      rw [state]
      exact tracking.palette_restore (stage.resolve defaults) inside.1.state.1
    · rintro rfl
      exact state
  · intro frames innermost exception stage silent raises reached broken left
    refine ⟨?_, ?_⟩
    · rw [Routine.interrupt_run watchedAccepting, Routine.raised?_nested silent raises]
      rfl
    · exact Sink.calls_of_watched accepting
        (Routine.sent_closing watchedAccepting silent raises stage)
  · intro routine snapshot plain watched
    have here : snapshot.Parallel (fun state watched => watched.1 = state) snapshot.watched :=
      ⟨rfl, rfl, rfl⟩
    obtain ⟨same, ends⟩ :=
      (Device.watched_parallel accepting).run (Routine.fits_any routine) (.start here)
    exact ⟨Routine.interrupt_run accepting routine _, ends.symm, same.state⟩

/-- A scope that is disabled, between one with given colors and one with the colors that were
captured on the way in. What stands behind the exception is not written. -/
theorem scopes_restore_innermost_first_unwound :
    let frames : List (Frame String) := [
      { defaults := .given { foreground := some .red }, enabled := true
        before := .capture "start", behind := .send (.write ['z']) },
      { defaults := .given {}, enabled := false
        before := .send (.recolor .background (some .green)), behind := .pass },
      { defaults := .captured "start", enabled := true
        before := .send (.write ['a']), behind := .send (.write ['y']) }]
    let innermost : Routine String := .andThen (.send (.recolor .foreground none)) (.raise "failed")
    let stream : TerminalStream := { palette := { background := some .blue } }
    let left := (nested frames innermost).run TerminalStream.device.watched
      { state := (stream, []) }
    TerminalStream.sink.Accepting ∧ TerminalStream.sink.Tracking
      ∧ left.2 = some (.raised "failed")
      ∧ left.1.state.2 = [.recolor .background (some .green), .write ['a'],
          .recolor .foreground none, .recolor .foreground none, .recolor .background (some .blue),
          .recolor .foreground (some .red), .recolor .background none] := by
  intro frames innermost stream left
  have accepting : TerminalStream.device.toSink.Accepting := TerminalStream.accepting
  have silent : ∀ frame ∈ frames, frame.before.raised? = none := by
    intro frame member
    simp only [frames, List.mem_cons, List.not_mem_nil, or_false] at member
    rcases member with rfl | rfl | rfl <;> rfl
  obtain ⟨ends, calls⟩ := (scopes_restore_innermost_first accepting TerminalStream.tracking).2.1
    frames innermost "failed" { state := (stream, []) } silent rfl
  refine ⟨TerminalStream.accepting, TerminalStream.tracking, ends, ?_⟩
  rw [calls]
  rfl

end ColorMarkup
