import ColorMarkup.Proofs.Script
import ColorMarkup.Render

/-!
What reaches a sink. What a render sends does not depend on the sink, as long as the sink refuses
nothing: it is what a recorder holds, then the restoration of the colors and the line end.
-/

namespace ColorMarkup

variable {φ σ : Type}

namespace Sink

/-- The same sink beside the calls it has received. -/
def watched (sink : Sink φ σ) : Sink φ (σ × List Event) where
  palette state := sink.palette state.1
  write piece state :=
    (sink.write piece state.1).map fun next => (next, state.2 ++ [.write piece])
  recolor slot color state :=
    (sink.recolor slot color state.1, state.2 ++ [.recolor slot color])

theorem send_watched {sink : Sink φ σ} {call : Event} {state next : σ}
    (accepted : sink.send call state = .ok next) (earlier : List Event) :
    sink.watched.send call (state, earlier) = .ok (next, earlier ++ [call]) := by
  cases call with
  | write piece =>
    have wrote : sink.write piece state = .ok next := accepted
    simp [send, watched, wrote, Except.map]
  | recolor slot color =>
    injection accepted with same
    simp [send, watched, same]

theorem watched_accepting {sink : Sink φ σ} (accepting : sink.Accepting) :
    sink.watched.Accepting := by
  intro piece state
  obtain ⟨next, accepted⟩ := exists_send accepting (.write piece) state.1
  exact ⟨_, send_watched accepted state.2⟩

theorem sendAll_watched {sink : Sink φ σ} {calls : List Event} {state after : σ}
    (sent : sink.sendAll calls state = (after, none)) (earlier : List Event) :
    sink.watched.sendAll calls (state, earlier) = ((after, earlier ++ calls), none) := by
  induction calls generalizing state earlier with
  | nil => simp [sendAll, sendAll_nil_sent.mp sent]
  | cons call rest ih =>
    obtain ⟨next, accepted, others⟩ := sendAll_cons_sent.mp sent
    rw [List.append_cons]
    exact sendAll_cons_sent.mpr ⟨_, send_watched accepted earlier, ih others _⟩

theorem received_eq {sink : Sink φ σ} {calls : List Event} {state after : σ}
    {watched : σ × List Event} (sent : sink.sendAll calls state = (after, none))
    (watching : sink.watched.sendAll calls (state, []) = (watched, none)) :
    watched = (after, calls) := by
  rw [sendAll_watched sent] at watching
  exact (Prod.mk.inj watching).1.symm

end Sink

structure Run.Sends (sink : Sink φ σ) (state : σ) (run : Run φ σ) (outcome : Outcome)
    (calls : List Event) : Prop where
  result : run.result = .ok outcome
  sent : sink.sendAll calls state = (run.state, none)

def restoration (defaults : Palette) : List Event :=
  [.recolor .foreground defaults.foreground, .recolor .background defaults.background]

theorem recolored_restoration (calls : List Event) (defaults palette : Palette) :
    (calls ++ restoration defaults).foldl (fun palette call => call.recolored palette) palette
      = defaults := by
  simp [restoration, Event.recolored, Palette.set]

namespace Run.Sends

variable {sink : Sink φ σ} {state : σ} {run : Run φ σ} {outcome : Outcome} {calls : List Event}

theorem of_scan_sent {signs : Signs} {colors : List Color} {text : List Char} {after : σ}
    (sent : sink.sendAll (record signs colors text).state.events state = (after, none)) :
    Run.Sends sink state (scan sink signs colors text state) (validate signs colors text)
      (record signs colors text).state.events := by
  obtain ⟨events, result⟩ := record_eq signs colors text
  rw [events] at sent ⊢
  constructor
  · rw [scan_of_sent sent, validate, Run.outcome, result]
  · rw [scan_of_sent sent, sent]

theorem of_scan (accepting : sink.Accepting) (signs : Signs) (colors : List Color)
    (text : List Char) (state : σ) :
    Run.Sends sink state (scan sink signs colors text state) (validate signs colors text)
      (record signs colors text).state.events := by
  obtain ⟨after, sent⟩ :=
    Sink.exists_sendAll accepting (record signs colors text).state.events state
  exact of_scan_sent sent

theorem restored (sends : Run.Sends sink state run outcome calls) (defaults : Palette) :
    Run.Sends sink state (run.restored sink defaults) outcome (calls ++ restoration defaults) := by
  refine ⟨sends.result, ?_⟩
  rw [Sink.sendAll_append, sends.sent]
  rfl

theorem reported (sends : Run.Sends sink state run outcome calls) :
    Run.Sends sink state run.reported outcome calls := by
  unfold Run.reported
  split
  · exact ⟨sends.result, sends.sent⟩
  · exact sends

theorem rendered {signs : Signs} {colors : List Color} {text : List Char}
    (scanned : Run.Sends sink state (scan sink signs colors text state) outcome calls)
    (defaults : Palette) (restore : Bool) :
    Run.Sends sink state (ColorMarkup.write sink defaults restore signs colors text state) outcome
      (calls ++ if restore then restoration defaults else []) := by
  apply reported
  cases restore with
  | true => exact scanned.restored defaults
  | false => simpa using scanned

theorem of_write (accepting : sink.Accepting) (defaults : Palette) (restore : Bool)
    (signs : Signs) (colors : List Color) (text : List Char) (state : σ) :
    Run.Sends sink state (ColorMarkup.write sink defaults restore signs colors text state)
      (validate signs colors text)
      ((record signs colors text).state.events
        ++ if restore then restoration defaults else []) :=
  (of_scan accepting signs colors text state).rendered defaults restore

theorem terminated_taken (sends : Run.Sends sink state run outcome calls)
    (taken : outcome.ok = true → ∃ after, sink.write ['\n'] run.state = .ok after) :
    Run.Sends sink state (run.terminated sink) outcome
      (calls ++ if outcome.ok then [.write ['\n']] else []) := by
  obtain ⟨error, written, directives⟩ := outcome
  cases error with
  | some error =>
    have same : run.terminated sink = run := by simp [Run.terminated, sends.result]
    simpa [same, Outcome.ok] using sends
  | none =>
    obtain ⟨after, accepted⟩ := taken rfl
    have ended : run.terminated sink = { run with state := after } := by
      simp [Run.terminated, sends.result, accepted]
    rw [ended]
    exact ⟨sends.result, Sink.sendAll_snoc sends.sent accepted⟩

theorem terminated (accepting : sink.Accepting) (sends : Run.Sends sink state run outcome calls) :
    Run.Sends sink state (run.terminated sink) outcome
      (calls ++ if outcome.ok then [.write ['\n']] else []) :=
  sends.terminated_taken fun _ => accepting ['\n'] run.state

end Run.Sends

/-- What rendering does with a sink: it ends with an outcome, leaves the sink as the calls leave it,
and the calls are all that the sink receives. -/
structure Delivers (sink : Sink φ σ) (state : σ) (outcome : Outcome) (calls : List Event)
    (render : ∀ {τ : Type}, Sink φ τ → τ → Run φ τ) : Prop where
  result : (render sink state).result = .ok outcome
  sent : sink.sendAll calls state = ((render sink state).state, none)
  received : (render sink.watched (state, [])).state = ((render sink state).state, calls)

theorem Delivers.of_sends {sink : Sink φ σ} {state : σ} {outcome : Outcome} {calls : List Event}
    {render : ∀ {τ : Type}, Sink φ τ → τ → Run φ τ} (accepting : sink.Accepting)
    (sends : ∀ {τ : Type} {sink : Sink φ τ}, sink.Accepting → ∀ state,
      Run.Sends sink state (render sink state) outcome calls) :
    Delivers sink state outcome calls render := by
  have plain := sends accepting state
  have watched := sends (Sink.watched_accepting accepting) (state, [])
  exact ⟨plain.result, plain.sent, Sink.received_eq plain.sent watched.sent⟩

/-- Every entry point reports the same outcome, and a sink that refuses nothing receives what a
recorder holds, then the restoration if it is wanted, then for a line the line end if the text could
be rendered. With the restoration the sink is left in the default colors. -/
theorem entry_points_deliver {sink : Sink φ σ} (accepting : sink.Accepting) (defaults : Palette)
    (restore : Bool) (signs : Signs) (colors : List Color) (text : List Char) (state : σ) :
    let events := (record signs colors text).state.events
    let outcome := validate signs colors text
    let restored := events ++ if restore then restoration defaults else []
    let ended := restored ++ if outcome.ok then [.write ['\n']] else []
    Delivers sink state outcome events (fun sink state => scan sink signs colors text state)
      ∧ Delivers sink state outcome restored
          (fun sink state => write sink defaults restore signs colors text state)
      ∧ Delivers sink state outcome ended
          (fun sink state => writeLine sink defaults restore signs colors text state)
      ∧ (sink.Tracking → restore = true →
          sink.palette (write sink defaults restore signs colors text state).state = defaults
          ∧ sink.palette (writeLine sink defaults restore signs colors text state).state
              = defaults) := by
  intro events outcome restored ended
  have written := Run.Sends.of_write accepting defaults restore signs colors text state
  have terminated := written.terminated accepting
  refine ⟨.of_sends accepting ?_, .of_sends accepting ?_, .of_sends accepting ?_, ?_⟩
  · intro τ sink accepting state
    exact .of_scan accepting signs colors text state
  · intro τ sink accepting state
    exact .of_write accepting defaults restore signs colors text state
  · intro τ sink accepting state
    exact (Run.Sends.of_write accepting defaults restore signs colors text state).terminated
      accepting
  · intro tracking wanted
    subst wanted
    have renders : sink.palette (write sink defaults true signs colors text state).state
        = defaults := by
      rw [tracking.palette_sendAll written.sent]
      exact recolored_restoration events defaults (sink.palette state)
    refine ⟨renders, ?_⟩
    rw [writeLine, tracking.palette_sendAll terminated.sent, List.foldl_append]
    simp only [if_true, recolored_restoration]
    split <;> rfl

/-- A failed line, on a recorder that already holds something and has colors of its own. -/
theorem entry_points_deliver_failed :
    let recorder : Recorder :=
      { newest := [.write ['x']], palette := { foreground := some .green } }
    let defaults : Palette := { background := some .blue }
    let text := ['%', '0', 'a', '%', '7']
    Recorder.sink.Accepting ∧ Recorder.sink.Tracking
      ∧ (writeLine Recorder.sink.watched defaults true Signs.standard [.red] text
          (recorder, [])).state.2
        = [.recolor .foreground (some .red), .write ['a'], .recolor .foreground none,
            .recolor .background (some .blue)]
      ∧ (writeLine Recorder.sink defaults true Signs.standard [.red] text recorder).state.palette
        = defaults := by
  intro recorder defaults text
  obtain ⟨_, _, lined, restored⟩ :=
    entry_points_deliver Recorder.accepting defaults true Signs.standard [.red] text recorder
  refine ⟨Recorder.accepting, Recorder.tracking, ?_, (restored Recorder.tracking rfl).2⟩
  rw [lined.received]
  decide +kernel

end ColorMarkup
