import ColorMarkup.Sink.Recorder

/-!
Calls sent to a sink one by one. A sink that refuses nothing takes them all, a sink that tracks its
colors ends in those of the calls, and a recorder holds what it was sent.
-/

namespace ColorMarkup

variable {φ σ : Type}

namespace Event

theorem textOf_append (first second : List Event) :
    textOf (first ++ second) = textOf first ++ textOf second := by
  simp [textOf]

theorem textOf_ofText (text : List Char) : textOf (ofText text) = text :=
  flatMap_written_ofText text

theorem changesOf_append (first second : List Event) :
    changesOf (first ++ second) = changesOf first ++ changesOf second := by
  simp [changesOf]

theorem changesOf_ofText (text : List Char) : changesOf (ofText text) = [] := by
  simp [changesOf, ofText, isWrite]

end Event

namespace Sink

variable {sink : Sink φ σ}

def Accepting (sink : Sink φ σ) : Prop :=
  ∀ piece state, ∃ next, sink.write piece state = .ok next

/-- A sink whose colors are those it was last given. -/
structure Tracking (sink : Sink φ σ) : Prop where
  recolor : ∀ slot color state,
    sink.palette (sink.recolor slot color state) = (sink.palette state).set slot color
  write : ∀ piece state next, sink.write piece state = .ok next →
    sink.palette next = sink.palette state

theorem exists_send (accepting : sink.Accepting) (call : Event) (state : σ) :
    ∃ next, sink.send call state = .ok next := by
  cases call with
  | write piece => exact accepting piece state
  | recolor slot color => exact ⟨_, rfl⟩

theorem sendAll_nil_sent {state after : σ} :
    sink.sendAll [] state = (after, none) ↔ state = after := by
  simp [sendAll]

theorem sendAll_cons_sent {call : Event} {rest : List Event} {state after : σ} :
    sink.sendAll (call :: rest) state = (after, none)
      ↔ ∃ next, sink.send call state = .ok next ∧ sink.sendAll rest next = (after, none) := by
  rw [sendAll]
  cases accepted : sink.send call state with
  | ok next => simp
  | error fault => simp

theorem exists_sendAll (accepting : sink.Accepting) (calls : List Event) (state : σ) :
    ∃ after, sink.sendAll calls state = (after, none) := by
  induction calls generalizing state with
  | nil => exact ⟨state, rfl⟩
  | cons call rest ih =>
    obtain ⟨next, accepted⟩ := exists_send accepting call state
    obtain ⟨after, others⟩ := ih next
    exact ⟨after, sendAll_cons_sent.mpr ⟨next, accepted, others⟩⟩

theorem sendAll_snoc {calls : List Event} {call : Event} {state between after : σ}
    (sent : sink.sendAll calls state = (between, none))
    (accepted : sink.send call between = .ok after) :
    sink.sendAll (calls ++ [call]) state = (after, none) := by
  rw [sendAll_append, sent]
  simp [sendAll, accepted]

namespace Tracking

theorem palette_send (tracking : sink.Tracking) {call : Event} {state next : σ}
    (accepted : sink.send call state = .ok next) :
    sink.palette next = call.recolored (sink.palette state) := by
  cases call with
  | write piece => exact tracking.write piece state next accepted
  | recolor slot color =>
    injection accepted with same
    rw [← same]
    exact tracking.recolor slot color state

theorem palette_sendAll (tracking : sink.Tracking) {calls : List Event} {state after : σ}
    (sent : sink.sendAll calls state = (after, none)) :
    sink.palette after
      = calls.foldl (fun palette call => call.recolored palette) (sink.palette state) := by
  induction calls generalizing state with
  | nil =>
    rw [sendAll_nil_sent.mp sent]
    rfl
  | cons call rest ih =>
    obtain ⟨next, accepted, others⟩ := sendAll_cons_sent.mp sent
    rw [ih others, tracking.palette_send accepted]
    rfl

end Tracking

end Sink

namespace Recorder

theorem accepting : Recorder.sink.Accepting := fun _ _ => ⟨_, rfl⟩

theorem tracking : Recorder.sink.Tracking where
  recolor _ _ _ := rfl
  write piece state next accepted := by
    injection accepted with same
    rw [← same]
    rfl

theorem events_sendAll {calls : List Event} {recorder after : Recorder}
    (sent : sink.sendAll calls recorder = (after, none)) :
    after.events = recorder.events ++ calls := by
  induction calls generalizing recorder with
  | nil => simp [Sink.sendAll_nil_sent.mp sent]
  | cons call rest ih =>
    obtain ⟨next, accepted, others⟩ := Sink.sendAll_cons_sent.mp sent
    rw [send_sink] at accepted
    injection accepted with recorded
    rw [ih others, ← recorded, events_record, List.append_assoc]
    rfl

end Recorder

end ColorMarkup
