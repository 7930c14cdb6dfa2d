import ColorMarkup.Event

/-!
Sinks: destinations that keep a palette, accept writes and may refuse them. Recoloring never fails.
A sink is a value of its state type, so a failed write leaves the state as it was.
-/

namespace ColorMarkup

/-- The operations of a sink with states in `σ`, which gives a fault in `φ` where it refuses. -/
structure Sink (φ σ : Type) where
  palette : σ → Palette
  write : List Char → σ → Except φ σ
  recolor : Slot → Option Color → σ → σ

namespace Sink

variable {φ σ : Type}

def send (sink : Sink φ σ) : Event → σ → Except φ σ
  | .write piece, state => sink.write piece state
  | .recolor slot color, state => .ok (sink.recolor slot color state)

/-- Sends the events in order and stops at the first refused one, keeping what came before. -/
def sendAll (sink : Sink φ σ) : List Event → σ → σ × Option φ
  | [], state => (state, none)
  | event :: rest, state =>
    match sink.send event state with
    | .ok next => sink.sendAll rest next
    | .error fault => (state, some fault)

theorem sendAll_append (sink : Sink φ σ) (first second : List Event) (state : σ) :
    sink.sendAll (first ++ second) state =
      match sink.sendAll first state with
      | (next, none) => sink.sendAll second next
      | (next, some fault) => (next, some fault) := by
  induction first generalizing state with
  | nil => rfl
  | cons event rest ih =>
    simp only [List.cons_append, sendAll]
    cases sink.send event state with
    | ok next => exact ih next
    | error fault => rfl

def restore (sink : Sink φ σ) (defaults : Palette) (state : σ) : σ :=
  sink.recolor .background defaults.background
    (sink.recolor .foreground defaults.foreground state)

/-- Runs a body and afterwards restores the palette, whatever the body's result says. -/
def restoring {α : Type} (sink : Sink φ σ) (defaults : Palette) (enabled : Bool)
    (body : σ → σ × α) (state : σ) : σ × α :=
  let (after, result) := body state
  (if enabled then sink.restore defaults after else after, result)

end Sink

end ColorMarkup
