import ColorMarkup.Sink

/-! A sink that records every event it receives, and one of the same kind that fills up. -/

namespace ColorMarkup

/-- The events received, last one first, and the active colors. -/
structure Recorder where
  newest : List Event := []
  palette : Palette := {}

namespace Recorder

def events (recorder : Recorder) : List Event :=
  recorder.newest.reverse

def record (recorder : Recorder) (event : Event) : Recorder :=
  { newest := event :: recorder.newest, palette := event.recolored recorder.palette }

@[simp] theorem events_record (recorder : Recorder) (event : Event) :
    (recorder.record event).events = recorder.events ++ [event] := by
  simp [record, events]

@[simp] theorem palette_record (recorder : Recorder) (event : Event) :
    (recorder.record event).palette = event.recolored recorder.palette := rfl

def clear (recorder : Recorder) : Recorder :=
  { recorder with newest := [] }

def text (recorder : Recorder) : String :=
  String.ofList (Event.textOf recorder.events)

def changes (recorder : Recorder) : List Event :=
  Event.changesOf recorder.events

def writeCount (recorder : Recorder) : Nat :=
  (recorder.events.filter Event.isWrite).length

def display (recorder : Recorder) : String :=
  "RecordingSink(events=[" ++ ", ".intercalate (recorder.events.map Event.display)
    ++ "], foreground=" ++ Palette.displayColor recorder.palette.foreground
    ++ ", background=" ++ Palette.displayColor recorder.palette.background ++ ")"

def sink : Sink Empty Recorder where
  palette := Recorder.palette
  write piece recorder := .ok (recorder.record (.write piece))
  recolor slot color recorder := recorder.record (.recolor slot color)

def limitedSink {φ : Type} (fault : φ) (limit : Nat) : Sink φ Recorder where
  palette := Recorder.palette
  write piece recorder :=
    if limit ≤ recorder.writeCount then .error fault else .ok (recorder.record (.write piece))
  recolor slot color recorder := recorder.record (.recolor slot color)

@[simp] theorem send_sink (event : Event) (recorder : Recorder) :
    sink.send event recorder = .ok (recorder.record event) := by
  cases event <;> rfl

end Recorder

end ColorMarkup
