import ColorMarkup.Sink.Recorder
import ColorMarkup.Sink.TerminalStream
import ColorMarkup.Text.Digit

/-!
A terminal that interprets the control sequences of colors and displays everything else. What it
displays of a terminal stream is what a recorder of the same calls holds, color by color.
-/

namespace ColorMarkup

inductive Control where
  | reset
  | color (slot : Slot) (color : Color)

namespace Control

def color? (bright : Bool) (digit : Char) : Option Color :=
  let place := digit.toNat - '0'.toNat
  if '0' ≤ digit ∧ digit ≤ '7' then Color.all[if bright then place + 8 else place]? else none

/-- Codes 0, 30 to 37, 90 to 97, 40 to 47 and 100 to 107. -/
def ofDigits? : List Char → Option Control
  | ['0'] => some reset
  | ['3', digit] => (color? false digit).map (color .foreground)
  | ['9', digit] => (color? true digit).map (color .foreground)
  | ['4', digit] => (color? false digit).map (color .background)
  | ['1', '0', digit] => (color? true digit).map (color .background)
  | _ => none

def apply : Control → Palette → Palette
  | reset, _ => {}
  | color slot shade, palette => palette.set slot (some shade)

end Control

/-- The part of a control sequence that a terminal has received. -/
inductive Pending where
  | nothing
  | escape
  | parameter (digits : List Char)

structure Cell where
  character : Char
  palette : Palette
deriving DecidableEq

structure Screen where
  cells : List Cell := []
  palette : Palette := {}
  pending : Pending := .nothing

namespace Screen

def display (screen : Screen) (text : List Char) : Screen :=
  { screen with
    cells := screen.cells ++ text.map fun character => { character, palette := screen.palette }
    pending := .nothing }

def begin (screen : Screen) (character : Char) : Screen :=
  if character = '\x1b' then { screen with pending := .escape } else screen.display [character]

def receive (screen : Screen) (character : Char) : Screen :=
  match screen.pending with
  | .nothing => screen.begin character
  | .escape =>
    if character = '[' then { screen with pending := .parameter [] }
    else (screen.display ['\x1b']).begin character
  | .parameter digits =>
    if Text.isPlainDigit character then { screen with pending := .parameter (digits ++ [character]) }
    else
      match character, Control.ofDigits? digits with
      | 'm', some control =>
        { screen with palette := control.apply screen.palette, pending := .nothing }
      | _, _ => (screen.display ('\x1b' :: '[' :: digits)).begin character

def run (screen : Screen) (text : List Char) : Screen :=
  text.foldl receive screen

theorem run_append (screen : Screen) (first second : List Char) :
    screen.run (first ++ second) = (screen.run first).run second := by
  simp [run]

theorem display_append (screen : Screen) (first second : List Char) :
    (screen.display first).display second = screen.display (first ++ second) := by
  simp [display]

variable {screen : Screen}

theorem run_plain (idle : screen.pending = .nothing) {text : List Char}
    (plain : '\x1b' ∉ text) : screen.run text = screen.display text := by
  induction text generalizing screen with
  | nil =>
    cases screen
    simp only at idle
    simp [run, display, idle]
  | cons character rest ih =>
    simp only [List.mem_cons, not_or] at plain
    have first : screen.receive character = screen.display [character] := by
      simp [receive, idle, begin, Ne.symm plain.1]
    have shown : (screen.display [character]).pending = .nothing := rfl
    have tail := ih shown plain.2
    rw [display_append] at tail
    rw [← List.singleton_append, ← tail, ← first]
    rfl

theorem run_resetAll (idle : screen.pending = .nothing) :
    screen.run Terminal.resetAll = { screen with palette := {} } := by
  obtain ⟨cells, palette, pending⟩ := screen
  simp only at idle
  subst idle
  rfl

theorem run_graphic (idle : screen.pending = .nothing) (slot : Slot) (color : Color) :
    screen.run (Terminal.graphic (slot.code color))
      = { screen with palette := screen.palette.set slot (some color) } := by
  obtain ⟨cells, palette, pending⟩ := screen
  simp only at idle
  subst idle
  cases slot <;> cases color <;> rfl

theorem run_setColors (idle : screen.pending = .nothing) (blank : screen.palette = {})
    (palette : Palette) :
    screen.run (Terminal.setColors palette) = { screen with palette } := by
  obtain ⟨cells, current, pending⟩ := screen
  simp only at idle blank
  subst idle blank
  obtain ⟨foreground, background⟩ := palette
  rw [Terminal.setColors, run_append]
  cases foreground with
  | none =>
    cases background with
    | none => rfl
    | some back => exact run_graphic rfl .background back
  | some fore =>
    rw [run_graphic rfl .foreground fore]
    cases background with
    | none => rfl
    | some back => exact run_graphic rfl .background back

end Screen

/-- What can be asked of a stream: text, a color, a reset, the restoration of both colors. -/
inductive Call where
  | write (piece : List Char)
  | recolor (slot : Slot) (color : Option Color)
  | reset
  | restore (defaults : Palette)

namespace Call

def onStream : Call → TerminalStream → TerminalStream
  | write piece, stream => stream.emit piece
  | recolor slot color, stream => stream.recolor slot color
  | reset, stream => stream.reset
  | restore defaults, stream => TerminalStream.sink.restore defaults stream

def onRecorder : Call → Recorder → Recorder
  | write piece, recorder => recorder.record (.write piece)
  | recolor slot color, recorder => recorder.record (.recolor slot color)
  | reset, recorder => recorder
  | restore defaults, recorder => Recorder.sink.restore defaults recorder

def written : Call → List Char
  | write piece => piece
  | recolor _ _ => []
  | reset => []
  | restore _ => []

def cells (recorder : Recorder) (call : Call) : List Cell :=
  call.written.map fun character => { character, palette := recorder.palette }

def stream (calls : List Call) : TerminalStream :=
  calls.foldl (fun stream call => call.onStream stream) {}

def record (recorded : Recorder × List Cell) (call : Call) : Recorder × List Cell :=
  (call.onRecorder recorded.1, recorded.2 ++ call.cells recorded.1)

def recorded (calls : List Call) : Recorder × List Cell :=
  calls.foldl record ({}, [])

theorem append_cells_of_silent {call : Call} (silent : call.written = []) {recorder : Recorder}
    {before : List Cell} : before ++ call.cells recorder = before := by
  simp [cells, silent]

theorem character_recorded (calls : List Call) (recorded : Recorder × List Cell) :
    (calls.foldl record recorded).2.map Cell.character
      = recorded.2.map Cell.character ++ calls.flatMap written := by
  induction calls generalizing recorded with
  | nil => simp
  | cons call rest ih =>
    rw [List.foldl_cons, ih]
    simp [record, cells, Function.comp_def]

end Call

/-- The screen behind a stream shows what was written, and stream, recorder and screen agree on the
colors. -/
structure Agrees (stream : TerminalStream) (recorder : Recorder) (written : List Cell) : Prop where
  colored : stream.colored = true
  palette : recorder.palette = stream.palette
  screen : Screen.run {} stream.output = { cells := written, palette := stream.palette }

theorem screen_emit (stream : TerminalStream) (colored : stream.colored = true)
    (piece : List Char) :
    Screen.run {} (stream.emit piece).output = (Screen.run {} stream.output).run piece := by
  rw [TerminalStream.output_emit, Screen.run_append, Terminal.emitted, if_pos colored]

theorem screen_reset (stream : TerminalStream) (colored : stream.colored = true)
    (idle : (Screen.run {} stream.output).pending = .nothing) :
    Screen.run {} stream.reset.output
      = { Screen.run {} stream.output with palette := stream.palette } := by
  have cleared : Screen.run {} (stream.emit Terminal.resetAll).output
      = { Screen.run {} stream.output with palette := {} } := by
    rw [screen_emit stream colored, Screen.run_resetAll idle]
  rw [TerminalStream.reset, if_pos colored]
  by_cases own : stream.palette = {}
  · simp only [if_pos own]
    rw [cleared, own]
  · simp only [if_neg own]
    have blank : { Screen.run {} stream.output with palette := {} : Screen }.pending = .nothing :=
      idle
    rw [screen_emit (stream.emit Terminal.resetAll) colored, cleared]
    exact Screen.run_setColors blank rfl stream.palette

theorem TerminalStream.reset_fields (stream : TerminalStream) :
    stream.reset.colored = stream.colored ∧ stream.reset.palette = stream.palette := by
  unfold TerminalStream.reset
  split
  · simp only
    split <;> exact ⟨rfl, rfl⟩
  · exact ⟨rfl, rfl⟩

namespace Agrees

variable {stream : TerminalStream} {recorder : Recorder} {written : List Cell}

theorem write (agrees : Agrees stream recorder written) {piece : List Char}
    (plain : '\x1b' ∉ piece) :
    Agrees (stream.emit piece) (recorder.record (.write piece))
      (written ++ (Call.write piece).cells recorder) := by
  constructor
  · exact agrees.colored
  · exact agrees.palette
  · rw [screen_emit stream agrees.colored, agrees.screen, Screen.run_plain rfl plain, Call.cells,
      agrees.palette]
    rfl

theorem of_reset {current : Palette} (colored : stream.colored = true)
    (palette : recorder.palette = stream.palette)
    (screen : Screen.run {} stream.output = { cells := written, palette := current }) :
    Agrees stream.reset recorder written := by
  obtain ⟨sameColored, samePalette⟩ := stream.reset_fields
  have shown := screen_reset stream colored (by rw [screen])
  rw [screen] at shown
  constructor
  · rw [sameColored, colored]
  · rw [samePalette, palette]
  · rw [shown, samePalette]

theorem recolor (agrees : Agrees stream recorder written) (slot : Slot) (color : Option Color) :
    Agrees (stream.recolor slot color) (recorder.record (.recolor slot color)) written := by
  -- The stream takes the color before the terminal is told of it.
  let active : TerminalStream := { stream with palette := stream.palette.set slot color }
  have palette : (recorder.record (.recolor slot color)).palette = active.palette := by
    rw [Recorder.palette_record, Event.recolored, agrees.palette]
  have screen : Screen.run {} active.output = { cells := written, palette := stream.palette } :=
    agrees.screen
  cases color with
  | none => exact of_reset agrees.colored palette screen
  | some shade =>
    have emits : stream.recolor slot (some shade)
        = active.emit (Terminal.graphic (slot.code shade)) := by
      simp [TerminalStream.recolor, agrees.colored, active]
    rw [emits]
    refine ⟨agrees.colored, palette, ?_⟩
    rw [screen_emit active agrees.colored, screen, Screen.run_graphic rfl]
    rfl

theorem step (agrees : Agrees stream recorder written) {call : Call}
    (plain : '\x1b' ∉ call.written) :
    Agrees (call.onStream stream) (call.onRecorder recorder) (written ++ call.cells recorder) := by
  cases call with
  | write piece => exact agrees.write plain
  | recolor slot color =>
    rw [Call.append_cells_of_silent rfl]
    exact agrees.recolor slot color
  | reset =>
    rw [Call.append_cells_of_silent rfl]
    exact of_reset agrees.colored agrees.palette agrees.screen
  | restore defaults =>
    rw [Call.append_cells_of_silent rfl]
    exact (agrees.recolor .foreground defaults.foreground).recolor .background defaults.background

theorem run (agrees : Agrees stream recorder written) {calls : List Call}
    (plain : ∀ call ∈ calls, '\x1b' ∉ call.written) :
    Agrees (calls.foldl (fun stream call => call.onStream stream) stream)
      (calls.foldl Call.record (recorder, written)).1
      (calls.foldl Call.record (recorder, written)).2 := by
  induction calls generalizing stream recorder written with
  | nil => exact agrees
  | cons call rest ih =>
    have next := agrees.step (plain call (by simp))
    have others : ∀ other ∈ rest, '\x1b' ∉ other.written := by
      intro other member
      exact plain other (by simp [member])
    exact ih next others

end Agrees

/-- A terminal that reads the stream displays the written characters, each in the colors that a
recorder of the same calls has when it is written, and after every call its colors are those of
the stream. -/
theorem screen_shows_recorded (calls : List Call)
    (plain : ∀ call ∈ calls, '\x1b' ∉ call.written) :
    (Screen.run {} (Call.stream calls).output).cells = (Call.recorded calls).2
      ∧ (Call.recorded calls).2.map Cell.character = calls.flatMap Call.written
      ∧ (Screen.run {} (Call.stream calls).output).pending = .nothing
      ∧ ∀ before, before <+: calls →
          (Screen.run {} (Call.stream before).output).palette = (Call.stream before).palette
          ∧ (Call.recorded before).1.palette = (Call.stream before).palette := by
  have fresh : Agrees {} {} [] := ⟨rfl, rfl, rfl⟩
  have shown := fresh.run plain
  refine ⟨?_, ?_, ?_, ?_⟩
  · exact congrArg Screen.cells shown.screen
  · exact Call.character_recorded calls ({}, [])
  · exact congrArg Screen.pending shown.screen
  · intro before isBefore
    have early := fresh.run fun call member => plain call (isBefore.subset member)
    exact ⟨congrArg Screen.palette early.screen, early.palette⟩

/-- Clearing one color sets the other one again. -/
theorem screen_shows_recorded_cleared :
    let calls : List Call := [.recolor .foreground (some .red), .recolor .background (some .blue),
      .write ['a'], .recolor .foreground none, .write ['[', 'm'], .restore {}]
    (∀ call ∈ calls, '\x1b' ∉ call.written)
      ∧ (Screen.run {} (Call.stream calls).output).cells = [
          { character := 'a', palette := { foreground := some .red, background := some .blue } },
          { character := '[', palette := { background := some .blue } },
          { character := 'm', palette := { background := some .blue } }] := by
  intro calls
  have plain : ∀ call ∈ calls, '\x1b' ∉ call.written := by decide
  exact ⟨plain, (screen_shows_recorded calls plain).1⟩

end ColorMarkup
