import ColorMarkup.Proofs.Delivery
import ColorMarkup.Proofs.Screen

/-!
The text that a terminal stream makes of events, told without the stream, and what a terminal shows
of that text: the written characters, each in the colors it was written in.
-/

namespace ColorMarkup

namespace Event

/-- The text of an event on a stream with the given colors. A color is taken away by a reset, which
takes both away, so the other one is set again. -/
def streamed (colored : Bool) (palette : Palette) : Event → List Char
  | write piece => piece
  | recolor slot (some color) => if colored then Terminal.graphic (slot.code color) else []
  | recolor slot none =>
    if colored then Terminal.resetAll ++ Terminal.setColors (palette.set slot none) else []

def streamedAll (colored : Bool) : Palette → List Event → List Char
  | _, [] => []
  | palette, event :: rest =>
    event.streamed colored palette ++ streamedAll colored (event.recolored palette) rest

def cells : Palette → List Event → List Cell
  | _, [] => []
  | palette, event :: rest =>
    event.written.map (fun character => { character, palette }) ++ cells (event.recolored palette) rest

end Event

namespace Terminal

theorem strip_of_short {piece : List Char} (short : piece.length ≤ 1) : strip piece = piece := by
  match piece with
  | [] => rfl
  | [character] =>
    have noSequence : sequenceLength? [character] = none := by
      unfold sequenceLength?
      split <;> simp_all
    simp [strip, stripFrom, noSequence]
  | _ :: _ :: _ =>
    simp only [List.length_cons] at short
    omega

theorem emitted_of_short {piece : List Char} (short : piece.length ≤ 1) (colored : Bool) :
    emitted colored piece = piece := by
  cases colored with
  | true => rfl
  | false => exact strip_of_short short

end Terminal

namespace TerminalStream

theorem output_reset (stream : TerminalStream) :
    stream.reset.output = stream.output
      ++ if stream.colored then Terminal.resetAll ++ Terminal.setColors stream.palette else [] := by
  unfold reset
  by_cases colored : stream.colored = true
  · have emitsAll : ∀ piece, Terminal.emitted stream.colored piece = piece := by
      simp [Terminal.emitted, colored]
    simp only [if_pos colored]
    by_cases own : stream.palette = {}
    · simp [own, emitsAll, Terminal.setColors]
    · rw [if_neg own, output_emit, output_emit, emitsAll, List.append_assoc]
      congr 2
      exact emitsAll _
  · simp [if_neg colored]

/-- What an event does to a stream. -/
structure Shows (event : Event) (stream next : TerminalStream) : Prop where
  output : next.output = stream.output ++ event.streamed stream.colored stream.palette
  colored : next.colored = stream.colored
  palette : next.palette = event.recolored stream.palette

theorem shows_recolor (stream : TerminalStream) (slot : Slot) (color : Option Color) :
    Shows (.recolor slot color) stream (stream.recolor slot color) := by
  cases color with
  | none =>
    obtain ⟨colored, palette⟩ := TerminalStream.reset_fields
      { stream with palette := stream.palette.set slot none }
    exact ⟨output_reset _, colored, palette⟩
  | some color =>
    unfold recolor
    by_cases colored : stream.colored = true
    · simp only [if_pos colored]
      refine ⟨?_, rfl, rfl⟩
      rw [output_emit, Terminal.emitted, if_pos colored, Event.streamed, if_pos colored]
      rfl
    · simp only [if_neg colored]
      refine ⟨?_, rfl, rfl⟩
      simp [Event.streamed, colored, output]

theorem shows_of_send {event : Event} {stream next : TerminalStream}
    (accepted : sink.send event stream = .ok next) (short : event.written.length ≤ 1) :
    Shows event stream next := by
  cases event with
  | write piece =>
    injection accepted with same
    subst same
    refine ⟨?_, rfl, rfl⟩
    rw [output_emit, Terminal.emitted_of_short (by simpa using short)]
    rfl
  | recolor slot color =>
    injection accepted with same
    subst same
    exact shows_recolor stream slot color

theorem output_of_sendAll {events : List Event} {stream after : TerminalStream}
    (sent : sink.sendAll events stream = (after, none))
    (short : ∀ event ∈ events, event.written.length ≤ 1) :
    after.output = stream.output ++ Event.streamedAll stream.colored stream.palette events := by
  induction events generalizing stream with
  | nil =>
    rw [Sink.sendAll_nil_sent.mp sent]
    simp [Event.streamedAll]
  | cons event rest ih =>
    obtain ⟨next, accepted, others⟩ := Sink.sendAll_cons_sent.mp sent
    have first := shows_of_send accepted (short event (by simp))
    rw [ih others (fun other member => short other (by simp [member])), first.output, first.colored,
      first.palette, List.append_assoc]
    rfl

theorem accepting : sink.Accepting := fun _ _ => ⟨_, rfl⟩

theorem tracking : sink.Tracking where
  recolor slot color stream := (shows_recolor stream slot color).palette
  write piece stream next accepted := by
    injection accepted with same
    rw [← same]
    rfl

end TerminalStream

namespace Screen

variable {screen : Screen}

end Screen

/-- A scan writes characters of the text one at a time, and gives colors without taking any. -/
inductive Event.Sendable (text : List Char) : Event → Prop
  | write {character} : character ∈ text → Sendable text (.write [character])
  | recolor {slot color} : Sendable text (.recolor slot (some color))

namespace Event.Sendable

variable {text : List Char} {event : Event}

theorem short (sendable : event.Sendable text) : event.written.length ≤ 1 := by
  cases sendable <;> simp

theorem plain (sendable : event.Sendable text) (plain : '\x1b' ∉ text) :
    '\x1b' ∉ event.written := by
  cases sendable with
  | @write character member =>
    simp only [written_write, List.mem_singleton]
    rintro rfl
    exact plain member
  | recolor => simp

end Event.Sendable

theorem Construct.sendable {signs : Signs} {colors : List Color} {construct : Construct}
    {text rest : List Char} (heads : construct.Heads signs text rest) :
    ∀ event ∈ construct.events signs colors, event.Sendable text := by
  have literal : ∀ piece, (∀ character ∈ piece, character ∈ text) →
      ∀ event ∈ Event.ofText piece, event.Sendable text := by
    intro piece within event member
    obtain ⟨character, present, rfl⟩ := List.mem_map.mp member
    exact .write (within character present)
  have directive : ∀ (slot : Slot) (digits : List Char),
      ∀ event ∈ colors[Text.plainValue digits]?.toList.map fun color =>
        Event.recolor slot (some color), event.Sendable text := by
    intro slot digits event member
    obtain ⟨color, _, rfl⟩ := List.mem_map.mp member
    exact .recolor
  cases heads with
  | singleDigit _ => exact directive _ _
  | bracketed _ _ => exact directive _ _
  | _ =>
    apply literal
    intro character member
    simp_all

theorem Script.sendable (signs : Signs) (colors : List Color) (text : List Char) :
    ∀ event ∈ (Script.ofText signs colors text).events, event.Sendable text := by
  induction text using reading_induction signs with
  | nil => simp
  | @more construct text rest heads ih =>
    cases missing : construct.missing? signs colors with
    | some error =>
      rw [ofText_of_missing heads missing]
      simp [failed]
    | none =>
      rw [ofText_of_heads heads missing]
      intro event member
      rcases List.mem_append.mp member with first | later
      · exact construct.sendable heads event first
      · have wider : rest ⊆ text := by
          rw [← heads.source_append]
          exact List.subset_append_right _ _
        cases ih event later with
        | write present => exact .write (wider present)
        | recolor => exact .recolor
  | faulty heads =>
    rw [ofText_of_faulty heads]
    simp [failed]

end ColorMarkup
