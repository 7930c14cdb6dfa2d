import ColorMarkup.Proofs.CommandLine
import ColorMarkup.Proofs.EncodedOutput
import ColorMarkup.Proofs.Refusal

/-!
What the command that renders puts out: the events of the scan, then the terminal's own colors if
they are to be restored, then at most one line end. A terminal that reads it is left in its own
colors, and so is the line end. A character that the encoding of the output does not have ends the
run, with the colors restored.
-/

namespace ColorMarkup

/-- What follows the events of a text. -/
def trailer (restored ended : Bool) : List Event :=
  (if restored then restoration {} else []) ++ if ended then [.write ['\n']] else []

theorem written_of_mem_trailer {restored ended : Bool} {event : Event}
    (member : event ∈ trailer restored ended) : event.written = [] ∨ event.written = ['\n'] := by
  cases restored <;> cases ended <;> simp [trailer, restoration] at member
  · exact .inr (by rw [member]; rfl)
  · rcases member with rfl | rfl <;> exact .inl rfl
  · rcases member with rfl | rfl | rfl
    · exact .inl rfl
    · exact .inl rfl
    · exact .inr rfl

namespace Event

end Event

theorem delivered_cases {signs : Signs} {colors : List Color} {text : List Char}
    {restored ended : Bool} {event : Event}
    (member : event ∈ (record signs colors text).state.events ++ trailer restored ended) :
    event.Sendable text ∨ event.written = [] ∨ event.written = ['\n'] := by
  rw [(record_eq signs colors text).1] at member
  rcases List.mem_append.mp member with scanned | following
  · exact .inl (Script.sendable signs colors text event scanned)
  · exact .inr (written_of_mem_trailer following)

theorem delivered_short (signs : Signs) (colors : List Color) (text : List Char)
    (restored ended : Bool) :
    ∀ event ∈ (record signs colors text).state.events ++ trailer restored ended,
      event.written.length ≤ 1 := by
  intro event member
  rcases delivered_cases member with sendable | written | written
  · exact sendable.short
  · simp [written]
  · simp [written]

theorem held_events {encoding : Text.Encoding} {text : List Char} (held : encoding.Holds text)
    (signs : Signs) (colors : List Color) :
    ∀ event ∈ (record signs colors text).state.events, encoding.Holds event.written := by
  rw [(record_eq signs colors text).1]
  intro event member
  cases Script.sendable signs colors text event member with
  | write present =>
    intro character written
    rw [List.mem_singleton.mp written]
    exact held _ present
  | recolor => exact fun _ written => absurd written List.not_mem_nil

theorem validate_eq (signs : Signs) (colors : List Color) (text : List Char) :
    validate signs colors text = (Script.ofText signs colors text).outcome := by
  rw [validate, Run.outcome, (record_eq signs colors text).2]

namespace Run.Sends

variable {φ σ : Type} {sink : Sink φ σ}

theorem of_render {signs : Signs} {colors : List Color} {text : List Char} {state after : σ}
    (sent : sink.sendAll (record signs colors text).state.events state = (after, none))
    (ends : ∀ state, ∃ after, sink.write ['\n'] state = .ok after) (line restore : Bool) :
    Run.Sends sink state
      ((if line then writeLine else ColorMarkup.write) sink {} restore signs colors text state)
      (validate signs colors text)
      ((record signs colors text).state.events
        ++ trailer restore (line && (validate signs colors text).ok)) := by
  have written := (of_scan_sent sent).rendered {} restore
  cases line with
  | false => simpa [trailer] using written
  | true => simpa [trailer, writeLine] using written.terminated_taken fun _ => ends _

end Run.Sends

theorem Run.Breaks.of_render {φ σ : Type} {sink : Sink φ σ} {state : σ} {fault : φ}
    {signs : Signs} {colors : List Color} {text : List Char} {calls : List Event}
    (scanned : Run.Breaks sink state (scan sink signs colors text state) fault calls)
    (line restore : Bool) :
    Run.Breaks sink state
      ((if line then writeLine else ColorMarkup.write) sink {} restore signs colors text state)
      fault (calls ++ trailer restore false) := by
  have rendered := scanned.rendered {} restore
  cases line with
  | false => simpa [trailer] using rendered
  | true => simpa [trailer, writeLine] using rendered.terminated

namespace Cli

/-- Whether a line end is written: after a text that could be rendered if it is wanted, and after
one that could not be if there is something on the line. -/
def endsLine (wanted : Bool) (outcome : Outcome) : Bool :=
  if outcome.ok then wanted else 0 < outcome.written

def Ending.ofOutcome (outcome : Outcome) : Ending :=
  match outcome.error with
  | none => .done
  | some error => .failed (.ofFormatError error)

theorem Ending.exitCode_ofOutcome (outcome : Outcome) :
    (ofOutcome outcome).exitCode = if outcome.ok then 0 else 65 := by
  rw [ofOutcome, Outcome.ok]
  cases outcome.error <;> rfl

theorem renderReport_sent {run : Run Text.EncodeFault TerminalStream} {stream : TerminalStream}
    {encoding : Text.Encoding} {outcome : Outcome} {events : List Event} {restored wanted : Bool}
    (sends : Run.Sends (TerminalStream.encodedSink encoding) stream run outcome
      (events ++ trailer restored (wanted && outcome.ok))) :
    (∃ after : TerminalStream, (Session.renderReport run).output = after.output
        ∧ TerminalStream.sink.sendAll (events ++ trailer restored (endsLine wanted outcome)) stream
          = (after, none))
      ∧ (Session.renderReport run).ending = .ofOutcome outcome := by
  have sent := TerminalStream.sendAll_of_encoded sends.sent
  obtain ⟨error, written, directives⟩ := outcome
  unfold Session.renderReport
  rw [sends.result]
  cases error with
  | none =>
    refine ⟨⟨run.state, rfl, ?_⟩, rfl⟩
    simpa [endsLine, Outcome.ok] using sent
  | some error =>
    refine ⟨⟨_, rfl, ?_⟩, rfl⟩
    simp only [Outcome.ok, Option.isNone_some, Bool.and_false] at sent
    by_cases silent : written = 0
    · simpa [endsLine, Outcome.ok, silent] using sent
    · have ends : endsLine wanted { error := some error, written, directives } = true := by
        simp only [endsLine, Outcome.ok, Option.isNone_some, Bool.false_eq_true, if_false,
          decide_eq_true_eq]
        omega
      rw [ends, if_neg silent]
      have extended := Sink.sendAll_snoc sent
        (rfl : TerminalStream.sink.send (.write ['\n']) run.state = .ok (run.state.emit ['\n']))
      simpa [trailer] using extended

namespace Session

variable {session : Session} {operand : String} {config : Config}

theorem exists_render (loaded : (session.source.load session.files).2 = .ok config)
    (readable : session.textFault operand = none) (colors : List Color)
    (newline keepColors : Bool) :
    let render := if newline && config.newline then writeLine else write
    let run := render (TerminalStream.encodedSink session.streams.encoding) {}
      (config.restoreDefaults && !keepColors) config.signs colors (session.readText operand).1
      session.console.stream
    (session.render operand colors newline keepColors).output = (renderReport run).output
      ∧ (session.render operand colors newline keepColors).ending = (renderReport run).ending := by
  intro render run
  obtain ⟨records, opened⟩ := withConfig_loaded loaded
  unfold Session.render
  rw [opened]
  simp only [Report.after_output, Report.after_ending, withText_readable readable]
  exact ⟨rfl, rfl⟩

theorem ending_render_unreadable (loaded : (session.source.load session.files).2 = .ok config)
    {fault : Text.DecodeFault} (unreadable : session.textFault operand = some fault)
    (colors : List Color) (newline keepColors : Bool) :
    (session.render operand colors newline keepColors).ending
      = .failed (.unexpected fault.message) := by
  obtain ⟨records, opened⟩ := withConfig_loaded loaded
  unfold Session.render
  rw [opened]
  simp only [Report.after_ending, withText_unreadable unreadable]

theorem render_fields (loaded : (session.source.load session.files).2 = .ok config)
    (readable : session.textFault operand = none)
    (held : session.streams.encoding.Holds (session.readText operand).1) (colors : List Color)
    (newline keepColors : Bool) :
    let text := (session.readText operand).1
    let outcome := validate config.signs colors text
    let report := session.render operand colors newline keepColors
    report.output = Event.streamedAll session.colored {}
        ((record config.signs colors text).state.events
          ++ trailer (config.restoreDefaults && !keepColors)
            (endsLine (newline && config.newline) outcome))
      ∧ report.ending = .ofOutcome outcome := by
  intro text outcome report
  obtain ⟨after, sent⟩ := TerminalStream.exists_sendAll (held_events held config.signs colors)
    session.console.stream
  have ends (stream : TerminalStream) :
      ∃ after, (TerminalStream.encodedSink session.streams.encoding).write ['\n'] stream
        = .ok after :=
    TerminalStream.exists_write (Text.Encoding.holds_of_ascii (by decide)) stream
  obtain ⟨⟨final, shown, delivered⟩, ended⟩ := renderReport_sent
    (Run.Sends.of_render sent ends (newline && config.newline)
      (config.restoreDefaults && !keepColors))
  obtain ⟨output, ending⟩ := exists_render loaded readable colors newline keepColors
  refine ⟨?_, ending.trans ended⟩
  exact (output.trans shown).trans
    (TerminalStream.output_of_sendAll delivered (delivered_short _ _ _ _ _))

theorem render_refused_fields (loaded : (session.source.load session.files).2 = .ok config)
    (readable : session.textFault operand = none) {colors : List Color} {before behind : List Event}
    {character : Char}
    (events : (record config.signs colors (session.readText operand).1).state.events
      = before ++ .write [character] :: behind)
    (held : ∀ event ∈ before, session.streams.encoding.Holds event.written)
    (lacks : session.streams.encoding.holds character = false) (newline keepColors : Bool) :
    let report := session.render operand colors newline keepColors
    report.output = Event.streamedAll session.colored {}
        (before ++ trailer (config.restoreDefaults && !keepColors) false)
      ∧ report.ending
        = .failed (.unexpected (session.streams.encoding.refusal character).message) := by
  intro report
  obtain ⟨after, taken⟩ := TerminalStream.exists_sendAll held session.console.stream
  have scanned := Run.Breaks.of_scan_refused events taken
    (TerminalStream.write_refused lacks after)
  have breaks := scanned.of_render (newline && config.newline)
    (config.restoreDefaults && !keepColors)
  have short : ∀ event ∈ before ++ trailer (config.restoreDefaults && !keepColors) false,
      event.written.length ≤ 1 := by
    intro event member
    refine delivered_short config.signs colors (session.readText operand).1
      (config.restoreDefaults && !keepColors) false event ?_
    rw [events, List.append_assoc]
    rcases List.mem_append.mp member with early | following
    · exact List.mem_append_left _ early
    · exact List.mem_append_right _ (List.mem_append_right _ following)
  have delivered := TerminalStream.output_of_sendAll
    (TerminalStream.sendAll_of_encoded breaks.sent) short
  obtain ⟨output, ending⟩ := exists_render loaded readable colors newline keepColors
  simp only [report, output, ending, renderReport, breaks.result, and_true]
  exact delivered

theorem readText_operand (given : operand ≠ inputMark) :
    (session.readText operand).1 = operand.toList := by
  simp [readText, given]

theorem dropLineEnd_cases (text : List Char) :
    text = dropLineEnd text ++ ['\n']
      ∨ dropLineEnd text = text ∧ text.getLast? ≠ some '\n' := by
  by_cases ends : text.getLast? = some '\n'
  · left
    obtain ⟨before, rfl⟩ := List.getLast?_eq_some_iff.mp ends
    simp [dropLineEnd]
  · right
    exact ⟨by simp [dropLineEnd, ends], ends⟩

end Session

end Cli

theorem Text.not_mem_unifyLineEnds (text : List Char) : '\r' ∉ Text.unifyLineEnds text := by
  fun_induction Text.unifyLineEnds text with
  | case1 => simp
  | case2 rest ih => simp [ih]
  | case3 rest _ ih => simp [ih]
  | case4 character rest _ notReturn ih =>
    have different : '\r' ≠ character := by
      rintro rfl
      exact notReturn rfl
    simp [ih, different]

namespace Cli

theorem Session.readText_mark (session : Session) :
    let input := Text.unifyLineEnds session.input
    let text := (session.readText inputMark).1
    '\r' ∉ input ∧ (input = text ++ ['\n'] ∨ text = input ∧ input.getLast? ≠ some '\n') := by
  intro input text
  have read : text = dropLineEnd input := rfl
  rw [read]
  refine ⟨Text.not_mem_unifyLineEnds _, ?_⟩
  rcases dropLineEnd_cases input with ends | ⟨same, notEnds⟩
  · exact .inl ends
  · exact .inr ⟨same, notEnds⟩

/-- A run that comes upon a character that the output does not have puts out what stands before the
character and the restoration if it is wanted, and nothing foresees how it ends. -/
theorem render_ends_at_refusal {invocation : Invocation} {surroundings : Surroundings}
    {streams : Streams} {options : Options} {verbosity : Verbosity} {level? : Option Log.Level}
    {operand : String} {colors : List Color} {newline keepColors : Bool} {config : Config}
    (performs : invocation.Performs surroundings options verbosity level?
      (.render operand colors newline keepColors))
    (loaded : ((Session.opened surroundings options verbosity streams).source.load
      surroundings.files).2 = .ok config)
    (readable : operand = inputMark → streams.inputFault = none) {before behind : List Event}
    {character : Char}
    (events : (record config.signs colors
        ((Session.opened surroundings options verbosity streams).readText operand).1).state.events
      = before ++ .write [character] :: behind)
    (held : ∀ event ∈ before, streams.encoding.Holds event.written)
    (lacks : streams.encoding.holds character = false) :
    let session := Session.opened surroundings options verbosity streams
    let result := invocation.run surroundings streams
    result.output = Event.streamedAll session.colored {}
        (before ++ trailer (config.restoreDefaults && !keepColors) false)
      ∧ result.exitCode = 255 := by
  intro session result
  obtain ⟨output, ending⟩ := Session.render_refused_fields loaded
    (Session.textFault_eq_none readable) events held lacks newline keepColors
  obtain ⟨sameOutput, sameCode⟩ := performs.run_fields
  exact ⟨sameOutput.trans output, sameCode.trans (congrArg Ending.exitCode ending)⟩

end Cli

end ColorMarkup
