import ColorMarkup.Log.Paint
import ColorMarkup.Proofs.Boundary

/-!
Scans that write a log as they go on. The log has no part in what is scanned: whatever its level is,
the same happens. What it holds are the directives that were given a color, in their order, and then
the error, as far as its level lets them through.
-/

namespace ColorMarkup

namespace Log

/-- A log under way. Records below its threshold are passed over. -/
structure Journal where
  threshold : Level
  kept : List Record := []

namespace Journal

def offer (journal : Journal) (record : Record) : Journal :=
  if record.isLogged journal.threshold then { journal with kept := journal.kept ++ [record] }
  else journal

def hear (journal : Journal) (notices : List Notice) : Journal :=
  notices.foldl (fun journal notice => journal.offer notice.record) journal

theorem hear_append (journal : Journal) (first second : List Notice) :
    journal.hear (first ++ second) = (journal.hear first).hear second := by
  rw [hear, List.foldl_append]
  rfl

theorem hear_eq (journal : Journal) (notices : List Notice) :
    journal.hear notices = { journal with
      kept := journal.kept
        ++ (notices.map Notice.record).filter fun record => record.isLogged journal.threshold } := by
  induction notices generalizing journal with
  | nil => simp [hear]
  | cons notice others ih =>
    have step : journal.hear (notice :: others) = (journal.offer notice.record).hear others := rfl
    rw [step, ih]
    by_cases logged : notice.record.isLogged journal.threshold = true
    · simp [offer, logged]
    · simp [offer, logged]

end Journal

end Log

def Construct.remarks (signs : Signs) (colors : List Color) (position : Nat)
    (construct : Construct) : List Notice :=
  match construct.meaning signs with
  | .literal _ => []
  | .directive slot digits =>
    match resolveDigits colors digits position with
    | .ok (index, color) => [.applied position slot index color]
    | .error error => [.aborted error]

def Progress.playLogged {φ σ : Type} (sink : Sink φ σ) (signs : Signs) (colors : List Color)
    (fault : Option BracketFault) :
    Progress σ → Log.Journal → List Construct → Run φ σ × Log.Journal
  | progress, journal, [] =>
    let error? := fault.map fun fault => fault.toError progress.position
    (progress.finish error?, journal.hear (error?.map Notice.aborted).toList)
  | progress, journal, construct :: rest =>
    let told := journal.hear (construct.remarks signs colors progress.position)
    match progress.step sink signs colors construct with
    | .ok next => playLogged sink signs colors fault next told rest
    | .error run => (run, told)

def scanLogged {φ σ : Type} (level : Log.Level) (sink : Sink φ σ) (signs : Signs)
    (colors : List Color) (text : List Char) (state : σ) : Run φ σ × Log.Journal :=
  let reading := Reading.ofText signs text
  Progress.playLogged sink signs colors reading.fault { state } { threshold := level }
    reading.constructs

def Color.logged : Color → String
  | .black => "TermColor.BLACK"
  | .red => "TermColor.RED"
  | .green => "TermColor.GREEN"
  | .yellow => "TermColor.YELLOW"
  | .blue => "TermColor.BLUE"
  | .magenta => "TermColor.MAGENTA"
  | .cyan => "TermColor.CYAN"
  | .white => "TermColor.WHITE"
  | .brightBlack => "TermColor.BRIGHT_BLACK"
  | .brightRed => "TermColor.BRIGHT_RED"
  | .brightGreen => "TermColor.BRIGHT_GREEN"
  | .brightYellow => "TermColor.BRIGHT_YELLOW"
  | .brightBlue => "TermColor.BRIGHT_BLUE"
  | .brightMagenta => "TermColor.BRIGHT_MAGENTA"
  | .brightCyan => "TermColor.BRIGHT_CYAN"
  | .brightWhite => "TermColor.BRIGHT_WHITE"

def Slot.logged : Slot → String
  | .foreground => "fg"
  | .background => "bg"

/-- A directive that was given a color: where it stands, and what it changes. -/
structure Applied where
  position : Nat
  slot : Slot
  index : Nat
  color : Color

namespace Applied

def event (applied : Applied) : Event :=
  .recolor applied.slot (some applied.color)

def notice (applied : Applied) : Notice :=
  .applied applied.position applied.slot applied.index applied.color

def record (applied : Applied) : Log.Record where
  level := Log.Level.trace
  logger := "colorformat.scanner.engine"
  message := "pos=" ++ toString applied.position ++ ": " ++ applied.slot.logged ++ " := #"
    ++ toString applied.index ++ " (" ++ applied.color.logged ++ ")"

theorem record_notice (applied : Applied) : applied.notice.record = applied.record := by
  have slots : applied.slot.name = applied.slot.logged := by cases applied.slot <;> rfl
  have colors : applied.color.label = applied.color.logged := by cases applied.color <;> rfl
  rw [record, ← slots, ← colors]
  rfl

def shift (distance : Nat) (applied : Applied) : Applied :=
  { applied with position := applied.position + distance }

/-- The directive stands at its position, at the end of the constructs before it. -/
structure StandsIn (signs : Signs) (colors : List Color) (text : List Char) (applied : Applied) :
    Prop where
  boundary : Boundary signs text applied.position
  sign : text[applied.position]? = some (signs.directiveSign applied.slot)
  directive : ∃ (construct : Construct) (rest digits : List Char),
    construct.Heads signs (text.drop applied.position) rest
      ∧ construct.meaning signs = .directive applied.slot digits
      ∧ Text.plainValue digits = applied.index
  color : colors[applied.index]? = some applied.color

end Applied

def FormatError.abortRecord (error : FormatError) : Log.Record where
  level := Log.Level.debug
  logger := "colorformat.scanner.engine"
  message := "Scan aborted: " ++ error.message

variable {signs : Signs} {colors : List Color} {text rest : List Char} {construct : Construct}
  {one : Applied}

namespace Progress

variable {φ σ : Type}

theorem notices_step (sink : Sink φ σ) (signs : Signs) (colors : List Color) (progress : Progress σ)
    (construct : Construct) :
    match progress.step sink signs colors construct with
    | .ok next =>
      next.notices = progress.notices ++ (construct.remarks signs colors progress.position).toArray
    | .error run =>
      run.notices = progress.notices
        ++ (construct.remarks signs colors progress.position).toArray := by
  unfold step Construct.remarks
  cases construct.meaning signs with
  | literal written =>
    cases sent : sink.sendAll (Event.ofText written) progress.state with
    | mk state refusal => cases refusal <;> simp [sent, refuse]
  | directive slot digits =>
    cases resolved : resolveDigits colors digits progress.position with
    | error error => simp [resolved, finish]
    | ok found => simp [resolved]

theorem playLogged_eq (sink : Sink φ σ) (signs : Signs) (colors : List Color)
    (fault : Option BracketFault) (constructs : List Construct) (progress : Progress σ)
    (journal : Log.Journal) :
    ∃ heard : List Notice,
      (play sink signs colors fault progress constructs).notices = progress.notices ++ heard.toArray
        ∧ playLogged sink signs colors fault progress journal constructs
          = (play sink signs colors fault progress constructs, journal.hear heard) := by
  induction constructs generalizing progress journal with
  | nil =>
    refine ⟨((fault.map fun fault => fault.toError progress.position).map Notice.aborted).toList,
      ?_, rfl⟩
    cases fault <;> simp [play, finish]
  | cons construct rest ih =>
    have noticed := notices_step sink signs colors progress construct
    rw [play, playLogged]
    cases stepped : progress.step sink signs colors construct with
    | ok next =>
      rw [stepped] at noticed
      obtain ⟨heard, later, played⟩ :=
        ih next (journal.hear (construct.remarks signs colors progress.position))
      refine ⟨construct.remarks signs colors progress.position ++ heard, ?_, ?_⟩
      · simp [later, noticed]
      · rw [Log.Journal.hear_append]
        exact played
    | error run =>
      rw [stepped] at noticed
      exact ⟨_, noticed, rfl⟩

end Progress

theorem scanLogged_eq {φ σ : Type} (level : Log.Level) (sink : Sink φ σ) (signs : Signs)
    (colors : List Color) (text : List Char) (state : σ) :
    scanLogged level sink signs colors text state = (scan sink signs colors text state, {
      threshold := level
      kept := ((scan sink signs colors text state).notices.toList.map Notice.record).filter
        fun record => record.isLogged level }) := by
  obtain ⟨heard, noticed, played⟩ := Progress.playLogged_eq sink signs colors
    (Reading.ofText signs text).fault (Reading.ofText signs text).constructs { state }
    { threshold := level }
  have notices : (scan sink signs colors text state).notices.toList = heard := by
    simp [scan, noticed]
  rw [scanLogged, played, Log.Journal.hear_eq, notices]
  rfl

namespace Construct

def applied (signs : Signs) (colors : List Color) (construct : Construct) : List Applied :=
  match construct.meaning signs with
  | .literal _ => []
  | .directive slot digits =>
    colors[Text.plainValue digits]?.toList.map fun color =>
      { position := 0, slot, index := Text.plainValue digits, color }

theorem notices_eq_applied (signs : Signs) (colors : List Color) (construct : Construct) :
    construct.notices signs colors = (construct.applied signs colors).map Applied.notice := by
  unfold notices applied
  cases construct.meaning signs with
  | literal written => rfl
  | directive slot digits => simp [Applied.notice]

theorem changesOf_events (signs : Signs) (colors : List Color) (construct : Construct) :
    Event.changesOf (construct.events signs colors)
      = (construct.applied signs colors).map Applied.event := by
  unfold events applied
  cases construct.meaning signs with
  | literal written => exact Event.changesOf_ofText written
  | directive slot digits =>
    dsimp only
    cases colors[Text.plainValue digits]? <;> rfl

theorem ordered_applied (signs : Signs) (colors : List Color) (construct : Construct) :
    (construct.applied signs colors).Pairwise
      fun earlier later => earlier.position < later.position := by
  unfold applied
  cases construct.meaning signs with
  | literal written => exact .nil
  | directive slot digits =>
    dsimp only
    cases colors[Text.plainValue digits]? <;> simp

theorem Heads.starts_with_sign (heads : construct.Heads signs text rest) {slot : Slot}
    {digits : List Char} (directive : construct.meaning signs = .directive slot digits) :
    text[0]? = some (signs.directiveSign slot) := by
  cases heads with
  | singleDigit _ =>
    injection directive with same
    rw [← same]
    rfl
  | bracketed _ _ =>
    injection directive with same
    rw [← same]
    rfl
  | _ => simp [meaning] at directive

theorem standsIn_of_applied (heads : construct.Heads signs text rest)
    (member : one ∈ construct.applied signs colors) :
    one.position = 0 ∧ one.StandsIn signs colors text := by
  unfold Construct.applied at member
  cases meaning : construct.meaning signs with
  | literal written => simp [meaning] at member
  | directive slot digits =>
    simp only [meaning, List.mem_map, Option.mem_toList] at member
    obtain ⟨color, found, rfl⟩ := member
    refine ⟨rfl, Boundary.zero signs text, heads.starts_with_sign meaning, ?_, found⟩
    exact ⟨construct, rest, digits, heads, meaning, rfl⟩

end Construct

theorem Applied.StandsIn.preceded (stands : one.StandsIn signs colors rest)
    (heads : construct.Heads signs text rest) :
    (one.shift construct.width).StandsIn signs colors text := by
  have place : (one.shift construct.width).position = construct.width + one.position :=
    Nat.add_comm _ _
  have left := heads.drop one.position
  constructor
  · rw [place]
    exact .of_rest heads stands.boundary
  · rw [place, ← Nat.add_zero (construct.width + one.position), ← List.getElem?_drop, left,
      List.getElem?_drop]
    exact stands.sign
  · rw [place, left]
    exact stands.directive
  · exact stands.color

theorem Script.exists_applied (signs : Signs) (colors : List Color) (text : List Char) :
    ∃ applied : List Applied,
      (ofText signs colors text).notices
          = applied.map Applied.notice ++ ((ofText signs colors text).error.map .aborted).toList
        ∧ Event.changesOf (ofText signs colors text).events = applied.map Applied.event
        ∧ applied.Pairwise (fun earlier later => earlier.position < later.position)
        ∧ ∀ one ∈ applied, one.StandsIn signs colors text := by
  induction text using reading_induction signs with
  | nil => exact ⟨[], by simp, by simp [Event.changesOf], .nil, by simp⟩
  | @more construct text rest heads ih =>
    cases missing : construct.missing? signs colors with
    | some error =>
      rw [ofText_of_missing heads missing]
      exact ⟨[], rfl, rfl, .nil, by simp⟩
    | none =>
      obtain ⟨behind, notices, changes, ordered, standing⟩ := ih
      rw [ofText_of_heads heads missing]
      refine ⟨construct.applied signs colors ++ behind.map (Applied.shift construct.width),
        ?_, ?_, ?_, ?_⟩
      · have shifted (one : Applied) :
            one.notice.shift construct.width = (one.shift construct.width).notice := rfl
        have ended (error : FormatError) : (Notice.aborted error).shift construct.width
            = .aborted (error.shift construct.width) := rfl
        cases stopped : (ofText signs colors rest).error <;>
          simp [preceded, notices, stopped, Construct.notices_eq_applied, shifted, ended]
      · have unmoved (one : Applied) : (one.shift construct.width).event = one.event := rfl
        simp [preceded, Event.changesOf_append, Construct.changesOf_events, changes, unmoved]
      · have positive := construct.width_pos
        refine List.pairwise_append.mpr ⟨?_, ?_, ?_⟩
        · exact construct.ordered_applied signs colors
        · refine List.pairwise_map.mpr (ordered.imp ?_)
          intro earlier later order
          exact Nat.add_lt_add_right order construct.width
        · intro first own later shifted
          obtain ⟨before, _, rfl⟩ := List.mem_map.mp shifted
          rw [(Construct.standsIn_of_applied heads own).1]
          exact Nat.lt_of_lt_of_le positive (Nat.le_add_left _ _)
      · intro one member
        rcases List.mem_append.mp member with own | shifted
        · exact (Construct.standsIn_of_applied heads own).2
        · obtain ⟨before, listed, rfl⟩ := List.mem_map.mp shifted
          exact (standing before listed).preceded heads
  | faulty faulty =>
    rw [ofText_of_faulty faulty]
    exact ⟨[], rfl, rfl, .nil, by simp⟩

namespace Log

theorem Record.isLogged_iff {level : Level} {record : Record} :
    record.isLogged level = true ↔ 0 < record.level ∧ level ≤ record.level := by
  simp [Record.isLogged]

theorem filter_applied (level : Level) (applied : List Applied) :
    ((applied.map Applied.notice).map Notice.record).filter (fun record => record.isLogged level)
      = if level ≤ Level.trace then applied.map Applied.record else [] := by
  have whole : (applied.map Applied.notice).map Notice.record = applied.map Applied.record := by
    rw [List.map_map]
    exact List.map_congr_left fun one _ => one.record_notice
  rw [whole]
  by_cases low : level ≤ Level.trace
  · rw [if_pos low, List.filter_eq_self]
    intro record member
    obtain ⟨one, _, rfl⟩ := List.mem_map.mp member
    have positive : (0 : Int) < Level.trace := by decide
    exact Record.isLogged_iff.mpr ⟨positive, low⟩
  · rw [if_neg low, List.filter_eq_nil_iff]
    intro record member
    obtain ⟨one, _, rfl⟩ := List.mem_map.mp member
    exact fun logged => low (Record.isLogged_iff.mp logged).2

theorem filter_aborted (level : Level) (error? : Option FormatError) :
    ((error?.map Notice.aborted).toList.map Notice.record).filter
        (fun record => record.isLogged level)
      = if level ≤ Level.debug then (error?.map FormatError.abortRecord).toList else [] := by
  cases error? with
  | none => simp
  | some error =>
    have same : (Notice.aborted error).record = error.abortRecord := rfl
    by_cases low : level ≤ Level.debug
    · have positive : (0 : Int) < Level.debug := by decide
      have logged : error.abortRecord.isLogged level = true :=
        Record.isLogged_iff.mpr ⟨positive, low⟩
      simp [same, logged, low]
    · have passedOver : ¬error.abortRecord.isLogged level = true :=
        fun logged => low (Record.isLogged_iff.mp logged).2
      simp [same, passedOver, low]

end Log

/-- A scan does the same whatever the level of its log. Up to the level of traces the log tells of
each change of color where its directive stands and what it selects, and then of the error if there
is one. Up to the level of details it tells of the error only, and above it of nothing. -/
theorem log_tells_of_scan (signs : Signs) (colors : List Color) (text : List Char) :
    (∀ {φ σ : Type} (sink : Sink φ σ) (state : σ) (level : Log.Level),
        (scanLogged level sink signs colors text state).1 = scan sink signs colors text state)
      ∧ ∃ (outcome : Outcome) (applied : List Applied),
        (record signs colors text).result = .ok outcome
        ∧ Event.changesOf (record signs colors text).state.events = applied.map Applied.event
        ∧ applied.Pairwise (fun earlier later => earlier.position < later.position)
        ∧ (∀ one ∈ applied, one.StandsIn signs colors text)
        ∧ ∀ level : Log.Level,
          let log := (scanLogged level Recorder.sink signs colors text {}).2.kept
          log = (if level ≤ Log.Level.trace then applied.map Applied.record else [])
              ++ (if level ≤ Log.Level.debug then
                (outcome.error.map FormatError.abortRecord).toList else [])
            ∧ Log.linesOf level ((record signs colors text).notices.toList.map Notice.record)
              = log.flatMap fun record =>
                Log.paint (Log.Template.forLevel level) "N" record ++ ['\n'] := by
  constructor
  · intro φ σ sink state level
    rw [scanLogged_eq]
  · obtain ⟨applied, notices, changes, ordered, standing⟩ :=
      Script.exists_applied signs colors text
    obtain ⟨events, result⟩ := record_eq signs colors text
    refine ⟨_, applied, result, by rw [events, changes], ordered, standing, ?_⟩
    intro level log
    obtain ⟨_, sent⟩ :=
      Sink.exists_sendAll Recorder.accepting (Script.ofText signs colors text).events {}
    have noticed : (record signs colors text).notices.toList
        = applied.map Applied.notice
          ++ ((Script.ofText signs colors text).error.map Notice.aborted).toList := by
      rw [record, scan_of_sent sent, ← notices]
    have kept : log = ((record signs colors text).notices.toList.map Notice.record).filter
        fun record => record.isLogged level :=
      congrArg (fun logged => logged.2.kept) (scanLogged_eq level Recorder.sink signs colors text {})
    refine ⟨?_, by rw [kept, Log.linesOf]⟩
    rw [kept, noticed, List.map_append, List.filter_append, Log.filter_applied, Log.filter_aborted]
    rfl

/-- At the level of traces the log tells of the first directive and of the missing color of the second;
at the level of details only of what is missing. -/
theorem log_tells_of_scan_failed :
    let text := ['%', '0', 'a', '&', '7']
    let error : FormatError := { kind := .indexOutOfRange, position := 3, index := some 7 }
    (scanLogged 5 Recorder.sink Signs.standard [.red] text {}).2.kept
        = [{ level := 5, logger := "colorformat.scanner.engine"
             message := "pos=0: fg := #0 (TermColor.RED)" },
          { level := 10, logger := "colorformat.scanner.engine"
            message := "Scan aborted: color argument #7 referenced at position 3 "
              ++ "was not supplied" }]
      ∧ (scanLogged 6 Recorder.sink Signs.standard [.red] text {}).2.kept = [error.abortRecord]
      ∧ (scanLogged 11 Recorder.sink Signs.standard [.red] text {}).2.kept = [] := by
  intro text error
  have script : (Script.ofText Signs.standard [.red] text).outcome
      = { written := 1, directives := 1, error := some error } := by
    decide +kernel
  have changes : Event.changesOf (Script.ofText Signs.standard [.red] text).events
      = [.recolor .foreground (some .red)] := by
    decide +kernel
  obtain ⟨_, outcome, applied, ended, shown, _, standing, kept⟩ :=
    log_tells_of_scan Signs.standard [.red] text
  rw [(record_eq _ _ _).2, script] at ended
  injection ended with same
  subst same
  rw [(record_eq _ _ _).1, changes] at shown
  obtain ⟨one, rfl, event⟩ := List.map_eq_singleton_iff.mp shown.symm
  have only : one = { position := 0, slot := .foreground, index := 0, color := .red } := by
    obtain ⟨position, slot, index, color⟩ := one
    obtain ⟨_, sign, ⟨construct, rest, digits, heads, meaning, value⟩, _⟩ :=
      standing _ List.mem_cons_self
    injection event with slots colors
    injection colors with color
    subst slots color
    have first : position = 0 := by
      match position, sign with
      | 0, _ => rfl
      | position + 5, sign => simp [text] at sign
    subst first
    have known : Construct.Heads Signs.standard (.singleDigit .foreground '0') text ['a', '&', '7'] :=
      .singleDigit rfl
    obtain ⟨rfl, _⟩ := heads.unique known
    injection meaning with _ digit
    subst digit value
    rfl
  subst only
  exact ⟨(kept 5).1.trans (by decide +kernel), (kept 6).1, (kept 11).1⟩

end ColorMarkup
