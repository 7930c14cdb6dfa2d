import ColorMarkup.Proofs.RenderedOutput

/-!
What `check` says is what `render` does. Given the same options, text and colors both commands end
alike and report the same failure, and `check` puts out nothing of the text.
-/

namespace ColorMarkup

namespace Terminal

theorem strip_append_of_plain {text : List Char} (plain : '\x1b' ∉ text) (more : List Char) :
    strip (text ++ more) = text ++ strip more := by
  induction text with
  | nil => rfl
  | cons character rest ih =>
    simp only [List.mem_cons, not_or] at plain
    have noSequence : sequenceLength? (character :: (rest ++ more)) = none := by
      unfold sequenceLength?
      split
      · rename_i same
        injection same with escape
        exact absurd escape.symm plain.1
      · rfl
    have step : strip (character :: (rest ++ more)) = character :: strip (rest ++ more) := by
      simp [strip, stripFrom, noSequence]
    rw [List.cons_append, step, ih plain.2, List.cons_append]

theorem emitted_of_plain {text : List Char} (plain : '\x1b' ∉ text) (colored : Bool) :
    emitted colored text = text := by
  cases colored with
  | true => rfl
  | false =>
    have whole := strip_append_of_plain plain []
    rw [List.append_nil] at whole
    exact whole.trans (List.append_nil text)

end Terminal

namespace Log

def Quiet (records : List Record) : Prop :=
  ∀ record ∈ records, record.level < Level.critical

namespace Quiet

variable {first second : List Record}

theorem append (before : Quiet first) (after : Quiet second) : Quiet (first ++ second) := by
  intro record member
  rcases List.mem_append.mp member with earlier | later
  · exact before record earlier
  · exact after record later

theorem linesOf (quiet : Quiet first) : Log.linesOf Level.critical first = [] := by
  have none : first.filter (fun record => record.isLogged Level.critical) = [] := by
    rw [List.filter_eq_nil_iff]
    intro record member
    simp only [Record.isLogged, Bool.and_eq_true, decide_eq_true_eq, not_and]
    intro _
    exact Int.not_le.mpr (quiet record member)
  rw [Log.linesOf, none]
  rfl

theorem nil : Quiet [] :=
  fun _ member => absurd member List.not_mem_nil

theorem of_debug {record : Record} (debug : record.level = Level.debug) : Quiet [record] := by
  intro other member
  rw [List.mem_singleton.mp member, debug]
  decide

theorem of_notices (notices : List Notice) : Quiet (notices.map Notice.record) := by
  intro record member
  obtain ⟨notice, _, rfl⟩ := List.mem_map.mp member
  cases notice <;> simp only [Notice.record, Notice.level] <;> decide

theorem of_configNotices (notices : List ConfigNotice) :
    Quiet (notices.map ConfigNotice.record) := by
  intro record member
  obtain ⟨notice, _, rfl⟩ := List.mem_map.mp member
  cases notice <;> simp only [ConfigNotice.record] <;> decide

end Quiet

end Log

namespace Cli

open Terminal (Appearance)

def Spells (words : List String) (text : String) (colors : List Color) : Prop :=
  ∃ names, Arguments.ofList [] true words = .ok { operands := text :: names }
    ∧ names.mapM Command.readColor = .ok colors

namespace Spells

variable {words : List String} {text : String} {colors : List Color}

end Spells

def approval (colored : Bool) (verbosity : Verbosity) (outcome : Outcome) : List Char :=
  if verbosity < 0 then []
  else
    (if colored then
        Terminal.graphic 32 ++ Terminal.graphic 1 ++ ['o', 'k'] ++ Terminal.resetAll ++ ['\n']
      else ['o', 'k', '\n'])
    ++ if 0 < verbosity then
        "  characters: ".toList ++ (toString outcome.written).toList ++ ['\n']
          ++ "  directives: ".toList ++ (toString outcome.directives).toList ++ ['\n']
      else []

theorem exact_outcomeTable (outcome : Outcome) : Json.Exact (.table (outcomeTable outcome)) := by
  have number (index? : Option Int) : Json.Exact ((index?.map Value.integer).getD .null) := by
    cases index? with
    | none => exact .null
    | some index => exact .integer index
  unfold outcomeTable
  refine .table (List.forall_mem_append.mpr ⟨?_, ?_⟩)
  · simp [Json.Exact.boolean, Json.Exact.integer]
  · cases outcome.error with
    | none => simp
    | some error =>
      refine List.forall_mem_singleton.mpr (.table ?_)
      simp [Json.Exact.text, Json.Exact.integer, number]

namespace Session

/-- How a session ends that is given a text and colors, whether it checks or renders them. -/
def judge (session : Session) (operand : String) (colors : List Color) : Ending :=
  match (session.source.load session.files).2 with
  | .error refusal => .failed refusal.toFailure
  | .ok config =>
    match session.textFault operand with
    | some fault => .failed (.unexpected fault.message)
    | none => .ofOutcome (validate config.signs colors (session.readText operand).1)

variable (session : Session) (operand : String) (colors : List Color)

theorem quiet_readText : Log.Quiet (session.readText operand).2 := by
  unfold readText
  split
  · exact Log.Quiet.of_debug rfl
  · exact Log.Quiet.nil

theorem quiet_noticeRecords (notices : Array Notice) : Log.Quiet (noticeRecords notices) :=
  Log.Quiet.of_notices notices.toList

variable {session} in
theorem quiet_withConfig {body : Config → Report}
    (quiet : ∀ config, Log.Quiet (body config).records) :
    Log.Quiet (session.withConfig body).records := by
  unfold withConfig
  split
  · exact (Log.Quiet.of_configNotices _).append (quiet _)
  · exact Log.Quiet.of_configNotices _

variable {session} in
theorem withConfig_refused {refusal : ConfigRefusal}
    (refused : (session.source.load session.files).2 = .error refusal) (body : Config → Report) :
    (session.withConfig body).output = []
      ∧ (session.withConfig body).ending = .failed refusal.toFailure := by
  unfold withConfig
  split
  · rename_i notices config loading
    rw [loading] at refused
    contradiction
  · rename_i notices found loading
    rw [loading] at refused
    injection refused with same
    exact ⟨rfl, by rw [same]⟩

theorem printLine_basic {console : Console} (goes : console.fault = none) {line : List Char}
    (basic : Json.IsBasic line) : console.printLine line = console.put (line ++ ['\n']) := by
  have plain : '\x1b' ∉ line ++ ['\n'] := by
    intro member
    rcases List.mem_append.mp member with inside | lineEnd
    · exact absurd (basic _ inside) (by decide)
    · exact absurd lineEnd (by decide)
  rw [Console.printLine_held goes (Text.Encoding.holds_of_basic basic),
    Terminal.emitted_of_plain plain]

theorem printLine_count {console : Console} (goes : console.fault = none) {title : String}
    (basic : Json.IsBasic title.toList) (number : Nat) :
    console.printLine (title ++ toString number).toList
      = console.put (title.toList ++ (toString number).toList ++ ['\n']) := by
  rw [String.toList_append]
  exact printLine_basic goes (basic.append (Json.isBasic_toString number))

def approvalMark (colored : Bool) : List Char :=
  if colored then Terminal.graphic 32 ++ Terminal.graphic 1 ++ ['o', 'k'] ++ Terminal.resetAll
  else ['o', 'k']

theorem styled_ok (console : Console) :
    console.styled { Appearance.marked .bold with foreground := some (.color .green) } "ok".toList
      = approvalMark console.colored := by
  unfold Console.styled approvalMark
  split <;> rfl

theorem holds_approvalMark (encoding : Text.Encoding) (colored : Bool) :
    encoding.Holds (approvalMark colored) := by
  refine Text.Encoding.holds_of_ascii ?_
  cases colored <;> decide

theorem emitted_approvalMark (colored : Bool) :
    Terminal.emitted colored (approvalMark colored ++ ['\n'])
      = if colored then
          Terminal.graphic 32 ++ Terminal.graphic 1 ++ ['o', 'k'] ++ Terminal.resetAll ++ ['\n']
        else ['o', 'k', '\n'] := by
  cases colored <;> rfl

variable {session operand colors} in
theorem report_approved {outcome : Outcome} (passed : outcome.error = none) :
    session.outcomeReport outcome .text
      = { output := approval session.colored session.verbosity outcome } := by
  have characters : Json.IsBasic "  characters: ".toList := by decide
  have directives : Json.IsBasic "  directives: ".toList := by decide
  unfold outcomeReport approval
  rw [passed]
  by_cases silent : session.verbosity < 0
  · simp only [if_pos silent]
  · simp only [if_neg silent, styled_ok]
    rw [Console.printLine_held rfl (holds_approvalMark _ _), emitted_approvalMark]
    by_cases detailed : 0 < session.verbosity
    · simp only [if_pos detailed]
      rw [printLine_count rfl characters, printLine_count rfl directives]
      simp [Report.ofConsole, console]
    · simp [if_neg detailed, Report.ofConsole, console]

theorem report_document (outcome : Outcome) :
    session.outcomeReport outcome .json = {
      output := Json.write (.table (outcomeTable outcome)) ++ ['\n']
      ending := if outcome.error.isSome then .exit FailureKind.format.exitCode else .done } := by
  have basic := (exact_outcomeTable outcome).basic
  unfold outcomeReport
  rw [printLine_basic rfl basic]
  simp [Report.ofConsole, console]

theorem records_outcomeReport (outcome : Outcome) (format : OutputFormat) :
    (session.outcomeReport outcome format).records = [] := by
  unfold outcomeReport
  cases format with
  | json => rfl
  | text =>
    cases outcome.error with
    | some error => rfl
    | none => by_cases silent : session.verbosity < 0 <;> simp [silent, Report.ofConsole]

theorem ending_outcomeReport (outcome : Outcome) :
    (session.outcomeReport outcome .text).ending = .ofOutcome outcome := by
  cases stopped : outcome.error with
  | none => rw [report_approved stopped, Ending.ofOutcome, stopped]
  | some error =>
    unfold outcomeReport Ending.ofOutcome
    rw [stopped]

theorem quiet_withText {body : List Char → Report}
    (quiet : ∀ text, Log.Quiet (body text).records) :
    Log.Quiet (session.withText operand body).records := by
  unfold withText
  split
  · exact Log.Quiet.nil
  · exact (quiet_readText session operand).append (quiet _)

theorem quiet_check (format : OutputFormat) :
    Log.Quiet (session.check operand colors format).records := by
  refine quiet_withConfig fun config => quiet_withText session operand fun text => ?_
  show Log.Quiet (_ ++ (session.outcomeReport _ format).records)
  rw [records_outcomeReport, List.append_nil]
  exact quiet_noticeRecords _

theorem quiet_render (newline keepColors : Bool) :
    Log.Quiet (session.render operand colors newline keepColors).records := by
  refine quiet_withConfig fun config => ?_
  have captured : Log.Quiet [(Notice.captured session.console.stream.palette).record] :=
    Log.Quiet.of_debug rfl
  refine captured.append (quiet_withText session operand fun text => ?_)
  refine (quiet_noticeRecords _).append ?_
  unfold renderReport
  split <;> exact Log.Quiet.nil

variable {session operand colors}

theorem withConfig_judged {α : Type} (view : Ending → α) {body : Config → List Char → Report}
    (ends : ∀ (config : Config) (text : List Char), view (body config text).ending
      = view (.ofOutcome (validate config.signs colors text))) :
    view (session.withConfig fun config => session.withText operand (body config)).ending
      = view (session.judge operand colors) := by
  cases loaded : (session.source.load session.files).2 with
  | error refusal =>
    obtain ⟨_, ending⟩ := withConfig_refused loaded
      fun config => session.withText operand (body config)
    rw [ending, judge, loaded]
  | ok config =>
    obtain ⟨records, opened⟩ := withConfig_loaded loaded
    rw [opened, Report.after_ending, judge, loaded]
    cases flaw : session.textFault operand with
    | some fault => rw [withText_unreadable flaw]
    | none => rw [withText_readable flaw, Report.after_ending, ends]

theorem ending_check : (session.check operand colors .text).ending = session.judge operand colors :=
  withConfig_judged id fun _ _ => ending_outcomeReport session _

theorem exitCode_check_json :
    (session.check operand colors .json).ending.exitCode
      = (session.judge operand colors).exitCode := by
  refine withConfig_judged Ending.exitCode fun config text => ?_
  show (session.outcomeReport (validate config.signs colors text) .json).ending.exitCode = _
  rw [report_document, Ending.ofOutcome]
  cases (validate config.signs colors text).error <;> rfl

theorem textFault_usual (usual : session.streams = {}) (operand : String) :
    session.textFault operand = none :=
  textFault_eq_none fun _ => by rw [usual]

theorem holds_usual (usual : session.streams = {}) (text : List Char) :
    session.streams.encoding.Holds text := by
  rw [usual]
  exact Text.Encoding.holds_utf8 text

theorem ending_render (held : session.streams.encoding.Holds (session.readText operand).1)
    (newline keepColors : Bool) :
    (session.render operand colors newline keepColors).ending = session.judge operand colors := by
  cases loaded : (session.source.load session.files).2 with
  | error refusal =>
    obtain ⟨_, ending⟩ := withConfig_refused loaded _
    exact ending.trans (by rw [judge, loaded])
  | ok config =>
    rw [judge, loaded]
    cases flaw : session.textFault operand with
    | some fault => exact ending_render_unreadable loaded flaw colors newline keepColors
    | none => exact (render_fields loaded flaw held colors newline keepColors).2

end Session

/-- Results of the two commands, and of the one that checks when it reports in another format. -/
structure Predicts (help : List Char) (check json render : Result) : Prop where
  code : check.exitCode = render.exitCode
  jsonCode : json.exitCode = render.exitCode
  known : render.exitCode ∈ [0, 64, 65, 66, 78, 255]
  errors : check.errors = render.errors
  reported : render.exitCode ≠ 0 → "Error: ".toList <+: render.errors
  silent : render.exitCode ≠ 0 → check.output = []
  shown : render.exitCode = 0 → check.output = help ∧ render.output = help
    ∨ ∃ colored verbosity outcome, check.output = approval colored verbosity outcome

theorem Failure.report_emitted (failure : Failure) (colored : Bool) :
    "Error: ".toList <+: Terminal.emitted colored (failure.report ++ ['\n']) := by
  rw [Failure.report, String.toList_append, List.append_assoc]
  cases colored with
  | true => exact List.prefix_append _ _
  | false =>
    rw [Terminal.emitted, if_neg (by decide), Terminal.strip_append_of_plain (by decide)]
    exact List.prefix_append _ _

namespace Predicts

variable {help : List Char} {check json render : Result} {colored : Bool} {programName : String}

theorem of_failed {failure : Failure} (special : failure.kind ≠ .general)
    (checkCode : check.exitCode = failure.exitCode) (jsonCode : json.exitCode = failure.exitCode)
    (renderCode : render.exitCode = failure.exitCode)
    (checkErrors : check.errors = Terminal.emitted colored (failure.report ++ ['\n']))
    (renderErrors : render.errors = Terminal.emitted colored (failure.report ++ ['\n']))
    (silent : check.output = []) : Predicts help check json render where
  code := checkCode.trans renderCode.symm
  jsonCode := jsonCode.trans renderCode.symm
  known := by
    rw [renderCode, Failure.exitCode]
    cases kind : failure.kind <;> first | contradiction | decide
  errors := checkErrors.trans renderErrors.symm
  reported _ := by
    rw [renderErrors]
    exact failure.report_emitted colored
  silent _ := silent
  shown zero := by
    rw [renderCode, Failure.exitCode] at zero
    cases kind : failure.kind <;> rw [kind] at zero <;> contradiction

end Predicts

def Surroundings.textOf (surroundings : Surroundings) (operand : String) : List Char :=
  if operand = inputMark then Session.dropLineEnd (Text.unifyLineEnds surroundings.input)
  else operand.toList

namespace Invocation

variable {invocation : Invocation} {surroundings : Surroundings} {options : Options}
  {streams : Streams}

theorem Performs.exists_records {verbosity : Verbosity} {level? : Option Log.Level}
    {command : Command}
    (performs : invocation.Performs surroundings options verbosity level? command)
    (quiet : Log.Quiet
      ((Session.opened surroundings options verbosity streams).perform command).records) :
    ∃ records, Log.Quiet records
      ∧ (invocation.run surroundings streams).errors
        = Log.linesOf (level?.getD Log.Level.critical) records
          ++ Terminal.emitted (Session.opened surroundings options verbosity streams).colored
            (((Session.opened surroundings options verbosity streams).perform command).ending.report
              invocation.programName) := by
  rw [performs.run_eq]
  generalize (Session.opened surroundings options verbosity streams).perform command = report
    at quiet ⊢
  have noted : Log.Quiet (report.noteSurprise invocation.logger).records := by
    unfold Report.noteSurprise
    split
    · exact quiet.append (Log.Quiet.of_debug rfl)
    · exact quiet
  have opening : Log.Quiet [stateRecord invocation.logger surroundings.files options verbosity level?
      (Session.opened surroundings options verbosity streams).colored] := Log.Quiet.of_debug rfl
  refine ⟨_, opening.append noted, ?_⟩
  simp only [Report.toResult, Report.after_ending,
    (report.noteSurprise_fields invocation.logger).2]
  rfl

end Invocation

end Cli

end ColorMarkup
