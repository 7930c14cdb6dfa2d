import ColorMarkup.Proofs.JsonText
import ColorMarkup.Proofs.Prediction
import ColorMarkup.Proofs.RenderedOutput

/-!
What the command that checks reports as a document: one line that tells, to every reader of the
notation, how the scan ended.
-/

namespace ColorMarkup

open Json (Exact)

/-- What a document calls each kind of error. -/
inductive FormatErrorKind.Called : FormatErrorKind → String → Prop
  | indexOutOfRange : Called .indexOutOfRange "argument-index-out-of-range"
  | invalidArgument : Called .invalidArgument "invalid-argument-format"
  | unterminatedBracket : Called .unterminatedBracket "unterminated-bracket"

theorem FormatErrorKind.called_name (kind : FormatErrorKind) : kind.Called kind.name := by
  cases kind with
  | indexOutOfRange => exact .indexOutOfRange
  | invalidArgument => exact .invalidArgument
  | unterminatedBracket => exact .unterminatedBracket

/-- What a table has to say of an error. -/
structure FormatError.ToldBy (error : FormatError) (fields : Entries) : Prop where
  kind : ∃ name, error.kind.Called name ∧ Value.lookup? fields "kind" = some (.text name)
  position : Value.lookup? fields "position" = some (.integer error.position)
  index : Value.lookup? fields "index"
    = some (match error.index with
      | none => .null
      | some index => .integer index)
  message : Value.lookup? fields "message" = some (.text error.message)
  keys : fields.map Prod.fst = ["kind", "position", "index", "message"]

/-- What a table has to say of the outcome of a scan. -/
structure Outcome.ToldBy (outcome : Outcome) (entries : Entries) : Prop where
  ok : Value.lookup? entries "ok" = some (.boolean outcome.ok)
  written : Value.lookup? entries "written" = some (.integer outcome.written)
  directives : Value.lookup? entries "directives" = some (.integer outcome.directives)
  error : ∀ error, outcome.error = some error →
    ∃ fields, Value.lookup? entries "error" = some (.table fields) ∧ error.ToldBy fields
  noError : outcome.error = none → Value.lookup? entries "error" = none
  keys : entries.map Prod.fst
    = ["ok", "written", "directives"] ++ if outcome.ok then [] else ["error"]

namespace Cli

theorem toldBy_outcomeTable (outcome : Outcome) : outcome.ToldBy (outcomeTable outcome) := by
  unfold outcomeTable
  cases stopped : outcome.error with
  | none =>
    have ok : outcome.ok = true := by simp [Outcome.ok, stopped]
    exact ⟨rfl, rfl, rfl, by simp [stopped], fun _ => rfl, by rw [ok]; rfl⟩
  | some error =>
    have failed : outcome.ok = false := by simp [Outcome.ok, stopped]
    refine ⟨rfl, rfl, rfl, ?_, by simp [stopped], by rw [failed]; rfl⟩
    intro same told
    obtain rfl := Option.some.inj (stopped.symm.trans told)
    refine ⟨_, rfl, ⟨_, error.kind.called_name, rfl⟩, rfl, ?_, rfl, rfl⟩
    cases error.index <;> rfl

namespace Session

variable {session : Session} {config : Config}

theorem check_fields (loaded : (session.source.load session.files).2 = .ok config)
    {operand : String} (readable : session.textFault operand = none) (colors : List Color) :
    let outcome := validate config.signs colors (session.readText operand).1
    let report := session.check operand colors .json
    report.output = Json.write (.table (outcomeTable outcome)) ++ ['\n']
      ∧ report.ending.exitCode = if outcome.ok then 0 else 65 := by
  intro outcome report
  obtain ⟨records, opened⟩ := withConfig_loaded loaded
  constructor
  · simp only [report, check, opened, Report.after_output, withText_readable readable,
      report_document]
    rfl
  · rw [exitCode_check_json, judge, loaded, readable]
    exact Ending.exitCode_ofOutcome outcome

end Session

/-- A run that checks and is to report a document puts out one line of printable basic characters.
Read back it is a table that tells the outcome of the scan, whatever stands in the text and
whichever characters the output has. The run exits with sixty-five if the scan failed and with zero
otherwise. -/
theorem check_reports {invocation : Invocation} {surroundings : Surroundings} {streams : Streams}
    {options : Options} {verbosity : Verbosity} {level? : Option Log.Level} {operand : String}
    {colors : List Color} {config : Config}
    (performs : invocation.Performs surroundings options verbosity level?
      (.check operand colors .json))
    (loaded : ((Session.opened surroundings options verbosity streams).source.load
      surroundings.files).2 = .ok config)
    (readable : operand = inputMark → streams.inputFault = none) :
    let session := Session.opened surroundings options verbosity streams
    let text := (session.readText operand).1
    let input := Text.unifyLineEnds surroundings.input
    let outcome := validate config.signs colors text
    let result := invocation.run surroundings streams
    (record config.signs colors text).result = .ok outcome
      ∧ (∃ line entries, result.output = line ++ ['\n']
          ∧ (∀ character ∈ line, 0x20 ≤ character.toNat ∧ character.toNat < 0x7f)
          ∧ Json.parse line = some (.table entries)
          ∧ outcome.ToldBy entries)
      ∧ result.exitCode = (if outcome.ok then 0 else 65)
      ∧ (operand ≠ inputMark → text = operand.toList)
      ∧ (operand = inputMark →
          '\r' ∉ input
          ∧ (input = text ++ ['\n'] ∨ text = input ∧ input.getLast? ≠ some '\n')) := by
  intro session text input outcome result
  obtain ⟨output, code⟩ := Session.check_fields loaded
    (Session.textFault_eq_none readable) colors
  obtain ⟨sameOutput, sameCode⟩ := performs.run_fields
  have exact := exact_outcomeTable outcome
  refine ⟨?_, ?_, sameCode.trans code, ?_, ?_⟩
  · rw [(record_eq config.signs colors text).2, ← validate_eq]
  · exact ⟨_, _, sameOutput.trans output, exact.basic, exact.parse_write,
      toldBy_outcomeTable outcome⟩
  · exact Session.readText_operand
  · rintro rfl
    exact session.readText_mark

/-- The output has basic characters only. The brackets hold a quotation mark, a letter that is
written as one unit and a sign that is written as two. -/
theorem check_reports_escaped :
    let surroundings : Surroundings := { files := { workingDirectory := "/", entries := [] } }
    let invocation : Invocation :=
      { arguments := ["check", "--format", "json", "a%\x7b\"é😀\x7d", "red"] }
    let error : FormatError := { kind := .invalidArgument, position := 1, detail := "\"é😀" }
    let result := invocation.run surroundings { encoding := .ascii }
    result.exitCode = 65
      ∧ ∃ line entries fields, result.output = line ++ ['\n']
        ∧ Json.parse line = some (.table entries)
        ∧ Value.lookup? entries "written" = some (.integer 1)
        ∧ Value.lookup? entries "error" = some (.table fields)
        ∧ error.ToldBy fields
        ∧ Value.lookup? fields "kind" = some (.text "invalid-argument-format")
        ∧ Value.lookup? fields "message" = some
          (.text "color argument '\"é😀' at position 1 is not a non-negative integer") := by
  intro surroundings invocation error result
  have performs : invocation.Performs surroundings {} 0 none
      (.check "a%\x7b\"é😀\x7d" [.red] .json) :=
    ⟨⟨.check, ["--format", "json", "a%\x7b\"é😀\x7d", "red"], rfl, rfl⟩, rfl, rfl⟩
  have loaded : ((Session.opened surroundings {} 0 { encoding := .ascii }).source.load
      surroundings.files).2 = .ok { sources := ["defaults"] } := by
    simp only [surroundings]
    rfl
  have read : ((Session.opened surroundings {} 0 { encoding := .ascii }).readText
      "a%\x7b\"é😀\x7d").1
      = ['a', '%', '\x7b', '"', 'é', '😀', '\x7d'] := rfl
  have outcome : validate Signs.standard [.red] ['a', '%', '\x7b', '"', 'é', '😀', '\x7d']
      = { written := 1, directives := 0, error := some error } := by
    rw [validate_eq]
    decide +kernel
  have reported := check_reports performs loaded fun mark => absurd mark (by decide)
  simp only [read, outcome] at reported
  obtain ⟨-, ⟨line, entries, output, -, parsed, told⟩, code, -, -⟩ := reported
  obtain ⟨fields, found, tells⟩ := told.error error rfl
  have kind : Value.lookup? fields "kind" = some (.text "invalid-argument-format") := by
    obtain ⟨name, called, shown⟩ := tells.kind
    cases called with
    | invalidArgument => exact shown
  have message := tells.message
  have text : error.message
      = "color argument '\"é😀' at position 1 is not a non-negative integer" := by
    decide +kernel
  rw [text] at message
  exact ⟨code, line, entries, fields, output, parsed, told.written, found, tells, kind, message⟩

end Cli

end ColorMarkup
