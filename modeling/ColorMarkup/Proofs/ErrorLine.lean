import ColorMarkup.Proofs.Diagnosis
import ColorMarkup.Proofs.JsonReport
import ColorMarkup.Proofs.Uncolored

/-!
Errors of a scan as a terminal shows them. Whatever stands in a text, the message of its error is one
line of printable characters, and a run that fails over the text reports that line as it is.
-/

namespace ColorMarkup

namespace Text

def isControl (character : Char) : Bool :=
  let code := character.toNat
  code < 0x20 || (0x7f ≤ code && code < 0xa0) || code == 0x2028 || code == 0x2029

/-- A text that is shown as it stands, on one line. -/
structure IsLine (text : List Char) : Prop where
  printable : ∀ character ∈ text, isPrintable character = true
  unbroken : ∀ character ∈ text, isControl character = false

theorem not_isControl_of_isPrintable {character : Char}
    (printable : isPrintable character = true) : isControl character = false := by
  refine Bool.eq_false_iff.mpr fun control => ?_
  simp only [isControl, Bool.or_eq_true, Bool.and_eq_true, decide_eq_true_eq, beq_iff_eq]
    at control
  rcases control with ((low | ⟨first, last⟩) | line) | paragraph
  · rw [not_isPrintable_of_control low] at printable
    contradiction
  · have listed : inRuns character.toNat unprintableLow = true := by
      refine List.any_eq_true.mpr ⟨(0x7f, 0xa0), List.mem_cons_self, ?_⟩
      simp only [Bool.and_eq_true, decide_eq_true_eq]
      omega
    have notAscii : ¬character.toNat < 0x7f := by omega
    have below : character.toNat < 0x1000 := by omega
    simp [isPrintable, if_neg notAscii, if_pos below, listed] at printable
  · have same : character = '\u2028' := Char.toNat_inj.mp line
    subst same
    revert printable
    decide
  · have same : character = '\u2029' := Char.toNat_inj.mp paragraph
    subst same
    revert printable
    decide

namespace IsLine

variable {first second : List Char}

theorem of_printable (printable : ∀ character ∈ first, isPrintable character = true) :
    IsLine first :=
  ⟨printable, fun character member => not_isControl_of_isPrintable (printable character member)⟩

instance (text : List Char) : Decidable (IsLine text) :=
  decidable_of_iff (text.all isPrintable = true)
    ⟨fun all => of_printable (List.all_eq_true.mp all),
      fun line => List.all_eq_true.mpr line.printable⟩

theorem append (line : IsLine first) (more : IsLine second) : IsLine (first ++ second) :=
  of_printable (List.forall_mem_append.mpr ⟨line.printable, more.printable⟩)

theorem of_basic (basic : Json.IsBasic first) : IsLine first :=
  of_printable fun character member =>
    isPrintable_of_ascii (basic character member).1 (basic character member).2

theorem of_integer (number : Int) : IsLine (toString number).toList :=
  of_basic (Json.isBasic_toString number)

theorem of_digits (plain : ∀ digit ∈ first, isPlainDigit digit) : IsLine first :=
  of_basic (.of_digits plain)

theorem not_escape_mem (line : IsLine first) : '\x1b' ∉ first := fun member =>
  absurd (line.unbroken _ member) (by decide)

end IsLine

theorem escape_cases {mark : Char} (visible : isPrintable mark = true) (character : Char) :
    escape mark character = [character] ∧ isPrintable character = true
      ∨ ∃ letter width, escape mark character = '\\' :: letter :: hex width character.toNat
          ∧ isPrintable letter = true := by
  unfold escape
  split
  · rename_i special
    refine .inr ⟨character, 0, rfl, ?_⟩
    rcases special with rfl | rfl
    · exact visible
    · decide
  split
  · exact .inr ⟨'n', 0, rfl, by decide⟩
  split
  · exact .inr ⟨'r', 0, rfl, by decide⟩
  split
  · exact .inr ⟨'t', 0, rfl, by decide⟩
  split
  · rename_i plain
    exact .inl ⟨rfl, plain⟩
  split
  · exact .inr ⟨'x', 2, rfl, by decide⟩
  split
  · exact .inr ⟨'u', 4, rfl, by decide⟩
  · exact .inr ⟨'U', 8, rfl, by decide⟩

theorem isPrintable_of_mem_escape {mark character shown : Char} (visible : isPrintable mark = true)
    (member : shown ∈ escape mark character) : isPrintable shown = true := by
  rcases escape_cases visible character with ⟨same, plain⟩ | ⟨letter, width, coded, plain⟩
  · rw [same] at member
    rwa [List.mem_singleton.mp member]
  · rw [coded, List.mem_cons, List.mem_cons] at member
    rcases member with rfl | rfl | digit
    · decide
    · exact plain
    · exact isPrintable_of_mem_hex digit

theorem isPrintable_quoteMark (text : List Char) : isPrintable (quoteMark text) = true := by
  unfold quoteMark
  split <;> decide

theorem isLine_quoted (text : List Char) : IsLine (quoted text) := by
  have mark := isPrintable_quoteMark text
  refine .of_printable ?_
  intro shown member
  simp only [quoted, List.mem_cons, List.mem_append, List.mem_flatMap,
    List.not_mem_nil, or_false] at member
  rcases member with rfl | ⟨character, _, inside⟩ | rfl
  · exact mark
  · exact isPrintable_of_mem_escape mark inside
  · exact mark

end Text

section

variable {signs : Signs} {colors : List Color} {text digits : List Char} {error : FormatError}
  {position : Int}

theorem resolveIndex_error {index : Nat}
    (refused : resolveIndex colors index position = .error error) :
    error = { kind := .indexOutOfRange, position, index := some index } := by
  unfold resolveIndex at refused
  cases found : colors[index]? with
  | some color => simp [found] at refused
  | none =>
    simp only [Int.toNat_natCast, found, Int.natCast_nonneg, if_true] at refused
    injection refused with same
    exact same.symm

theorem reportsMissing_of_refused (plain : ∀ digit ∈ digits, Text.isPlainDigit digit)
    (refused : resolveDigits colors digits position = .error error) :
    ReportsMissing position (Text.plainValue digits) error := by
  simp only [resolveDigits, plainValue_significant] at refused
  rw [significant_eq_toString plain, String.length_toList] at refused
  split at refused
  · rename_i long
    injection refused with same
    subst same
    exact .digits long (excerpt_iff.mpr rfl)
  · rename_i notLong
    have short : (toString (Text.plainValue digits)).length ≤ 19 := Nat.not_lt.mp notLong
    cases resolved : resolveIndex colors (Text.plainValue digits) position with
    | ok color =>
      rw [resolved] at refused
      contradiction
    | error missing =>
      rw [resolved] at refused
      injection refused with same
      subst same
      rw [resolveIndex_error resolved]
      exact .number short

def FormatError.NamesDigits (error : FormatError) : Prop :=
  error.kind = .indexOutOfRange → ∃ digits shown,
    digits ≠ [] ∧ (∀ digit ∈ digits, Text.isPlainDigit digit) ∧ Excerpt digits shown
      ∧ error.message = "color argument #" ++ shown ++ " referenced at position "
          ++ toString error.position ++ " was not supplied"

theorem ReportsMissing.namesDigits {index : Nat} (reports : ReportsMissing position index error) :
    error.NamesDigits := by
  have filled : (toString index).toList ≠ [] := Json.ne_nil_toString index
  have plain : ∀ digit ∈ (toString index).toList, Text.isPlainDigit digit :=
    fun _ member => isPlainDigit_of_mem_toString member
  intro _
  cases reports with
  | number short =>
    have whole : (toString index).toList.length ≤ 24 := by
      rw [String.length_toList]
      omega
    refine ⟨(toString index).toList, _, filled, plain, .whole whole, ?_⟩
    rw [String.ofList_toList]
    rfl
  | digits long excerpt => exact ⟨_, _, filled, plain, excerpt, rfl⟩

theorem Script.namesDigits (stopped : (ofText signs colors text).error = some error) :
    error.NamesDigits := by
  obtain ⟨place, base, failure, rfl⟩ := exists_firstFailed stopped
  have fails := failure.fails
  cases left : text.drop place with
  | nil =>
    rw [left] at fails
    have errors := congrArg Script.error fails
    simp [failed] at errors
  | cons first rest =>
    rw [left] at fails
    rcases Construct.heads_or_faulty signs first rest with
      ⟨construct, after, heads⟩ | ⟨fault, faulty⟩
    · have missing := missing_of_failed heads fails
      obtain ⟨slot, digits, directive, refused⟩ := Construct.missing?_eq_some_iff.mp missing
      have shifted : resolveDigits colors digits place = .error (base.shift place) := by
        rw [resolveDigits_shift, refused]
        rfl
      exact (reportsMissing_of_refused (heads.plain_digits directive) shifted).namesDigits
    · rw [ofText_of_faulty faulty] at fails
      rw [← failed_injective fails]
      intro kind
      cases fault <;> cases kind

theorem Excerpt.isLine {shown : String} (excerpt : Excerpt digits shown)
    (plain : ∀ digit ∈ digits, Text.isPlainDigit digit) : Text.IsLine shown.toList := by
  cases excerpt with
  | whole _ =>
    rw [String.toList_ofList]
    exact .of_digits plain
  | beginning _ =>
    have start : Text.IsLine (digits.take 24) :=
      .of_digits fun digit member => plain digit (List.mem_of_mem_take member)
    have count : Text.IsLine (toString digits.length).toList := .of_integer digits.length
    simp only [String.toList_append, String.toList_ofList]
    exact .append (.append (.append start (by decide)) count) (by decide)

theorem FormatError.isLine_message (named : error.NamesDigits) :
    Text.IsLine error.message.toList := by
  have place : Text.IsLine (toString error.position).toList := .of_integer error.position
  cases kind : error.kind with
  | indexOutOfRange =>
    obtain ⟨digits, shown, _, plain, excerpt, message⟩ := named kind
    rw [message]
    simp only [String.toList_append]
    have index : Text.IsLine shown.toList := excerpt.isLine plain
    exact .append (.append (.append (.append (by decide) index) (by decide)) place) (by decide)
  | invalidArgument =>
    have quoted : Text.IsLine (Text.quote error.detail).toList := by
      rw [Text.quote, String.toList_ofList]
      exact Text.isLine_quoted error.detail.toList
    simp only [message, kind, String.toList_append]
    exact .append (.append (.append (.append (by decide) quoted) (by decide)) place) (by decide)
  | unterminatedBracket =>
    simp only [message, kind, String.toList_append]
    exact .append (by decide) place

end

namespace Terminal

theorem stripFrom_append (skipped rest : List Char) :
    stripFrom skipped.length (skipped ++ rest) = strip rest := by
  induction skipped with
  | nil => rfl
  | cons character others ih => exact ih

theorem sequenceLength?_graphic (code : Nat) (rest : List Char) :
    sequenceLength? (graphic code ++ rest) = some (graphic code).length := by
  have parameters : ((toString code).toList ++ 'm' :: rest).dropWhile isParameter = 'm' :: rest := by
    rw [List.dropWhile_append_of_pos fun digit => isParameter_of_mem_toString]
    exact List.dropWhile_cons_of_neg (by decide)
  have intermediates : ('m' :: rest).dropWhile isIntermediate = 'm' :: rest :=
    List.dropWhile_cons_of_neg (by decide)
  have final : isFinal 'm' = true := by decide
  simp only [graphic, List.cons_append, List.append_assoc, List.nil_append, sequenceLength?,
    parameters, intermediates, final, if_true, Option.some.injEq, List.length_append,
    List.length_cons, List.length_nil]
  omega

theorem strip_graphic (code : Nat) (rest : List Char) :
    strip (graphic code ++ rest) = strip rest := by
  have found := sequenceLength?_graphic code rest
  simp only [graphic, List.cons_append] at found ⊢
  simp only [strip, stripFrom, found]
  exact stripFrom_append _ rest

theorem strip_styled (slot : Slot) (color : Color) {text : List Char} (plain : '\x1b' ∉ text)
    (more : List Char) : strip (styled slot color text ++ more) = text ++ strip more := by
  rw [styled, resetAll, List.append_assoc, List.append_assoc, strip_graphic,
    strip_append_of_plain plain, strip_graphic]

end Terminal

namespace Cli

theorem Console.errors_report {failure : Failure} (line : Text.IsLine failure.report)
    (console : Console) :
    (console.report failure).errors
      = console.errors ++ (if console.colored then
          Terminal.styled .foreground .brightRed failure.report else failure.report) ++ ['\n'] := by
  have told : (console.report failure).errors = console.errors ++ Terminal.emitted console.colored
      (Terminal.styled .foreground .brightRed failure.report ++ ['\n']) := by
    rw [← Terminal.Appearance.apply_colored]
    rfl
  rw [told, List.append_assoc, Terminal.emitted]
  cases console.colored with
  | true => rfl
  | false =>
    have stripped := Terminal.strip_styled .foreground .brightRed line.not_escape_mem ['\n']
    exact congrArg (console.errors ++ ·) stripped

/-- A command that scans a text and fails if the scan does. -/
inductive Command.Scans (operand : String) (colors : List Color) : Command → Prop
  | check : Scans operand colors (.check operand colors .text)
  | render {newline keepColors} : Scans operand colors (.render operand colors newline keepColors)

namespace Session

variable {session : Session} {operand : String} {colors : List Color} {command : Command}

theorem ending_of_scans (usual : session.streams = {}) (scans : command.Scans operand colors) :
    (session.perform command).ending = session.judge operand colors := by
  cases scans with
  | check => exact ending_check
  | render => exact ending_render (holds_usual usual _) _ _

theorem quiet_of_scans (scans : command.Scans operand colors) :
    Log.Quiet (session.perform command).records := by
  cases scans with
  | check => exact quiet_check session operand colors .text
  | render => exact quiet_render session operand colors _ _

theorem judge_failed (usual : session.streams = {}) {config : Config} {error : FormatError}
    (loaded : (session.source.load session.files).2 = .ok config)
    (failed : (record config.signs colors (session.readText operand).1).outcome.error
      = some error) :
    session.judge operand colors = .failed (.ofFormatError error) := by
  rw [Run.outcome, (record_eq _ _ _).2] at failed
  rw [judge, loaded, textFault_usual usual]
  simp only [validate_eq, Ending.ofOutcome, failed]

end Session

/-- The message of an error is one line of printable characters, which names a missing color by
digits only. A console reports it on one line, and so does a run that fails over the text. -/
theorem scan_errors_shown_on_one_line {signs : Signs} {colors : List Color} {text : List Char}
    {error : FormatError} (failed : (record signs colors text).outcome.error = some error) :
    let line := "Error: ".toList ++ error.message.toList
    Text.IsLine error.message.toList
      ∧ (error.kind = .indexOutOfRange → ∃ digits shown,
          digits ≠ [] ∧ (∀ digit ∈ digits, Text.isPlainDigit digit) ∧ Excerpt digits shown
            ∧ error.message = "color argument #" ++ shown ++ " referenced at position "
                ++ toString error.position ++ " was not supplied")
      ∧ (∀ console : Console, (console.report (.ofFormatError error)).errors
          = console.errors ++ (if console.colored then
              Terminal.styled .foreground .brightRed line else line) ++ ['\n'])
      ∧ ∀ (invocation : Invocation) (surroundings : Surroundings) (options : Options)
          (verbosity : Verbosity) (level? : Option Log.Level) (command : Command)
          (operand : String) (config : Config),
        let session := Session.opened surroundings options verbosity
        invocation.Performs surroundings options verbosity level? command →
        command.Scans operand colors →
        (session.source.load surroundings.files).2 = .ok config →
        config.signs = signs →
        (session.readText operand).1 = text →
        ∃ records, Log.Quiet records
          ∧ (invocation.run surroundings).errors
            = Log.linesOf (level?.getD Log.Level.critical) records ++ line ++ ['\n'] := by
  intro line
  have stopped : (Script.ofText signs colors text).error = some error := by
    rwa [Run.outcome, (record_eq signs colors text).2] at failed
  have named := Script.namesDigits stopped
  have message := FormatError.isLine_message named
  have reported : (Failure.ofFormatError error).report = line := String.toList_append
  have whole : Text.IsLine line := .append (by decide) message
  refine ⟨message, named, ?_, ?_⟩
  · intro console
    rw [Console.errors_report (reported ▸ whole), reported]
  · intro invocation surroundings options verbosity level? command operand config session performs
      scans loaded sameSigns sameText
    subst sameSigns sameText
    obtain ⟨records, quiet, errors⟩ :=
      performs.exists_records (Session.quiet_of_scans scans)
    have ending : ((Session.opened surroundings options verbosity).perform command).ending
        = .failed (.ofFormatError error) :=
      (Session.ending_of_scans rfl scans).trans (Session.judge_failed rfl loaded failed)
    have plain : '\x1b' ∉ line ++ ['\n'] := by
      intro member
      rcases List.mem_append.mp member with inside | lineEnd
      · exact whole.not_escape_mem inside
      · exact absurd lineEnd (by decide)
    refine ⟨records, quiet, ?_⟩
    rw [errors, ending, Ending.report, reported, Terminal.emitted_of_plain plain]
    exact (List.append_assoc _ _ _).symm

/-- The brackets hold a sequence that clears the screen and a line end. -/
theorem scan_errors_shown_on_one_line_cleared :
    let surroundings : Surroundings := { files := { workingDirectory := "/", entries := [] } }
    let invocation : Invocation := { arguments := ["render", "a%\x7b\x1b[2J\n\x7d"] }
    let error : FormatError := { kind := .invalidArgument, position := 1, detail := "\x1b[2J\n" }
    (record Signs.standard [] ['a', '%', '\x7b', '\x1b', '[', '2', 'J', '\n', '\x7d']).outcome.error
        = some error
      ∧ Text.IsLine error.message.toList
      ∧ (invocation.run surroundings).errors
        = ("Error: color argument '\\x1b[2J\\n' at position 1 is not a non-negative integer"
            ++ "\n").toList := by
  intro surroundings invocation error
  have failed : (record Signs.standard []
      ['a', '%', '\x7b', '\x1b', '[', '2', 'J', '\n', '\x7d']).outcome.error = some error := by
    rw [Run.outcome, (record_eq _ _ _).2]
    decide +kernel
  have performs : invocation.Performs surroundings {} 0 none
      (.render "a%\x7b\x1b[2J\n\x7d" [] true false) :=
    ⟨⟨.render, ["a%\x7b\x1b[2J\n\x7d"], rfl, rfl⟩, rfl, rfl⟩
  have loaded : ((Session.opened surroundings {} 0).source.load surroundings.files).2
      = .ok { sources := ["defaults"] } := by
    simp only [surroundings]
    rfl
  obtain ⟨message, -, -, runs⟩ := scan_errors_shown_on_one_line failed
  obtain ⟨records, quiet, errors⟩ := runs _ _ _ _ _ _ _ _ performs .render loaded rfl rfl
  refine ⟨failed, message, ?_⟩
  have silent : Log.linesOf ((none : Option Log.Level).getD Log.Level.critical) records = [] :=
    quiet.linesOf
  rw [errors, silent]
  decide +kernel

end Cli

end ColorMarkup
