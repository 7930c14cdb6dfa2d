import ColorMarkup.Proofs.ErrorLine
import ColorMarkup.Proofs.Numeral
import ColorMarkup.Proofs.Tables
import ColorMarkup.Proofs.Trimming

/-!
The setting of the level of diagnostics. A text that names a level by a number or a name is read as
that level and any other as none, and what a run puts out does not depend on it; only digits that
are not converted make reading fail.
-/

namespace ColorMarkup

namespace Text

theorem upperOf_cases (character : Char) :
    upperOf character = [character]
      ∨ isDigit character = false ∧ (upperOf character).all isDigit = false := by
  induction character using of_basic_and_beyond with
  | basic code low => decide +revert
  | beyond character beyond =>
    have notLower : ¬('a' ≤ character ∧ character ≤ 'z') := by
      rintro ⟨_, last⟩
      have small : character.toNat ≤ 122 := last
      omega
    have known := Char.ofNat_toNat character
    rw [upperOf, if_neg notLower]
    split
    case h_11 => exact .inl rfl
    all_goals
      rename_i code
      rw [code] at known
      subst known
      exact .inr (by decide)

variable {text : List Char}

theorem upper_of_digits (digit : ∀ character ∈ text, isDigit character = true) :
    upper text = text := by
  induction text with
  | nil => rfl
  | cons character rest ih =>
    obtain ⟨first, others⟩ := List.forall_mem_cons.mp digit
    rcases upperOf_cases character with same | ⟨other, _⟩
    · rw [upper, List.flatMap_cons, same]
      exact congrArg (character :: ·) (ih others)
    · rw [other] at first
      contradiction

theorem exists_other_of_upper {character : Char} (member : character ∈ text)
    (other : isDigit character = false) : ∃ shown ∈ upper text, isDigit shown = false := by
  rcases upperOf_cases character with same | ⟨_, others⟩
  · refine ⟨character, List.mem_flatMap.mpr ⟨character, member, ?_⟩, other⟩
    rw [same]
    exact List.mem_cons_self
  · obtain ⟨shown, inside, plain⟩ := List.all_eq_false.mp others
    exact ⟨shown, List.mem_flatMap.mpr ⟨character, member, inside⟩, Bool.eq_false_iff.mpr plain⟩

theorem IsLine.take (line : IsLine text) (count : Nat) : IsLine (text.take count) where
  printable _ member := line.printable _ (List.mem_of_mem_take member)
  unbroken _ member := line.unbroken _ (List.mem_of_mem_take member)

theorem NumeralFault.isLine_message (fault : NumeralFault) : IsLine fault.message.toList := by
  unfold message
  cases fault with
  | notDecimal text =>
    simp only [String.toList_append, String.toList_ofList]
    exact .append (by decide +kernel) ((isLine_quoted text).take quotationLimit)
  | tooLong digits =>
    have count : IsLine (toString digits).toList := .of_integer digits
    simp only [String.toList_append]
    exact .append (.append (.append (.append (by decide +kernel) (by decide +kernel)) count)
      (by decide +kernel)) (by decide +kernel)

end Text

namespace Log.Level

/-- A text asks for a level by a numeral or by a name in letters of any case, with or without blanks
around it. -/
inductive Names (level : Level) (text : List Char) : Prop
  | numeral {number : Nat} : Text.Denotes (Text.trim text) number → level = number →
      Names level text
  | name {name : String} : (name, level) ∈ names → Text.upper (Text.trim text) = name.toList →
      Names level text

def Flawed (text : List Char) (fault : Text.NumeralFault) : Prop :=
  Text.Flawed (Text.trim text) fault

variable {text : String} {level : Level} {fault : Text.NumeralFault}

theorem parse_of_digits (filled : Text.trim text.toList ≠ [])
    (digit : ∀ character ∈ Text.trim text.toList, Text.isDigit character = true) :
    parse text = (Text.numeral? (Text.trim text.toList)).map fun number => some (number : Int) := by
  have all : (Text.trim text.toList).all Text.isDigit = true := List.all_eq_true.mpr digit
  have some : (Text.trim text.toList).isEmpty = false := List.isEmpty_eq_false_iff.mpr filled
  simp only [parse, Text.upper_of_digits digit, all, some, Bool.not_false, Bool.and_self, if_true]
  cases Text.numeral? (Text.trim text.toList) <;> rfl

theorem parse_of_other (other : Text.trim text.toList = []
      ∨ ∃ character ∈ Text.trim text.toList, Text.isDigit character = false) :
    parse text = .ok ((names.find? fun entry =>
      entry.1.toList == Text.upper (Text.trim text.toList)).map Prod.snd) := by
  refine if_neg ?_
  rw [Bool.and_eq_true, not_and_or]
  rcases other with empty | ⟨character, member, other⟩
  · rw [empty]
    exact .inl (by decide)
  · obtain ⟨shown, inside, plain⟩ := Text.exists_other_of_upper member other
    refine .inr fun all => ?_
    rw [List.all_eq_true.mp all shown inside] at plain
    contradiction

theorem find?_names_eq_some_iff {key : List Char} :
    (names.find? fun entry => entry.1.toList == key).map Prod.snd = some level
      ↔ ∃ name, (name, level) ∈ names ∧ key = name.toList := by
  have distinct : (names.map fun entry => entry.1.toList).Nodup := by decide
  simp only [Option.map_eq_some_iff, find?_key_eq_some_iff distinct]
  constructor
  · rintro ⟨⟨name, _⟩, ⟨member, same⟩, rfl⟩
    exact ⟨name, member, same.symm⟩
  · rintro ⟨name, member, same⟩
    exact ⟨(name, level), ⟨member, same.symm⟩, rfl⟩

theorem exists_other_of_name {name : String} (member : (name, level) ∈ names)
    (shown : Text.upper (Text.trim text.toList) = name.toList) :
    ∃ character ∈ Text.trim text.toList, Text.isDigit character = false := by
  have every : ∀ entry ∈ names, entry.1.toList.all Text.isDigit = false := by decide
  rcases Text.digits_or_other (Text.trim text.toList) with digit | other
  · have some := every _ member
    rw [← shown, Text.upper_of_digits digit, List.all_eq_true.mpr digit] at some
    contradiction
  · exact other

theorem parse_flawed (flawed : Flawed text.toList fault) : parse text = .error fault := by
  obtain ⟨filled, digits, rest, leads⟩ := flawed.exists_leads
  rw [parse_of_digits filled leads.isDigit_of_mem, Text.numeral?_flawed flawed]
  rfl

theorem parse_named (named : Names level text.toList)
    (unflawed : ∀ fault, ¬Flawed text.toList fault) : parse text = .ok (some level) := by
  cases named with
  | @numeral number denotes same =>
    have leads := Text.Leads.of_decimal denotes.decimal
    rw [parse_of_digits denotes.values.1 leads.isDigit_of_mem,
      Text.numeral?_denotes denotes unflawed, same]
    rfl
  | name member shown =>
    rw [parse_of_other (.inr (exists_other_of_name member shown)),
      find?_names_eq_some_iff.mpr ⟨_, member, shown⟩]

theorem parse_unnamed (unnamed : ∀ level, ¬Names level text.toList)
    (unflawed : ∀ fault, ¬Flawed text.toList fault) : parse text = .ok none := by
  have other : Text.trim text.toList = []
      ∨ ∃ character ∈ Text.trim text.toList, Text.isDigit character = false := by
    rcases Text.digits_or_other (Text.trim text.toList) with digit | other
    · refine .inl (Classical.byContradiction fun filled => ?_)
      rcases Text.denotes_or_flawed filled digit with ⟨number, denotes⟩ | ⟨fault, flawed⟩
      · exact unnamed _ (.numeral denotes rfl)
      · exact unflawed fault flawed
    · exact .inr other
  rw [parse_of_other other]
  refine congrArg Except.ok (Option.eq_none_iff_forall_ne_some.mpr fun level found => ?_)
  obtain ⟨name, member, shown⟩ := find?_names_eq_some_iff.mp found
  exact unnamed level (.name member shown)

theorem parse_cases (text : String) :
    (∃ fault, Flawed text.toList fault ∧ parse text = .error fault)
      ∨ (∀ fault, ¬Flawed text.toList fault)
        ∧ ((∃ level, Names level text.toList ∧ parse text = .ok (some level))
          ∨ (∀ level, ¬Names level text.toList) ∧ parse text = .ok none) := by
  by_cases unflawed : ∀ fault, ¬Flawed text.toList fault
  · refine .inr ⟨unflawed, ?_⟩
    by_cases unnamed : ∀ level, ¬Names level text.toList
    · exact .inr ⟨unnamed, parse_unnamed unnamed unflawed⟩
    · obtain ⟨level, named⟩ := not_forall_not.mp unnamed
      exact .inl ⟨level, named, parse_named named unflawed⟩
  · obtain ⟨fault, flawed⟩ := not_forall_not.mp unflawed
    exact .inl ⟨fault, flawed, parse_flawed flawed⟩

theorem parse_eq_error_iff : parse text = .error fault ↔ Flawed text.toList fault := by
  refine ⟨?_, parse_flawed⟩
  intro failed
  rcases parse_cases text with ⟨other, flawed, result⟩ | ⟨-, ⟨level, -, result⟩ | ⟨-, result⟩⟩
  · rw [result] at failed
    injection failed with same
    rwa [← same]
  · cases result.symm.trans failed
  · cases result.symm.trans failed

theorem parse_eq_some_iff : parse text = .ok (some level)
    ↔ Names level text.toList ∧ ∀ fault, ¬Flawed text.toList fault := by
  refine ⟨?_, fun ⟨named, unflawed⟩ => parse_named named unflawed⟩
  intro read
  rcases parse_cases text with
    ⟨fault, -, result⟩ | ⟨unflawed, ⟨other, named, result⟩ | ⟨-, result⟩⟩
  · cases result.symm.trans read
  · rw [result] at read
    injection read with same
    injection same with same
    exact ⟨same ▸ named, unflawed⟩
  · cases result.symm.trans read

theorem parse_eq_none_iff : parse text = .ok none
    ↔ (∀ level, ¬Names level text.toList) ∧ ∀ fault, ¬Flawed text.toList fault := by
  refine ⟨?_, fun ⟨unnamed, unflawed⟩ => parse_unnamed unnamed unflawed⟩
  intro read
  rcases parse_cases text with
    ⟨fault, -, result⟩ | ⟨unflawed, ⟨level, -, result⟩ | ⟨unnamed, -⟩⟩
  · cases result.symm.trans read
  · cases result.symm.trans read
  · exact ⟨unnamed, unflawed⟩

theorem unflawed_of_parse {level? : Option Level} (read : parse text = .ok level?) :
    ∀ fault, ¬Flawed text.toList fault := by
  intro fault flawed
  cases read.symm.trans (parse_flawed flawed)

theorem choose_eq_error_iff :
    choose none (some text) = .error fault ↔ Flawed text.toList fault := by
  rw [← parse_eq_error_iff, choose, fallback, ofVariable]
  cases parse text <;> simp [Except.map]

end Log.Level

namespace Cli

open Log (Level)

def Surroundings.withLevel (surroundings : Surroundings) (setting : Option String) : Surroundings :=
  { surroundings with environment := { surroundings.environment with logLevel := setting } }

namespace Surroundings

variable (surroundings : Surroundings) (setting : Option String)

@[simp] theorem withLevel_files : (surroundings.withLevel setting).files = surroundings.files := rfl

@[simp] theorem withLevel_input : (surroundings.withLevel setting).input = surroundings.input := rfl

@[simp] theorem withLevel_terminal :
    (surroundings.withLevel setting).terminal = surroundings.terminal := rfl

@[simp] theorem withLevel_logLevel :
    (surroundings.withLevel setting).environment.logLevel = setting := rfl

@[simp] theorem decide_withLevel (asked : Option ColorMode) (terminal : Bool) :
    ColorMode.decide asked (surroundings.withLevel setting).environment terminal
      = ColorMode.decide asked surroundings.environment terminal := rfl

end Surroundings

namespace Invocation

/-- A command line that asks for something: options that go together, and a command or nothing. -/
structure Starts (invocation : Invocation) (files : FileTree) (options : Options)
    (verbosity : Verbosity) : Prop where
  read : ∃ operands, Options.read files invocation.arguments = .ok (.request (options, operands))
    ∧ ∀ word ∈ operands.head?, ∃ name : CommandName, word = name.name
  verbosity : Verbosity.ofCounts options.verbose options.quiet = .ok verbosity

variable {invocation : Invocation} {surroundings : Surroundings} {options : Options}
  {verbosity : Verbosity} {setting : Option String}

theorem Starts.run_eq (starts : invocation.Starts surroundings.files options verbosity) :
    ∃ command?, invocation.run surroundings = invocation.start surroundings options command? := by
  obtain ⟨operands, read, named⟩ := starts.read
  cases operands with
  | nil => exact ⟨none, by rw [run, read]⟩
  | cons word words =>
    obtain ⟨name, rfl⟩ := named word rfl
    exact ⟨some (name, words), run_of_request read⟩

theorem start_withLevel {level? : Option Level} (read : Level.ofVariable setting = .ok level?)
    (invocation : Invocation) (surroundings : Surroundings) (options : Options)
    (command? : Option (CommandName × List String)) :
    let set := invocation.start (surroundings.withLevel setting) options command?
    let unset := invocation.start (surroundings.withLevel none) options command?
    set.exitCode = unset.exitCode ∧ set.output = unset.output := by
  have unread : Level.ofVariable none = .ok none := rfl
  cases counts : Verbosity.ofCounts options.verbose options.quiet with
  | error failure => simp [start, counts]
  | ok verbosity => simp [start, counts, read, unread, Report.toResult]

theorem run_withLevel {level? : Option Level} (read : Level.ofVariable setting = .ok level?)
    (invocation : Invocation) (surroundings : Surroundings) :
    let set := invocation.run (surroundings.withLevel setting)
    let unset := invocation.run (surroundings.withLevel none)
    set.exitCode = unset.exitCode ∧ set.output = unset.output := by
  have starts := start_withLevel read invocation surroundings
  simp only [run, Surroundings.withLevel_files]
  split
  · exact ⟨rfl, rfl⟩
  · exact ⟨rfl, rfl⟩
  · exact starts _ _
  · split
    · exact starts _ _
    · exact ⟨rfl, rfl⟩

theorem Starts.run_flawed {fault : Text.NumeralFault}
    (starts : invocation.Starts surroundings.files options verbosity)
    (flawed : Level.ofVariable surroundings.environment.logLevel = .error fault) :
    invocation.run surroundings = {
      exitCode := 255
      output := []
      errors := ("Error: Unexpected error: " ++ fault.message ++ "\n").toList } := by
  obtain ⟨command?, runs⟩ := starts.run_eq
  have message : (Failure.unexpected fault.message).report
      = "Error: Unexpected error: ".toList ++ fault.message.toList := by
    simp only [Failure.report, Failure.unexpected, String.toList_append, ← List.append_assoc]
    rfl
  have plain : '\x1b' ∉ (Failure.unexpected fault.message).report ++ ['\n'] := by
    have start : Text.IsLine "Error: Unexpected error: ".toList := by decide
    rw [message, List.mem_append, not_or]
    exact ⟨(start.append fault.isLine_message).not_escape_mem, by decide⟩
  rw [runs, start, starts.verbosity, flawed]
  refine congrArg (Result.mk 255 []) ((Terminal.emitted_of_plain plain false).trans ?_)
  rw [message]
  simp only [String.toList_append]
  rfl

end Invocation

/-- A text is read as the level that it names by a numeral or a name, and as none if it names none,
unless it is digits that are not converted. As the setting of a run it then changes neither the exit
code nor the output; digits that are not converted end every run that has something to do. -/
theorem level_settings_read_unless_flawed (text : String) :
    let sound := ∀ fault, ¬Level.Flawed text.toList fault
    (∀ level, Level.parse text = .ok (some level) ↔ Level.Names level text.toList ∧ sound)
      ∧ (Level.parse text = .ok none ↔ (∀ level, ¬Level.Names level text.toList) ∧ sound)
      ∧ (∀ fault, Level.parse text = .error fault ↔ Level.Flawed text.toList fault)
      ∧ (∀ fault, Level.choose none (some text) = .error fault ↔ Level.Flawed text.toList fault)
      ∧ (sound → ∀ (invocation : Invocation) (surroundings : Surroundings),
          let set := invocation.run (surroundings.withLevel (some text))
          let unset := invocation.run (surroundings.withLevel none)
          set.exitCode = unset.exitCode ∧ set.output = unset.output)
      ∧ ∀ (fault : Text.NumeralFault) (invocation : Invocation) (surroundings : Surroundings)
          (options : Options) (verbosity : Verbosity), Level.Flawed text.toList fault →
        invocation.Starts surroundings.files options verbosity →
        invocation.run (surroundings.withLevel (some text)) = {
          exitCode := 255
          output := []
          errors := ("Error: Unexpected error: " ++ fault.message ++ "\n").toList } := by
  refine ⟨fun level => Level.parse_eq_some_iff, Level.parse_eq_none_iff,
    fun fault => Level.parse_eq_error_iff, fun fault => Level.choose_eq_error_iff, ?_, ?_⟩
  · intro sound invocation surroundings
    cases read : Level.parse text with
    | error fault => exact absurd (Level.parse_eq_error_iff.mp read) (sound fault)
    | ok level? =>
      have set : Level.ofVariable (some text) = .ok level? := read
      exact Invocation.run_withLevel set invocation surroundings
  · intro fault invocation surroundings options verbosity flawed starts
    have failed : Level.parse text = .error fault := Level.parse_flawed flawed
    have started : invocation.Starts (surroundings.withLevel (some text)).files options verbosity :=
      starts
    exact started.run_flawed failed

/-- A name with a dotless letter, between blanks. -/
theorem level_settings_read_unless_flawed_dotless :
    let text := "\u3000\u0131nfo\n"
    let surroundings : Surroundings := { files := { workingDirectory := "/", entries := [] } }
    let run (setting : Option String) : Result :=
      ({ arguments := ["version"] } : Invocation).run (surroundings.withLevel setting)
    Level.Names Level.info text.toList
      ∧ (run (some text)).exitCode = 0
      ∧ (run (some text)).output = (run none).output := by
  intro text surroundings run
  have read : Level.parse "\u3000\u0131nfo\n" = .ok (some Level.info) := rfl
  obtain ⟨reads, -, -, -, alike, -⟩ := level_settings_read_unless_flawed text
  obtain ⟨named, sound⟩ := (reads Level.info).mp read
  obtain ⟨code, output⟩ := alike sound { arguments := ["version"] } surroundings
  have done : (run none).exitCode = 0 := by decide +kernel
  exact ⟨named, code.trans done, output⟩

/-- A superscript is a digit without being decimal, and a run of digits may be too long. -/
theorem level_settings_flawed :
    let surroundings : Surroundings := { files := { workingDirectory := "/", entries := [] } }
    Level.parse "\u00b2" = .error (.notDecimal ['\u00b2'])
      ∧ Level.parse (String.ofList (List.replicate 4301 '1')) = .error (.tooLong 4301)
      ∧ ({ arguments := ["version"] } : Invocation).run (surroundings.withLevel (some "\u00b2")) = {
          exitCode := 255
          output := []
          errors := ("Error: Unexpected error: invalid literal for int() with base 10: "
            ++ "'\u00b2'\n").toList } := by
  refine ⟨rfl, Level.parse_flawed ?_, by decide +kernel⟩
  have ones {character : Char} (member : character ∈ List.replicate 4301 '1') : character = '1' :=
    List.eq_of_mem_replicate member
  have solid : Text.Solid (List.replicate 4301 '1') := fun character member => by
    rw [ones member]
    decide
  have leads : Text.Leads (List.replicate 4301 '1') (List.replicate 4301 '1') [] :=
    .of_decimal fun character member => by
      rw [ones member]
      decide
  have long := Text.Flawed.long leads (by rw [List.length_replicate]; decide)
  rwa [List.length_replicate, ← Text.trim_solid solid,
    ← String.toList_ofList (l := List.replicate 4301 '1')] at long

end Cli

end ColorMarkup
