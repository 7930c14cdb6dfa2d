import ColorMarkup.Cli.Program

/-!
Command lines and what they start. Options that are accepted alone are accepted in front of a
command, a text and colors are read alike by every command that takes them, and a run whose command
line has been read carries out its command.
-/

namespace ColorMarkup

theorem exists_of_map_ok {ε α β : Type} {change : α → β} {result : Except ε α} {value : β}
    (mapped : result.map change = .ok value) :
    ∃ before, result = .ok before ∧ change before = value := by
  cases result with
  | error fault => contradiction
  | ok before =>
    injection mapped with same
    exact ⟨before, rfl, same⟩

namespace Cli

namespace Argument

end Argument

namespace Arguments

theorem ofList_append {accepted : List Switch} {words more : List String} {arguments : Arguments}
    (read : ofList accepted false words = .ok arguments)
    (operands : ofList accepted false more = .ok { operands := more }) :
    ofList accepted false (words ++ more)
      = .ok { arguments with operands := arguments.operands ++ more } := by
  fun_induction ofList accepted false words generalizing arguments with
  | case1 =>
    injection read with same
    subst same
    exact operands
  | case2 word rest fault kind => contradiction
  | case3 word rest kind =>
    injection read with same
    subst same
    simp [ofList, kind]
  | case4 word rest kind mixed => contradiction
  | case5 word rest kind =>
    injection read with same
    subst same
    simp [ofList, kind]
  | case6 word rest switches kind ih =>
    obtain ⟨found, others, rfl⟩ := exists_of_map_ok read
    simp [ofList, kind, ih others, Except.map, addFlags]
  | case7 word rest switch value kind ih =>
    obtain ⟨found, others, rfl⟩ := exists_of_map_ok read
    simp [ofList, kind, ih others, Except.map, addSetting]
  | case8 word switch kind => contradiction
  | case9 word switch kind value rest ih =>
    obtain ⟨found, others, rfl⟩ := exists_of_map_ok read
    simp [ofList, kind, ih others, Except.map, addSetting]

end Arguments

theorem CommandName.ofName?_name (name : CommandName) : ofName? name.name = some name := by
  cases name <;> decide

namespace Options

def behind (more : List String) : Reading (Options × List String) → Reading (Options × List String)
  | .help => .help
  | .request (options, operands) => .request (options, operands ++ more)

end Options

namespace Report

@[simp] theorem after_output (records : List Log.Record) (report : Report) :
    (report.after records).output = report.output := rfl

@[simp] theorem after_ending (records : List Log.Record) (report : Report) :
    (report.after records).ending = report.ending := rfl

theorem noteSurprise_fields (logger : String) (report : Report) :
    (report.noteSurprise logger).output = report.output
      ∧ (report.noteSurprise logger).ending = report.ending := by
  unfold noteSurprise
  split <;> exact ⟨rfl, rfl⟩

end Report

theorem Session.withConfig_loaded {session : Session} {config : Config}
    (loaded : (session.source.load session.files).2 = .ok config) :
    ∃ records, ∀ body, session.withConfig body = (body config).after records := by
  refine ⟨(session.source.load session.files).1.map ConfigNotice.record, ?_⟩
  intro body
  unfold withConfig
  split
  · rename_i notices found loading
    rw [loading] at loaded ⊢
    injection loaded with same
    rw [same]
  · rename_i notices refusal loading
    rw [loading] at loaded
    contradiction

namespace Session

variable {session : Session} {operand : String}

theorem withText_readable (readable : session.textFault operand = none)
    (body : List Char → Report) :
    session.withText operand body
      = (body (session.readText operand).1).after (session.readText operand).2 := by
  simp [withText, readable]

theorem withText_unreadable {fault : Text.DecodeFault}
    (unreadable : session.textFault operand = some fault) (body : List Char → Report) :
    session.withText operand body = { ending := .failed (.unexpected fault.message) } := by
  simp [withText, unreadable]

theorem textFault_eq_none (readable : operand = inputMark → session.streams.inputFault = none) :
    session.textFault operand = none := by
  unfold textFault
  split
  · rename_i mark
    exact readable mark
  · rfl

end Session

def Session.opened (surroundings : Surroundings) (options : Options) (verbosity : Verbosity)
    (streams : Streams := {}) : Session where
  files := surroundings.files
  input := surroundings.input
  colored := ColorMode.decide options.colorMode surroundings.environment surroundings.terminal
  verbosity := verbosity
  source := { explicit := options.explicit, discover := options.discover }
  streams := streams

/-- An invocation that gets as far as carrying out a command. -/
structure Invocation.Performs (invocation : Invocation) (surroundings : Surroundings)
    (options : Options) (verbosity : Verbosity) (level? : Option Log.Level) (command : Command) :
    Prop where
  read : ∃ name words,
    Options.read surroundings.files invocation.arguments
        = .ok (.request (options, CommandName.name name :: words))
      ∧ Command.read name words = .ok (.request command)
  verbosity : Verbosity.ofCounts options.verbose options.quiet = .ok verbosity
  level : Log.Level.ofVariable surroundings.environment.logLevel = .ok level?

namespace Invocation

variable {invocation : Invocation} {surroundings : Surroundings} {options : Options}
  {streams : Streams}

theorem run_of_request {name : CommandName} {words : List String}
    (read : Options.read surroundings.files invocation.arguments
      = .ok (.request (options, name.name :: words))) :
    invocation.run surroundings streams
      = invocation.start surroundings options (some (name, words)) streams := by
  simp [run, read, CommandName.ofName?_name]

theorem Performs.run_eq {verbosity : Verbosity} {level? : Option Log.Level} {command : Command}
    (performs : invocation.Performs surroundings options verbosity level? command) :
    let session := Session.opened surroundings options verbosity streams
    invocation.run surroundings streams =
      (((session.perform command).noteSurprise invocation.logger).after
        [stateRecord invocation.logger surroundings.files options verbosity level? session.colored]
      ).toResult invocation.programName (level?.getD Log.Level.critical) session.colored := by
  obtain ⟨⟨name, words, read, commanded⟩, counts, level⟩ := performs
  rw [run_of_request read]
  simp only [start, counts, level, runCommand, commanded]
  rfl

theorem Performs.run_fields {verbosity : Verbosity} {level? : Option Log.Level} {command : Command}
    (performs : invocation.Performs surroundings options verbosity level? command) :
    let report := (Session.opened surroundings options verbosity streams).perform command
    (invocation.run surroundings streams).output = report.output
      ∧ (invocation.run surroundings streams).exitCode = report.ending.exitCode := by
  intro report
  obtain ⟨output, ending⟩ := report.noteSurprise_fields invocation.logger
  rw [performs.run_eq]
  exact ⟨output, congrArg Ending.exitCode ending⟩

end Invocation

end Cli

end ColorMarkup
