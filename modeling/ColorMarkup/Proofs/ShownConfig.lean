import ColorMarkup.Proofs.Prediction
import ColorMarkup.Proofs.RoundTrip

/-!
What the command `config` puts out. The sources stand in comments in front of the configuration, and
the whole is a document that says what the configuration is, as long as the labels of the sources
can stand in comments.
-/

namespace ColorMarkup

open Toml (Line)

namespace Config

def sourceLine (source : String) : Line :=
  .comment (" source: " ++ source).toList

/-- The lines that are shown: the sources are named if details are wanted. -/
def shownLines (config : Config) (verbosity : Cli.Verbosity) : List Line :=
  (if 0 < verbosity then config.sources.map sourceLine ++ [.blank] else []) ++ config.lines

theorem sound_sourceLine {source : String}
    (quiet : ∀ character ∈ source.toList, Toml.isQuiet character = true) :
    (sourceLine source).Sound := by
  intro character member
  rw [String.toList_append] at member
  rcases List.mem_append.mp member with inTitle | inLabel
  · have letters : " source: ".toList.all Toml.isQuiet = true := by decide
    exact List.all_eq_true.mp letters character inTitle
  · exact quiet character inLabel

theorem parse_shownLines {config : Config} {verbosity : Cli.Verbosity}
    (quiet : 0 < verbosity → ∀ source ∈ config.sources, ∀ character ∈ source.toList,
      Toml.isQuiet character = true) (dialect : Toml.Dialect) :
    Toml.parse dialect ((config.shownLines verbosity).flatMap Line.write)
      = .ok config.toTable := by
  unfold shownLines
  split
  · rename_i detailed
    refine config.parse_lines dialect _ ?_ ?_
    · intro line member
      simp only [List.mem_append, List.mem_map, List.mem_singleton] at member
      rcases member with ⟨source, _, rfl⟩ | rfl <;> trivial
    · intro line member
      simp only [List.mem_append, List.mem_map, List.mem_singleton] at member
      rcases member with ⟨source, listed, rfl⟩ | rfl
      · exact sound_sourceLine (quiet detailed source listed)
      · trivial
  · exact config.parse_lines dialect [] (by simp) (by simp)

end Config

namespace Cli

theorem emitted_of_legible {text : List Char} (legible : Toml.IsLegible text) (colored : Bool) :
    Terminal.emitted colored text = text := by
  refine Terminal.emitted_of_plain ?_ colored
  intro member
  rcases legible _ member with ends | quiet <;> contradiction

namespace Console

theorem output_print_legible {console : Console} (takes : console.TakesAll) {text : List Char}
    (legible : Toml.IsLegible text) :
    (console.print text false).output = console.output ++ text := by
  rw [takes.print_eq, output_put, lineEnd, if_neg Bool.false_ne_true, List.append_nil,
    emitted_of_legible legible]

theorem output_printLine_sound {console : Console} (takes : console.TakesAll) {line : Line}
    (sound : line.Sound) {text : List Char} (written : text ++ ['\n'] = line.write) :
    (console.printLine text).output = console.output ++ line.write := by
  rw [printLine_held takes.goes (takes.holds text), output_put, written,
    emitted_of_legible (Toml.isLegible_write sound)]

def nameSources (sources : List String) (console : Console) : Console :=
  sources.foldl
    (fun (console : Console) source => console.printLine ("# source: " ++ source).toList) console

theorem TakesAll.nameSources {console : Console} (takes : console.TakesAll)
    (sources : List String) : (console.nameSources sources).TakesAll := by
  induction sources generalizing console with
  | nil => exact takes
  | cons source rest ih => exact ih (takes.print _ true)

theorem output_nameSources {sources : List String}
    (quiet : ∀ source ∈ sources, ∀ character ∈ source.toList, Toml.isQuiet character = true)
    {console : Console} (takes : console.TakesAll) :
    (console.nameSources sources).output
      = console.output ++ (sources.map Config.sourceLine).flatMap Line.write := by
  induction sources generalizing console with
  | nil => exact (List.append_nil _).symm
  | cons source rest ih =>
    have written : ("# source: " ++ source).toList ++ ['\n']
        = (Config.sourceLine source).write := by
      rw [Config.sourceLine, Line.write, String.toList_append, String.toList_append]
      rfl
    have sound := Config.sound_sourceLine (quiet source List.mem_cons_self)
    have others := ih (fun other member => quiet other (List.mem_cons_of_mem _ member))
      (takes.print ("# source: " ++ source).toList true)
    rw [nameSources, List.foldl_cons]
    refine others.trans ?_
    rw [← printLine, output_printLine_sound takes sound written, List.map_cons, List.flatMap_cons,
      List.append_assoc]

end Console

namespace Session

variable {session : Session} {config : Config}

theorem takesAll_console (usual : session.streams = {}) : session.console.TakesAll :=
  ⟨rfl, holds_usual usual⟩

def configConsole (session : Session) (config : Config) : Console :=
  if 0 < session.verbosity then (session.console.nameSources config.sources).printLine []
  else session.console

theorem takesAll_configConsole (usual : session.streams = {}) (config : Config) :
    (session.configConsole config).TakesAll := by
  unfold configConsole
  split
  · exact ((takesAll_console usual).nameSources config.sources).print [] true
  · exact takesAll_console usual

theorem config_eq (loaded : (session.source.load session.files).2 = .ok config) :
    ∃ records, session.config
      = (Report.ofConsole ((session.configConsole config).print config.dump false)).after records :=
  (withConfig_loaded loaded).imp fun _ opened => opened _

theorem ending_config (usual : session.streams = {})
    (loaded : (session.source.load session.files).2 = .ok config) :
    session.config.ending = .done := by
  obtain ⟨records, same⟩ := config_eq loaded
  have goes := ((takesAll_configConsole usual config).print config.dump false).goes
  rw [same, Report.after_ending, Report.ofConsole, goes]

theorem output_config (usual : session.streams = {})
    (loaded : (session.source.load session.files).2 = .ok config)
    (quiet : 0 < session.verbosity → ∀ source ∈ config.sources, ∀ character ∈ source.toList,
      Toml.isQuiet character = true) :
    session.config.output = (config.shownLines session.verbosity).flatMap Line.write := by
  obtain ⟨records, same⟩ := config_eq loaded
  have takes := takesAll_console usual
  have legible : Toml.IsLegible config.dump := by
    rw [config.dump_eq_lines]
    exact Toml.isLegible_lines config.sound_lines
  rw [same, Report.after_output, Report.ofConsole,
    Console.output_print_legible (takesAll_configConsole usual config) legible,
    config.dump_eq_lines, Config.shownLines, List.flatMap_append, configConsole]
  split
  · rename_i detailed
    have blank : Line.blank.Sound := trivial
    rw [Console.output_printLine_sound (takes.nameSources config.sources) blank
        (List.nil_append _), Console.output_nameSources (quiet detailed) takes, List.flatMap_append]
    rfl
  · rfl

end Session

/-- What the command `config` puts out is a document that says what the configuration is, and merged
onto any draft it replaces every setting, unless the label of a source cannot stand in a comment
and the sources are shown. -/
theorem config_output_parses {invocation : Invocation} {surroundings : Surroundings}
    {options : Options} {verbosity : Verbosity} {level? : Option Log.Level}
    (performs : invocation.Performs surroundings options verbosity level? .config) {config : Config}
    (loaded : ((Session.opened surroundings options verbosity).source.load surroundings.files).2
      = .ok config)
    (quiet : 0 < verbosity → ∀ source ∈ config.sources, ∀ character ∈ source.toList,
      Toml.isQuiet character = true) :
    let result := invocation.run surroundings
    result.exitCode = 0
      ∧ result.output = (config.shownLines verbosity).flatMap Line.write
      ∧ (∀ dialect, Toml.parse dialect result.output = .ok config.toTable)
      ∧ ∀ (source : String) (draft : Draft),
        (draft.merge source config.toTable).fault = none
          ∧ ∃ again, (draft.merge source config.toTable).draft.freeze = .ok again
            ∧ again.signs = config.signs
            ∧ again.restoreDefaults = config.restoreDefaults
            ∧ again.newline = config.newline := by
  intro result
  obtain ⟨output, code⟩ := performs.run_fields
  have whole : result.output = (config.shownLines verbosity).flatMap Line.write :=
    output.trans (Session.output_config rfl loaded quiet)
  refine ⟨?_, whole, ?_, ?_⟩
  · exact code.trans (congrArg Ending.exitCode (Session.ending_config rfl loaded))
  · intro dialect
    rw [whole]
    exact Config.parse_shownLines quiet dialect
  · intro source draft
    obtain ⟨goes, frozen⟩ := config.freeze_merge_toTable source draft
    exact ⟨goes, _, frozen, rfl, rfl, rfl⟩

/-- Details are wanted, and no label breaks its line. -/
theorem config_output_parses_named :
    let surroundings : Surroundings := {
      files := {
        workingDirectory := "/my work"
        entries := [(["colorformat.toml"], .file "newline = false\n".toUTF8.toList)] } }
    let result := ({ arguments := ["-v", "config"] } : Invocation).run surroundings
    result.exitCode = 0
      ∧ ∀ dialect, Toml.parse dialect result.output
        = .ok { newline := false : Config }.toTable := by
  intro surroundings result
  let config : Config :=
    { newline := false, sources := ["defaults", "/my work/colorformat.toml"] }
  let loaded? := ((Session.opened surroundings { verbose := 1 } 1).source.load surroundings.files).2
  have kept : loaded?.toOption = some config := by decide +kernel +revert
  have loaded : loaded? = .ok config := by
    cases found : loaded? with
    | error refusal =>
      rw [found] at kept
      contradiction
    | ok other =>
      rw [found] at kept
      injection kept with same
      rw [same]
  have performs : ({ arguments := ["-v", "config"] } : Invocation).Performs surroundings
      { verbose := 1 } 1 none .config :=
    { read := ⟨.config, [], rfl, rfl⟩, verbosity := rfl, level := rfl }
  have defaults : "defaults".toList.all Toml.isQuiet = true := by decide
  have own : "/my work/colorformat.toml".toList.all Toml.isQuiet = true := by decide
  have quiet : ∀ source ∈ config.sources, ∀ letter ∈ source.toList,
      Toml.isQuiet letter = true := by
    intro source listed
    simp only [config, List.mem_cons, List.not_mem_nil, or_false] at listed
    rcases listed with rfl | rfl
    · exact List.all_eq_true.mp defaults
    · exact List.all_eq_true.mp own
  obtain ⟨code, _, parsed, _⟩ := config_output_parses performs loaded fun _ => quiet
  exact ⟨code, parsed⟩

/-- A line break in the label of a source ends its comment. -/
theorem config_output_broken :
    let surroundings : Surroundings := {
      files := { workingDirectory := "/work", entries := [(["a\nb.toml"], .file [])] } }
    let invocation : Invocation := { arguments := ["-v", "--config", "a\nb.toml", "config"] }
    let result := invocation.run surroundings
    result.exitCode = 0 ∧ ∀ dialect table, Toml.parse dialect result.output ≠ .ok table := by
  intro surroundings invocation result
  have code : result.exitCode = 0 := by decide +kernel +revert
  have refused (dialect : Toml.Dialect) : (Toml.parse dialect result.output).isOk = false := by
    cases dialect <;> decide +kernel +revert
  refine ⟨code, ?_⟩
  intro dialect table parsed
  have failed := refused dialect
  rw [parsed] at failed
  contradiction

end Cli

end ColorMarkup
