import ColorMarkup.Config.Layers
import ColorMarkup.Proofs.Encoding
import ColorMarkup.Proofs.Layer
import ColorMarkup.Proofs.SignSets
import ColorMarkup.Proofs.WrittenDocument

/-!
A written configuration is read back. Its document sets everything there is to set, so that nothing
of a draft it is merged onto is left.
-/

namespace ColorMarkup

namespace Text

def endLines (lineEnd text : List Char) : List Char :=
  text.flatMap fun character => if character = '\n' then lineEnd else [character]

def lineEnds : List (List Char) :=
  [['\n'], ['\r', '\n'], ['\r']]

theorem unifyLineEnds_cons {character : Char} (notReturn : character ≠ '\r') (rest : List Char) :
    unifyLineEnds (character :: rest) = character :: unifyLineEnds rest := by
  rw [unifyLineEnds]
  · exact fun _ same => absurd same notReturn
  · exact notReturn

theorem unifyLineEnds_return {rest : List Char} (apart : ∀ more, rest ≠ '\n' :: more) :
    unifyLineEnds ('\r' :: rest) = '\n' :: unifyLineEnds rest := by
  rw [unifyLineEnds]
  exact apart

theorem endLines_return_ne (text more : List Char) : endLines ['\r'] text ≠ '\n' :: more := by
  cases text with
  | nil => simp [endLines]
  | cons character rest =>
    rw [endLines, List.flatMap_cons]
    split
    · intro same
      injection same with mark
      contradiction
    · rename_i notEnd
      intro same
      injection same with mark
      exact notEnd mark

theorem unifyLineEnds_endLines {lineEnd text : List Char} (known : lineEnd ∈ lineEnds)
    (noReturn : '\r' ∉ text) : unifyLineEnds (endLines lineEnd text) = text := by
  induction text with
  | nil => rfl
  | cons character rest ih =>
    simp only [List.mem_cons, not_or] at noReturn
    have step : endLines lineEnd (character :: rest)
        = (if character = '\n' then lineEnd else [character]) ++ endLines lineEnd rest := rfl
    rw [step]
    by_cases ends : character = '\n'
    · subst ends
      simp only [lineEnds, List.mem_cons, List.not_mem_nil, or_false] at known
      rw [if_pos rfl]
      rcases known with rfl | rfl | rfl
      · rw [List.singleton_append, unifyLineEnds_cons (by decide), ih noReturn.2]
      · rw [List.cons_append, List.singleton_append, unifyLineEnds, ih noReturn.2]
      · rw [List.singleton_append, unifyLineEnds_return (endLines_return_ne rest), ih noReturn.2]
    · rw [if_neg ends, List.singleton_append, unifyLineEnds_cons (Ne.symm noReturn.1),
        ih noReturn.2]

end Text

namespace Config

open Toml (Line Assembly Dialect)

def lines (config : Config) : List Line :=
  .boolean restoreDefaultsKey config.restoreDefaults :: .boolean newlineKey config.newline
    :: .blank :: .header signsKey
    :: SignRole.all.map fun role => .string role.key [config.signs.get role]

theorem dump_eq_lines (config : Config) : config.dump = config.lines.flatMap Line.write := by
  rw [dump, lines]
  simp only [List.flatMap_cons, List.flatMap_map, Line.write, List.append_assoc,
    List.cons_append, List.nil_append]

theorem sound_lines (config : Config) : ∀ line ∈ config.lines, line.Sound := by
  intro line member
  simp only [lines, List.mem_cons, List.mem_map] at member
  rcases member with rfl | rfl | rfl | rfl | ⟨role, _, rfl⟩
  · show Toml.Bare restoreDefaultsKey
    decide
  · show Toml.Bare newlineKey
    decide
  · trivial
  · show Toml.Bare signsKey
    decide
  · show Toml.Bare role.key
    cases role <;> decide

theorem foldlM_lines (config : Config) (dialect : Dialect) :
    config.lines.foldlM (Line.addTo dialect) {} >>= Assembly.finish dialect
      = .ok config.toTable := rfl

theorem parse_lines (config : Config) (dialect : Dialect) (opening : List Line)
    (remarks : ∀ line ∈ opening, line.IsRemark) (sound : ∀ line ∈ opening, line.Sound) :
    Toml.parse dialect ((opening ++ config.lines).flatMap Line.write) = .ok config.toTable := by
  rw [Toml.parse_lines, List.foldlM_append, Line.foldlM_remarks remarks]
  · exact config.foldlM_lines dialect
  · intro line member
    rcases List.mem_append.mp member with before | own
    · exact sound line before
    · exact config.sound_lines line own

theorem parse_dump (config : Config) (dialect : Dialect) :
    Toml.parse dialect config.dump = .ok config.toTable := by
  rw [dump_eq_lines]
  exact config.parse_lines dialect [] (by simp) (by simp)

theorem not_return_mem_dump (config : Config) : '\r' ∉ config.dump := by
  intro member
  rw [dump_eq_lines] at member
  rcases Toml.isLegible_lines config.sound_lines _ member with ends | quiet
  · contradiction
  · contradiction

theorem readTable_dump (config : Config) {tree : FileTree} {path : Path} {lineEnd : List Char}
    (known : lineEnd ∈ Text.lineEnds)
    (written : tree.read path = .ok (Text.encode (Text.endLines lineEnd config.dump))) :
    readTable tree path = .ok config.toTable := by
  have text := Text.decode_eq_ok.mpr (rfl : Text.encode (Text.endLines lineEnd config.dump) = _)
  have unified := Text.unifyLineEnds_endLines known config.not_return_mem_dump
  unfold readTable
  simp only [written, text, unified, parse_dump]

theorem wellTyped_toTable (config : Config) (label : String) :
    Layer.WellTyped { label, table := config.toTable } := by
  refine ⟨?_, ?_⟩
  · intro key known value found
    simp only [List.mem_cons, List.not_mem_nil, or_false] at known
    rcases known with rfl | rfl
    · exact ⟨config.restoreDefaults, (Option.some.inj found).symm⟩
    · exact ⟨config.newline, (Option.some.inj found).symm⟩
  · intro value found
    refine ⟨_, (Option.some.inj found).symm, ?_⟩
    intro entry member _
    obtain ⟨role, _, rfl⟩ := List.mem_map.mp member
    exact ⟨_, rfl⟩

theorem sign?_toTable (config : Config) (label : String) (role : SignRole) :
    Layer.sign? role { label, table := config.toTable }
      = some (String.singleton (config.signs.get role)) := by
  cases role <;> rfl

theorem freeze_merge_toTable (config : Config) (source : String) (draft : Draft) :
    (draft.merge source config.toTable).fault = none
      ∧ (draft.merge source config.toTable).draft.freeze
          = .ok { config with sources := draft.sources ++ [source] } := by
  have merged := (config.wellTyped_toTable source).merge draft
  refine ⟨merged.fault, ?_⟩
  rw [merged.draft, Draft.freeze_eq_ok]
  refine ⟨fun role => ?_, rfl, rfl, rfl⟩
  rw [Layer.laidOver, Draft.signs, PerSign.get_ofRoles, sign?_toTable]
  rfl

theorem freeze_thaw (config : Config) : config.thaw.freeze = .ok config :=
  Draft.freeze_eq_ok.mpr ⟨fun role => PerSign.get_map _ _ role, rfl, rfl, rfl⟩

end Config

/-- A configuration survives being thawed and frozen, and being written to a file, read back and
merged onto any draft; what comes out is written as before. -/
theorem config_round_trip (config : Config) :
    config.thaw.freeze = .ok config
      ∧ ∀ (tree : FileTree) (path : Path), ∀ lineEnd ∈ Text.lineEnds,
        tree.read path = .ok (Text.encode (Text.endLines lineEnd config.dump)) →
        Config.readTable tree path = .ok config.toTable
          ∧ ∀ (source : String) (draft : Draft),
            (draft.merge source config.toTable).fault = none
              ∧ ∃ again, (draft.merge source config.toTable).draft.freeze = .ok again
                ∧ again.signs = config.signs
                ∧ again.restoreDefaults = config.restoreDefaults
                ∧ again.newline = config.newline
                ∧ again.sources = draft.sources ++ [source]
                ∧ again.dump = config.dump := by
  refine ⟨config.freeze_thaw, ?_⟩
  intro tree path lineEnd known written
  refine ⟨config.readTable_dump known written, ?_⟩
  intro source draft
  obtain ⟨goes, frozen⟩ := config.freeze_merge_toTable source draft
  exact ⟨goes, _, frozen, rfl, rfl, rfl, rfl, rfl⟩

/-- Signs that have to be escaped, and one outside the plain characters. -/
theorem config_round_trip_escaped :
    let tree : FileTree := {
      workingDirectory := "/work"
      entries := [(["c.toml"], .file (Text.encode
        ("restore_defaults = false\r\nnewline = true\r\n\r\n[signs]\r\nfore = \"\\\"\"\r\n"
          ++ "back = \"\\\\\"\r\nstop = \"\\n\"\r\nopen_bracket = \"\\u0000\"\r\n"
          ++ "close_bracket = \"é\"\r\n").toList))] }
    ∃ config again : Config,
      config.signs.toList = ['"', '\\', '\n', '\x00', 'é']
        ∧ Config.readTable tree { anchor := .here, parts := ["c.toml"] } = .ok config.toTable
        ∧ (({ newline := false } : Draft).merge "c.toml" config.toTable).draft.freeze = .ok again
        ∧ again.signs = config.signs
        ∧ again.restoreDefaults = false
        ∧ again.newline = true
        ∧ again.dump = config.dump := by
  intro tree
  let config : Config := {
    signs := {
      fore := '"', back := '\\', stop := '\n', openBracket := '\x00', closeBracket := 'é'
      distinct := by simp [PerSign.toList]
      noDigit := by simp [PerSign.toList, Text.isPlainDigit] }
    restoreDefaults := false }
  have there : tree.find { anchor := .here, parts := ["c.toml"] }
      = .file (Text.encode (Text.endLines ['\r', '\n'] config.dump)) := by
    decide +kernel +revert
  have written := FileTree.read_of_find there
  obtain ⟨_, reads⟩ := config_round_trip config
  obtain ⟨table, merges⟩ := reads tree _ ['\r', '\n'] (by decide) written
  obtain ⟨_, again, frozen, signs, restoring, ending, _, dump⟩ :=
    merges "c.toml" { newline := false }
  exact ⟨config, again, rfl, table, frozen, signs, restoring, ending, dump⟩

end ColorMarkup
