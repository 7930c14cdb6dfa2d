import ColorMarkup.Proofs.LevelSetting

/-!
The level in force. Whether the setting is looked up on the way, as when no level is given, or read
first and then given, as a run does, the same level is in force, unless it is zero.
-/

namespace ColorMarkup

namespace Log

theorem linesOf_ne_nil {threshold : Level} {record : Record}
    (logged : record.isLogged threshold = true) : linesOf threshold [record] ≠ [] := by
  rw [linesOf, List.filter_cons_of_pos logged, List.flatMap_cons, List.append_assoc]
  exact List.append_ne_nil_of_right_ne_nil _ (List.cons_ne_nil _ _)

namespace Level

theorem choose_of_read {setting : Option String} {level? : Option Level}
    (read : ofVariable setting = .ok level?) :
    choose none setting = .ok (if level? = some 0 then critical else level?.getD critical)
      ∧ choose level? setting = .ok (level?.getD critical) := by
  rw [choose, fallback, read]
  cases level? with
  | none =>
    refine ⟨rfl, ?_⟩
    rw [choose, fallback, read]
    rfl
  | some level =>
    refine ⟨?_, rfl⟩
    by_cases zero : level = 0
    · subst zero
      rfl
    · simp [Except.map, zero]

theorem read_eq_some_iff {setting : Option String} {level? : Option Level}
    (read : ofVariable setting = .ok level?) {level : Level} :
    level? = some level ↔ ∃ text ∈ setting, Names level text.toList := by
  cases setting with
  | none =>
    injection read with same
    simp [← same]
  | some text =>
    have parsed : parse text = .ok level? := read
    constructor
    · rintro rfl
      exact ⟨text, rfl, (parse_eq_some_iff.mp parsed).1⟩
    · rintro ⟨other, inside, named⟩
      obtain rfl : text = other := Option.some.inj inside
      rw [parse_named named (unflawed_of_parse parsed)] at parsed
      injection parsed with same
      exact same.symm

theorem critical_and_unset :
    Template.forLevel critical ≠ Template.forLevel unset
      ∧ ∃ records, linesOf critical records ≠ linesOf unset records := by
  let record : Record := { level := debug, logger := "", message := "" }
  refine ⟨by decide +kernel, [record], ?_⟩
  rw [(Quiet.of_debug rfl).linesOf]
  exact (linesOf_ne_nil (by decide)).symm

theorem alike_iff (level? : Option Level) :
    let lookedUp := if level? = some 0 then critical else level?.getD critical
    let given := level?.getD critical
    (lookedUp = given ↔ level? ≠ some 0)
      ∧ (Template.forLevel lookedUp = Template.forLevel given ↔ lookedUp = given)
      ∧ ((∀ records, linesOf lookedUp records = linesOf given records) ↔ lookedUp = given) := by
  intro lookedUp given
  by_cases zero : level? = some 0
  · obtain ⟨template, records, lines⟩ := critical_and_unset
    have highest : lookedUp = critical := if_pos zero
    have lowest : given = unset := by
      simp only [given, zero]
      rfl
    have different : critical ≠ unset := by decide
    rw [highest, lowest]
    refine ⟨iff_of_false different (not_not_intro zero), iff_of_false template different, ?_⟩
    exact iff_of_false (fun same => lines (same records)) different
  · have same : lookedUp = given := if_neg zero
    rw [same]
    exact ⟨iff_of_true rfl zero, iff_of_true rfl rfl, iff_of_true (fun _ => rfl) rfl⟩

end Level

end Log

namespace Cli

open Log (Level)

/-- A setting that is read is in force alike whether it is looked up or given, as a run gives it:
as the level that it names, or as the critical one if it names none. Zero alone is taken for none
when it is looked up, and then the lines differ. -/
theorem level_in_force_alike_unless_zero {setting : Option String} {level? : Option Level}
    (read : Level.ofVariable setting = .ok level?) :
    ∃ lookedUp given, Level.choose none setting = .ok lookedUp
      ∧ Level.choose level? setting = .ok given
      ∧ (∀ text ∈ setting, ∀ level, Level.Names level text.toList →
          given = level ∧ lookedUp = if level = 0 then Level.critical else level)
      ∧ ((∀ text ∈ setting, ∀ level, ¬Level.Names level text.toList) →
          given = Level.critical ∧ lookedUp = Level.critical)
      ∧ (lookedUp = given ↔ ∀ text ∈ setting, ¬Level.Names 0 text.toList)
      ∧ (Log.Template.forLevel lookedUp = Log.Template.forLevel given ↔ lookedUp = given)
      ∧ ((∀ records, Log.linesOf lookedUp records = Log.linesOf given records)
          ↔ lookedUp = given)
      ∧ ∀ (invocation : Invocation) (surroundings : Surroundings) (options : Options)
          (verbosity : Verbosity) (command : Command),
        let session := Session.opened surroundings options verbosity
        let report := (session.perform command).noteSurprise invocation.logger
        invocation.Performs surroundings options verbosity level? command →
        (invocation.run surroundings).errors
          = Log.linesOf given (stateRecord invocation.logger surroundings.files options verbosity
                level? session.colored :: report.records)
            ++ Terminal.emitted session.colored (report.ending.report invocation.programName) := by
  obtain ⟨own, cli⟩ := Level.choose_of_read read
  obtain ⟨alike, templates, lines⟩ := Level.alike_iff level?
  have named {level : Level} :
      level? = some level ↔ ∃ text ∈ setting, Level.Names level text.toList :=
    Level.read_eq_some_iff read
  have unnamed : level? ≠ some 0 ↔ ∀ text ∈ setting, ¬Level.Names 0 text.toList := by
    simp only [ne_eq, named, not_exists, not_and]
  refine ⟨_, _, own, cli, ?_, ?_, alike.trans unnamed, templates, lines, ?_⟩
  · intro text inside level names
    obtain rfl := named.mpr ⟨text, inside, names⟩
    simp
  · intro unnamed
    obtain rfl : level? = none := Option.eq_none_iff_forall_ne_some.mpr fun level same => by
      obtain ⟨text, inside, names⟩ := named.mp same
      exact unnamed text inside level names
    exact ⟨rfl, rfl⟩
  · intro invocation surroundings options verbosity command session report performs
    rw [performs.run_eq]
    rfl

/-- A numeral with a leading zero, between blanks. -/
theorem level_in_force_alike_unless_zero_padded :
    let setting := some " 030\n"
    Level.ofVariable setting = .ok (some Level.warning)
      ∧ ∃ lookedUp given, Level.choose none setting = .ok lookedUp
        ∧ Level.choose (some Level.warning) setting = .ok given
        ∧ given = Level.warning
        ∧ lookedUp = given
        ∧ ∀ records, Log.linesOf lookedUp records = Log.linesOf given records := by
  intro setting
  have read : Level.ofVariable (some " 030\n") = .ok (some Level.warning) := rfl
  obtain ⟨text, inside, named⟩ := (Level.read_eq_some_iff read).mp rfl
  obtain ⟨lookedUp, given, own, cli, names, -, -, -, lines, -⟩ :=
    level_in_force_alike_unless_zero read
  obtain ⟨same, alike⟩ := names text inside _ named
  have equal : lookedUp = given := alike.trans same.symm
  exact ⟨read, lookedUp, given, own, cli, same, equal, lines.mpr equal⟩

/-- The name of the level zero. -/
theorem level_in_force_differs_for_zero :
    let setting := some "NotSet"
    Level.ofVariable setting = .ok (some Level.unset)
      ∧ Level.choose none setting = .ok Level.critical
      ∧ Level.choose (some Level.unset) setting = .ok Level.unset
      ∧ Log.Template.forLevel Level.critical ≠ Log.Template.forLevel Level.unset
      ∧ ∃ records, Log.linesOf Level.critical records ≠ Log.linesOf Level.unset records := by
  exact ⟨rfl, rfl, rfl, Level.critical_and_unset⟩

end Cli

end ColorMarkup
