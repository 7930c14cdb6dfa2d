import ColorMarkup.Proofs.VersionList

/-!
What becomes of the versions when the project file cannot be read as it should be. Where there is no
list of classifiers the version in use stands for all, whatever the reason; where there is one, its
first entry that cannot be used as a classifier is refused, and nothing else is.
-/

namespace ColorMarkup.SupportedVersions

open Version

variable {current : Version} {tree : FileTree} {directory : Path} {classifiers : List Value}
  {versions : List Version} {fault : VersionFault}

theorem exists_readProject
    (absent : ∀ fault, tree.read (directory.child Config.projectFileName) = .error fault →
      fault.isAbsence = true) :
    ∃ table, readProject tree (directory.child Config.projectFileName) = .ok table
      ∧ ∀ classifiers, classifiersOf? table = some classifiers →
        Declares tree directory classifiers := by
  have nothing {classifiers : List Value} (listed : classifiersOf? [] = some classifiers) :
      Declares tree directory classifiers := by contradiction
  unfold readProject
  cases read : tree.read (directory.child Config.projectFileName) with
  | error fault =>
    dsimp only
    rw [if_pos (absent fault read)]
    exact ⟨[], rfl, fun _ => nothing⟩
  | ok octets =>
    dsimp only
    cases decoded : Text.decode octets with
    | error fault => exact ⟨[], rfl, fun _ => nothing⟩
    | ok text =>
      dsimp only
      cases parsed : Toml.parse .strict (Text.unifyLineEnds text) with
      | error flaw => exact ⟨[], rfl, fun _ => nothing⟩
      | ok table =>
        refine ⟨table, rfl, fun classifiers listed => ?_⟩
        rw [Text.decode_eq_ok.mp decoded] at read
        unfold classifiersOf? at listed
        split at listed
        · rename_i project found
          split at listed
          · rename_i items entries
            injection listed with same
            subst same
            exact .listed read parsed found entries
          · contradiction
        · contradiction

theorem ofProject_undeclared
    (absent : ∀ fault, tree.read (directory.child Config.projectFileName) = .error fault →
      fault.isAbsence = true)
    (undeclared : ∀ classifiers, ¬Declares tree directory classifiers) :
    ofProject current tree directory = ([warning current], .ok [current]) := by
  obtain ⟨table, read, declared⟩ := exists_readProject absent
  have unlisted : classifiersOf? table = none :=
    Option.eq_none_iff_forall_ne_some.mpr fun classifiers listed =>
      undeclared classifiers (declared classifiers listed)
  simp only [ofProject, read, unlisted]

theorem collect_of_firstUnusable (first : FirstUnusable classifiers fault) :
    collect classifiers = .error fault := by
  obtain ⟨before, value, after, rfl, sound, unusable⟩ := first
  induction before with
  | nil =>
    rw [List.nil_append, collect, ofClassifier_eq_error_iff.mpr unusable]
    rfl
  | cons earlier before ih =>
    obtain ⟨usable, others⟩ := List.forall_mem_cons.mp sound
    obtain ⟨version?, read⟩ := exists_read_iff.mpr usable
    rw [List.cons_append, collect, read, ih others]
    rfl

theorem ofClassifiers_cases (current : Version) (classifiers : List Value) :
    (∃ versions, ofClassifiers current classifiers = .ok versions ∧ versions ≠ []
        ∧ ∀ value ∈ classifiers, ∀ fault, ¬Unusable value fault)
      ∨ ∃ fault, ofClassifiers current classifiers = .error fault
        ∧ FirstUnusable classifiers fault := by
  rcases collected_or_refused classifiers with ⟨versions, same, collected⟩ | ⟨fault, failed, first⟩
  · refine .inl ⟨_, ofClassifiers_of_collect same, ?_, ?_⟩
    · split
      · exact List.cons_ne_nil _ _
      · rename_i filled
        exact fun empty => filled (List.isEmpty_iff.mpr empty)
    · exact fun value member => exists_read_iff.mp (collected.read value member)
  · refine .inr ⟨fault, ?_, first⟩
    rw [ofClassifiers, failed]
    rfl

theorem ofClassifiers_eq_error_iff :
    ofClassifiers current classifiers = .error fault ↔ FirstUnusable classifiers fault := by
  constructor
  · intro failed
    rcases ofClassifiers_cases current classifiers with ⟨versions, same, _⟩ | ⟨other, same, first⟩
    · cases same.symm.trans failed
    · cases same.symm.trans failed
      exact first
  · intro first
    rw [ofClassifiers, collect_of_firstUnusable first]
    rfl

theorem exists_versions_iff :
    (∃ versions, ofClassifiers current classifiers = .ok versions ∧ versions ≠ [])
      ↔ ∀ value ∈ classifiers, ∀ fault, ¬Unusable value fault := by
  rcases ofClassifiers_cases current classifiers with ⟨versions, same, filled, usable⟩ |
    ⟨fault, failed, before, value, after, rfl, sound, unusable⟩
  · exact iff_of_true ⟨versions, same, filled⟩ usable
  · refine iff_of_false ?_ ?_
    · rintro ⟨versions, same, _⟩
      cases failed.symm.trans same
    · intro usable
      exact usable value (by simp) fault unusable

/-- Whatever the project file holds, and also where it is not there, versions are found, unless a
value among its classifiers cannot be used: the first of these is refused. Where nothing is declared
or no version is cited the version in use stands for all. -/
theorem versions_found_unless_unusable
    (absent : ∀ fault, tree.read (directory.child Config.projectFileName) = .error fault →
      fault.isAbsence = true) :
    ((∀ classifiers, ¬Declares tree directory classifiers) →
        ofProject current tree directory = ([warning current], .ok [current]))
      ∧ ∀ classifiers, Declares tree directory classifiers →
        (ofProject current tree directory).1 = []
          ∧ ((∃ versions, (ofProject current tree directory).2 = .ok versions ∧ versions ≠ [])
            ↔ ∀ value ∈ classifiers, ∀ fault, ¬Unusable value fault)
          ∧ (∀ fault, (ofProject current tree directory).2 = .error fault
            ↔ FirstUnusable classifiers fault)
          ∧ ∀ versions, (ofProject current tree directory).2 = .ok versions → CiteNone classifiers →
            versions = [current] := by
  refine ⟨ofProject_undeclared absent, ?_⟩
  intro classifiers declares
  rw [ofProject_declared declares]
  exact ⟨rfl, exists_versions_iff, fun fault => ofClassifiers_eq_error_iff,
    fun versions returns uncited => eq_current_of_uncited returns uncited⟩

/-- A number behind a version. -/
theorem versions_found_unless_unusable_number :
    let classifiers : List Value := [.text "Programming Language :: Python :: 3.9", .integer 5]
    let tree : FileTree := {
      workingDirectory := "/work"
      entries := [(["pyproject.toml"], .file (Text.encode
        "project.classifiers = ['Programming Language :: Python :: 3.9', 5]".toList))] }
    (tree.read (Path.workingDirectory.child Config.projectFileName)).isOk = true
      ∧ Declares tree Path.workingDirectory classifiers
      ∧ (ofProject ⟨3, 11⟩ tree Path.workingDirectory).2 = .error (.notText (.integer 5)) := by
  intro classifiers tree
  have parsed : Toml.parse .strict (Text.unifyLineEnds
        "project.classifiers = ['Programming Language :: Python :: 3.9', 5]".toList)
      = .ok [("project", .table [("classifiers", .array
          [.text "Programming Language :: Python :: 3.9", .integer 5])])] := by cbv
  have there := FileTree.read_of_find (by decide +kernel +revert :
    tree.find (Path.workingDirectory.child Config.projectFileName) = .file (Text.encode
      "project.classifiers = ['Programming Language :: Python :: 3.9', 5]".toList))
  have declares : Declares tree Path.workingDirectory classifiers := .listed there parsed rfl rfl
  have readable : (tree.read (Path.workingDirectory.child Config.projectFileName)).isOk = true := by
    obtain ⟨read, _, _, _⟩ := declares
    rw [read]
    rfl
  have absent (fault : SystemFault)
      (failed : tree.read (Path.workingDirectory.child Config.projectFileName) = .error fault) :
      fault.isAbsence = true := by
    rw [failed] at readable
    cases readable
  obtain ⟨-, found⟩ :=
    @versions_found_unless_unusable ⟨3, 11⟩ tree Path.workingDirectory absent
  obtain ⟨-, -, refused, -⟩ := found classifiers declares
  have first : FirstUnusable classifiers (.notText (.integer 5)) := by
    refine ⟨[.text "Programming Language :: Python :: 3.9"], .integer 5, [], rfl, ?_, ?_⟩
    · intro earlier member
      rw [List.mem_singleton.mp member]
      exact exists_read_iff.mp ⟨some ⟨3, 9⟩, rfl⟩
    · refine .notText fun text => ?_
      simp only [ne_eq, reduceCtorEq, not_false_eq_true]
  exact ⟨readable, declares, (refused _).mpr first⟩

/-- A number and a superscript among the classifiers. -/
theorem unusable_classifiers_refused :
    let refusal (document : String) : Option String :=
      match (ofProject ⟨3, 11⟩ {
          workingDirectory := "/work"
          entries := [(["pyproject.toml"], .file (Text.encode document.toList))] }
          Path.workingDirectory).2 with
      | .ok _ => none
      | .error fault => some (fault.message "")
    refusal "project.classifiers = [5]" = some "'int' object has no attribute 'removeprefix'"
      ∧ refusal "project.classifiers = ['Programming Language :: Python :: 3.\u00b2']"
        = some "invalid literal for int() with base 10: '\u00b2'" := by
  decide +kernel

end ColorMarkup.SupportedVersions
