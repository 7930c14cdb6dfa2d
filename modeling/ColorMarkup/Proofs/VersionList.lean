import Mathlib.Data.List.Nodup
import ColorMarkup.Proofs.BracketedIndex
import ColorMarkup.Proofs.Classifiers
import ColorMarkup.Proofs.Encoding

/-!
The list of a project's versions. It holds those that the project's classifiers name, in order and
each once; nothing else about the classifiers counts, neither their order nor how often they stand
there, nor those that name no version.
-/

namespace ColorMarkup

namespace Text

theorem denotes_toString (number : Nat) : Denotes (toString number).toList number := by
  have plain : ∀ digit ∈ (toString number).toList, isPlainDigit digit := fun _ =>
    isPlainDigit_of_mem_toString
  have filled : (toString number).toList ≠ [] := by
    rw [Nat.toString_eq_repr, Nat.toList_repr]
    exact Nat.toDigits_ne_nil
  have decimal : ∀ digit ∈ (toString number).toList, isDecimal digit = true := fun digit member =>
    isDecimal_iff.mpr ⟨_, decimalValue?_plain (plain digit member)⟩
  obtain ⟨found, denotes⟩ := exists_denotes filled decimal
  obtain ⟨_, values, read, rfl⟩ := denotes.values
  have same := read.symm.trans (mapM_decimalValue? plain)
  injection same with digits
  have whole := plainValue_toString number
  rw [plainValue, ← digits] at whole
  rwa [whole] at denotes

end Text

namespace Version

def Precedes (first second : Version) : Prop :=
  first.major < second.major ∨ first.major = second.major ∧ first.minor < second.minor

theorem names_display (version : Version) :
    Names (classifierStart ++ version.display).toList version := by
  have run (number : Nat) : Text.DigitRun (toString number).toList :=
    (Text.denotes_toString number).run
  have nothing : Text.Blank [] := fun _ member => absurd member List.not_mem_nil
  have cites := Cites.padded nothing nothing (run version.major) (run version.minor)
  have form : (classifierStart ++ version.display).toList = classifierStart.toList
      ++ ([] ++ ((toString version.major).toList ++ '.' :: (toString version.minor).toList) ++ []) := by
    simp [display]
  rw [← form] at cites
  exact .cited cites (Text.denotes_toString version.major) (Text.denotes_toString version.minor)

theorem display_injective {first second : Version} (same : first.display = second.display) :
    first = second := by
  have names := names_display first
  rw [same] at names
  exact names.unique (names_display second)

section Order

variable {first second third version other : Version} {versions : List Version}

theorem before_iff : first.before second = true ↔ first.Precedes second := by
  simp [before, Precedes]

theorem Precedes.trans (earlier : first.Precedes second) (later : second.Precedes third) :
    first.Precedes third := by
  unfold Precedes at *
  omega

theorem Precedes.ne (earlier : first.Precedes second) : first ≠ second := by
  rintro rfl
  unfold Precedes at earlier
  omega

theorem precedes_of_not_before (different : version ≠ other)
    (behind : ¬version.before other = true) : other.Precedes version := by
  rw [before_iff] at behind
  have numbers : ¬(version.major = other.major ∧ version.minor = other.minor) := by
    rintro ⟨major, minor⟩
    cases version
    cases other
    exact different (congr (congrArg Version.mk major) minor)
  unfold Precedes at *
  omega

theorem sorted_insert (version : Version) (sorted : versions.Pairwise Precedes) :
    (insert version versions).Pairwise Precedes := by
  induction versions with
  | nil => exact List.pairwise_singleton _ _
  | cons first rest ih =>
    obtain ⟨least, tail⟩ := List.pairwise_cons.mp sorted
    unfold insert
    split
    · exact sorted
    rename_i different
    split
    · rename_i before
      have earlier := before_iff.mp before
      refine List.pairwise_cons.mpr ⟨?_, sorted⟩
      intro other member
      rcases List.mem_cons.mp member with rfl | later
      · exact earlier
      · exact earlier.trans (least other later)
    · rename_i behind
      refine List.pairwise_cons.mpr ⟨?_, ih tail⟩
      intro other member
      rcases mem_insert.mp member with rfl | later
      · exact precedes_of_not_before different behind
      · exact least other later

theorem nodup_of_sorted (sorted : versions.Pairwise Precedes) : versions.Nodup :=
  sorted.imp Precedes.ne

theorem eq_of_sorted {others : List Version} (sorted : versions.Pairwise Precedes)
    (alsoSorted : others.Pairwise Precedes) (same : ∀ version, version ∈ versions ↔ version ∈ others) :
    versions = others := by
  have permuted : versions.Perm others :=
    (List.perm_ext_iff_of_nodup (nodup_of_sorted sorted) (nodup_of_sorted alsoSorted)).mpr same
  refine permuted.eq_of_pairwise ?_ sorted alsoSorted
  intro first second _ _ earlier later
  exact absurd rfl (earlier.trans later).ne

end Order

end Version

namespace SupportedVersions

open Version

variable {classifiers : List Value} {versions : List Version}

/-- Classifiers that can all be used, and the versions that they name, sorted. -/
structure Collected (classifiers : List Value) (versions : List Version) : Prop where
  read : ∀ value ∈ classifiers, ∃ version?, ofClassifier value = .ok version?
  sorted : versions.Pairwise Precedes
  mem_iff : ∀ version, version ∈ versions
    ↔ ∃ value ∈ classifiers, ofClassifier value = .ok (some version)

def FirstUnusable (classifiers : List Value) (fault : VersionFault) : Prop :=
  ∃ before value after, classifiers = before ++ value :: after
    ∧ (∀ earlier ∈ before, ∀ other, ¬Unusable earlier other) ∧ Unusable value fault

theorem Collected.unnamed {value : Value} (read : ofClassifier value = .ok none)
    (collected : Collected classifiers versions) : Collected (value :: classifiers) versions where
  read := List.forall_mem_cons.mpr ⟨⟨none, read⟩, collected.read⟩
  sorted := collected.sorted
  mem_iff version := by
    simp [collected.mem_iff, read]

theorem Collected.named {value : Value} {version : Version}
    (read : ofClassifier value = .ok (some version)) (collected : Collected classifiers versions) :
    Collected (value :: classifiers) (Version.insert version versions) where
  read := List.forall_mem_cons.mpr ⟨⟨_, read⟩, collected.read⟩
  sorted := sorted_insert version collected.sorted
  mem_iff other := by
    simp [mem_insert, collected.mem_iff, read, eq_comm]

theorem collected_or_refused (classifiers : List Value) :
    (∃ versions, collect classifiers = .ok versions ∧ Collected classifiers versions)
      ∨ ∃ fault, collect classifiers = .error fault ∧ FirstUnusable classifiers fault := by
  induction classifiers with
  | nil => exact .inl ⟨[], rfl, by simp, .nil, by simp⟩
  | cons value rest ih =>
    cases read : ofClassifier value with
    | error fault =>
      refine .inr ⟨fault, by rw [collect, read]; rfl, [], value, rest, rfl, by simp, ?_⟩
      exact ofClassifier_eq_error_iff.mp read
    | ok version? =>
      rcases ih with ⟨versions, same, collected⟩ |
        ⟨fault, failed, before, other, after, rfl, sound, unusable⟩
      · cases version? with
        | none => exact .inl ⟨versions, by rw [collect, read, same]; rfl, collected.unnamed read⟩
        | some version =>
          exact .inl ⟨_, by rw [collect, read, same]; rfl, collected.named read⟩
      · have first := exists_read_iff.mp ⟨version?, read⟩
        exact .inr ⟨fault, by rw [collect, read, failed]; rfl, value :: before, other, after, rfl,
          List.forall_mem_cons.mpr ⟨first, sound⟩, unusable⟩

/-- What the project file of a directory holds as its classifiers: it is encoded text, the text is
a document in the notation without liberties, and there is a list where classifiers stand. -/
inductive Declares (tree : FileTree) (directory : Path) : List Value → Prop
  | listed {text : List Char} {table project : Entries} {classifiers : List Value} :
      tree.read (directory.child Config.projectFileName) = .ok (Text.encode text) →
      Toml.parse .strict (Text.unifyLineEnds text) = .ok table →
      Value.lookup? table "project" = some (.table project) →
      Value.lookup? project "classifiers" = some (.array classifiers) →
      Declares tree directory classifiers

variable {current : Version} {tree : FileTree} {directory : Path}

theorem ofProject_declared (declares : Declares tree directory classifiers) :
    ofProject current tree directory = ([], ofClassifiers current classifiers) := by
  obtain @⟨text, _, _, _, read, parsed, project, listed⟩ := declares
  have decoded : Text.decode (Text.encode text) = .ok text := Text.decode_eq_ok.mpr rfl
  simp only [ofProject, readProject, read, decoded, parsed, classifiersOf?, project, listed]

theorem ofClassifiers_of_collect (collected : collect classifiers = .ok versions) :
    ofClassifiers current classifiers = .ok (if versions.isEmpty then [current] else versions) := by
  rw [ofClassifiers, collected]
  rfl

theorem exists_collected {listed : List Version}
    (returns : ofClassifiers current classifiers = .ok listed) :
    ∃ versions, Collected classifiers versions
      ∧ listed = if versions.isEmpty then [current] else versions := by
  rcases collected_or_refused classifiers with ⟨versions, same, collected⟩ | ⟨fault, failed, _⟩
  · rw [ofClassifiers_of_collect same] at returns
    injection returns with whole
    exact ⟨versions, collected, whole.symm⟩
  · rw [ofClassifiers, failed] at returns
    contradiction

def CiteNone (classifiers : List Value) : Prop :=
  ∀ text, Value.text text ∈ classifiers → ∀ major minor, ¬Cites text.toList major minor

theorem eq_current_of_uncited (returns : ofClassifiers current classifiers = .ok versions)
    (uncited : CiteNone classifiers) : versions = [current] := by
  obtain ⟨found, collected, whole⟩ := exists_collected returns
  have nothing : found = [] := by
    refine List.eq_nil_iff_forall_not_mem.mpr fun version member => ?_
    obtain ⟨value, listed, read⟩ := (collected.mem_iff version).mp member
    obtain ⟨text, rfl, cites, _, _⟩ := exists_text_of_read read
    exact uncited text listed _ _ cites
  rw [whole, nothing]
  rfl

section Texts

variable {texts others : List String}

def CiteAlike (texts others : List String) : Prop :=
  ∀ classifier : String, (∃ major minor, Cites classifier.toList major minor) →
    (classifier ∈ texts ↔ classifier ∈ others)

theorem Collected.mem_texts (collected : Collected (texts.map .text) versions) (version : Version) :
    version ∈ versions ↔ ∃ classifier ∈ texts, Names classifier.toList version := by
  rw [collected.mem_iff]
  constructor
  · rintro ⟨value, member, read⟩
    obtain ⟨classifier, listed, rfl⟩ := List.mem_map.mp member
    exact ⟨classifier, listed, (eq_some_iff_of_read read).mp rfl⟩
  · rintro ⟨classifier, listed, names⟩
    have member : Value.text classifier ∈ texts.map .text := List.mem_map_of_mem listed
    obtain ⟨version?, read⟩ := collected.read _ member
    exact ⟨_, member, (eq_some_iff_of_read read).mpr names ▸ read⟩

theorem Collected.exists_named {classifier : String} {major minor : List Char}
    (collected : Collected (texts.map .text) versions) (member : classifier ∈ texts)
    (cites : Cites classifier.toList major minor) : ∃ version, version ∈ versions := by
  obtain ⟨version?, read⟩ := collected.read _ (List.mem_map_of_mem member)
  obtain ⟨version, names⟩ := cites.exists_names (unflawed_of_read read)
  exact ⟨version, (collected.mem_texts version).mpr ⟨classifier, member, names⟩⟩

theorem Collected.collect_alike (collected : Collected (texts.map .text) versions)
    (alike : CiteAlike texts others) : collect (others.map .text) = .ok versions := by
  rcases collected_or_refused (others.map .text) with ⟨found, same, alsoCollected⟩ |
    ⟨fault, failed, before, value, after, split, _, unusable⟩
  · rw [same]
    refine congrArg Except.ok (eq_of_sorted alsoCollected.sorted collected.sorted fun version => ?_)
    rw [alsoCollected.mem_texts, collected.mem_texts]
    refine exists_congr fun classifier => and_congr_left fun names => (alike _ ?_).symm
    obtain ⟨cites, _, _⟩ := names
    exact ⟨_, _, cites⟩
  · -- what cannot be used cites a version, so it stands among the first texts too
    have member : value ∈ others.map Value.text := by simp [split]
    obtain ⟨classifier, listed, rfl⟩ := List.mem_map.mp member
    cases unusable with
    | notText other => exact absurd rfl (other classifier)
    | digits flawed =>
      have cited : ∃ major minor, Cites classifier.toList major minor := by
        cases flawed with
        | major cites _ => exact ⟨_, _, cites⟩
        | minor cites _ _ => exact ⟨_, _, cites⟩
      have also : Value.text classifier ∈ texts.map .text :=
        List.mem_map_of_mem ((alike classifier cited).mpr listed)
      obtain ⟨version?, read⟩ := collected.read _ also
      exact absurd flawed (unflawed_of_read read _)

end Texts

/-- The versions listed for classifiers that are texts are those that the classifiers name, or the
version in use if none of them cites any, in order and each once. Classifiers of other forms, the
order and repetitions make no difference. -/
theorem versions_listed_in_order {texts warnings : List String} {listed : List Version}
    (declares : Declares tree directory (texts.map .text))
    (returns : ofProject current tree directory = (warnings, .ok listed)) :
    warnings = []
      ∧ listed.Pairwise Precedes
      ∧ (listed.map Version.display).Nodup
      ∧ (∀ version ∈ listed, Names (classifierStart ++ version.display).toList version)
      ∧ ((∃ classifier ∈ texts, ∃ major minor, Cites classifier.toList major minor) →
        ∀ version, version ∈ listed ↔ ∃ classifier ∈ texts, Names classifier.toList version)
      ∧ ((∀ classifier ∈ texts, ∀ major minor, ¬Cites classifier.toList major minor) →
        listed = [current])
      ∧ ∀ others, CiteAlike texts others → ∀ otherTree otherDirectory,
        Declares otherTree otherDirectory (others.map .text) →
          ofProject current otherTree otherDirectory = ([], .ok listed) := by
  rw [ofProject_declared declares] at returns
  injection returns with quiet returns
  obtain ⟨versions, collected, whole⟩ := exists_collected returns
  have sorted : listed.Pairwise Precedes := by
    rw [whole]
    split
    · exact List.pairwise_singleton _ _
    · exact collected.sorted
  refine ⟨quiet.symm, sorted, ?_, fun version _ => names_display version, ?_, ?_, ?_⟩
  · exact (nodup_of_sorted sorted).map fun _ _ => display_injective
  · rintro ⟨classifier, member, major, minor, cites⟩ version
    obtain ⟨named, names⟩ := collected.exists_named member cites
    have filled : versions.isEmpty = false :=
      List.isEmpty_eq_false_iff.mpr (List.ne_nil_of_mem names)
    rw [whole, filled]
    exact collected.mem_texts version
  · intro uncited
    refine eq_current_of_uncited returns fun text member => ?_
    obtain ⟨classifier, listed, same⟩ := List.mem_map.mp member
    injection same with same
    exact same ▸ uncited classifier listed
  · intro others alike otherTree otherDirectory alsoDeclares
    rw [ofProject_declared alsoDeclares, ofClassifiers_of_collect (collected.collect_alike alike),
      whole]

set_option maxRecDepth 4000 in
/-- A digit of another script, a zero in front and a blank behind, after a later version. -/
theorem versions_listed_in_order_padded :
    let texts := ["Programming Language :: Python :: 3.10",
      "Programming Language :: Python :: 03.\u0669 "]
    let tree : FileTree := {
      workingDirectory := "/work"
      entries := [(["pyproject.toml"], .file (Text.encode
        ("project.classifiers = ['Programming Language :: Python :: 3.10', "
          ++ "'Programming Language :: Python :: 03.\u0669 ']").toList))] }
    Declares tree Path.workingDirectory (texts.map .text)
      ∧ ofProject ⟨3, 11⟩ tree Path.workingDirectory = ([], .ok [⟨3, 9⟩, ⟨3, 10⟩])
      ∧ ∃ classifier ∈ texts, Names classifier.toList ⟨3, 9⟩ := by
  intro texts tree
  have parsed : Toml.parse .strict (Text.unifyLineEnds
        ("project.classifiers = ['Programming Language :: Python :: 3.10', "
          ++ "'Programming Language :: Python :: 03.\u0669 ']").toList)
      = .ok [("project", .table [("classifiers", .array [
          .text "Programming Language :: Python :: 3.10",
          .text "Programming Language :: Python :: 03.\u0669 "])])] := by cbv
  have there := FileTree.read_of_find (by decide +kernel +revert :
    tree.find (Path.workingDirectory.child Config.projectFileName) = .file (Text.encode
      ("project.classifiers = ['Programming Language :: Python :: 3.10', "
        ++ "'Programming Language :: Python :: 03.\u0669 ']").toList))
  have declares : Declares tree Path.workingDirectory (texts.map .text) :=
    .listed there parsed rfl rfl
  have returns : ofProject ⟨3, 11⟩ tree Path.workingDirectory = ([], .ok [⟨3, 9⟩, ⟨3, 10⟩]) := by
    rw [ofProject_declared declares]
    rfl
  obtain ⟨-, -, -, -, lists, -⟩ := versions_listed_in_order declares returns
  have cited : ∃ classifier ∈ texts, ∃ major minor, Cites classifier.toList major minor :=
    ⟨"Programming Language :: Python :: 3.10", List.mem_cons_self, ['3'], ['1', '0'],
      cites_of_partsOf? rfl⟩
  exact ⟨declares, returns, (lists cited ⟨3, 9⟩).mp List.mem_cons_self⟩

end SupportedVersions

end ColorMarkup
