import ColorMarkup.Proofs.Grammar
import ColorMarkup.Proofs.Numeral
import ColorMarkup.Proofs.Trimming
import ColorMarkup.SupportedVersions

/-!
What one classifier says. It names a version by two numerals in a fixed form, or it is of another
form and says nothing, or it cannot be used: it is no text, or its digits are not converted.
-/

namespace ColorMarkup

namespace Text

/-- Digits, one at least. -/
structure DigitRun (text : List Char) : Prop where
  filled : text ≠ []
  digit : ∀ character ∈ text, isDigit character = true

def blankCodes : List Nat :=
  [0x09, 0x0a, 0x0b, 0x0c, 0x0d, 0x1c, 0x1d, 0x1e, 0x1f, 0x20, 0x85, 0xa0, 0x1680, 0x2000, 0x2001,
   0x2002, 0x2003, 0x2004, 0x2005, 0x2006, 0x2007, 0x2008, 0x2009, 0x200a, 0x2028, 0x2029, 0x202f,
   0x205f, 0x3000]

theorem toNat_mem_blankCodes {character : Char} (blank : isBlank character = true) :
    character.toNat ∈ blankCodes := by
  simp only [isBlank, Bool.or_eq_true, Bool.and_eq_true, decide_eq_true_eq, beq_iff_eq] at blank
  simp only [blankCodes, List.mem_cons, List.not_mem_nil, or_false]
  omega

theorem isBlank_eq_false_of_isDigit {character : Char} (digit : isDigit character = true) :
    isBlank character = false := by
  have noDigit : ∀ code ∈ blankCodes, isDigit (Char.ofNat code) = false := by decide +kernel
  refine Bool.eq_false_iff.mpr fun blank => ?_
  have other := noDigit _ (toNat_mem_blankCodes blank)
  rw [Char.ofNat_toNat, digit] at other
  contradiction

namespace DigitRun

variable {text : List Char}

theorem solid (run : DigitRun text) : Solid text := fun character member =>
  isBlank_eq_false_of_isDigit (run.digit character member)

theorem point_not_mem (run : DigitRun text) : '.' ∉ text := by
  intro member
  have digit := run.digit _ member
  contradiction

theorem exists_denotes (run : DigitRun text) (sound : ∀ fault, ¬Flawed text fault) :
    ∃ number, Denotes text number := by
  rcases denotes_or_flawed run.filled run.digit with denotes | ⟨fault, flawed⟩
  · exact denotes
  · exact absurd flawed (sound fault)

end DigitRun

namespace Denotes

variable {text : List Char} {number other : Nat}

theorem run (denotes : Denotes text number) : DigitRun text where
  filled := denotes.values.1
  digit character member := isDigit_of_isDecimal (denotes.decimal character member)

theorem unique (denotes : Denotes text number) (alsoDenotes : Denotes text other) :
    number = other := by
  obtain ⟨_, values, read, rfl⟩ := denotes.values
  obtain ⟨_, others, alsoRead, rfl⟩ := alsoDenotes.values
  rw [read] at alsoRead
  injection alsoRead with same
  rw [same]

end Denotes

end Text

namespace Version

/-- A classifier that cites a version: its beginning, then two runs of digits with a point between
them, and blanks on both sides of these. -/
inductive Cites : List Char → List Char → List Char → Prop
  | padded {before major minor after : List Char} : Text.Blank before → Text.Blank after →
      Text.DigitRun major → Text.DigitRun minor →
      Cites (classifierStart.toList ++ (before ++ (major ++ '.' :: minor) ++ after)) major minor

/-- A classifier of that form, and the version that its numerals denote. -/
inductive Names (classifier : List Char) (version : Version) : Prop
  | cited {major minor : List Char} : Cites classifier major minor →
      Text.Denotes major version.major → Text.Denotes minor version.minor →
      Names classifier version

/-- A classifier of that form with digits that are not converted, and why. -/
inductive Flawed (classifier : List Char) (fault : Text.NumeralFault) : Prop
  | major {major minor : List Char} : Cites classifier major minor → Text.Flawed major fault →
      Flawed classifier fault
  | minor {major minor : List Char} : Cites classifier major minor →
      (∀ other, ¬Text.Flawed major other) → Text.Flawed minor fault → Flawed classifier fault

section Classifiers

variable {classifier major minor : List Char}

theorem solid_between_point (majorRun : Text.DigitRun major) (minorRun : Text.DigitRun minor) :
    Text.Solid (major ++ '.' :: minor) := by
  intro character member
  rcases List.mem_append.mp member with first | rest
  · exact majorRun.solid character first
  · rcases List.mem_cons.mp rest with rfl | last
    · decide
    · exact minorRun.solid character last

theorem partsOf?_of_cites (cites : Cites classifier major minor) :
    partsOf? classifier = some (major, minor) := by
  obtain ⟨blank, more, majorRun, minorRun⟩ := cites
  have absent := majorRun.point_not_mem
  have allMajor : major.all Text.isDigit = true := List.all_eq_true.mpr majorRun.digit
  have allMinor : minor.all Text.isDigit = true := List.all_eq_true.mpr minorRun.digit
  simp only [partsOf?, Text.dropStart?_append, Text.trim_padded blank _ more,
    Text.trim_solid (solid_between_point majorRun minorRun), dropWhile_ne_append absent,
    takeWhile_ne_append absent, allMajor, allMinor]
  simp [majorRun.filled, minorRun.filled]

theorem cites_of_partsOf? (found : partsOf? classifier = some (major, minor)) :
    Cites classifier major minor := by
  unfold partsOf? at found
  split at found
  · contradiction
  rename_i rest start
  dsimp only at found
  split at found
  · contradiction
  rename_i after tail
  split at found
  · rename_i runs
    injection found with pair
    injection pair with first second
    subst first second
    simp only [Bool.and_eq_true, Bool.not_eq_true', List.isEmpty_eq_false_iff, List.all_eq_true]
      at runs
    obtain ⟨⟨⟨filled, digits⟩, alsoFilled⟩, alsoDigits⟩ := runs
    obtain ⟨before, behind, blank, more, padded⟩ := Text.exists_padding rest
    have cites := Cites.padded blank more ⟨filled, digits⟩ ⟨alsoFilled, alsoDigits⟩
    rw [← Construct.span_sign tail, ← padded] at cites
    rwa [Text.dropStart?_eq_some start]
  · contradiction

theorem Cites.unique {otherMajor otherMinor : List Char} (cites : Cites classifier major minor)
    (other : Cites classifier otherMajor otherMinor) : major = otherMajor ∧ minor = otherMinor := by
  have same := (partsOf?_of_cites cites).symm.trans (partsOf?_of_cites other)
  injection same with pair
  injection pair with first second
  exact ⟨first, second⟩

theorem Cites.runs (cites : Cites classifier major minor) :
    Text.DigitRun major ∧ Text.DigitRun minor := by
  obtain ⟨-, -, majorRun, minorRun⟩ := cites
  exact ⟨majorRun, minorRun⟩

theorem Cites.unflawed (cites : Cites classifier major minor)
    (sound : ∀ fault, ¬Flawed classifier fault) :
    (∀ fault, ¬Text.Flawed major fault) ∧ ∀ fault, ¬Text.Flawed minor fault := by
  have first (fault : Text.NumeralFault) : ¬Text.Flawed major fault := fun flawed =>
    sound fault (.major cites flawed)
  exact ⟨first, fun fault flawed => sound fault (.minor cites first flawed)⟩

theorem Cites.exists_names (cites : Cites classifier major minor)
    (sound : ∀ fault, ¬Flawed classifier fault) : ∃ version, Names classifier version := by
  obtain ⟨majorRun, minorRun⟩ := cites.runs
  obtain ⟨majorSound, minorSound⟩ := cites.unflawed sound
  obtain ⟨first, denotes⟩ := majorRun.exists_denotes majorSound
  obtain ⟨second, alsoDenotes⟩ := minorRun.exists_denotes minorSound
  exact ⟨⟨first, second⟩, .cited cites denotes alsoDenotes⟩

theorem Names.unique {version other : Version} (names : Names classifier version)
    (alsoNames : Names classifier other) : version = other := by
  obtain ⟨cites, major, minor⟩ := names
  obtain ⟨alsoCites, otherMajor, otherMinor⟩ := alsoNames
  obtain ⟨rfl, rfl⟩ := cites.unique alsoCites
  have majors := major.unique otherMajor
  have minors := minor.unique otherMinor
  cases version
  cases other
  congr

end Classifiers

end Version

namespace SupportedVersions

open Version

section Reading

variable {classifier : String} {version : Version} {fault : Text.NumeralFault}

theorem ofClassifier_uncited
    (uncited : ∀ major minor, ¬Cites classifier.toList major minor) :
    ofClassifier (.text classifier) = .ok none := by
  have nothing : partsOf? classifier.toList = none :=
    Option.eq_none_iff_forall_ne_some.mpr fun (major, minor) found =>
      uncited major minor (cites_of_partsOf? found)
  simp only [ofClassifier, nothing]

theorem ofClassifier_cited {major minor : List Char} (cites : Cites classifier.toList major minor) :
    ofClassifier (.text classifier) = (do
      let major ← (Text.numeral? major).mapError .numeral
      let minor ← (Text.numeral? minor).mapError .numeral
      .ok (some { major, minor })) := by
  simp only [ofClassifier, partsOf?_of_cites cites]

theorem ofClassifier_flawed (flawed : Flawed classifier.toList fault) :
    ofClassifier (.text classifier) = .error (.numeral fault) := by
  cases flawed with
  | major cites flawed =>
    rw [ofClassifier_cited cites, Text.numeral?_flawed flawed]
    rfl
  | @minor major minor cites sound flawed =>
    obtain ⟨majorRun, -⟩ := cites.runs
    obtain ⟨number, denotes⟩ := majorRun.exists_denotes sound
    rw [ofClassifier_cited cites, Text.numeral?_denotes denotes sound, Text.numeral?_flawed flawed]
    rfl

theorem ofClassifier_named (names : Names classifier.toList version)
    (sound : ∀ fault, ¬Flawed classifier.toList fault) :
    ofClassifier (.text classifier) = .ok (some version) := by
  obtain ⟨cites, major, minor⟩ := names
  obtain ⟨majorSound, minorSound⟩ := cites.unflawed sound
  rw [ofClassifier_cited cites, Text.numeral?_denotes major majorSound,
    Text.numeral?_denotes minor minorSound]
  rfl

theorem ofClassifier_cases (classifier : String) :
    (∃ fault, Flawed classifier.toList fault
        ∧ ofClassifier (.text classifier) = .error (.numeral fault))
      ∨ (∃ version, Names classifier.toList version
        ∧ ofClassifier (.text classifier) = .ok (some version))
      ∨ (∀ major minor, ¬Cites classifier.toList major minor)
        ∧ ofClassifier (.text classifier) = .ok none := by
  by_cases sound : ∀ fault, ¬Flawed classifier.toList fault
  · by_cases uncited : ∀ major minor, ¬Cites classifier.toList major minor
    · exact .inr (.inr ⟨uncited, ofClassifier_uncited uncited⟩)
    · simp only [not_forall, not_not] at uncited
      obtain ⟨major, minor, cites⟩ := uncited
      obtain ⟨version, names⟩ := cites.exists_names sound
      exact .inr (.inl ⟨version, names, ofClassifier_named names sound⟩)
  · obtain ⟨fault, flawed⟩ := not_forall_not.mp sound
    exact .inl ⟨fault, flawed, ofClassifier_flawed flawed⟩

theorem unflawed_of_read {version? : Option Version}
    (read : ofClassifier (.text classifier) = .ok version?) :
    ∀ fault, ¬Flawed classifier.toList fault := by
  intro fault flawed
  cases read.symm.trans (ofClassifier_flawed flawed)

theorem eq_some_iff_of_read {version? : Option Version}
    (read : ofClassifier (.text classifier) = .ok version?) :
    version? = some version ↔ Names classifier.toList version := by
  constructor
  · rintro rfl
    rcases ofClassifier_cases classifier with ⟨_, _, other⟩ | ⟨_, names, same⟩ | ⟨_, other⟩
    · cases read.symm.trans other
    · cases read.symm.trans same
      exact names
    · cases read.symm.trans other
  · intro names
    have named := ofClassifier_named names (unflawed_of_read read)
    cases read.symm.trans named
    rfl

end Reading

/-- A value that stands among classifiers and cannot be used as one, and why. -/
inductive Unusable : Value → VersionFault → Prop
  | notText {value : Value} : (∀ text, value ≠ .text text) → Unusable value (.notText value)
  | digits {classifier : String} {fault : Text.NumeralFault} :
      Flawed classifier.toList fault → Unusable (.text classifier) (.numeral fault)

theorem ofClassifier_notText {value : Value} (other : ∀ text, value ≠ .text text) :
    ofClassifier value = .error (.notText value) := by
  cases value with
  | text text => exact absurd rfl (other text)
  | _ => rfl

theorem ofClassifier_eq_error_iff {value : Value} {fault : VersionFault} :
    ofClassifier value = .error fault ↔ Unusable value fault := by
  constructor
  · intro failed
    by_cases isText : ∃ text, value = .text text
    · obtain ⟨text, rfl⟩ := isText
      rcases ofClassifier_cases text with ⟨_, flawed, same⟩ | ⟨_, _, other⟩ | ⟨_, other⟩
      · cases failed.symm.trans same
        exact .digits flawed
      · cases failed.symm.trans other
      · cases failed.symm.trans other
    · have other := not_exists.mp isText
      cases failed.symm.trans (ofClassifier_notText other)
      exact .notText other
  · rintro (other | flawed)
    · exact ofClassifier_notText other
    · exact ofClassifier_flawed flawed

theorem exists_text_of_read {value : Value} {version : Version}
    (read : ofClassifier value = .ok (some version)) :
    ∃ text, value = .text text ∧ Names text.toList version := by
  by_cases isText : ∃ text, value = .text text
  · obtain ⟨text, rfl⟩ := isText
    exact ⟨text, rfl, (eq_some_iff_of_read read).mp rfl⟩
  · cases read.symm.trans (ofClassifier_notText (not_exists.mp isText))

theorem exists_read_iff {value : Value} :
    (∃ version?, ofClassifier value = .ok version?) ↔ ∀ fault, ¬Unusable value fault := by
  simp only [← ofClassifier_eq_error_iff]
  cases ofClassifier value <;> simp

end SupportedVersions

end ColorMarkup
