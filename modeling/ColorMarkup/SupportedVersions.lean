import ColorMarkup.Config.Layers

/-!
The language versions that a project says it supports. They stand among the classifiers of its
project file as `Programming Language :: Python :: <major>.<minor>`.
-/

namespace ColorMarkup

structure Version where
  major : Nat
  minor : Nat
deriving DecidableEq

namespace Version

def display (version : Version) : String :=
  toString version.major ++ "." ++ toString version.minor

def before (first second : Version) : Bool :=
  first.major < second.major || (first.major == second.major && first.minor < second.minor)

def insert (version : Version) : List Version → List Version
  | [] => [version]
  | first :: rest =>
    if version = first then first :: rest
    else if version.before first then version :: first :: rest
    else first :: insert version rest

theorem mem_insert {version other : Version} {versions : List Version} :
    other ∈ insert version versions ↔ other = version ∨ other ∈ versions := by
  induction versions with
  | nil => simp [insert]
  | cons first rest ih =>
    simp only [insert]
    split
    · subst_vars
      simp
    · split
      · simp
      · simp only [List.mem_cons, ih]
        constructor
        · rintro (same | same | later) <;> simp_all
        · rintro (same | same | later) <;> simp_all

def classifierStart : String := "Programming Language :: Python :: "

def partsOf? (classifier : List Char) : Option (List Char × List Char) :=
  match Text.dropStart? classifierStart.toList classifier with
  | none => none
  | some rest =>
    let text := Text.trim rest
    match text.dropWhile (· != '.') with
    | [] => none
    | _ :: minor =>
      let major := text.takeWhile (· != '.')
      if !major.isEmpty && major.all Text.isDigit && !minor.isEmpty && minor.all Text.isDigit then
        some (major, minor)
      else none

end Version

inductive VersionFault where
  | unreadable (fault : SystemFault)
  | notText (value : Value)
  | numeral (fault : Text.NumeralFault)

namespace VersionFault

def typeName : Value → String
  | .null => "NoneType"
  | .boolean _ => "bool"
  | .integer _ => "int"
  | .float _ => "float"
  | .text _ => "str"
  | .moment (.date _) => "datetime.date"
  | .moment (.time _) => "datetime.time"
  | .moment (.dateTime ..) => "datetime.datetime"
  | .array _ => "list"
  | .table _ => "dict"

def message (label : String) : VersionFault → String
  | unreadable fault => fault.message label
  | notText value => "'" ++ typeName value ++ "' object has no attribute 'removeprefix'"
  | numeral fault => fault.message

end VersionFault

namespace SupportedVersions

def ofClassifier (classifier : Value) : Except VersionFault (Option Version) :=
  match classifier with
  | .text text =>
    match Version.partsOf? text.toList with
    | none => .ok none
    | some (major, minor) => do
      let major ← (Text.numeral? major).mapError .numeral
      let minor ← (Text.numeral? minor).mapError .numeral
      .ok (some { major, minor })
  | value => .error (.notText value)

def collect : List Value → Except VersionFault (List Version)
  | [] => .ok []
  | classifier :: rest => do
    let version? ← ofClassifier classifier
    let versions ← collect rest
    .ok (match version? with
      | some version => Version.insert version versions
      | none => versions)

def ofClassifiers (current : Version) (classifiers : List Value) :
    Except VersionFault (List Version) :=
  (collect classifiers).map fun versions => if versions.isEmpty then [current] else versions

/-- The table of a project file. A file that is not there or holds no document counts as empty. -/
def readProject (tree : FileTree) (path : Path) : Except SystemFault Entries :=
  match tree.read path with
  | .error fault => if fault.isAbsence then .ok [] else .error fault
  | .ok octets =>
    match Text.decode octets with
    | .error _ => .ok []
    | .ok text =>
      match Toml.parse .strict (Text.unifyLineEnds text) with
      | .ok table => .ok table
      | .error _ => .ok []

def classifiersOf? (table : Entries) : Option (List Value) :=
  match Value.lookup? table "project" with
  | some (.table project) =>
    match Value.lookup? project "classifiers" with
    | some (.array classifiers) => some classifiers
    | _ => none
  | _ => none

def warning (current : Version) : String :=
  "No classifiers in pyproject.toml. Falling back to Python " ++ current.display ++ "."

def ofProject (current : Version) (tree : FileTree) (directory : Path) :
    List String × Except VersionFault (List Version) :=
  match readProject tree (directory.child Config.projectFileName) with
  | .error fault => ([], .error (.unreadable fault))
  | .ok table =>
    match classifiersOf? table with
    | none => ([warning current], .ok [current])
    | some classifiers => ([], ofClassifiers current classifiers)

def own : List Version :=
  [⟨3, 10⟩, ⟨3, 11⟩, ⟨3, 12⟩, ⟨3, 13⟩]

def testExtras : String := ".[test,dev]"

end SupportedVersions

end ColorMarkup
