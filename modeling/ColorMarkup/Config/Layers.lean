import ColorMarkup.Config.Merge
import ColorMarkup.FileTree
import ColorMarkup.Text.Utf8
import ColorMarkup.Toml.Document

/-!
Reading configuration files and laying their settings over each other: the project file's section,
then the file of the working directory, then a file named by the caller. Later ones win, key by key.
-/

namespace ColorMarkup

inductive LoadFault where
  | config (fault : ConfigFault)
  | signs (fault : SignFault)
  | unshown (fault : ShowFault)
  | barred (label : String) (fault : SystemFault)
  | repeatedKey (key : String)
  | reopenedTable
  | undecodable (fault : Text.DecodeFault)

namespace LoadFault

def message : LoadFault → String
  | config fault => fault.message
  | signs fault => fault.message
  | unshown fault => fault.message
  | barred label fault => fault.message label
  | repeatedKey key => "Key \"" ++ key ++ "\" already exists."
  | reopenedTable => "Redefinition of an existing table"
  | undecodable fault => fault.message

def ofMerge : MergeFault → LoadFault
  | .config fault => config fault
  | .unshown fault => unshown fault

def isExpected : LoadFault → Bool
  | config _ => true
  | signs _ => true
  | _ => false

end LoadFault

namespace Config

def fileName : String := "colorformat.toml"

def projectFileName : String := "pyproject.toml"

def readTable (tree : FileTree) (path : Path) : Except LoadFault Entries :=
  let label := tree.label path
  match tree.read path with
  | .error fault => .error (.config (.unreadable label (fault.message label)))
  | .ok octets =>
    match Text.decode octets with
    | .error fault => .error (.undecodable fault)
    | .ok text =>
      match Toml.parse .tolerant (Text.unifyLineEnds text) with
      | .ok table => .ok table
      | .error .malformed => .error (.config (.malformed label))
      | .error (.repeatedKey key) => .error (.repeatedKey key)
      | .error .reopenedTable => .error .reopenedTable

def readSection (tree : FileTree) (path : Path) : Except LoadFault (Option Entries) := do
  let table ← readTable tree path
  let settings? := match Value.lookup? table "tool" with
    | some (.table tools) => Value.lookup? tools "colorformat"
    | _ => none
  match settings? with
  | none => .ok none
  | some (.table settings) => .ok (some settings)
  | some _ => .error (.config (.sectionNotTable (tree.label path)))

structure Request where
  directory : Path := Path.workingDirectory
  explicit : Option Path := none
  discover : Bool := true

/-- A draft over which layers are being laid, the notices given, and the fault that ended it. -/
structure Layering where
  draft : Draft
  notices : List ConfigNotice := []
  fault : Option LoadFault := none

namespace Layering

def merge (source : String) (table : Entries) (layering : Layering) : Layering :=
  let merging := layering.draft.merge source table
  { draft := merging.draft
    notices := layering.notices ++ merging.notices
    fault := merging.fault.map .ofMerge }

def addLayer (source : String) (table? : Except LoadFault (Option Entries)) (layering : Layering) :
    Layering :=
  match table? with
  | .error fault => { layering with fault := some fault }
  | .ok none => layering
  | .ok (some table) => layering.merge source table

def andThen (layering : Layering) (step : Layering → Layering) : Layering :=
  match layering.fault with
  | some _ => layering
  | none => step layering

end Layering

def readWhole (tree : FileTree) (path : Path) : Except LoadFault (Option Entries) :=
  (readTable tree path).map some

def isFile (tree : FileTree) (path : Path) : Except LoadFault Bool :=
  (tree.find path).isFile.mapError (.barred (tree.label path))

def readDiscovered (tree : FileTree) (path : Path)
    (read : FileTree → Path → Except LoadFault (Option Entries)) :
    Except LoadFault (Option Entries) := do
  if ← isFile tree path then read tree path else .ok none

/-- A file that is named has to be there. -/
def readNamed (tree : FileTree) (path : Path) : Except LoadFault (Option Entries) := do
  if ← isFile tree path then readWhole tree path
  else .error (.config (.missing (tree.label path)))

def discovered (tree : FileTree) (path : Path)
    (read : FileTree → Path → Except LoadFault (Option Entries)) (layering : Layering) : Layering :=
  layering.addLayer (tree.label path) (readDiscovered tree path read)

def explicitLayer (tree : FileTree) (path : Path) (layering : Layering) : Layering :=
  layering.addLayer (tree.label path) (readNamed tree path)

def build (tree : FileTree) (request : Request) : Layering :=
  let start : Layering := { draft := { sources := ["defaults"] } }
  let found :=
    if request.discover then
      (discovered tree (request.directory.child projectFileName) readSection start).andThen
        (discovered tree (request.directory.child fileName) readWhole)
    else start
  match request.explicit with
  | none => found
  | some path => found.andThen (explicitLayer tree path)

structure Loading where
  notices : List ConfigNotice
  result : Except LoadFault Config

def load (tree : FileTree) (request : Request) : Loading :=
  let layering := build tree request
  match layering.fault with
  | some fault => { notices := layering.notices, result := .error fault }
  | none =>
    match layering.draft.freeze with
    | .error fault => { notices := layering.notices, result := .error (.signs fault) }
    | .ok config =>
      { notices := layering.notices ++ [.effective config], result := .ok config }

end Config

end ColorMarkup
