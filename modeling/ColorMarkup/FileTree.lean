import ColorMarkup.Text.Quoted

/-!
Paths, and the files that can be read: those below the working directory and a few outside it. The
working directory itself is taken to be there. Links are followed before a tree is made, and only
directories and plain files stand in it.
-/

namespace ColorMarkup

/-- Where a path starts: at the working directory, named or not, or at the root of all files. Two
slashes in front, and no more, stay two. -/
inductive Anchor where
  | here
  | workingDirectory
  | root
  | twoSlashes
deriving DecidableEq

/-- A path as its parts; `..` is a part, `.` and empty parts are not. -/
structure Path where
  anchor : Anchor
  parts : List String
deriving DecidableEq

namespace Path

def anchorOf (text : List Char) : Anchor :=
  match text with
  | '/' :: '/' :: '/' :: _ => .root
  | '/' :: '/' :: _ => .twoSlashes
  | '/' :: _ => .root
  | _ => .here

def ofString (text : String) : Path where
  anchor := anchorOf text.toList
  parts := (text.splitToList (· == '/')).filter fun part => part != "" && part != "."

def workingDirectory : Path where
  anchor := .workingDirectory
  parts := []

def child (path : Path) (name : String) : Path :=
  { path with parts := path.parts ++ [name] }

end Path

structure SystemFault where
  number : Nat
  text : String
deriving DecidableEq

namespace SystemFault

def missing : SystemFault := { number := 2, text := "No such file or directory" }

def denied : SystemFault := { number := 13, text := "Permission denied" }

def notDirectory : SystemFault := { number := 20, text := "Not a directory" }

def isDirectory : SystemFault := { number := 21, text := "Is a directory" }

def nameTooLong : SystemFault := { number := 36, text := "File name too long" }

def isAbsence (fault : SystemFault) : Bool :=
  [2, 9, 20, 40].contains fault.number

def message (fault : SystemFault) (label : String) : String :=
  "[Errno " ++ toString fault.number ++ "] " ++ fault.text ++ ": " ++ Text.quote label

end SystemFault

/-- What a look at a place finds: nothing but a fault, a directory, or a file, which may not be
readable. -/
inductive FileEntry where
  | barred (fault : SystemFault)
  | directory
  | file (octets : List UInt8)
  | unreadable (fault : SystemFault)
deriving DecidableEq

namespace FileEntry

def missing : FileEntry := barred .missing

/-- Whether there is a file; a look that fails answers nothing unless nothing is there. -/
def isFile : FileEntry → Except SystemFault Bool
  | barred fault => if fault.isAbsence then .ok false else .error fault
  | directory => .ok false
  | file _ => .ok true
  | unreadable _ => .ok true

def isPresent : FileEntry → Except SystemFault Bool
  | barred fault => if fault.isAbsence then .ok false else .error fault
  | _ => .ok true

def read : FileEntry → Except SystemFault (List UInt8)
  | barred fault => .error fault
  | directory => .error .isDirectory
  | file octets => .ok octets
  | unreadable fault => .error fault

end FileEntry

/-- The files and directories below the working directory, by their parts, and those known by their
whole path. Directories on the way to an entry need no entry of their own. -/
structure FileTree where
  workingDirectory : String
  entries : List (List String × FileEntry)
  outside : List (Path × FileEntry) := []

namespace FileTree

def label (tree : FileTree) (path : Path) : String :=
  let parts := "/".intercalate path.parts
  match path.anchor with
  | .here => if path.parts.isEmpty then "." else parts
  | .workingDirectory =>
    if path.parts.isEmpty then tree.workingDirectory
    else if tree.workingDirectory = "/" then "/" ++ parts
    else tree.workingDirectory ++ "/" ++ parts
  | .root => "/" ++ parts
  | .twoSlashes => "//" ++ parts

def entryAt (tree : FileTree) (place : List String) : FileEntry :=
  match tree.entries.lookup place with
  | some entry => entry
  | none =>
    if place.isEmpty || tree.entries.any fun entry => place.isPrefixOf entry.1 then .directory
    else .missing

def rootEntryAt (tree : FileTree) (place : List String) : FileEntry :=
  match tree.outside.lookup { anchor := .root, parts := place } with
  | some entry => entry
  | none => if place.isEmpty then .directory else .missing

def nameLimit : Nat := 255

def pathLimit : Nat := 4095

def octetCount (text : String) : Nat :=
  text.toList.foldl (fun count character => count + character.utf8Size) 0

/-- Follows parts from a place; every part but the last has to lead to a directory. The root is its
own parent; above any other first place nothing but directories on the way up is known. -/
def follow (entryAt : List String → FileEntry) (fromRoot : Bool) :
    (place parts : List String) → FileEntry
  | place, [] => entryAt place
  | place, part :: parts =>
    match entryAt place with
    | .directory =>
      if nameLimit < octetCount part then .barred .nameTooLong
      else if part ≠ ".." then follow entryAt fromRoot (place ++ [part]) parts
      else if ¬ place.isEmpty then follow entryAt fromRoot place.dropLast parts
      else if fromRoot then follow entryAt fromRoot [] parts
      else if parts.all (· == "..") then .directory
      else .missing
    | .barred fault => .barred fault
    | _ => .barred .notDirectory

def find (tree : FileTree) (path : Path) : FileEntry :=
  if pathLimit < octetCount (tree.label path) then .barred .nameTooLong
  else
    match tree.outside.lookup path with
    | some entry => entry
    | none =>
      match path.anchor with
      | .here | .workingDirectory => follow tree.entryAt false [] path.parts
      | .root | .twoSlashes => follow tree.rootEntryAt true [] path.parts

def read (tree : FileTree) (path : Path) : Except SystemFault (List UInt8) :=
  (tree.find path).read

theorem read_of_find {tree : FileTree} {path : Path} {octets : List UInt8}
    (found : tree.find path = .file octets) : tree.read path = .ok octets := by
  rw [read, found]
  rfl

end FileTree

end ColorMarkup
