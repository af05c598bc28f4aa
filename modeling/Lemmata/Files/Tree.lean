import Lemmata.Files.Path
import Lemmata.Files.Read

/-!
# File trees

Files held in memory, by the names on the way to them from the root. A path is followed name by
name, so a file that is used as a directory is a fault of another kind than a missing name.
-/

namespace Lemmata

structure FileTree where
  files : List (List String × List UInt8)
  /-- Directories besides those on the way to a file. -/
  directories : List (List String) := []
deriving DecidableEq

namespace FileTree

/-- The longest name, in bytes. -/
def longestName : Nat := 255

def longestPath : Nat := 4095

/-! ## What is where -/

def file? (t : FileTree) (place : List String) : Option (List UInt8) :=
  t.files.lookup place

def isWayTo (place file : List String) : Bool :=
  place.isPrefixOf file && place.length < file.length

def isDirectory (t : FileTree) (place : List String) : Bool :=
  place.isEmpty || t.directories.any (fun d => place.isPrefixOf d)
    || t.files.any fun entry => isWayTo place entry.1

inductive Place where
  | directory (place : List String)
  | file (place : List String) (content : List UInt8)
  /-- Nothing is there; it could be created if only its last name is missing. -/
  | missing (place : List String)
  | faulty
deriving DecidableEq

def placeAt (t : FileTree) (place : List String) : Place :=
  match t.file? place with
  | some content => .file place content
  | none => if t.isDirectory place then .directory place else .missing place

/-! ## Following a path -/

/-- One part of a path further. -/
def step (t : FileTree) (here : Place) (part : String) : Place :=
  match here with
  | .directory place =>
    if part.isEmpty || part == "." then here
    else if part == ".." then .directory place.dropLast
    else if longestName < part.utf8ByteSize then .faulty
    else t.placeAt (place ++ [part])
  | .file _ _ | .faulty => .faulty
  | .missing place => .missing (place ++ [part])

def partsOf (path : String) : List String :=
  (Path.partsOf path.toList).map String.ofList

/-- The names of a path from the root, as it is written. -/
def namesOf (path : String) : List String :=
  (partsOf path).filter fun part => !part.isEmpty && part != "."

/-- The place of a path; a relative one starts at the place given. -/
def find (t : FileTree) (here : List String) (path : String) : Place :=
  if path.toList.contains '\x00' || longestPath < path.utf8ByteSize then .faulty
  else if path.isEmpty then .missing []
  else
    let start := if Path.isAbsolute path then [] else here
    (partsOf path).foldl t.step (t.placeAt start)

def read (t : FileTree) (here : List String) (path : String) : FileRead :=
  match t.find here path with
  | .file _ content => .content content
  | .missing _ => .missing "no such file"
  | .directory _ => .unreadable "is a directory"
  | .faulty => .unreadable "cannot be followed"

/-- The place where a file can be made, with all directories on the way to it. -/
def placeForFile? (t : FileTree) (here : List String) (path : String) : Option (List String) :=
  match t.find here path with
  | .file place _ => some place
  | .missing place =>
    if place.getLast?.getD "" == "" || place.any fun name => longestName < name.utf8ByteSize
    then none else some place
  | .directory _ | .faulty => none

def add (t : FileTree) (path : String) (content : List UInt8) : FileTree :=
  { t with files := (namesOf path, content) :: t.files }

end FileTree

end Lemmata
