/-!
# Paths

Paths are written with slashes. A path that starts with one is absolute; empty parts and a dot
inside a path mean nothing.
-/

namespace Lemmata

inductive PathComponent where
  | root
  /-- A dot at the front of a relative path. -/
  | current
  | parent
  | normal (name : String)
deriving DecidableEq, Repr

namespace Path

def isAbsolute (path : String) : Bool :=
  path.toList.head? == some '/'

/-- The parts between the slashes. -/
def partsOf : List Char → List (List Char)
  | [] => [[]]
  | c :: rest =>
    if c = '/' then [] :: partsOf rest
    else match partsOf rest with
      | part :: parts => (c :: part) :: parts
      | [] => [[c]]

def component? (part : List Char) : Option PathComponent :=
  if part = [] ∨ part = ['.'] then none
  else if part = ['.', '.'] then some .parent
  else some (.normal (String.ofList part))

/-- What a path starts with, apart from its named parts. -/
def start (path : List Char) : List PathComponent :=
  match path with
  | '/' :: _ => [.root]
  | ['.'] => [.current]
  | '.' :: '/' :: _ => [.current]
  | _ => []

def componentsOf (path : List Char) : List PathComponent :=
  start path ++ (partsOf path).filterMap component?

def components (path : String) : List PathComponent :=
  componentsOf path.toList

def isNormal : PathComponent → Bool
  | .normal _ => true
  | _ => false

def joinChars (base added : List Char) : List Char :=
  if added.head? = some '/' then added
  else if base.isEmpty ∨ base.getLast? = some '/' then base ++ added
  else base ++ '/' :: added

/-- An absolute path stays as it is; any other goes on where the first one ends. -/
def join (base added : String) : String :=
  String.ofList (joinChars base.toList added.toList)

/-! ## File names -/

def fileName? (path : String) : Option String :=
  match (components path).getLast? with
  | some (.normal name) => some name
  | _ => none

/-- What follows the last dot of a name, unless that dot is its first character. -/
def extensionOf? (name : List Char) : Option (List Char) :=
  let reversed := name.reverse
  match reversed.dropWhile (· != '.') with
  | _ :: _ :: _ => some (reversed.takeWhile (· != '.')).reverse
  | _ => none

def extension? (path : String) : Option String :=
  (fileName? path).bind fun name => (extensionOf? name.toList).map String.ofList

/-- The path without its last component. -/
def parent? (path : String) : Option String :=
  match (components path).getLast? with
  | none | some .root => none
  | some _ =>
    let trimmed := (path.toList.reverse.dropWhile (· == '/')).dropWhile (· != '/')
    let kept := trimmed.dropWhile (· == '/')
    some <| if kept.isEmpty && !trimmed.isEmpty then "/" else String.ofList kept.reverse

/-! ## The home directory -/

/-- A path that starts with a tilde and a slash is in the home directory. -/
def expandTilde (home path : String) : String :=
  match path.toList with
  | '~' :: '/' :: rest => join home (String.ofList rest)
  | _ => path

end Path

end Lemmata
