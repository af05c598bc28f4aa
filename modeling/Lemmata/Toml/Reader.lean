import Lemmata.Toml.Draft

/-!
# Reading TOML

A text is read line by line into one table. The `fuel` of the readers bounds the characters left
to read.
-/

namespace Lemmata.Toml

namespace Reader

/-! ## Blanks and comments -/

/-- The rest of the line after a comment, if the comment is well-formed. -/
def skipComment : List Char → List Char
  | '#' :: rest => rest.dropWhile isCommentChar
  | cs => cs

/-- The next line, if nothing but a comment is left on this one. -/
def nextLine? (cs : List Char) : Option (List Char) :=
  match skipComment (skipSpaces cs) with
  | [] => some []
  | rest => afterLineEnd? rest

/-- Skips blanks, comments and line ends, which may stand between the items of an array. -/
def skipLines : (fuel : Nat) → List Char → List Char
  | 0, cs => cs
  | fuel + 1, cs =>
    let rest := skipComment (skipSpaces cs)
    match afterLineEnd? rest with
    | some next => skipLines fuel next
    | none => rest

/-! ## Keys -/

def isBareKeyChar (c : Char) : Bool :=
  c.isAlphanum || c == '_' || c == '-'

def simpleKey? (fuel : Nat) (cs : List Char) : Option (String × List Char) :=
  match cs with
  | '"' :: rest => basicAfter fuel "" rest
  | '\'' :: rest => literalAfter "" rest
  | _ =>
    let key := cs.takeWhile isBareKeyChar
    if key.isEmpty then none else some (String.ofList key, cs.dropWhile isBareKeyChar)

/-- How deep arrays, inline tables and keys may go. -/
def depthLimit : Nat := 80

/-- A key, whose parts are separated by dots. -/
def keyWithin : (fuel : Nat) → List Char → Option (List String × List Char)
  | 0, _ => none
  | fuel + 1, cs => do
    let (part, cs) ← simpleKey? fuel (skipSpaces cs)
    match skipSpaces cs with
    | '.' :: rest =>
      let (parts, cs) ← keyWithin fuel rest
      some (part :: parts, cs)
    | rest => some ([part], rest)

def key? (fuel : Nat) (cs : List Char) : Option (List String × List Char) :=
  (keyWithin fuel cs).filter fun found => found.1.length < depthLimit

/-! ## Values -/

def isWordChar (c : Char) : Bool :=
  c.isAlphanum || c == '_' || c == '.' || c == '+' || c == '-' || c == ':'

/-- A boolean, a number or a moment. -/
def plain? (cs : List Char) : Option (Toml × List Char) :=
  match afterMoment? cs with
  | some rest => some (.moment (String.ofList (cs.take (cs.length - rest.length))), rest)
  | none =>
    let word := cs.takeWhile isWordChar
    let value :=
      if word == "true".toList then some (.boolean true)
      else if word == "false".toList then some (.boolean false)
      else number? word
    value.map fun v => (v, cs.dropWhile isWordChar)

mutual
/-- A value and the rest; `room` is the depth that is left. -/
def value : (fuel room : Nat) → List Char → Option (Toml × List Char)
  | 0, _, _ => none
  | fuel + 1, room, cs =>
    match cs with
    | '"' :: _ | '\'' :: _ => (string? fuel cs).map fun (s, rest) => (.string s, rest)
    | '[' :: rest =>
      match room with
      | 0 => none
      | room + 1 => items fuel room [] rest
    | '\x7b' :: rest =>
      match room with
      | 0 => none
      | room + 1 => inlineTable fuel room rest
    | _ => plain? cs

/-- The rest of an array; `done` holds the items before, the last one first. -/
def items : (fuel room : Nat) → (done : List Toml) → List Char → Option (Toml × List Char)
  | 0, _, _, _ => none
  | fuel + 1, room, done, cs =>
    match skipLines fuel cs with
    | ']' :: rest => some (.array done.reverse, rest)
    | cs =>
      match value fuel room cs with
      | none => none
      | some (v, cs) =>
        match skipLines fuel cs with
        | ',' :: rest => items fuel room (v :: done) rest
        | ']' :: rest => some (.array (v :: done).reverse, rest)
        | _ => none

/-- An inline table after the opening brace. -/
def inlineTable : (fuel room : Nat) → List Char → Option (Toml × List Char)
  | 0, _, _ => none
  | fuel + 1, room, cs =>
    match skipSpaces cs with
    | '\x7d' :: rest => some (.table [], rest)
    | cs => inlineMembers fuel room [] cs

def inlineMembers : (fuel room : Nat) → Draft.Members → List Char → Option (Toml × List Char)
  | 0, _, _, _ => none
  | fuel + 1, room, done, cs =>
    match key? fuel cs with
    | some (path, '=' :: cs) =>
      match value fuel room (skipSpaces cs) with
      | none => none
      | some (v, cs) =>
        match Draft.addAt v path done with
        | none => none
        | some done =>
          match skipSpaces cs with
          | ',' :: rest => inlineMembers fuel room done rest
          | '\x7d' :: rest => some (.table (Draft.closeMembers done), rest)
          | _ => none
    | _ => none
end

/-! ## Lines -/

/-- The document so far, and the path of the table that is open. -/
structure State where
  root : Draft.Members
  path : List String

/-- A header that opens a table. -/
def tableHeader (fuel : Nat) (s : State) (cs : List Char) : Option (State × List Char) := do
  let (path, cs) ← key? fuel cs
  let key ← path.getLast?
  let root ← Draft.changeAt (Draft.openTable key) path.dropLast s.root
  let rest ← afterChar? ']' cs
  some (⟨root, path⟩, rest)

/-- A header that adds a table to an array. -/
def repeatedHeader (fuel : Nat) (s : State) (cs : List Char) : Option (State × List Char) := do
  let (path, cs) ← key? fuel cs
  let key ← path.getLast?
  let root ← Draft.changeAt (Draft.addTable key) path.dropLast s.root
  let rest ← afterChar? ']' (← afterChar? ']' cs)
  some (⟨root, path⟩, rest)

def member (fuel : Nat) (s : State) (cs : List Char) : Option (State × List Char) := do
  let (path, cs) ← key? fuel cs
  let cs ← afterChar? '=' cs
  let (v, rest) ← value fuel (depthLimit - 1) (skipSpaces cs)
  let root ← Draft.changeAt (Draft.addAt v path) s.path s.root
  some (⟨root, s.path⟩, rest)

def entry (fuel : Nat) (s : State) (cs : List Char) : Option (State × List Char) :=
  match cs with
  | '[' :: '[' :: rest => repeatedHeader fuel s rest
  | '[' :: rest => tableHeader fuel s rest
  | _ => member fuel s cs

def isEmptyLine (cs : List Char) : Bool :=
  match cs with
  | [] | '#' :: _ | '\n' :: _ | '\r' :: _ => true
  | _ => false

/-- Reads line after line. Of any two nested readers one takes a character. -/
def lines : (fuel : Nat) → State → List Char → Option State
  | 0, _, _ => none
  | fuel + 1, s, cs =>
    match skipSpaces cs with
    | [] => some s
    | cs =>
      if isEmptyLine cs then
        match nextLine? cs with
        | some rest => lines fuel s rest
        | none => none
      else
        match entry fuel s cs with
        | none => none
        | some (s, rest) =>
          match nextLine? rest with
          | some rest => lines fuel s rest
          | none => none

def dropMark : List Char → List Char
  | '\uFEFF' :: rest => rest
  | cs => cs

end Reader

/-- The table of a whole text. -/
def parse? (text : String) : Option (List (String × Toml)) :=
  let cs := Reader.dropMark text.toList
  (Reader.lines (2 * cs.length + 2) ⟨[], []⟩ cs).map fun s => Draft.closeMembers s.root

end Lemmata.Toml
