import Lemmata.Digest.Hex
import Lemmata.Json.Basic

/-!
# Written JSON

The compact text of a value: no blanks, members in the order of the list. The canonical text
sorts the members first, so it does not depend on their order.
-/

namespace Lemmata.Json

/-! ## Strings -/

/-- A quote, a backslash and the control characters are escaped, nothing else. -/
def escape (c : Char) : List Char :=
  if c = '"' then ['\\', '"']
  else if c = '\\' then ['\\', '\\']
  else if c = '\x08' then ['\\', 'b']
  else if c = '\x0C' then ['\\', 'f']
  else if c = '\n' then ['\\', 'n']
  else if c = '\r' then ['\\', 'r']
  else if c = '\t' then ['\\', 't']
  else if c.toNat < 0x20 then
    ['\\', 'u', '0', '0', Hex.digit (c.toNat / 16), Hex.digit (c.toNat % 16)]
  else [c]

def quoted (s : String) : List Char :=
  '"' :: s.toList.flatMap escape ++ ['"']

/-! ## Values -/

mutual
def chars : Json → List Char
  | .null => ['n', 'u', 'l', 'l']
  | .bool true => ['t', 'r', 'u', 'e']
  | .bool false => ['f', 'a', 'l', 's', 'e']
  | .number n => n.text
  | .string s => quoted s
  | .array [] => ['[', ']']
  | .array (v :: rest) => '[' :: chars v ++ charsItems rest
  | .object [] => ['\x7b', '\x7d']
  | .object ((key, v) :: rest) => '\x7b' :: quoted key ++ ':' :: chars v ++ charsMembers rest

/-- The items after the first, and the closing bracket. -/
def charsItems : List Json → List Char
  | [] => [']']
  | v :: rest => ',' :: chars v ++ charsItems rest

/-- The members after the first, and the closing brace. -/
def charsMembers : List (String × Json) → List Char
  | [] => ['\x7d']
  | (key, v) :: rest => ',' :: quoted key ++ ':' :: chars v ++ charsMembers rest
end

def text (v : Json) : String :=
  String.ofList v.chars

/-! ## The canonical form -/

def keyLe (a b : String × Json) : Bool :=
  decide (a.1 ≤ b.1)

mutual
/-- Sorts the members at every depth by key, in the order of code points. -/
def sorted : Json → Json
  | .array items => .array (sortedItems items)
  | .object members => .object ((sortedMembers members).mergeSort keyLe)
  | v => v

def sortedItems : List Json → List Json
  | [] => []
  | v :: rest => sorted v :: sortedItems rest

def sortedMembers : List (String × Json) → List (String × Json)
  | [] => []
  | (key, v) :: rest => (key, sorted v) :: sortedMembers rest
end

def canonical (v : Json) : String :=
  text (sorted v)

/-! ## The indented form -/

def newline (indent : Nat) : List Char :=
  '\n' :: List.replicate (2 * indent) ' '

mutual
/-- One item or member per line, two blanks deeper than the brackets. -/
def indented (indent : Nat) : Json → List Char
  | .array (v :: rest) =>
    '[' :: newline (indent + 1) ++ indented (indent + 1) v ++ indentedItems indent rest
  | .object ((key, v) :: rest) =>
    '\x7b' :: newline (indent + 1) ++ quoted key ++ ':' :: ' ' :: indented (indent + 1) v
      ++ indentedMembers indent rest
  | v => chars v

def indentedItems (indent : Nat) : List Json → List Char
  | [] => newline indent ++ [']']
  | v :: rest =>
    ',' :: newline (indent + 1) ++ indented (indent + 1) v ++ indentedItems indent rest

def indentedMembers (indent : Nat) : List (String × Json) → List Char
  | [] => newline indent ++ ['\x7d']
  | (key, v) :: rest =>
    ',' :: newline (indent + 1) ++ quoted key ++ ':' :: ' ' :: indented (indent + 1) v
      ++ indentedMembers indent rest
end

def pretty (v : Json) : String :=
  String.ofList (indented 0 v)

end Lemmata.Json
