import Lemmata.Digest.Uuid
import Lemmata.Json.Traverse
import Lemmata.Json.Text

/-!
# Numbers for fresh IDs

Two runs of the same query differ in their fresh IDs. Here the IDs in a value are replaced by
numbers in the order of their first appearance, so the same runs give the same values. An ID is a
label, a dash and groups of hex digits; each label counts on its own.
-/

namespace Lemmata.Numbering

/-- A label and the lengths of the groups behind it. -/
abbrev Label := String × List Nat

def planLabel : Label := ("plan", Uuid.groups)

/-- The labels of plans and of all effects. -/
def allLabels : List Label :=
  [planLabel, ("raw", [32]), ("ext", [32]), ("drv", [32]), ("clm", [32])]

def isHexDigit (c : Char) : Bool :=
  c.isDigit || (decide ('a' ≤ c) && decide (c ≤ 'f'))

/-! ## Finding an ID -/

/-- The groups at the front, joined by dashes, and what follows them. -/
def groupsAt? : List Nat → List Char → Option (List Char × List Char)
  | [], cs => some ([], cs)
  | n :: more, cs =>
    let group := cs.take n
    if group.length = n ∧ group.all isHexDigit then
      match more, cs.drop n with
      | [], rest => some (group, rest)
      | _ :: _, '-' :: rest =>
        (groupsAt? more rest).map fun (found, rest) => (group ++ '-' :: found, rest)
      | _ :: _, _ => none
    else none

/-- The label, the ID and the rest of a text that starts with an ID. -/
def idAt? (labels : List Label) (cs : List Char) : Option (String × String × List Char) :=
  labels.findSome? fun (label, groups) =>
    let start := label.toList ++ ['-']
    if start.isPrefixOf cs then
      (groupsAt? groups (cs.drop start.length)).map fun (found, rest) =>
        (label, String.ofList found, rest)
    else none

/-! ## Numbering -/

/-- The labels and IDs that were seen, in the order of their first appearance. -/
abbrev Seen := List (String × String)

def see (seen : Seen) (label id : String) : Seen :=
  if seen.contains (label, id) then seen else seen ++ [(label, id)]

def numberOf (seen : Seen) (label id : String) : Nat :=
  ((seen.filter fun entry => entry.1 == label).idxOf (label, id)) + 1

/-- Each call takes a character at least; `done` holds those before, the last one first. -/
def numberChars (labels : List Label) :
    (fuel : Nat) → Seen → List Char → List Char → Seen × List Char
  | 0, seen, done, cs => (seen, done.reverse ++ cs)
  | _ + 1, seen, done, [] => (seen, done.reverse)
  | fuel + 1, seen, done, c :: cs =>
    match idAt? labels (c :: cs) with
    | none => numberChars labels fuel seen (c :: done) cs
    | some (label, id, rest) =>
      let seen := see seen label id
      let number := s!"{label}#{numberOf seen label id}".toList
      numberChars labels fuel seen (number.reverse ++ done) rest

def numberText (labels : List Label) (seen : Seen) (text : String) : Seen × String :=
  let (seen, cs) := numberChars labels text.length seen [] text.toList
  (seen, String.ofList cs)

/-- The value with numbers for its IDs; members count in the order of their keys. -/
def apply (labels : List Label) (v : Json) : Json :=
  (Json.thread (numberText labels) [] v.sorted).2

end Lemmata.Numbering
