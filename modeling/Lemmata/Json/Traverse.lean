import Lemmata.Json.Basic

/-!
# Going through a value

Changes at every depth of a value. The strings of a value are its string values; the keys of its
objects are none.
-/

namespace Lemmata.Json

mutual
/-- Drops the members with one of these keys. -/
def without (keys : List String) : Json → Json
  | .array items => .array (withoutItems keys items)
  | .object members => .object (withoutMembers keys members)
  | v => v

def withoutItems (keys : List String) : List Json → List Json
  | [] => []
  | v :: rest => without keys v :: withoutItems keys rest

def withoutMembers (keys : List String) : List (String × Json) → List (String × Json)
  | [] => []
  | (key, v) :: rest =>
    if keys.contains key then withoutMembers keys rest
    else (key, without keys v) :: withoutMembers keys rest
end

mutual
/-- Changes the strings one after the other, with a state. -/
def thread {σ : Type} (change : σ → String → σ × String) (state : σ) : Json → σ × Json
  | .string s =>
    let (state, s) := change state s
    (state, .string s)
  | .array items =>
    let (state, items) := threadItems change state items
    (state, .array items)
  | .object members =>
    let (state, members) := threadMembers change state members
    (state, .object members)
  | v => (state, v)

def threadItems {σ : Type} (change : σ → String → σ × String) (state : σ) :
    List Json → σ × List Json
  | [] => (state, [])
  | v :: rest =>
    let (state, v) := thread change state v
    let (state, rest) := threadItems change state rest
    (state, v :: rest)

def threadMembers {σ : Type} (change : σ → String → σ × String) (state : σ) :
    List (String × Json) → σ × List (String × Json)
  | [] => (state, [])
  | (key, v) :: rest =>
    let (state, v) := thread change state v
    let (state, rest) := threadMembers change state rest
    (state, (key, v) :: rest)
end

def mapStrings (f : String → String) (v : Json) : Json :=
  (thread (fun (_ : Unit) s => ((), f s)) () v).2

end Lemmata.Json
