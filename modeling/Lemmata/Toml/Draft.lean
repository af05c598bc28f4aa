import Lemmata.Toml.Scalar

/-!
# Tables under construction

A table may be filled from several places, and the rules on who may add to it depend on how it
came about: by a header, by a deeper header, or by a dotted key.
-/

namespace Lemmata.Toml

inductive Draft where
  /-- A value, which is closed; inline tables are values. -/
  | value (value : Toml)
  /-- `implicit` tables have no header of their own; `dotted` ones come from a dotted key. -/
  | table (implicit dotted : Bool) (members : List (String × Draft))
  /-- Tables under one repeated header; the last one is open. -/
  | tables (items : List (List (String × Draft)))

namespace Draft

abbrev Members := List (String × Draft)

def set (key : String) (value : Draft) : Members → Members
  | [] => [(key, value)]
  | (k, v) :: rest => if k = key then (key, value) :: rest else (k, v) :: set key value rest

/-- Changes the last of the tables under a repeated header. -/
def changeLast (change : Members → Option Members) : List Members → Option (List Members)
  | [] => none
  | [last] => (change last).map fun changed => [changed]
  | first :: rest => (changeLast change rest).map fun changed => first :: changed

/-- Changes the table that a header's path leads to; tables on the way come about as needed. -/
def changeAt (change : Members → Option Members) : (path : List String) → Members →
    Option Members
  | [], members => change members
  | key :: path, members =>
    match members.lookup key with
    | none => (changeAt change path []).map fun sub => set key (.table true false sub) members
    | some (.table implicit dotted sub) =>
      (changeAt change path sub).map fun sub => set key (.table implicit dotted sub) members
    | some (.tables items) =>
      (changeLast (changeAt change path) items).map fun items => set key (.tables items) members
    | some (.value _) => none

/-- A header opens a new table, or one that has no header yet. -/
def openTable (key : String) (members : Members) : Option Members :=
  match members.lookup key with
  | none => some (set key (.table false false []) members)
  | some (.table true false sub) => some (set key (.table false false sub) members)
  | some _ => none

/-- A repeated header adds a table. -/
def addTable (key : String) (members : Members) : Option Members :=
  match members.lookup key with
  | none => some (set key (.tables [[]]) members)
  | some (.tables items) => some (set key (.tables (items ++ [[]])) members)
  | some _ => none

def addNew (key : String) (value : Toml) (members : Members) : Option Members :=
  match members.lookup key with
  | none => some (members ++ [(key, .value value)])
  | some _ => none

/-- Adds a value under a dotted key. All tables on the way have to be without a header, and the
one that gets the value has to come from a dotted key. -/
def addAt (value : Toml) : (path : List String) → Members → Option Members
  | [], _ => none
  | [key], members => addNew key value members
  | key :: path, members =>
    match members.lookup key with
    | none => (addAt value path []).map fun sub => set key (.table true true sub) members
    | some (.table implicit dotted sub) =>
      if implicit && (dotted || 1 < path.length) then
        (addAt value path sub).map fun sub => set key (.table implicit dotted sub) members
      else none
    | some (.tables items) =>
      if 1 < path.length then
        (changeLast (addAt value path) items).map fun items => set key (.tables items) members
      else none
    | some (.value _) => none

mutual
def close : Draft → Toml
  | .value v => v
  | .table _ _ members => .table (closeMembers members)
  | .tables items => .array (closeItems items)

def closeMembers : Members → List (String × Toml)
  | [] => []
  | (key, v) :: rest => (key, close v) :: closeMembers rest

def closeItems : List Members → List Toml
  | [] => []
  | members :: rest => .table (closeMembers members) :: closeItems rest
end

end Draft

end Lemmata.Toml
