import Lemmata.Digest.Sha256
import Lemmata.Digest.Hex
import Lemmata.Json.Text
import Lemmata.Query
import Lemmata.Text.Utf8

/-!
# Plans

The calls that answer a query, and which call has to wait for which. A plan is frozen with a
hash over everything that its execution depends on.
-/

namespace Lemmata

/-! ## Digests of values -/

namespace Json

/-- The digest of the canonical text, which does not depend on the order of members. -/
def digest (v : Json) : String :=
  Hex.encode (Sha256.digest (Utf8.encode v.canonical))

end Json

/-! ## Calls -/

structure Call where
  /-- The tool, named by stage first, such as `fetch.diogenes`. -/
  tool : String
  /-- Unique within a plan. -/
  id : String
  endpoint : String
  params : Dict := .empty
  stage : Stage
  priority : Int32 := 0
  /-- A failing optional fetch is skipped, with all that depends on it. -/
  optional : Bool := false
  expects : String := ""
deriving DecidableEq

namespace Call

def param? (c : Call) (name : String) : Option String :=
  c.params.get? name

def withParam (c : Call) (name value : String) : Call :=
  { c with params := c.params.insert name value }

/-- The part of a call that a plan's hash covers: not the priority or the expected type. -/
def identity (c : Call) : Json :=
  .object [
    ("tool", .string c.tool), ("call_id", .string c.id), ("endpoint", .string c.endpoint),
    ("params", .ofDict c.params), ("stage", .string c.stage.name), ("optional", .bool c.optional)]

def idLe (a b : Call) : Bool :=
  nameLe a.id b.id

end Call

/-- The blocker has to complete before the blocked call may start. -/
structure Dependency where
  blocker : String
  blocked : String
  rationale : Option String := none
deriving DecidableEq

namespace Dependency

def ends (d : Dependency) : String × String :=
  (d.blocker, d.blocked)

def identity (ends : String × String) : Json :=
  Json.ofStrings [ends.1, ends.2]

def endsLe (a b : String × String) : Bool :=
  if a.1 = b.1 then nameLe a.2 b.2 else nameLe a.1 b.1

end Dependency

/-! ## Plans -/

structure Plan where
  id : String
  hash : String
  query : Query
  calls : List Call
  dependencies : List Dependency
deriving DecidableEq

namespace Plan

/-- What the hash is taken of: calls and dependencies count in a fixed order. -/
def material (query : Query) (calls : List Call) (dependencies : List Dependency) : Json :=
  .object [
    ("query", query.identity),
    ("calls", .array ((calls.mergeSort Call.idLe).map Call.identity)),
    ("dependencies", .array
      (((dependencies.map Dependency.ends).mergeSort Dependency.endsLe).map Dependency.identity))]

def freeze (id : String) (query : Query) (calls : List Call) (dependencies : List Dependency) :
    Plan where
  id := id
  hash := (material query calls dependencies).digest
  query := query
  calls := calls
  dependencies := dependencies

def isEmpty (p : Plan) : Bool :=
  p.calls.isEmpty

def call? (p : Plan) (id : String) : Option Call :=
  p.calls.find? fun c => c.id == id

def callIds (p : Plan) : List String :=
  p.calls.map Call.id

def callsIn (p : Plan) (stage : Stage) : List Call :=
  p.calls.filter fun c => c.stage = stage

/-- What has to complete before a call, ascending. -/
def blockers (p : Plan) (id : String) : List String :=
  distinctSorted <| (p.dependencies.filter fun d => d.blocked == id).map Dependency.blocker

end Plan

end Lemmata
