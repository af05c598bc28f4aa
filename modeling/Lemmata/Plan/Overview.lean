import Lemmata.Plan.Json
import Lemmata.Plan.Layers

/-!
# Overview of a plan

A plan with what follows from it: what blocks each call, the calls of each stage, and its layers.
-/

namespace Lemmata.Plan

/-- The blockers of every call, and of every name that a dependency blocks. -/
def blockersByCall (p : Plan) : List (String × Json) :=
  (p.callIds ++ p.dependencies.map Dependency.blocked).foldl
    (fun members id => Json.insertMember id (.ofStrings (p.blockers id)) members) []

def callsByStage (p : Plan) : List (String × Json) :=
  Stage.all.map fun stage => (stage.name, .ofStrings ((p.callsIn stage).map Call.id))

/-- The overview; `failed` shows why there are no layers. -/
def overview (p : Plan) (failed : Failure → Json) : Json :=
  let layers := match p.layers with
    | .ok layers => .array (layers.map Json.ofStrings)
    | .error failure => failed failure
  .object [
    ("plan", .ofPlan p), ("is_empty", .bool p.isEmpty), ("blockers", .object p.blockersByCall),
    ("stages", .object p.callsByStage), ("waves", layers)]

end Lemmata.Plan
