import Lemmata.Plan.Executed

/-!
# Plans in JSON
-/

namespace Lemmata.Json

def decodeStage : Decoder Stage := decodeName Stage.ofName?

def ofStage (stage : Stage) : Json := .string stage.name

def decodeCall : Decoder Call := fun v => do
  let r ← record? ["tool", "call_id", "endpoint", "params", "stage", "priority", "optional",
    "expected_response_type"] v
  let tool ← r.get "tool" decodeString
  let id ← r.get "call_id" decodeString
  let endpoint ← r.get "endpoint" decodeString
  let params ← r.getD "params" decodeDict .empty
  let stage ← r.get "stage" decodeStage
  let priority ← r.getD "priority" decodeInt32 0
  let optional ← r.getD "optional" decodeBool false
  let expects ← r.getD "expected_response_type" decodeString ""
  some { tool, id, endpoint, params, stage, priority, optional, expects }

def ofCall (c : Call) : Json :=
  .object [
    ("tool", .string c.tool), ("call_id", .string c.id), ("endpoint", .string c.endpoint),
    ("params", ofDict c.params), ("stage", ofStage c.stage), ("priority", ofInt32 c.priority),
    ("optional", .bool c.optional), ("expected_response_type", .string c.expects)]

def decodeDependency : Decoder Dependency := fun v => do
  let r ← record? ["from_call_id", "to_call_id", "rationale"] v
  let blocker ← r.get "from_call_id" decodeString
  let blocked ← r.get "to_call_id" decodeString
  let rationale ← r.getOption "rationale" decodeString
  some { blocker, blocked, rationale }

def ofDependency (d : Dependency) : Json :=
  .object [
    ("from_call_id", .string d.blocker), ("to_call_id", .string d.blocked),
    ("rationale", ofOptionString d.rationale)]

def decodePlan : Decoder Plan := fun v => do
  let r ← record? ["plan_id", "plan_hash", "query", "tool_calls", "dependencies"] v
  let id ← r.get "plan_id" decodeString
  let hash ← r.get "plan_hash" decodeString
  let query ← r.get "query" decodeQuery
  let calls ← r.get "tool_calls" (decodeList decodeCall)
  let dependencies ← r.get "dependencies" (decodeList decodeDependency)
  some { id, hash, query, calls, dependencies }

def ofPlan (p : Plan) : Json :=
  .object [
    ("plan_id", .string p.id), ("plan_hash", .string p.hash), ("query", ofQuery p.query),
    ("tool_calls", .array (p.calls.map ofCall)),
    ("dependencies", .array (p.dependencies.map ofDependency))]

def decodeReference : Decoder Reference := fun v => do
  let r ← record? ["tool", "call_id", "response_id", "stage", "cached"] v
  let tool ← r.get "tool" decodeString
  let callId ← r.get "call_id" decodeString
  let effectId ← r.get "response_id" decodeString
  let stage ← r.get "stage" decodeStage
  let cached ← r.get "cached" decodeBool
  some { tool, callId, effectId, stage, cached }

def ofReference (r : Reference) : Json :=
  .object [
    ("tool", .string r.tool), ("call_id", .string r.callId), ("response_id", .string r.effectId),
    ("stage", ofStage r.stage), ("cached", .bool r.cached)]

def decodeExecutedPlan : Decoder ExecutedPlan := fun v => do
  let r ← record? ["plan_id", "plan_hash", "responses", "execution_time_ms", "from_cache"] v
  let planId ← r.get "plan_id" decodeString
  let planHash ← r.get "plan_hash" decodeString
  let references ← r.get "responses" (decodeList decodeReference)
  let durationMs ← r.get "execution_time_ms" decodeUInt64
  let fromCache ← r.get "from_cache" decodeBool
  some { planId, planHash, references, durationMs, fromCache }

def ofExecutedPlan (e : ExecutedPlan) : Json :=
  .object [
    ("plan_id", .string e.planId), ("plan_hash", .string e.planHash),
    ("responses", .array (e.references.map ofReference)),
    ("execution_time_ms", ofUInt64 e.durationMs), ("from_cache", .bool e.fromCache)]

end Lemmata.Json
