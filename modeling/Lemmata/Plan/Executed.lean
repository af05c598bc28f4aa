import Lemmata.Plan.Basic

/-!
# Executed plans

The summary of a run: which effect each call produced.
-/

namespace Lemmata

/-- The effect that a call produced; the stage tells which table holds it. -/
structure Reference where
  tool : String
  callId : String
  effectId : String
  stage : Stage
  cached : Bool
deriving DecidableEq

structure ExecutedPlan where
  planId : String
  planHash : String
  references : List Reference
  durationMs : UInt64
  fromCache : Bool
deriving DecidableEq

namespace ExecutedPlan

/-- The same summary, marked as served from the cache. -/
def intoCached (e : ExecutedPlan) : ExecutedPlan :=
  { e with
    fromCache := true
    references := e.references.map fun r => { r with cached := true } }

end ExecutedPlan

end Lemmata
