import Lemmata.Store.Basic

/-!
# The cache of executed plans

An executed plan is found by the hash of its plan. Each access is recorded as a written moment, and
entries whose last access was before a cutoff can be pruned.
-/

namespace Lemmata

namespace PlanRow

def ofExecuted (now : Moment) (e : ExecutedPlan) : PlanRow where
  hash := e.planHash
  planId := e.planId
  references := (Json.array (e.references.map Json.ofReference)).text
  durationMs := e.durationMs.toInt64
  lastAccess := now.text

def executed (r : PlanRow) : Except Failure ExecutedPlan := do
  let references ← Column.readJson (Json.decodeList Json.decodeReference) r.references
  .ok {
    planId := r.planId
    planHash := r.hash
    references
    durationMs := Column.readDuration r.durationMs
    fromCache := false }

/-- Moments are compared as they are written. -/
def isOlderThan (cutoff : Moment) (r : PlanRow) : Bool :=
  decide (r.lastAccess < cutoff.text)

end PlanRow

namespace Store

def saveExecuted (s : Store) (now : Moment) (e : ExecutedPlan) : Store :=
  { s with plans := s.plans.put (.ofExecuted now e) }

/-- Records an access; an entry that is not there stays away. -/
def touch (s : Store) (now : Moment) (hash : String) : Store :=
  match s.plans.get? hash with
  | none => s
  | some row => { s with plans := s.plans.put { row with lastAccess := now.text } }

/-- The entry of a hash. The access is recorded even if the entry cannot be read. -/
def findExecuted (s : Store) (now : Moment) (hash : String) :
    Store × Except Failure (Option ExecutedPlan) :=
  (s.touch now hash, readRow PlanRow.executed (s.plans.get? hash))

def wasAccessed (s : Store) (hash : String) : Bool :=
  (s.plans.get? hash).isSome

/-- Drops the entries that were last accessed before the cutoff, and says how many. -/
def prune (s : Store) (cutoff : Moment) : Store × Nat :=
  let kept := s.plans.rows.filter fun r => !r.isOlderThan cutoff
  ({ s with plans := ⟨kept⟩ }, s.plans.size - kept.length)

/-! ## Sizes -/

/-- How many rows each table has. -/
def sizes (s : Store) : List (String × Nat) := [
  ("raw_responses", s.raws.size), ("extractions", s.extractions.size),
  ("derivations", s.derivations.size), ("claims", s.claims.size),
  ("plan_responses", s.plans.size)]

end Store

end Lemmata
