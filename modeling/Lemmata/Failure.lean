import Lemmata.Stage
import Lemmata.Text.Quoted

/-!
# Failures

Every way a lookup can end without an answer, and the text shown for it.
-/

namespace Lemmata

/-- A number that leaves the range of the clock, the date or the worker pool. -/
inductive Quantity where
  | deadline
  | concurrency
  | cutoff
deriving DecidableEq, Repr

inductive Failure where
  | storage (text : String)
  | transport (text : String)
  | serialization (text : String)
  | notFound (text : String)
  | config (text : String)
  | duplicateCall (planId callId : String)
  | unknownDependency (planId callId : String)
  | cycle (planId : String) (pending : List String)
  | missingClient (planId callId tool : String)
  | missingHandler (planId callId : String) (stage : Stage) (tool : String)
  | missingSource (planId callId : String) (stage : Stage)
  | fetchFailed (planId callId : String) (status : Int32)
  | clientFailed (planId callId tool text : String)
  | handlerFailed (planId callId : String) (stage : Stage) (text : String)
  | timeout (planId : String) (completed : List String)
  | outOfRange (quantity : Quantity)
deriving DecidableEq

namespace Failure

/-- The name of its kind. -/
def kind : Failure → String
  | storage _ => "Storage"
  | transport _ => "Transport"
  | serialization _ => "Serialization"
  | notFound _ => "NotFound"
  | config _ => "Config"
  | duplicateCall _ _ => "DuplicateCallId"
  | unknownDependency _ _ => "UnknownDependency"
  | cycle _ _ => "Cycle"
  | missingClient _ _ _ => "MissingClient"
  | missingHandler _ _ _ _ => "MissingHandler"
  | missingSource _ _ _ => "MissingUpstream"
  | fetchFailed _ _ _ => "FetchFailed"
  | clientFailed _ _ _ _ => "ClientFailed"
  | handlerFailed _ _ _ _ => "Handler"
  | timeout _ _ => "Timeout"
  | outOfRange _ => "OutOfRange"

def unreadable : Failure := .serialization "stored text cannot be read"

def message : Failure → String
  | storage text => s!"Storage error: {text}"
  | transport text => s!"Transport error: {text}"
  | serialization text => s!"Serialization error: {text}"
  | notFound text => s!"Not found: {text}"
  | config text => s!"Config error: {text}"
  | duplicateCall plan call => s!"Plan {plan}: duplicate call_id {call}"
  | unknownDependency plan call =>
    s!"Plan {plan}: dependency references unknown call_id {call}"
  | cycle plan pending =>
    s!"Plan {plan}: dependency cycle among calls {Quoted.list pending}"
  | missingClient plan call tool =>
    s!"Plan {plan}: no client registered for tool {tool} (call {call})"
  | missingHandler plan call stage tool =>
    s!"Plan {plan}: no {stage.name} handler registered for tool {tool} (call {call})"
  | missingSource plan call stage =>
    s!"Plan {plan}: call {call} ({stage.name}) has no upstream effect"
  | fetchFailed plan call status =>
    s!"Plan {plan}: fetch {call} failed with status {status.toInt}"
  | clientFailed plan call tool text =>
    s!"Plan {plan}: client for tool {tool} failed on call {call}: {text}"
  | handlerFailed plan call stage text =>
    s!"Plan {plan}: {stage.name} handler failed for call {call}: {text}"
  | timeout plan completed =>
    s!"Plan {plan}: deadline exceeded after {completed.length} completed calls"
  | outOfRange .deadline => "the deadline is out of the clock's range"
  | outOfRange .concurrency => "the concurrency limit is out of range"
  | outOfRange .cutoff => "the cutoff is out of the calendar's range"

end Failure

end Lemmata
