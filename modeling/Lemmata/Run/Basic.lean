import Lemmata.Client.Basic
import Lemmata.Handler
import Lemmata.Plan.Executed
import Lemmata.Plan.Layers

/-!
# A run of a plan

The state of a run between two rounds. A round takes all calls whose blockers have completed: it
first finds the work of each of them, then does all the work, and at last takes in the outcomes in
the order of the call IDs.
-/

namespace Lemmata

structure SkippedCall where
  callId : String
  tool : String
  stage : Stage
  reason : String
deriving DecidableEq

/-- Everything that a run produced. -/
structure Artifacts where
  executed : ExecutedPlan
  raws : List RawResponse
  extractions : List Extraction
  derivations : List Derivation
  claims : List Claim
  skipped : List SkippedCall
deriving DecidableEq

namespace Artifacts

def ofEffects (executed : ExecutedPlan) (effects : List Effect) (skipped : List SkippedCall) :
    Artifacts where
  executed := executed
  raws := effects.filterMap fun | .raw e => some e | _ => none
  extractions := effects.filterMap fun | .extraction e => some e | _ => none
  derivations := effects.filterMap fun | .derivation e => some e | _ => none
  claims := effects.filterMap fun | .claim e => some e | _ => none
  skipped := skipped

end Artifacts

/-! ## What a call has to do -/

inductive Work where
  | fetch (client : Client)
  | extract (handler : ExtractHandler) (raw : RawResponse)
  | derive (handler : DeriveHandler) (extraction : Extraction)
  | claim (handler : ClaimHandler) (derivation : Derivation)

/-- What came of a call. Only a fetch can fail without ending the run, if it is optional. -/
inductive Outcome where
  | completed (effect : Effect)
  | failedFetch (raw : Option RawResponse) (reason : String) (failure : Failure)
  | failed (failure : Failure)
deriving DecidableEq

namespace Outcome

/-- The effect that is written to the store: a response is kept even if it is no success. -/
def written? : Outcome → Option Effect
  | completed effect => some effect
  | failedFetch raw _ _ => raw.map .raw
  | failed _ => none

end Outcome

namespace Work

def outcomeOf {α : Type} (planId : String) (call : Call) (make : α → Effect) :
    Except String α → Outcome
  | .ok effect => .completed (make effect)
  | .error text => .failed (.handlerFailed planId call.id call.stage text)

/-- The response as it is stored: stamped with the tool, and timed if the client did not. -/
def stamp (tool : String) (durationMs : UInt64) (raw : RawResponse) : RawResponse :=
  { raw with
    tool := tool
    durationMs := if raw.durationMs = 0 then durationMs else raw.durationMs }

def fetchOutcome (planId : String) (call : Call) (durationMs : UInt64) (client : Client) :
    Outcome :=
  match client.execute call.id call.endpoint call.params with
  | .error failure =>
    .failedFetch none failure.message (.clientFailed planId call.id call.tool failure.message)
  | .ok raw =>
    let raw := stamp call.tool durationMs raw
    if client.isSuccess raw then .completed (.raw raw)
    else
      .failedFetch (some raw) s!"status {raw.status.toInt}"
        (.fetchFailed planId call.id raw.status)

def perform (planId : String) (call : Call) (durationMs : UInt64) : Work → Outcome
  | .fetch client => fetchOutcome planId call durationMs client
  | .extract handler raw =>
    outcomeOf planId call (fun e => .extraction { e with durationMs }) (handler call raw)
  | .derive handler extraction =>
    outcomeOf planId call (fun e => .derivation { e with durationMs }) (handler call extraction)
  | .claim handler derivation =>
    outcomeOf planId call (fun e => .claim { e with durationMs }) (handler call derivation)

end Work

/-! ## The state -/

structure RunState where
  /-- The calls that are neither completed nor skipped, ascending by ID. -/
  pending : List String
  /-- The completed calls with their effects, in the order of completion. -/
  produced : List (Call × Effect)
  /-- The effects to report: those produced, and the responses of optional fetches that failed. -/
  effects : List Effect
  skipped : List SkippedCall

namespace RunState

def initial (plan : Plan) : RunState where
  pending := sortNames plan.callIds
  produced := []
  effects := []
  skipped := []

def produced? (s : RunState) (callId : String) : Option Effect :=
  (s.produced.find? fun p => p.1.id == callId).map Prod.snd

def isSkipped (s : RunState) (callId : String) : Bool :=
  s.skipped.any fun c => c.callId == callId

def completed (s : RunState) : List String :=
  s.produced.map fun p => p.1.id

def reference (p : Call × Effect) : Reference where
  tool := p.1.tool
  callId := p.1.id
  effectId := p.2.id
  stage := p.1.stage
  cached := false

def drop (s : RunState) (callId : String) : RunState :=
  { s with pending := s.pending.filter (· != callId) }

def skip (s : RunState) (call : Call) (reason : String) : RunState :=
  { s.drop call.id with
    skipped := s.skipped ++ [⟨call.id, call.tool, call.stage, reason⟩] }

def complete (s : RunState) (call : Call) (effect : Effect) : RunState :=
  { s.drop call.id with
    produced := s.produced ++ [(call, effect)]
    effects := s.effects ++ [effect] }

/-! ## Skipping -/

/-- The pending calls with a skipped blocker, each with the least such one. -/
def blockedBySkipped (s : RunState) (plan : Plan) : List (String × String) :=
  s.pending.filterMap fun callId =>
    ((plan.blockers callId).find? s.isSkipped).map fun blocker => (callId, blocker)

def skipBlockedCall (plan : Plan) (s : RunState) (entry : String × String) : RunState :=
  match plan.call? entry.1 with
  | some call => s.skip call s!"upstream call {entry.2} was skipped"
  | none => s.drop entry.1

/-- Skips what depends on a skipped call, directly first and then further down. Each round but the
last one takes a pending call. -/
def skipBlockedWithin (plan : Plan) : (rounds : Nat) → RunState → RunState
  | 0, s => s
  | rounds + 1, s =>
    let blocked := s.blockedBySkipped plan
    if blocked.isEmpty then s
    else skipBlockedWithin plan rounds (blocked.foldl (skipBlockedCall plan) s)

def skipBlocked (plan : Plan) (s : RunState) : RunState :=
  skipBlockedWithin plan (s.pending.length + 1) s

/-! ## Wiring -/

/-- The pending calls whose blockers have all completed, ascending. -/
def ready (s : RunState) (plan : Plan) : List String :=
  s.pending.filter fun callId =>
    (plan.blockers callId).all fun blocker => (s.produced? blocker).isSome

def producedAt? (s : RunState) (stage : Stage) (callId : String) : Option Effect :=
  (s.produced? callId).filter fun effect => effect.stage = stage

/-- The effect that a call consumes: the one it names, if that is of the stage before, and
otherwise that of its first blocker of the stage before. -/
def source? (s : RunState) (plan : Plan) (call : Call) : Option Effect := do
  let stage ← call.stage.previous?
  let named := (call.param? "source_call_id").bind (s.producedAt? stage)
  named <|> (plan.blockers call.id).findSome? (s.producedAt? stage)

/-- The work of a call, or why there is none. -/
def wire (s : RunState) (plan : Plan) (clients : Clients) (registry : Registry) (call : Call) :
    Except Failure Work :=
  let needHandler {α : Type} (handler : Option α) (work : α → Work) : Except Failure Work :=
    match handler with
    | some handler => .ok (work handler)
    | none => .error (.missingHandler plan.id call.id call.stage call.tool)
  match call.stage, s.source? plan call with
  | .fetch, _ =>
    match clients.get? call.tool with
    | some client => .ok (.fetch client)
    | none => .error (.missingClient plan.id call.id call.tool)
  | .extract, some (.raw raw) =>
    needHandler (registry.extractFor? call.tool) fun handler => .extract handler raw
  | .derive, some (.extraction extraction) =>
    needHandler (registry.deriveFor? call.tool) fun handler => .derive handler extraction
  | .claim, some (.derivation derivation) =>
    needHandler (registry.claimFor? call.tool) fun handler => .claim handler derivation
  | stage, _ => .error (.missingSource plan.id call.id stage)

/-- Finds the work of the ready calls, in order. An optional fetch without a client is skipped;
any other call without work ends the run before a call is started. -/
def wireAll (plan : Plan) (clients : Clients) (registry : Registry) :
    List String → RunState → Except Failure (RunState × List (Call × Work))
  | [], s => .ok (s, [])
  | callId :: rest, s =>
    match plan.call? callId with
    | none => wireAll plan clients registry rest s
    | some call =>
      match s.wire plan clients registry call with
      | .ok work =>
        (wireAll plan clients registry rest s).map fun (s, works) => (s, (call, work) :: works)
      | .error failure =>
        if call.stage = .fetch ∧ call.optional then
          wireAll plan clients registry rest (s.skip call failure.message)
        else .error failure

/-! ## Taking in the outcomes -/

def reportRaw (s : RunState) (raw : Option RawResponse) : RunState :=
  { s with effects := s.effects ++ (raw.map .raw).toList }

def takeOutcome (s : RunState) (call : Call) : Outcome → Except Failure RunState
  | .completed effect => .ok (s.complete call effect)
  | .failed failure => .error failure
  | .failedFetch raw reason failure =>
    if call.optional then .ok ((s.reportRaw raw).skip call reason) else .error failure

/-- The first fatal outcome ends the run. -/
def takeOutcomes (s : RunState) : List (Call × Outcome) → Except Failure RunState
  | [] => .ok s
  | (call, outcome) :: rest =>
    match s.takeOutcome call outcome with
    | .ok s => s.takeOutcomes rest
    | .error failure => .error failure

end RunState

end Lemmata
