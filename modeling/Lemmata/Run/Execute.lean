import Lemmata.Planner
import Lemmata.Run.Basic
import Lemmata.Store.PlanCache

/-!
# Executing a plan

A plan that ran before is answered from the store. Otherwise the rounds go on until no call is
pending; each effect is written when its call has finished, and the run is remembered if nothing
was skipped. The clock and what goes wrong around a run are data: they are given, so the same
readings give the same run.
-/

namespace Lemmata

structure ExecutionOptions where
  allowCache : Bool := true
  /-- How many calls may run at once; at least one does. -/
  maxConcurrency : Nat := 4
  /-- How long new rounds may start, in milliseconds. -/
  deadlineMs : Option Nat := none
deriving DecidableEq

/-- What goes wrong around a run, with the text of the complaint: tasks that break off, and
statements that the store refuses. -/
structure Faults where
  /-- The task of a call, before it has written anything. -/
  task : String → Option String := fun _ => none
  /-- Asking the cache of plans. -/
  lookup : Option String := none
  /-- Writing the row of a call. -/
  write : String → Option String := fun _ => none
  /-- Reading an effect back, by its ID. -/
  read : String → Option String := fun _ => none
  /-- Remembering the run. -/
  finish : Option String := none

/-- The readings of the clock during a run, and its faults. -/
structure Readings where
  /-- Milliseconds at the start. -/
  start : Nat := 0
  /-- Milliseconds before a round, which are counted from 0. -/
  round : Nat → Nat := fun _ => 0
  /-- The duration of a call by its ID. -/
  call : String → UInt64 := fun _ => 0
  total : UInt64 := 0
  /-- When the cache of plans is asked. -/
  lookup : Moment
  /-- When the row of a call is written. -/
  write : String → Moment
  /-- When the run is remembered. -/
  finish : Moment
  faults : Faults := {}

namespace Readings

/-- A clock that stands still, and no faults. -/
def still (now : Moment) : Readings where
  lookup := now
  write := fun _ => now
  finish := now

/-- A clock that stands still, on a machine that has been up for so many milliseconds. -/
def stillAfter (up : Nat) (now : Moment) : Readings :=
  { still now with start := up, round := fun _ => up }

end Readings

/-- What a run leaves: the store, the calls that were started in each round, and its result. -/
structure RunReport where
  store : Store
  started : List (List String)
  result : Except Failure Artifacts

/-- The fetches that were started, in the order of the rounds. -/
def RunReport.fetches (r : RunReport) (plan : Plan) : List Call :=
  (r.started.flatten.filterMap plan.call?).filter fun call => call.stage = .fetch

namespace Run

/-! ## The limits of the machine -/

/-- The clock counts whole seconds up to here. -/
def greatestSecond : Nat := 0x7fffffffffffffff

def greatestConcurrency : Nat := 0x1fffffffffffffff

def checkLimits (options : ExecutionOptions) (readings : Readings) : Except Failure Unit := do
  match options.deadlineMs with
  | some deadline =>
    if greatestSecond < (readings.start + deadline) / 1000 then
      throw (.outOfRange .deadline)
  | none => pure ()
  if greatestConcurrency < max options.maxConcurrency 1 then throw (.outOfRange .concurrency)

/-- Whether the time is up; it is at the very millisecond of the deadline. -/
def isExpired (options : ExecutionOptions) (readings : Readings) (round : Nat) : Bool :=
  match options.deadlineMs with
  | some deadline => decide (readings.start + deadline ≤ readings.round round)
  | none => false

/-! ## Rounds -/

/-- What a round begins with. -/
inductive RoundStart where
  | finished (state : RunState)
  | failed (failure : Failure)
  | work (state : RunState) (works : List (Call × Work))

def startRound (plan : Plan) (clients : Clients) (registry : Registry)
    (options : ExecutionOptions) (readings : Readings) (round : Nat) (state : RunState) :
    RoundStart :=
  let state := state.skipBlocked plan
  if state.pending.isEmpty then .finished state
  else
    let ready := state.ready plan
    if ready.isEmpty then .failed (.cycle plan.id state.pending)
    else if isExpired options readings round then .failed (.timeout plan.id state.completed)
    else
      match RunState.wireAll plan clients registry ready state with
      | .ok (state, works) => .work state works
      | .error failure => .failed failure

/-- An outcome with the faults of its task: one that breaks off has nothing to write, and an
effect that cannot be written is lost. -/
def settle (plan : Plan) (faults : Faults) (call : Call) (outcome : Outcome) : Outcome :=
  match faults.task call.id, outcome.written?, faults.write call.id with
  | some text, _, _ =>
    .failed (.handlerFailed plan.id call.id call.stage s!"Task failed: {text}")
  | none, some _, some text => .failed (.storage text)
  | none, _, _ => outcome

def performAll (plan : Plan) (readings : Readings) (works : List (Call × Work)) :
    List (Call × Outcome) :=
  works.map fun (call, work) =>
    (call, settle plan readings.faults call (work.perform plan.id call (readings.call call.id)))

def writeOutcome (readings : Readings) (store : Store) (done : Call × Outcome) : Store :=
  match done.2.written? with
  | some effect => store.save (readings.write done.1.id) effect
  | none => store

/-- The rows of a round, each written by its own call. -/
def writeAll (readings : Readings) (store : Store) (outcomes : List (Call × Outcome)) : Store :=
  outcomes.foldl (writeOutcome readings) store

/-- The state at the end, or the failure that ended the run, with the store and the started
calls. -/
def rounds (plan : Plan) (clients : Clients) (registry : Registry) (options : ExecutionOptions)
    (readings : Readings) : (fuel round : Nat) → Store → RunState →
    Store × List (List String) × Except Failure RunState
  | 0, _, store, state => (store, [], .error (.cycle plan.id state.pending))
  | fuel + 1, round, store, state =>
    match startRound plan clients registry options readings round state with
    | .finished state => (store, [], .ok state)
    | .failed failure => (store, [], .error failure)
    | .work state works =>
      let started := works.map fun p => p.1.id
      let outcomes := performAll plan readings works
      let store := writeAll readings store outcomes
      match state.takeOutcomes outcomes with
      | .error failure => (store, [started], .error failure)
      | .ok state =>
        let (store, further, result) :=
          rounds plan clients registry options readings fuel (round + 1) store state
        (store, started :: further, result)

/-! ## A whole run -/

def summary (plan : Plan) (readings : Readings) (state : RunState) : ExecutedPlan where
  planId := plan.id
  planHash := plan.hash
  references := state.produced.map RunState.reference
  durationMs := readings.total
  fromCache := false

/-- A run in which a call was skipped is not remembered. -/
def remember (readings : Readings) (store : Store) (executed : ExecutedPlan)
    (state : RunState) : Except Failure Store :=
  if state.skipped.isEmpty then
    match readings.faults.finish with
    | some text => .error (.storage text)
    | none => .ok (store.saveExecuted readings.finish executed)
  else .ok store

def runFresh (plan : Plan) (clients : Clients) (registry : Registry) (options : ExecutionOptions)
    (readings : Readings) (store : Store) : RunReport :=
  match plan.layers with
  | .error failure => ⟨store, [], .error failure⟩
  | .ok _ =>
    match checkLimits options readings with
    | .error failure => ⟨store, [], .error failure⟩
    | .ok () =>
      let state := RunState.initial plan
      let fuel := plan.calls.length + 1
      match rounds plan clients registry options readings fuel 0 store state with
      | (store, started, .error failure) => ⟨store, started, .error failure⟩
      | (store, started, .ok state) =>
        let executed := summary plan readings state
        match remember readings store executed state with
        | .error failure => ⟨store, started, .error failure⟩
        | .ok store => ⟨store, started, .ok (.ofEffects executed state.effects state.skipped)⟩

/-! ## From the cache -/

/-- The earlier run of a plan with that hash. -/
def ask (readings : Readings) (store : Store) (hash : String) :
    Store × Except Failure (Option ExecutedPlan) :=
  match readings.faults.lookup with
  | some text => (store, .error (.storage text))
  | none => store.findExecuted readings.lookup hash

def restoreEffect (faults : Faults) (store : Store) (r : Reference) :
    Except Failure (Option Effect) :=
  match faults.read r.effectId with
  | some text => .error (.storage text)
  | none => store.get r.stage r.effectId

/-- The effects that are still in the store. -/
def restoreEffects (faults : Faults) (store : Store) (references : List Reference) :
    Except Failure (List Effect) := do
  let found ← references.mapM (restoreEffect faults store)
  return found.filterMap id

def restore (faults : Faults) (store : Store) (cached : ExecutedPlan) :
    Except Failure Artifacts := do
  let executed := cached.intoCached
  let effects ← restoreEffects faults store executed.references
  return .ofEffects executed effects []

/-- Executes a plan, or answers it from an earlier run of a plan with the same hash. -/
def execute (plan : Plan) (clients : Clients) (registry : Registry) (options : ExecutionOptions)
    (readings : Readings) (store : Store) : RunReport :=
  if options.allowCache then
    match ask readings store plan.hash with
    | (store, .error failure) => ⟨store, [], .error failure⟩
    | (store, .ok (some cached)) => ⟨store, [], restore readings.faults store cached⟩
    | (store, .ok none) => runFresh plan clients registry options readings store
  else runFresh plan clients registry options readings store

end Run

/-! ## Looking up a query -/

/-- Plans a query, under the given plan ID, and executes the plan. -/
def Query.lookUp (query : Query) (config : PlannerConfig) (planId : String) (clients : Clients)
    (registry : Registry) (options : ExecutionOptions) (readings : Readings) (store : Store) :
    RunReport :=
  Run.execute (Planner.build config planId query) clients registry options readings store

end Lemmata
