import Lemmata.Cli.Help
import Lemmata.Client.Fixture
import Lemmata.Client.Subprocess
import Lemmata.Client.Web
import Lemmata.Config
import Lemmata.Run.Json

/-!
# Replies

What the program answers to its arguments, given what it finds around it. Nothing is printed unless
the whole work succeeded.
-/

namespace Lemmata.Cli

inductive Output where
  | json (value : Json)
  | text (text : String)
deriving DecidableEq

namespace Output

def written : Output → String
  | .json value => value.pretty ++ "\n"
  | .text shown => shown

end Output

structure Reply where
  exitCode : Nat
  output : Option Output := none
  /-- Why there is no output. -/
  complaint : Option String := none
  /-- The store that was opened, by its path, with what it holds now. -/
  store : Option (String × Store) := none

namespace Reply

/-- A number out of range is a fault of the program, anything else one of its surroundings. -/
def exitCodeOf : Failure → Nat
  | .outOfRange _ => 101
  | _ => 1

def failed (failure : Failure) : Reply where
  exitCode := exitCodeOf failure
  complaint := some failure.message

def misused (misuse : Misuse) : Reply where
  exitCode := 2
  complaint := some misuse.message

def shown (output : Output) : Reply where
  exitCode := 0
  output := some output

def ofResult : Except Failure Output → Reply
  | .ok output => shown output
  | .error failure => failed failure

def withStore (r : Reply) (path : String) (store : Store) : Reply :=
  { r with store := some (path, store) }

end Reply

/-- What the program finds around it. -/
structure Surroundings where
  home : String
  now : Moment
  /-- The clock during a run. -/
  readings : Readings
  /-- The ID for a new plan. -/
  planId : String
  /-- The IDs for new responses, by call. -/
  responseId : String → String
  read : String → FileRead
  runProgram : Config → String → List String → Subprocess.Ending
  exchange : String → Dict → Exchange
  openStore : String → Except Failure Store

namespace Surroundings

/-! ## The configuration -/

def readBytes? (s : Surroundings) (path : String) : Option (List UInt8) :=
  (s.read path).content?

/-- A configuration that cannot be read is replaced by the built-in one. -/
def config (s : Surroundings) (path : String) : Config :=
  ((s.readBytes? (Path.expandTilde s.home path)).bind Config.ofBytes?).getD {}

/-! ## Clients -/

/-- The file at the path answers the fetches of every backend. -/
def fixtureClients (s : Surroundings) (path : String) : Except Failure Clients :=
  match s.readBytes? path with
  | none => .error (.config s!"Cannot read fixture {path}")
  | some bytes =>
    let client := (Fixture.ofFile path bytes).client s.responseId
    .ok (Backend.all.foldl (fun clients b => clients.add (b.tool .fetch) client) .empty)

def backendClient (s : Surroundings) (config : Config) : Backend → Client
  | .diogenes | .heritage => Exchange.client s.exchange s.responseId
  | .whitakers => Subprocess.client (s.runProgram config) s.responseId
  | .cdsl => FileClient.client none s.read s.responseId

def backendClients (s : Surroundings) (config : Config) : Clients :=
  Backend.all.foldl
    (fun clients b => clients.add (b.tool .fetch) (s.backendClient config b)) .empty

def clients (s : Surroundings) (config : Config) : Option String → Except Failure Clients
  | some path => s.fixtureClients path
  | none => .ok (s.backendClients config)

/-! ## Commands -/

def plannerConfig (s : Surroundings) (config : Config) (i : Invocation) (q : QueryOptions) :
    PlannerConfig :=
  config.plannerConfig s.home q.maxCandidates i.fixture.isSome

/-- A plan is shown only if it has layers. -/
def planFor (s : Surroundings) (config : Config) (i : Invocation) (q : QueryOptions) : Reply :=
  let plan := Planner.build (s.plannerConfig config i q) s.planId q.query
  .ofResult (plan.layers.map fun _ => .json (.ofPlan plan))

/-- Opens the store of the configuration for a command. -/
def withStore (s : Surroundings) (config : Config)
    (work : Store → Store × Except Failure Output) : Reply :=
  let path := config.databasePath s.home
  match s.openStore path with
  | .error failure => .failed failure
  | .ok store =>
    let (store, result) := work store
    (Reply.ofResult result).withStore path store

def run (s : Surroundings) (config : Config) (i : Invocation) (q : QueryOptions)
    (noCache : Bool) : Reply :=
  match s.clients config i.fixture with
  | .error failure => .failed failure
  | .ok clients =>
    s.withStore config fun store =>
      let report :=
        q.query.lookUp (s.plannerConfig config i q) s.planId clients .standard
          (config.executionOptions noCache) s.readings store
      (report.store, report.result.map fun artifacts => .json (Json.runView artifacts))

def trace (s : Surroundings) (config : Config) (claimId : String) : Reply :=
  s.withStore config fun store =>
    (store, (store.trace claimId).map fun trace => .json (Json.traceView trace))

def pruned (count : Nat) (cutoff : Moment) : Output :=
  .text s!"Pruned {count} plan cache entries older than {cutoff.exactText}\n"

def prune (s : Surroundings) (config : Config) (days : Int) : Reply :=
  match s.now.daysAgo? days with
  | none => .failed (.outOfRange .cutoff)
  | some cutoff =>
    s.withStore config fun store =>
      let (store, count) := store.prune cutoff
      (store, .ok (pruned count cutoff))

def perform (s : Surroundings) (i : Invocation) : Reply :=
  let config := s.config i.config
  match i.command with
  | .plan q => s.planFor config i q
  | .run q noCache => s.run config i q noCache
  | .trace claimId => s.trace config claimId
  | .prune days => s.prune config days

/-- The reply to the arguments of the program. -/
def reply (s : Surroundings) (arguments : List String) : Reply :=
  match Request.parse arguments with
  | .error misuse => .misused misuse
  | .ok (.showHelp topic) => .shown (.text (Help.text topic))
  | .ok .showVersion => .shown (.text Help.version)
  | .ok (.perform invocation) => s.perform invocation

end Surroundings

end Lemmata.Cli
