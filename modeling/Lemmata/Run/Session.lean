import Lemmata.Client.Fixture
import Lemmata.Client.Scripted
import Lemmata.Digest.Uuid
import Lemmata.Run.Execute

/-!
# Sessions

Runs one after the other over one store, with clients that need no backend. A session counts how
often each call was fetched, so a scripted client goes on where the run before ended.
-/

namespace Lemmata

inductive CannedClient where
  | scripted (script : Script)
  | fixture (fixture : Fixture)

structure Session where
  registry : Registry
  /-- The clients by tool. -/
  clients : List (String × CannedClient)
  store : Store := .empty
  /-- How often a call was fetched, by tool and call ID. -/
  fetches : List ((String × String) × Nat) := []
  /-- How many runs there were. -/
  runs : Nat := 0

namespace Session

/-- The ID of a new response: no two runs, tools or calls have the same, and those of later runs
sort behind. -/
def responseId (run : Nat) (tool callId : String) : String :=
  let seed := (Json.array [.string tool, .string callId]).canonical
  "raw-" ++ Uuid.simple (Uuid.ordered run (Sha256.digest (Utf8.encode seed)))

def count (s : Session) (tool callId : String) : Nat :=
  (s.fetches.lookup (tool, callId)).getD 0

def client (s : Session) (tool : String) : CannedClient → Client
  | .scripted script => script.client (s.count tool)
  | .fixture fixture => fixture.client (responseId s.runs tool)

def allClients (s : Session) : Clients :=
  s.clients.foldl (fun all (tool, canned) => all.add tool (s.client tool canned)) .empty

def countFetch (s : Session) (call : Call) : Session :=
  let key := (call.tool, call.id)
  let others := s.fetches.filter fun entry => entry.1 != key
  { s with fetches := (key, s.count call.tool call.id + 1) :: others }

/-- Runs a plan at a moment. A run that fails has changed the store and the counts all the same. -/
def execute (s : Session) (plan : Plan) (options : ExecutionOptions) (now : Moment) :
    Session × Except Failure Artifacts :=
  let report := Run.execute plan s.allClients s.registry options (.still now) s.store
  let s := (report.fetches plan).foldl countFetch s
  ({ s with store := report.store, runs := s.runs + 1 }, report.result)

/-- How often each call of a tool was fetched. -/
def fetchesOf (s : Session) (tool : String) : List (String × Nat) :=
  (s.fetches.filter fun entry => entry.1.1 == tool).map fun entry => (entry.1.2, entry.2)

/-- What each client did: a scripted one tells its calls apart. -/
def callsMade (s : Session) : Json :=
  .object <| s.clients.map fun (tool, canned) =>
    let made := s.fetchesOf tool
    match canned with
    | .scripted _ => (tool, .object (made.map fun (callId, n) => (callId, .ofNat n)))
    | .fixture _ => (tool, .ofNat ((made.map Prod.snd).foldl (· + ·) 0))

end Session

end Lemmata
