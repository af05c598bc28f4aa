import Lemmata.Effect.Basic
import Lemmata.Text.Quoted

/-!
# Clients

A client answers fetches with raw responses. Which responses count as a success is the client's
own rule: an HTTP status and an exit code are read differently.
-/

namespace Lemmata

structure Client where
  name : String
  execute : (callId endpoint : String) → (params : Dict) → Except Failure RawResponse
  isSuccess : RawResponse → Bool

namespace Client

/-- The statuses from 200 to 299. -/
def isHttpSuccess (raw : RawResponse) : Bool :=
  decide (200 ≤ raw.status ∧ raw.status ≤ 299)

/-- The exit code 0. -/
def isCleanExit (raw : RawResponse) : Bool :=
  raw.status == 0

end Client

/-- Clients by tool; the first entry of a tool counts. -/
structure Clients where
  entries : List (String × Client)

namespace Clients

def empty : Clients := ⟨[]⟩

def add (c : Clients) (tool : String) (client : Client) : Clients :=
  ⟨(tool, client) :: c.entries⟩

def get? (c : Clients) (tool : String) : Option Client :=
  c.entries.lookup tool

/-- The tools that have a client, ascending. -/
def tools (c : Clients) : List String :=
  distinctSorted (c.entries.map Prod.fst)

def isEmpty (c : Clients) : Bool :=
  c.entries.isEmpty

def entryText (c : Clients) (tool : String) : String :=
  let name := ((c.get? tool).map Client.name).getD ""
  s!"({Quoted.text tool}, {Quoted.text name})"

/-- The tools and the names of their clients, for a log. -/
def describe (c : Clients) : String :=
  let entries := ", ".intercalate (c.tools.map c.entryText)
  s!"ClientRegistry \x7b clients: [{entries}] \x7d"

end Clients

end Lemmata
