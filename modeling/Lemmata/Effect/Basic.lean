import Lemmata.Plan.Basic

/-!
# Effects

What a call produced: a raw response, then an extraction from it, a derivation from that and a
claim at last. Each effect holds the chain of links that leads to it, and its ID is a digest of
the call and the effect it consumed.
-/

namespace Lemmata

/-! ## Links -/

structure Link where
  stage : Stage
  tool : String
  effectId : String
  metadata : Option Json := none
deriving DecidableEq

/-! ## IDs -/

namespace EffectId

def digits : Nat := 32

/-- The same materials always give the same ID. -/
def stable (label : String) (material : Json) : String :=
  label ++ "-" ++ (material.digest.take digits).toString

/-- The ID of what a call made of the effect it consumed. -/
def derived (label callId sourceId : String) : String :=
  stable label (Json.ofStrings [callId, sourceId])

def extraction (callId responseId : String) : String :=
  derived "ext" callId responseId

def derivation (callId extractionId : String) : String :=
  derived "drv" callId extractionId

def claim (callId derivationId : String) : String :=
  derived "clm" callId derivationId

end EffectId

/-! ## The four kinds -/

structure RawResponse where
  id : String
  tool : String
  callId : String
  endpoint : String
  status : Int32
  contentType : String
  headers : Dict
  body : List UInt8
  durationMs : UInt64
deriving DecidableEq

structure Extraction where
  id : String
  tool : String
  callId : String
  sourceCallId : String
  responseId : String
  kind : String
  canonical : Option String
  payload : Json
  chain : List Link
  durationMs : UInt64
deriving DecidableEq

structure Derivation where
  id : String
  tool : String
  callId : String
  sourceCallId : String
  extractionId : String
  kind : String
  canonical : Option String
  payload : Json
  chain : List Link
  durationMs : UInt64
deriving DecidableEq

structure Claim where
  id : String
  tool : String
  callId : String
  sourceCallId : String
  derivationId : String
  subject : String
  predicate : String
  value : Json
  chain : List Link
  durationMs : UInt64
deriving DecidableEq

/-! ## Making them -/

namespace RawResponse

/-- A response without content; the tool is stamped when the response is stored. -/
def blank (id callId endpoint : String) : RawResponse where
  id := id
  tool := ""
  callId := callId
  endpoint := endpoint
  status := 0
  contentType := ""
  headers := .empty
  body := []
  durationMs := 0

def text (r : RawResponse) : String :=
  Utf8.decode r.body

def link (r : RawResponse) : Link where
  stage := .fetch
  tool := r.tool
  effectId := r.id
  metadata := some (.object [("status_code", .ofInt32 r.status)])

end RawResponse

/-- Chains only ever grow at the end. -/
def extendChain (chain : List Link) (link : Link) : List Link :=
  chain ++ [link]

namespace Extraction

def make (call : Call) (raw : RawResponse) (kind : String) (canonical : Option String)
    (payload : Json) : Extraction :=
  let id := EffectId.extraction call.id raw.id
  { id
    tool := call.tool
    callId := call.id
    sourceCallId := raw.callId
    responseId := raw.id
    kind
    canonical
    payload
    chain := [raw.link, { stage := .extract, tool := call.tool, effectId := id }]
    durationMs := 0 }

end Extraction

namespace Derivation

def make (call : Call) (extraction : Extraction) (kind : String) (canonical : Option String)
    (payload : Json) : Derivation :=
  let id := EffectId.derivation call.id extraction.id
  { id
    tool := call.tool
    callId := call.id
    sourceCallId := extraction.callId
    extractionId := extraction.id
    kind
    canonical
    payload
    chain := extendChain extraction.chain { stage := .derive, tool := call.tool, effectId := id }
    durationMs := 0 }

end Derivation

namespace Claim

def make (call : Call) (derivation : Derivation) (subject predicate : String) (value : Json) :
    Claim :=
  let id := EffectId.claim call.id derivation.id
  { id
    tool := call.tool
    callId := call.id
    sourceCallId := derivation.callId
    derivationId := derivation.id
    subject
    predicate
    value
    chain := extendChain derivation.chain { stage := .claim, tool := call.tool, effectId := id }
    durationMs := 0 }

end Claim

/-! ## Any effect -/

inductive Effect where
  | raw (effect : RawResponse)
  | extraction (effect : Extraction)
  | derivation (effect : Derivation)
  | claim (effect : Claim)
deriving DecidableEq

namespace Effect

def id : Effect → String
  | raw e => e.id
  | extraction e => e.id
  | derivation e => e.id
  | claim e => e.id

def stage : Effect → Stage
  | raw _ => .fetch
  | extraction _ => .extract
  | derivation _ => .derive
  | claim _ => .claim

def tool : Effect → String
  | raw e => e.tool
  | extraction e => e.tool
  | derivation e => e.tool
  | claim e => e.tool

def callId : Effect → String
  | raw e => e.callId
  | extraction e => e.callId
  | derivation e => e.callId
  | claim e => e.callId

end Effect

end Lemmata
