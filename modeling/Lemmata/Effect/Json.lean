import Lemmata.Effect.Basic
import Lemmata.Plan.Json

/-!
# Effects in JSON
-/

namespace Lemmata.Json

/-! ## Links -/

def decodeLink : Decoder Link := fun v => do
  let r ← record? ["stage", "tool", "reference_id", "metadata"] v
  let stage ← r.get "stage" decodeStage
  let tool ← r.get "tool" decodeString
  let effectId ← r.get "reference_id" decodeString
  let metadata ← r.getOption "metadata" some
  some { stage, tool, effectId, metadata }

/-- A link without metadata has no member for it. -/
def ofLink (l : Link) : Json :=
  .object <|
    [("stage", ofStage l.stage), ("tool", .string l.tool), ("reference_id", .string l.effectId)]
      ++ match l.metadata with
        | none => []
        | some v => [("metadata", v)]

def ofChain (chain : List Link) : Json :=
  .array (chain.map ofLink)

/-! ## The four kinds -/

def decodeRawResponse : Decoder RawResponse := fun v => do
  let r ← record? ["response_id", "tool", "call_id", "endpoint", "status_code", "content_type",
    "headers", "body", "fetch_duration_ms"] v
  let id ← r.get "response_id" decodeString
  let tool ← r.get "tool" decodeString
  let callId ← r.get "call_id" decodeString
  let endpoint ← r.get "endpoint" decodeString
  let status ← r.get "status_code" decodeInt32
  let contentType ← r.get "content_type" decodeString
  let headers ← r.getD "headers" decodeDict .empty
  let body ← r.getD "body" (decodeList decodeByte) []
  let durationMs ← r.get "fetch_duration_ms" decodeUInt64
  some { id, tool, callId, endpoint, status, contentType, headers, body, durationMs }

def ofRawResponse (e : RawResponse) : Json :=
  .object [
    ("response_id", .string e.id), ("tool", .string e.tool), ("call_id", .string e.callId),
    ("endpoint", .string e.endpoint), ("status_code", ofInt32 e.status),
    ("content_type", .string e.contentType), ("headers", ofDict e.headers),
    ("body", .array (e.body.map fun byte => ofNat byte.toNat)),
    ("fetch_duration_ms", ofUInt64 e.durationMs)]

def decodeExtraction : Decoder Extraction := fun v => do
  let r ← record? ["extraction_id", "tool", "call_id", "source_call_id", "response_id", "kind",
    "canonical", "payload", "provenance_chain", "load_duration_ms"] v
  let id ← r.get "extraction_id" decodeString
  let tool ← r.get "tool" decodeString
  let callId ← r.get "call_id" decodeString
  let sourceCallId ← r.get "source_call_id" decodeString
  let responseId ← r.get "response_id" decodeString
  let kind ← r.get "kind" decodeString
  let canonical ← r.getOption "canonical" decodeString
  let payload ← r.get "payload" some
  let chain ← r.getD "provenance_chain" (decodeList decodeLink) []
  let durationMs ← r.get "load_duration_ms" decodeUInt64
  some { id, tool, callId, sourceCallId, responseId, kind, canonical, payload, chain, durationMs }

def ofExtraction (e : Extraction) : Json :=
  .object [
    ("extraction_id", .string e.id), ("tool", .string e.tool), ("call_id", .string e.callId),
    ("source_call_id", .string e.sourceCallId), ("response_id", .string e.responseId),
    ("kind", .string e.kind), ("canonical", ofOptionString e.canonical), ("payload", e.payload),
    ("provenance_chain", ofChain e.chain), ("load_duration_ms", ofUInt64 e.durationMs)]

def decodeDerivation : Decoder Derivation := fun v => do
  let r ← record? ["derivation_id", "tool", "call_id", "source_call_id", "extraction_id", "kind",
    "canonical", "payload", "provenance_chain", "derive_duration_ms"] v
  let id ← r.get "derivation_id" decodeString
  let tool ← r.get "tool" decodeString
  let callId ← r.get "call_id" decodeString
  let sourceCallId ← r.get "source_call_id" decodeString
  let extractionId ← r.get "extraction_id" decodeString
  let kind ← r.get "kind" decodeString
  let canonical ← r.getOption "canonical" decodeString
  let payload ← r.get "payload" some
  let chain ← r.get "provenance_chain" (decodeList decodeLink)
  let durationMs ← r.get "derive_duration_ms" decodeUInt64
  some { id, tool, callId, sourceCallId, extractionId, kind, canonical, payload, chain, durationMs }

def ofDerivation (e : Derivation) : Json :=
  .object [
    ("derivation_id", .string e.id), ("tool", .string e.tool), ("call_id", .string e.callId),
    ("source_call_id", .string e.sourceCallId), ("extraction_id", .string e.extractionId),
    ("kind", .string e.kind), ("canonical", ofOptionString e.canonical), ("payload", e.payload),
    ("provenance_chain", ofChain e.chain), ("derive_duration_ms", ofUInt64 e.durationMs)]

def decodeClaim : Decoder Claim := fun v => do
  let r ← record? ["claim_id", "tool", "call_id", "source_call_id", "derivation_id", "subject",
    "predicate", "value", "provenance_chain", "load_duration_ms"] v
  let id ← r.get "claim_id" decodeString
  let tool ← r.get "tool" decodeString
  let callId ← r.get "call_id" decodeString
  let sourceCallId ← r.get "source_call_id" decodeString
  let derivationId ← r.get "derivation_id" decodeString
  let subject ← r.get "subject" decodeString
  let predicate ← r.get "predicate" decodeString
  let value ← r.get "value" some
  let chain ← r.get "provenance_chain" (decodeList decodeLink)
  let durationMs ← r.get "load_duration_ms" decodeUInt64
  some { id, tool, callId, sourceCallId, derivationId, subject, predicate, value, chain, durationMs }

def ofClaim (e : Claim) : Json :=
  .object [
    ("claim_id", .string e.id), ("tool", .string e.tool), ("call_id", .string e.callId),
    ("source_call_id", .string e.sourceCallId), ("derivation_id", .string e.derivationId),
    ("subject", .string e.subject), ("predicate", .string e.predicate), ("value", e.value),
    ("provenance_chain", ofChain e.chain), ("load_duration_ms", ofUInt64 e.durationMs)]

def ofEffect : Effect → Json
  | .raw e => ofRawResponse e
  | .extraction e => ofExtraction e
  | .derivation e => ofDerivation e
  | .claim e => ofClaim e

end Lemmata.Json
