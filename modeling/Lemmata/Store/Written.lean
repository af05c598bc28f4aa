import Lemmata.Digest.Hex
import Lemmata.Store.PlanCache

/-!
# Written stores

A store as JSON text, with an array of rows for each table. A row is an object or an array of its
columns; any other text is no store.
-/

namespace Lemmata

namespace Column

def decodeInt64 : Json.Decoder Int64 := fun v =>
  (Json.decodeInteger (-0x8000000000000000) 0x7fffffffffffffff v).map Int64.ofInt

def decodeSecond : Json.Decoder Int :=
  Json.decodeInteger (-0x8000000000000000) 0x7fffffffffffffff

/-- Bytes are written in hex digits. -/
def decodeBytes : Json.Decoder (List UInt8) := fun v =>
  (Json.decodeString v).bind Hex.decode?

def ofInt64 (n : Int64) : Json := .ofInt n.toInt

end Column

open Json Column

/-! ## Rows -/

def RawRow.json (r : RawRow) : Json :=
  .object [
    ("id", .string r.id), ("tool", .string r.tool), ("call_id", .string r.callId),
    ("endpoint", .string r.endpoint), ("status", ofInt32 r.status),
    ("content_type", .string r.contentType), ("headers", .string r.headers),
    ("body", .string (Hex.encode r.body)), ("duration_ms", ofInt64 r.durationMs),
    ("saved_at", .ofInt r.savedAt)]

def RawRow.decode : Decoder RawRow := fun v => do
  let r ← record? ["id", "tool", "call_id", "endpoint", "status", "content_type", "headers",
    "body", "duration_ms", "saved_at"] v
  let id ← r.get "id" decodeString
  let tool ← r.get "tool" decodeString
  let callId ← r.get "call_id" decodeString
  let endpoint ← r.get "endpoint" decodeString
  let status ← r.get "status" decodeInt32
  let contentType ← r.get "content_type" decodeString
  let headers ← r.get "headers" decodeString
  let body ← r.get "body" decodeBytes
  let durationMs ← r.get "duration_ms" decodeInt64
  let savedAt ← r.get "saved_at" decodeSecond
  some { id, tool, callId, endpoint, status, contentType, headers, body, durationMs, savedAt }

def ExtractionRow.json (r : ExtractionRow) : Json :=
  .object [
    ("id", .string r.id), ("response_id", .string r.responseId), ("tool", .string r.tool),
    ("call_id", .string r.callId), ("source_call_id", .string r.sourceCallId),
    ("kind", .string r.kind), ("canonical", ofOptionString r.canonical),
    ("payload", .string r.payload), ("chain", .string r.chain),
    ("duration_ms", ofInt64 r.durationMs)]

def ExtractionRow.decode : Decoder ExtractionRow := fun v => do
  let r ← record? ["id", "response_id", "tool", "call_id", "source_call_id", "kind", "canonical",
    "payload", "chain", "duration_ms"] v
  let id ← r.get "id" decodeString
  let responseId ← r.get "response_id" decodeString
  let tool ← r.get "tool" decodeString
  let callId ← r.get "call_id" decodeString
  let sourceCallId ← r.get "source_call_id" decodeString
  let kind ← r.get "kind" decodeString
  let canonical ← r.getOption "canonical" decodeString
  let payload ← r.get "payload" decodeString
  let chain ← r.get "chain" decodeString
  let durationMs ← r.get "duration_ms" decodeInt64
  some {
    id, responseId, tool, callId, sourceCallId, kind, canonical, payload, chain, durationMs }

def DerivationRow.json (r : DerivationRow) : Json :=
  .object [
    ("id", .string r.id), ("extraction_id", .string r.extractionId), ("tool", .string r.tool),
    ("call_id", .string r.callId), ("source_call_id", .string r.sourceCallId),
    ("kind", .string r.kind), ("canonical", ofOptionString r.canonical),
    ("payload", .string r.payload), ("chain", .string r.chain),
    ("duration_ms", ofInt64 r.durationMs)]

def DerivationRow.decode : Decoder DerivationRow := fun v => do
  let r ← record? ["id", "extraction_id", "tool", "call_id", "source_call_id", "kind",
    "canonical", "payload", "chain", "duration_ms"] v
  let id ← r.get "id" decodeString
  let extractionId ← r.get "extraction_id" decodeString
  let tool ← r.get "tool" decodeString
  let callId ← r.get "call_id" decodeString
  let sourceCallId ← r.get "source_call_id" decodeString
  let kind ← r.get "kind" decodeString
  let canonical ← r.getOption "canonical" decodeString
  let payload ← r.get "payload" decodeString
  let chain ← r.get "chain" decodeString
  let durationMs ← r.get "duration_ms" decodeInt64
  some {
    id, extractionId, tool, callId, sourceCallId, kind, canonical, payload, chain, durationMs }

def ClaimRow.json (r : ClaimRow) : Json :=
  .object [
    ("id", .string r.id), ("derivation_id", .string r.derivationId), ("tool", .string r.tool),
    ("call_id", .string r.callId), ("source_call_id", .string r.sourceCallId),
    ("subject", .string r.subject), ("predicate", .string r.predicate),
    ("value", .string r.value), ("chain", .string r.chain),
    ("duration_ms", ofInt64 r.durationMs)]

def ClaimRow.decode : Decoder ClaimRow := fun v => do
  let r ← record? ["id", "derivation_id", "tool", "call_id", "source_call_id", "subject",
    "predicate", "value", "chain", "duration_ms"] v
  let id ← r.get "id" decodeString
  let derivationId ← r.get "derivation_id" decodeString
  let tool ← r.get "tool" decodeString
  let callId ← r.get "call_id" decodeString
  let sourceCallId ← r.get "source_call_id" decodeString
  let subject ← r.get "subject" decodeString
  let predicate ← r.get "predicate" decodeString
  let value ← r.get "value" decodeString
  let chain ← r.get "chain" decodeString
  let durationMs ← r.get "duration_ms" decodeInt64
  some {
    id, derivationId, tool, callId, sourceCallId, subject, predicate, value, chain, durationMs }

def PlanRow.json (r : PlanRow) : Json :=
  .object [
    ("hash", .string r.hash), ("plan_id", .string r.planId),
    ("references", .string r.references), ("duration_ms", ofInt64 r.durationMs),
    ("last_access", .string r.lastAccess)]

def PlanRow.decode : Decoder PlanRow := fun v => do
  let r ← record? ["hash", "plan_id", "references", "duration_ms", "last_access"] v
  let hash ← r.get "hash" decodeString
  let planId ← r.get "plan_id" decodeString
  let references ← r.get "references" decodeString
  let durationMs ← r.get "duration_ms" decodeInt64
  let lastAccess ← r.get "last_access" decodeString
  some { hash, planId, references, durationMs, lastAccess }

/-! ## The store -/

namespace Store

def decodeTable {α : Type} [Keyed α] (decode : Decoder α) : Decoder (Table α) := fun v =>
  (decodeList decode v).map Table.mk

def json (s : Store) : Json :=
  .object [
    ("raw_responses", .array (s.raws.rows.map RawRow.json)),
    ("extractions", .array (s.extractions.rows.map ExtractionRow.json)),
    ("derivations", .array (s.derivations.rows.map DerivationRow.json)),
    ("claims", .array (s.claims.rows.map ClaimRow.json)),
    ("plan_responses", .array (s.plans.rows.map PlanRow.json))]

def decode : Decoder Store := fun v => do
  let r ← record? ["raw_responses", "extractions", "derivations", "claims", "plan_responses"] v
  let raws ← r.get "raw_responses" (decodeTable RawRow.decode)
  let extractions ← r.get "extractions" (decodeTable ExtractionRow.decode)
  let derivations ← r.get "derivations" (decodeTable DerivationRow.decode)
  let claims ← r.get "claims" (decodeTable ClaimRow.decode)
  let plans ← r.get "plan_responses" (decodeTable PlanRow.decode)
  some ⟨raws, extractions, derivations, claims, plans⟩

def written (s : Store) : String :=
  s.json.text ++ "\n"

/-- The store in a file; an empty file is an empty store. -/
def ofBytes? (bytes : List UInt8) : Option Store :=
  if bytes.isEmpty then some .empty
  else if Utf8.isValid bytes then (Json.parse? (Utf8.decode bytes)).bind decode
  else none

end Store

end Lemmata
