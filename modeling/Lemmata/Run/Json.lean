import Lemmata.Effect.Json
import Lemmata.Run.Execute
import Lemmata.Run.Trace

/-!
# Runs in JSON

All that a run produced, and the shorter views that are shown to a user.
-/

namespace Lemmata.Json

def ofSkippedCall (c : SkippedCall) : Json :=
  .object [
    ("call_id", .string c.callId), ("tool", .string c.tool), ("stage", ofStage c.stage),
    ("reason", .string c.reason)]

def ofClaims (claims : List Claim) : Json :=
  .array (claims.map ofClaim)

def ofSkipped (skipped : List SkippedCall) : Json :=
  .array (skipped.map ofSkippedCall)

def ofArtifacts (a : Artifacts) : Json :=
  .object [
    ("executed", ofExecutedPlan a.executed),
    ("raw_responses", .array (a.raws.map ofRawResponse)),
    ("extractions", .array (a.extractions.map ofExtraction)),
    ("derivations", .array (a.derivations.map ofDerivation)),
    ("claims", ofClaims a.claims),
    ("skipped", ofSkipped a.skipped)]

/-- The summary of a run, its claims and what was skipped. -/
def runView (a : Artifacts) : Json :=
  .object [
    ("claims", ofClaims a.claims), ("executed", ofExecutedPlan a.executed),
    ("skipped", ofSkipped a.skipped)]

/-- A raw response with its body as text. -/
def rawView (r : RawResponse) : Json :=
  .object [
    ("body", .string r.text), ("call_id", .string r.callId),
    ("content_type", .string r.contentType), ("endpoint", .string r.endpoint),
    ("fetch_duration_ms", ofUInt64 r.durationMs), ("headers", ofDict r.headers),
    ("response_id", .string r.id), ("status_code", ofInt32 r.status), ("tool", .string r.tool)]

def traceView (t : ClaimTrace) : Json :=
  .object [
    ("claim", ofClaim t.claim), ("complete", .bool t.isComplete),
    ("derivation", ofOption (t.derivation.map ofDerivation)),
    ("extraction", ofOption (t.extraction.map ofExtraction)),
    ("raw_response", ofOption (t.raw.map rawView))]

end Lemmata.Json
