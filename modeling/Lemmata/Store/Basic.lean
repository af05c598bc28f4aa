import Lemmata.Effect.Json
import Lemmata.Json.Reader
import Lemmata.Json.Text
import Lemmata.Store.Table
import Lemmata.Time.Moment

/-!
# The store of effects

A table for each kind of effect and one for executed plans. Structured columns hold JSON text,
which is read back on access, so a row can be there and still be unreadable. Durations are kept as
signed numbers.
-/

namespace Lemmata

/-! ## Columns -/

namespace Column

/-- A text column that holds JSON. -/
def readJson {α : Type} (decode : Json.Decoder α) (text : String) : Except Failure α :=
  match (Json.parse? text).bind decode with
  | some value => .ok value
  | none => .error .unreadable

/-- A duration beyond the signed numbers is read back as none at all. -/
def readDuration (column : Int64) : UInt64 :=
  (max column 0).toUInt64

end Column

/-! ## Rows -/

structure RawRow where
  id : String
  tool : String
  callId : String
  endpoint : String
  status : Int32
  contentType : String
  headers : String
  body : List UInt8
  durationMs : Int64
  /-- The second in which the row was saved. -/
  savedAt : Int
deriving DecidableEq

structure ExtractionRow where
  id : String
  responseId : String
  tool : String
  callId : String
  sourceCallId : String
  kind : String
  canonical : Option String
  payload : String
  chain : String
  durationMs : Int64
deriving DecidableEq

structure DerivationRow where
  id : String
  extractionId : String
  tool : String
  callId : String
  sourceCallId : String
  kind : String
  canonical : Option String
  payload : String
  chain : String
  durationMs : Int64
deriving DecidableEq

structure ClaimRow where
  id : String
  derivationId : String
  tool : String
  callId : String
  sourceCallId : String
  subject : String
  predicate : String
  value : String
  chain : String
  durationMs : Int64
deriving DecidableEq

structure PlanRow where
  hash : String
  planId : String
  references : String
  durationMs : Int64
  lastAccess : String
deriving DecidableEq

instance : Keyed RawRow := ⟨RawRow.id⟩
instance : Keyed ExtractionRow := ⟨ExtractionRow.id⟩
instance : Keyed DerivationRow := ⟨DerivationRow.id⟩
instance : Keyed ClaimRow := ⟨ClaimRow.id⟩
instance : Keyed PlanRow := ⟨PlanRow.hash⟩

namespace RawRow

def ofEffect (savedAt : Int) (e : RawResponse) : RawRow where
  id := e.id
  tool := e.tool
  callId := e.callId
  endpoint := e.endpoint
  status := e.status
  contentType := e.contentType
  headers := (Json.ofDict e.headers).text
  body := e.body
  durationMs := e.durationMs.toInt64
  savedAt := savedAt

def effect (r : RawRow) : Except Failure RawResponse := do
  let headers ← Column.readJson Json.decodeDict r.headers
  .ok {
    id := r.id
    tool := r.tool
    callId := r.callId
    endpoint := r.endpoint
    status := r.status
    contentType := r.contentType
    headers
    body := r.body
    durationMs := Column.readDuration r.durationMs }

/-- Older rows first, and by ID within a second. -/
def savedLe (a b : RawRow) : Bool :=
  if a.savedAt = b.savedAt then nameLe a.id b.id else decide (a.savedAt ≤ b.savedAt)

end RawRow

namespace ExtractionRow

def ofEffect (e : Extraction) : ExtractionRow where
  id := e.id
  responseId := e.responseId
  tool := e.tool
  callId := e.callId
  sourceCallId := e.sourceCallId
  kind := e.kind
  canonical := e.canonical
  payload := e.payload.text
  chain := (Json.ofChain e.chain).text
  durationMs := e.durationMs.toInt64

def effect (r : ExtractionRow) : Except Failure Extraction := do
  let payload ← Column.readJson some r.payload
  let chain ← Column.readJson (Json.decodeList Json.decodeLink) r.chain
  .ok {
    id := r.id
    tool := r.tool
    callId := r.callId
    sourceCallId := r.sourceCallId
    responseId := r.responseId
    kind := r.kind
    canonical := r.canonical
    payload
    chain
    durationMs := Column.readDuration r.durationMs }

end ExtractionRow

namespace DerivationRow

def ofEffect (e : Derivation) : DerivationRow where
  id := e.id
  extractionId := e.extractionId
  tool := e.tool
  callId := e.callId
  sourceCallId := e.sourceCallId
  kind := e.kind
  canonical := e.canonical
  payload := e.payload.text
  chain := (Json.ofChain e.chain).text
  durationMs := e.durationMs.toInt64

def effect (r : DerivationRow) : Except Failure Derivation := do
  let payload ← Column.readJson some r.payload
  let chain ← Column.readJson (Json.decodeList Json.decodeLink) r.chain
  .ok {
    id := r.id
    tool := r.tool
    callId := r.callId
    sourceCallId := r.sourceCallId
    extractionId := r.extractionId
    kind := r.kind
    canonical := r.canonical
    payload
    chain
    durationMs := Column.readDuration r.durationMs }

end DerivationRow

namespace ClaimRow

def ofEffect (e : Claim) : ClaimRow where
  id := e.id
  derivationId := e.derivationId
  tool := e.tool
  callId := e.callId
  sourceCallId := e.sourceCallId
  subject := e.subject
  predicate := e.predicate
  value := e.value.text
  chain := (Json.ofChain e.chain).text
  durationMs := e.durationMs.toInt64

def effect (r : ClaimRow) : Except Failure Claim := do
  let value ← Column.readJson some r.value
  let chain ← Column.readJson (Json.decodeList Json.decodeLink) r.chain
  .ok {
    id := r.id
    tool := r.tool
    callId := r.callId
    sourceCallId := r.sourceCallId
    derivationId := r.derivationId
    subject := r.subject
    predicate := r.predicate
    value
    chain
    durationMs := Column.readDuration r.durationMs }

end ClaimRow

/-! ## The store -/

structure Store where
  raws : Table RawRow
  extractions : Table ExtractionRow
  derivations : Table DerivationRow
  claims : Table ClaimRow
  plans : Table PlanRow

namespace Store

def empty : Store := ⟨.empty, .empty, .empty, .empty, .empty⟩

/-- A row that is there has to be readable. -/
def readRow {α β : Type} (effect : α → Except Failure β) : Option α → Except Failure (Option β)
  | none => .ok none
  | some row => (effect row).map some

/-! ### Raw responses -/

def saveRaw (s : Store) (now : Moment) (e : RawResponse) : Store :=
  { s with raws := s.raws.put (.ofEffect now.second e) }

def getRaw (s : Store) (id : String) : Except Failure (Option RawResponse) :=
  readRow RawRow.effect (s.raws.get? id)

/-- The responses of a call, in the order in which they were saved. -/
def rawsOfCall (s : Store) (callId : String) : Except Failure (List RawResponse) :=
  ((s.raws.rows.filter fun r => r.callId == callId).mergeSort RawRow.savedLe).mapM RawRow.effect

/-! ### Extractions, derivations and claims -/

def saveExtraction (s : Store) (e : Extraction) : Store :=
  { s with extractions := s.extractions.put (.ofEffect e) }

def getExtraction (s : Store) (id : String) : Except Failure (Option Extraction) :=
  readRow ExtractionRow.effect (s.extractions.get? id)

def extractionsOfResponse (s : Store) (responseId : String) : Except Failure (List Extraction) :=
  (s.extractions.select fun r => r.responseId == responseId).mapM ExtractionRow.effect

def saveDerivation (s : Store) (e : Derivation) : Store :=
  { s with derivations := s.derivations.put (.ofEffect e) }

def getDerivation (s : Store) (id : String) : Except Failure (Option Derivation) :=
  readRow DerivationRow.effect (s.derivations.get? id)

def derivationsOfExtraction (s : Store) (extractionId : String) :
    Except Failure (List Derivation) :=
  (s.derivations.select fun r => r.extractionId == extractionId).mapM DerivationRow.effect

def saveClaim (s : Store) (e : Claim) : Store :=
  { s with claims := s.claims.put (.ofEffect e) }

def getClaim (s : Store) (id : String) : Except Failure (Option Claim) :=
  readRow ClaimRow.effect (s.claims.get? id)

def claimsOfDerivation (s : Store) (derivationId : String) : Except Failure (List Claim) :=
  (s.claims.select fun r => r.derivationId == derivationId).mapM ClaimRow.effect

/-! ### Any effect -/

/-- Writes one row, into the table of the effect's stage. -/
def save (s : Store) (now : Moment) : Effect → Store
  | .raw e => s.saveRaw now e
  | .extraction e => s.saveExtraction e
  | .derivation e => s.saveDerivation e
  | .claim e => s.saveClaim e

def get (s : Store) (stage : Stage) (id : String) : Except Failure (Option Effect) :=
  match stage with
  | .fetch => (s.getRaw id).map (·.map .raw)
  | .extract => (s.getExtraction id).map (·.map .extraction)
  | .derive => (s.getDerivation id).map (·.map .derivation)
  | .claim => (s.getClaim id).map (·.map .claim)

end Store

end Lemmata
