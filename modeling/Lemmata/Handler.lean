import Lemmata.Backend
import Lemmata.Effect.Basic
import Lemmata.Markup.VisibleText
import Lemmata.Text.Lowercase
import Lemmata.Text.Word

/-!
# Handlers

A handler makes the effect of a stage from the one before. The built-in ones find the words of a
response, make lemmas of them and claim that the headword has these lemmas.
-/

namespace Lemmata

abbrev ExtractHandler := Call → RawResponse → Except String Extraction

abbrev DeriveHandler := Call → Extraction → Except String Derivation

abbrev ClaimHandler := Call → Derivation → Except String Claim

namespace Handler

/-! ## Words, lemmas and the claim -/

def visibleText (raw : RawResponse) : String :=
  Markup.visibleText raw.contentType raw.text

/-- Tokens are counted in a word of 64 bits. -/
def tokensPayload (raw : RawResponse) (tokens : List String) : Json :=
  .object [
    ("content_type", .string raw.contentType), ("status_code", .ofInt32 raw.status),
    ("token_count", .ofUInt64 (.ofNat tokens.length)), ("tokens", .ofStrings tokens)]

def extractTokens : ExtractHandler := fun call raw =>
  .ok <| .make call raw "tokens" (call.param? "lemma")
    (tokensPayload raw (tokens (visibleText raw)))

/-- The strings in a list that a payload holds under a key. -/
def stringsIn (payload : Json) (key : String) : Except String (List String) :=
  match (payload.member? key).bind Json.items? with
  | none => .error s!"payload has no '{key}' array"
  | some items =>
    match items.mapM Json.string? with
    | some strings => .ok strings
    | none => .error s!"'{key}' contains a non-string entry"

/-- The lower-cased tokens, each once. -/
def lemmas (tokens : List String) : List String :=
  (tokens.map lowercase).eraseDups

def lemmasPayload (lemmas : List String) : Json :=
  .object [("lemmas", .ofStrings lemmas)]

def deriveLemmas : DeriveHandler := fun call extraction => do
  let tokens ← stringsIn extraction.payload "tokens"
  .ok <| .make call extraction "lemmas" (extraction.canonical <|> call.param? "lemma")
    (lemmasPayload (lemmas tokens))

def claimLemmas : ClaimHandler := fun call derivation => do
  let lemmas ← stringsIn derivation.payload "lemmas"
  let subject := (call.param? "lemma" <|> derivation.canonical).getD derivation.callId
  .ok <| .make call derivation subject "has_lemmas" (lemmasPayload lemmas)

/-! ## Stubs: for tools without a handler of their own -/

def stubPayload (call : Call) : Json :=
  .object [("call_id", .string call.id), ("stub", .bool true), ("tool", .string call.tool)]

def stubExtract : ExtractHandler := fun call raw =>
  .ok <| .make call raw call.tool none (stubPayload call)

def stubDerive : DeriveHandler := fun call extraction =>
  .ok <| .make call extraction call.tool extraction.canonical (stubPayload call)

def stubClaim : ClaimHandler := fun call derivation =>
  .ok <| .make call derivation (derivation.canonical.getD derivation.callId) "stub"
    (stubPayload call)

end Handler

/-! ## The registry -/

/-- Handlers by tool; the first entry of a tool counts. -/
structure Registry where
  extract : List (String × ExtractHandler) := []
  derive : List (String × DeriveHandler) := []
  claim : List (String × ClaimHandler) := []
  /-- Whether tools without a handler get a stub. -/
  stubs : Bool := false

namespace Registry

def empty : Registry := {}

def withStubs : Registry := { stubs := true }

/-- The built-in handlers for the tools of every backend, and stubs for all others. -/
def standard : Registry where
  extract := Backend.all.map fun b => (b.tool .extract, Handler.extractTokens)
  derive := Backend.all.map fun b => (b.tool .derive, Handler.deriveLemmas)
  claim := Backend.all.map fun b => (b.tool .claim, Handler.claimLemmas)
  stubs := true

def addExtract (r : Registry) (tool : String) (handler : ExtractHandler) : Registry :=
  { r with extract := (tool, handler) :: r.extract }

def addDerive (r : Registry) (tool : String) (handler : DeriveHandler) : Registry :=
  { r with derive := (tool, handler) :: r.derive }

def addClaim (r : Registry) (tool : String) (handler : ClaimHandler) : Registry :=
  { r with claim := (tool, handler) :: r.claim }

def extractFor? (r : Registry) (tool : String) : Option ExtractHandler :=
  r.extract.lookup tool <|> if r.stubs then some Handler.stubExtract else none

def deriveFor? (r : Registry) (tool : String) : Option DeriveHandler :=
  r.derive.lookup tool <|> if r.stubs then some Handler.stubDerive else none

def claimFor? (r : Registry) (tool : String) : Option ClaimHandler :=
  r.claim.lookup tool <|> if r.stubs then some Handler.stubClaim else none

/-- Whether a tool has a handler that is not a stub. -/
def isRegistered (r : Registry) (stage : Stage) (tool : String) : Bool :=
  match stage with
  | .fetch => false
  | .extract => (r.extract.lookup tool).isSome
  | .derive => (r.derive.lookup tool).isSome
  | .claim => (r.claim.lookup tool).isSome

/-- Whether a call of that tool finds a handler; a fetch needs none. -/
def resolves? (r : Registry) (stage : Stage) (tool : String) : Option Bool :=
  match stage with
  | .fetch => none
  | .extract => some (r.extractFor? tool).isSome
  | .derive => some (r.deriveFor? tool).isSome
  | .claim => some (r.claimFor? tool).isSome

/-! ### Chains -/

/-- Why a chain of calls got no further. -/
inductive ChainFault where
  | noHandler
  | failed (text : String)
deriving DecidableEq

/-- The effect of one call, if it has a handler and that does not fail. -/
def link {α β : Type} (find : String → Option (Call → α → Except String β)) (call : Call)
    (source : α) : Except ChainFault β :=
  match find call.tool with
  | none => .error .noHandler
  | some handler => (handler call source).mapError .failed

/-- The effects of a chain, and what ended it before its last call. -/
abbrev Chain := List Effect × Option ChainFault

/-- An effect and what follows from it; a call that is left out ends the chain. -/
def grow {β : Type} (effect : β → Effect) (further : β → Chain) :
    Option (Except ChainFault β) → Chain
  | none => ([], none)
  | some (.error fault) => ([], some fault)
  | some (.ok e) => (effect e :: (further e).1, (further e).2)

/-- The effects of an extraction, a derivation and a claim, one after the other. -/
def chain (r : Registry) (raw : RawResponse) (extract derive claim : Option Call) : Chain :=
  let claimed := fun derivation =>
    grow .claim (fun _ => ([], none))
      (claim.map fun call => link r.claimFor? call derivation)
  let derived := fun extraction =>
    grow .derivation claimed (derive.map fun call => link r.deriveFor? call extraction)
  grow .extraction derived (extract.map fun call => link r.extractFor? call raw)

end Registry

end Lemmata
