import Lemmata.Store.Basic

/-!
# Tracing a claim

The effects that a claim rests on, found by the IDs that each effect holds.
-/

namespace Lemmata

structure ClaimTrace where
  claim : Claim
  derivation : Option Derivation
  extraction : Option Extraction
  raw : Option RawResponse
deriving DecidableEq

namespace ClaimTrace

/-- Whether every link down to the raw response was found. -/
def isComplete (t : ClaimTrace) : Bool :=
  t.derivation.isSome && t.extraction.isSome && t.raw.isSome

end ClaimTrace

namespace Store

/-- Follows an ID that may be missing. -/
def follow {α β : Type} (get : String → Except Failure (Option β)) (id : α → String) :
    Option α → Except Failure (Option β)
  | none => .ok none
  | some source => get (id source)

/-- Only a missing claim is a failure; a link that leads nowhere ends the trace. -/
def trace (s : Store) (claimId : String) : Except Failure ClaimTrace := do
  match ← s.getClaim claimId with
  | none => throw (.notFound s!"Claim {claimId}")
  | some claim =>
    let derivation ← s.getDerivation claim.derivationId
    let extraction ← follow s.getExtraction Derivation.extractionId derivation
    let raw ← follow s.getRaw Extraction.responseId extraction
    return { claim, derivation, extraction, raw }

end Store

end Lemmata
