import Lemmata.Proofs.Effect.BuiltIn
import Lemmata.Proofs.Text.Tokens

/-! # The lemmas that a chain of built-in handlers claims -/

namespace Lemmata.Handler

variable {payload : Json} {key : String} {call : Call} {raw : RawResponse}
variable {extraction : Extraction} {derivation : Derivation} {strings : List String}

/-! ## Lemmas in the order of their tokens -/

/-- A token with this lower-cased form starts here. -/
def LemmaAt (text : String) (start : Nat) (l : String) : Prop :=
  ∃ w, TokenAt text start w ∧ lowercase w = l

theorem lemmas_eraseDups (words : List String) : lemmas words.eraseDups = lemmas words :=
  eraseDups_map_eraseDups lowercase words

theorem listsByFirst_lemmas (text : String) :
    ListsByFirst (LemmaAt text) (lemmas (tokens text)) := by
  obtain ⟨entries, hascending, hmem, hall⟩ := exists_tokens text
  have hlowered : (entries.map fun e => (e.1, lowercase e.2)).Pairwise fun x y => x.1 < y.1 :=
    List.pairwise_map.mpr hascending
  have hlemmas : lemmas (tokens text) =
      ((entries.map fun e => (e.1, lowercase e.2)).map Prod.snd).eraseDups := by
    rw [tokens, lemmas_eraseDups, hall, lemmas, List.map_map, List.map_map]
    rfl
  rw [hlemmas]
  refine (listsByFirst_eraseDups hlowered).congr fun i l => ?_
  simp [LemmaAt, ← hmem]

/-! ## What passes from handler to handler -/

def HoldsStrings (payload : Json) (key : String) : Prop :=
  ∃ members items, payload = .object members ∧ members.lookup key = some (.array items) ∧
    ∀ v ∈ items, ∃ s, v = .string s

theorem holdsStrings_iff : HoldsStrings payload key ↔
    ∃ strings, stringsIn payload key = .ok strings := by
  constructor
  · rintro ⟨members, items, rfl, hlookup, hitems⟩
    choose! text htext using hitems
    have hstrings : items = (items.map text).map .string := by
      rw [List.map_map]
      exact (List.map_id items).symm.trans (List.map_congr_left htext)
    rw [hstrings] at hlookup
    exact ⟨items.map text, stringsIn_eq_ok_iff.mpr hlookup⟩
  · rintro ⟨strings, hstrings⟩
    have hmember := stringsIn_eq_ok_iff.mp hstrings
    cases payload with
    | object members => exact ⟨members, _, rfl, hmember, by simp⟩
    | _ => cases hmember

theorem deriveLemmas_eq (h : stringsIn extraction.payload "tokens" = .ok strings) :
    deriveLemmas call extraction = .ok (.make call extraction "lemmas"
      (extraction.canonical <|> call.param? "lemma") (lemmasPayload (lemmas strings))) := by
  rw [deriveLemmas, h]
  rfl

theorem claimLemmas_eq (h : stringsIn derivation.payload "lemmas" = .ok strings) :
    claimLemmas call derivation = .ok (.make call derivation
      ((call.param? "lemma" <|> derivation.canonical).getD derivation.callId) "has_lemmas"
      (lemmasPayload strings)) := by
  rw [claimLemmas, h]
  rfl

theorem deriveLemmas_fails_iff : (∃ text, deriveLemmas call extraction = .error text) ↔
    ¬ HoldsStrings extraction.payload "tokens" := by
  rw [holdsStrings_iff]
  cases htokens : stringsIn extraction.payload "tokens" with
  | ok strings => simp [deriveLemmas_eq htokens]
  | error text => simp [deriveLemmas, htokens, bind, Except.bind]

/-- A chain always ends in a claim, of all lower-cased tokens of the visible text in their order,
and the only payloads that no lemmas are made of are those without a list of strings. -/
theorem chain_claims_lemmas :
    (∀ (raw : RawResponse) (extract derive claim : Call), ∃ lemmas x d c,
      extractTokens extract raw = .ok x ∧ deriveLemmas derive x = .ok d ∧
      claimLemmas claim d = .ok c ∧ c.value = .object [("lemmas", .ofStrings lemmas)] ∧
      ListsByFirst (LemmaAt (visibleText raw)) lemmas ∧
      -- The repetitions of a token may as well stay until all are lower-cased.
      lemmas = (((Word.all (visibleText raw)).filter fun w => 1 < w.length).map
        lowercase).eraseDups) ∧
    ∀ (call : Call) (extraction : Extraction),
      (∃ text, deriveLemmas call extraction = .error text) ↔
        ¬ HoldsStrings extraction.payload "tokens" := by
  refine ⟨fun raw extract derive claim => ?_, fun _ _ => deriveLemmas_fails_iff⟩
  have htokens : stringsIn (tokensPayload raw (tokens (visibleText raw))) "tokens" =
      .ok (tokens (visibleText raw)) := stringsIn_eq_ok_iff.mpr rfl
  have hlemmas : stringsIn (lemmasPayload (lemmas (tokens (visibleText raw)))) "lemmas" =
      .ok (lemmas (tokens (visibleText raw))) := stringsIn_eq_ok_iff.mpr rfl
  exact ⟨lemmas (tokens (visibleText raw)), _, _, _, rfl, deriveLemmas_eq htokens,
    claimLemmas_eq hlemmas, rfl, listsByFirst_lemmas _, lemmas_eraseDups _⟩

end Lemmata.Handler
