import Lemmata.Proofs.Effect.BuiltIn
import Mathlib.Data.List.Nodup

/-! # What an ID tells of the calls that led to its effect -/

namespace Lemmata

/-! ## Labels and digits -/

namespace EffectId

variable {ms : List (String × String)} {m n : String × String} {label other : String}

/-- Of these materials, no two collide in the digits that an ID keeps of their digests. -/
def NoCollision (ms : List (String × String)) : Prop :=
  ∀ m ∈ ms, ∀ n ∈ ms,
    ((Json.ofStrings [m.1, m.2]).digest.take digits).toString =
      ((Json.ofStrings [n.1, n.2]).digest.take digits).toString →
    (Json.ofStrings [m.1, m.2]).canonical = (Json.ofStrings [n.1, n.2]).canonical

theorem NoCollision.eq (h : NoCollision ms) (hm : m ∈ ms) (hn : n ∈ ms)
    (heq : derived label m.1 m.2 = derived label n.1 n.2) : m = n := by
  have hdigits := (String.append_right_inj _).mp heq
  have hstrings := Json.ofStrings_inj_of_canonical (h m hm n hn hdigits)
  simp only [List.cons.injEq, and_true] at hstrings
  exact Prod.ext hstrings.1 hstrings.2

theorem NoCollision.derived_eq_iff (h : NoCollision ms) (hm : m ∈ ms) (hn : n ∈ ms) :
    derived label m.1 m.2 = derived label n.1 n.2 ↔ m.2 = n.2 ∧ m.1 = n.1 := by
  constructor
  · intro heq
    rw [h.eq hm hn heq]
    exact ⟨rfl, rfl⟩
  · rintro ⟨hsource, hcall⟩
    rw [hsource, hcall]

theorem NoCollision.of_nodup (label : String)
    (h : (ms.map fun m => derived label m.1 m.2).Nodup) : NoCollision ms := by
  intro m hm n hn heq
  have hsame : m = n := List.inj_on_of_nodup_map h hm hn (congrArg (label ++ "-" ++ ·) heq)
  rw [hsame]

theorem derived_ne (hlength : label.length = other.length) (hne : label ≠ other)
    (callId sourceId callId' sourceId' : String) :
    derived label callId sourceId ≠ derived other callId' sourceId' := by
  intro heq
  have hlists := congrArg String.toList heq
  simp only [derived, stable, String.toList_append, List.append_assoc] at hlists
  exact hne (String.toList_inj.mp (List.append_inj_left hlists hlength))

end EffectId

/-! ## From a response to a claim -/

/-- What a handler makes of an effect, other than what it takes over from it. -/
structure Finding where
  kind : String
  canonical : Option String
  payload : Json

/-- A response, and all else that goes into an extraction from it, a derivation from that and a
claim about it. -/
structure Descent where
  raw : RawResponse
  extract : Call
  extracted : Finding
  derive : Call
  derived : Finding
  assert : Call
  subject : String
  predicate : String
  value : Json

namespace Descent

variable (p q : Descent)

def extraction : Extraction :=
  .make p.extract p.raw p.extracted.kind p.extracted.canonical p.extracted.payload

def derivation : Derivation :=
  .make p.derive p.extraction p.derived.kind p.derived.canonical p.derived.payload

def claim : Claim :=
  .make p.assert p.derivation p.subject p.predicate p.value

def materials : List (String × String) :=
  [(p.extract.id, p.raw.id), (p.derive.id, p.extraction.id), (p.assert.id, p.derivation.id)]

theorem extraction_id : p.extraction.id = EffectId.derived "ext" p.extract.id p.raw.id := rfl

theorem derivation_id : p.derivation.id = EffectId.derived "drv" p.derive.id p.extraction.id := rfl

theorem claim_id : p.claim.id = EffectId.derived "clm" p.assert.id p.derivation.id := rfl

section

variable {p q} {ms : List (String × String)} (h : EffectId.NoCollision ms)
variable (hp : p.materials ⊆ ms) (hq : q.materials ⊆ ms)
include h hp hq

theorem extraction_id_eq_iff : p.extraction.id = q.extraction.id ↔
    p.raw.id = q.raw.id ∧ p.extract.id = q.extract.id := by
  have hm : (p.extract.id, p.raw.id) ∈ ms := hp (by simp [materials])
  have hn : (q.extract.id, q.raw.id) ∈ ms := hq (by simp [materials])
  rw [extraction_id, extraction_id, h.derived_eq_iff hm hn]

theorem derivation_id_eq_iff : p.derivation.id = q.derivation.id ↔
    (p.raw.id = q.raw.id ∧ p.extract.id = q.extract.id) ∧ p.derive.id = q.derive.id := by
  have hm : (p.derive.id, p.extraction.id) ∈ ms := hp (by simp [materials])
  have hn : (q.derive.id, q.extraction.id) ∈ ms := hq (by simp [materials])
  rw [derivation_id, derivation_id, h.derived_eq_iff hm hn, extraction_id_eq_iff h hp hq]

theorem claim_id_eq_iff : p.claim.id = q.claim.id ↔
    ((p.raw.id = q.raw.id ∧ p.extract.id = q.extract.id) ∧ p.derive.id = q.derive.id) ∧
      p.assert.id = q.assert.id := by
  have hm : (p.assert.id, p.derivation.id) ∈ ms := hp (by simp [materials])
  have hn : (q.assert.id, q.derivation.id) ∈ ms := hq (by simp [materials])
  rw [claim_id, claim_id, h.derived_eq_iff hm hn, derivation_id_eq_iff h hp hq]

end

/-- An ID stands for the response and the calls that led to its effect, and for its kind of effect;
nothing else that the effect is made of has a part in it. -/
theorem ids_identify :
    (p.extraction.id ≠ q.derivation.id ∧ p.extraction.id ≠ q.claim.id ∧
      p.derivation.id ≠ q.claim.id) ∧
    (EffectId.NoCollision (p.materials ++ q.materials) →
      (p.extraction.id = q.extraction.id ↔
        p.raw.id = q.raw.id ∧ p.extract.id = q.extract.id) ∧
      (p.derivation.id = q.derivation.id ↔
        (p.raw.id = q.raw.id ∧ p.extract.id = q.extract.id) ∧ p.derive.id = q.derive.id) ∧
      (p.claim.id = q.claim.id ↔
        ((p.raw.id = q.raw.id ∧ p.extract.id = q.extract.id) ∧ p.derive.id = q.derive.id) ∧
          p.assert.id = q.assert.id)) := by
  refine ⟨?_, fun h => ?_⟩
  · simp only [extraction_id, derivation_id, claim_id]
    refine ⟨?_, ?_, ?_⟩ <;> refine EffectId.derived_ne ?_ ?_ _ _ _ _ <;> decide
  · have hp : p.materials ⊆ p.materials ++ q.materials := List.subset_append_left _ _
    have hq : q.materials ⊆ p.materials ++ q.materials := List.subset_append_right _ _
    exact ⟨extraction_id_eq_iff h hp hq, derivation_id_eq_iff h hp hq, claim_id_eq_iff h hp hq⟩

def sample (responseId extractId : String) : Descent where
  raw := .blank responseId "page" ""
  extract := { tool := "extract.words", id := extractId, endpoint := "", stage := .extract }
  extracted := ⟨"tokens", none, .null⟩
  derive := { tool := "derive.lemmas", id := "lemmas", endpoint := "", stage := .derive }
  derived := ⟨"lemmas", none, .null⟩
  assert := { tool := "claim.lemmas", id := "claim", endpoint := "", stage := .claim }
  subject := "logos"
  predicate := "has_lemmas"
  value := .null

theorem ids_identify_quoted :
    EffectId.NoCollision ((sample "c" "a\",\"b").materials ++ (sample "b\",\"c" "a").materials) ∧
    (sample "c" "a\",\"b").claim.id ≠ (sample "b\",\"c" "a").claim.id := by
  have hids : ((sample "c" "a\",\"b").materials ++ (sample "b\",\"c" "a").materials).map
      (fun m => EffectId.derived "x" m.1 m.2) =
      ["x-5b71a38a63b16e4c96599d3062114ab0", "x-187181ae81f4cd473ff57c5a2c40c087",
        "x-e16b7a97984bb2576ff2c3e3268eb6f4", "x-d434c4bb5486caf232475e82bea7eb91",
        "x-abf37a1f60280525af3135737506a0bd", "x-dfcbed782dc5a9156855d047cc8d84d0"] := by
    decide +kernel
  have hnone : EffectId.NoCollision
      ((sample "c" "a\",\"b").materials ++ (sample "b\",\"c" "a").materials) := by
    refine .of_nodup "x" ?_
    rw [hids]
    decide
  have hidentify := (ids_identify (sample "c" "a\",\"b") (sample "b\",\"c" "a")).2 hnone
  have hresponse : (sample "c" "a\",\"b").raw.id ≠ (sample "b\",\"c" "a").raw.id := by decide
  exact ⟨hnone, fun heq => hresponse (hidentify.2.2.mp heq).1.1.1⟩

end Descent

end Lemmata
