import Lemmata.Handler
import Lemmata.Proofs.Store.Rows

/-! # What the built-in handlers make -/

namespace Lemmata

/-! ## Values that last -/

namespace Json

variable {v w : Json} {ms : List (String × Json)}

theorem lasting_object (hkeys : (ms.map Prod.fst).Pairwise (· < ·))
    (hms : ∀ m ∈ ms, m.2.isExact = true ∧ m.2.depth ≤ 1 ∧ m.2.tidy = m.2) :
    (Json.object ms).Lasting where
  exact := by
    rw [isExact, haveExact_iff]
    exact fun m hm => (hms m hm).1
  depth_le := by
    have hdepth : depthMembers ms ≤ 1 := depthMembers_le_iff.mpr fun m hm => (hms m hm).2.1
    have hlimit : 4 ≤ Reader.nestingLimit := by decide
    rw [depth]
    omega
  tidy_eq := by
    have hsorted : ms.Pairwise fun a b => a.1 < b.1 := List.pairwise_map.mp hkeys
    rw [tidy, tidyMembers_of_pairwise (by simpa using hsorted), List.nil_append]
    have hsame : ms.map (fun m => (m.1, m.2.tidy)) = ms.map id :=
      List.map_congr_left fun m hm => Prod.ext rfl (hms m hm).2.2
    rw [hsame, List.map_id]

theorem isExact_ofStrings (items : List String) : (ofStrings items).isExact = true := by
  rw [ofStrings, isExact, areExact_iff]
  intro v hv
  obtain ⟨s, -, rfl⟩ := List.mem_map.mp hv
  rfl

theorem depth_ofStrings (items : List String) : (ofStrings items).depth ≤ 1 := by
  have hdepth : depthItems (items.map Json.string) ≤ 0 := by
    rw [depthItems_le_iff]
    intro v hv
    obtain ⟨s, -, rfl⟩ := List.mem_map.mp hv
    exact Nat.le_refl 0
  exact Nat.succ_le_succ hdepth

theorem tidy_ofStrings (items : List String) : (ofStrings items).tidy = ofStrings items := by
  rw [ofStrings, tidy, tidyItems_eq_map, List.map_map]
  rfl

theorem isExact_ofInt {n : Int} (hlow : Number.leastInteger ≤ n)
    (hhigh : n ≤ Number.greatestInteger) : (ofInt n).isExact = true := by
  rw [ofInt, isExact, decide_eq_true_iff]
  exact ⟨hlow, hhigh⟩

theorem isExact_ofInt32 (n : Int32) : (ofInt32 n).isExact = true := by
  have hlow : -2 ^ 31 ≤ n.toInt := n.le_toInt
  have hhigh : n.toInt < 2 ^ 31 := n.toInt_lt
  exact isExact_ofInt (by unfold Number.leastInteger; omega)
    (by unfold Number.greatestInteger; omega)

theorem isExact_ofUInt64 (n : UInt64) : (ofUInt64 n).isExact = true := by
  have hhigh : n.toNat < 2 ^ 64 := n.toNat_lt
  exact isExact_ofInt (by unfold Number.leastInteger; omega)
    (by unfold Number.greatestInteger; omega)

theorem tidy_eq_of_text (hv : v.isExact = true) (hw : w.isExact = true)
    (hdv : v.depth ≤ Reader.nestingLimit) (hdw : w.depth ≤ Reader.nestingLimit)
    (h : v.text = w.text) : v.tidy = w.tidy := by
  have hread := parse?_text hv hdv
  rw [h, parse?_text hw hdw] at hread
  exact (Option.some.inj hread).symm

theorem sorted_ofStrings (items : List String) : (ofStrings items).sorted = ofStrings items := by
  have hitems : ∀ items : List String, sortedItems (items.map .string) = items.map .string := by
    intro items
    induction items with
    | nil => rfl
    | cons s rest ih => simp [sortedItems, sorted, ih]
  rw [ofStrings, sorted, hitems]

theorem ofStrings_inj_of_canonical {as bs : List String}
    (h : (ofStrings as).canonical = (ofStrings bs).canonical) : as = bs := by
  have hlimit : 1 ≤ Reader.nestingLimit := by decide
  unfold canonical at h
  rw [sorted_ofStrings, sorted_ofStrings] at h
  have htidy := tidy_eq_of_text (isExact_ofStrings as) (isExact_ofStrings bs)
    (Nat.le_trans (depth_ofStrings as) hlimit) (Nat.le_trans (depth_ofStrings bs) hlimit) h
  rw [tidy_ofStrings, tidy_ofStrings] at htidy
  exact (List.map_inj_right fun _ _ => Json.string.inj).mp (Json.array.inj htidy)

end Json

/-! ## Effects as the built-in handlers make them -/

namespace Effect

/-- What the ID of an effect is a digest of; a response has its ID from its client. -/
def material? : Effect → Option (String × String)
  | raw _ => none
  | extraction e => some (e.callId, e.responseId)
  | derivation e => some (e.callId, e.extractionId)
  | claim e => some (e.callId, e.derivationId)

def label : Effect → String
  | raw _ => ""
  | extraction _ => "ext"
  | derivation _ => "drv"
  | claim _ => "clm"

/-- As a built-in handler leaves it after the call. -/
def BuiltIn (call : Call) (e : Effect) : Prop :=
  ∀ m, e.material? = some m → m.1 = call.id ∧ e.id = EffectId.derived e.label m.1 m.2 ∧ e.Lasting

end Effect

theorem RawResponse.lasting_link (raw : RawResponse) : raw.link.Lasting := by
  rintro v ⟨⟩
  refine ⟨Json.lasting_object (List.pairwise_singleton _ _) ?_, Json.noConfusion⟩
  intro m hm
  obtain rfl := List.mem_singleton.mp hm
  exact ⟨Json.isExact_ofInt32 _, Nat.zero_le _, rfl⟩

theorem Link.lasting_of_metadata {l : Link} (h : l.metadata = none) : l.Lasting := by
  intro v hv
  rw [h] at hv
  cases hv

theorem lasting_extendChain {chain : List Link} {link : Link} (h : ∀ l ∈ chain, l.Lasting)
    (hlink : link.Lasting) : ∀ l ∈ extendChain chain link, l.Lasting := by
  intro l hl
  rcases List.mem_append.mp hl with hl | hl
  · exact h l hl
  · rwa [List.mem_singleton.mp hl]

section

variable {call : Call} {durationMs : UInt64} {payload : Json} (hpayload : payload.Lasting)
variable (hduration : Column.Fits durationMs)
include hpayload hduration

theorem Extraction.builtIn_make (raw : RawResponse) (kind : String) (canonical : Option String) :
    (Effect.extraction { make call raw kind canonical payload with durationMs }).BuiltIn call := by
  rintro m ⟨⟩
  refine ⟨rfl, rfl, hpayload, ?_, hduration⟩
  intro l hl
  rcases List.mem_cons.mp hl with rfl | hl
  · exact raw.lasting_link
  · exact Link.lasting_of_metadata (by rw [List.mem_singleton.mp hl])

theorem Derivation.builtIn_make {extraction : Extraction} (kind : String)
    (canonical : Option String) (hsource : (Effect.extraction extraction).Lasting) :
    (Effect.derivation { make call extraction kind canonical payload with durationMs }).BuiltIn
      call := by
  rintro m ⟨⟩
  exact ⟨rfl, rfl, hpayload, lasting_extendChain hsource.2.1 (Link.lasting_of_metadata rfl),
    hduration⟩

theorem Claim.builtIn_make {derivation : Derivation} (subject predicate : String)
    (hsource : (Effect.derivation derivation).Lasting) :
    (Effect.claim { make call derivation subject predicate payload with durationMs }).BuiltIn
      call := by
  rintro m ⟨⟩
  exact ⟨rfl, rfl, hpayload, lasting_extendChain hsource.2.1 (Link.lasting_of_metadata rfl),
    hduration⟩

end

/-! ## The built-in handlers -/

theorem Json.string?_eq_some_iff {v : Json} {s : String} : v.string? = some s ↔ v = .string s := by
  cases v <;> simp [string?]

theorem Json.mapM_string?_eq_some_iff {items : List Json} {strings : List String} :
    items.mapM string? = some strings ↔ items = strings.map .string := by
  induction items generalizing strings with
  | nil => cases strings <;> simp
  | cons v rest ih =>
    rw [List.mapM_cons, Option.bind_eq_bind, Option.bind_eq_some_iff]
    constructor
    · rintro ⟨s, hs, hrest⟩
      obtain ⟨found, hfound, heq⟩ := Option.bind_eq_some_iff.mp hrest
      obtain rfl := Option.some.inj heq
      rw [List.map_cons, string?_eq_some_iff.mp hs, ih.mp hfound]
    · intro heq
      obtain ⟨s, found, rfl, rfl, hfound⟩ := List.map_eq_cons_iff.mp heq.symm
      exact ⟨s, rfl, by rw [ih.mpr hfound.symm]; rfl⟩

namespace Handler

theorem stringsIn_eq_ok_iff {payload : Json} {key : String} {strings : List String} :
    stringsIn payload key = .ok strings ↔ payload.member? key = some (.ofStrings strings) := by
  unfold stringsIn
  cases payload.member? key with
  | none => simp
  | some v =>
    cases v with
    | array items =>
      rw [Json.ofStrings, Option.some.injEq, Json.array.injEq, ← Json.mapM_string?_eq_some_iff]
      simp only [Option.bind_some, Json.items?]
      cases items.mapM Json.string? <;> simp
    | _ => simp [Json.items?, Json.ofStrings]

theorem lasting_tokensPayload (raw : RawResponse) (tokens : List String) :
    (tokensPayload raw tokens).Lasting := by
  have hkeys : ["content_type", "status_code", "token_count", "tokens"].Pairwise (· < ·) := by
    decide
  refine Json.lasting_object hkeys ?_
  intro m hm
  simp only [List.mem_cons, List.not_mem_nil, or_false] at hm
  rcases hm with rfl | rfl | rfl | rfl
  · exact ⟨rfl, Nat.zero_le _, rfl⟩
  · exact ⟨Json.isExact_ofInt32 _, Nat.zero_le _, rfl⟩
  · exact ⟨Json.isExact_ofUInt64 _, Nat.zero_le _, rfl⟩
  · exact ⟨Json.isExact_ofStrings _, Json.depth_ofStrings _, Json.tidy_ofStrings _⟩

theorem lasting_lemmasPayload (lemmas : List String) : (lemmasPayload lemmas).Lasting := by
  refine Json.lasting_object (List.pairwise_singleton _ _) ?_
  intro m hm
  obtain rfl := List.mem_singleton.mp hm
  exact ⟨Json.isExact_ofStrings _, Json.depth_ofStrings _, Json.tidy_ofStrings _⟩

theorem lasting_stubPayload (call : Call) : (stubPayload call).Lasting := by
  have hkeys : ["call_id", "stub", "tool"].Pairwise (· < ·) := by decide
  refine Json.lasting_object hkeys ?_
  intro m hm
  simp only [List.mem_cons, List.not_mem_nil, or_false] at hm
  rcases hm with rfl | rfl | rfl <;> exact ⟨rfl, Nat.zero_le _, rfl⟩

end Handler

namespace Registry

/-- One of the registries that come with the built-in handlers and stubs only. -/
def BuiltIn (r : Registry) : Prop :=
  r = .standard ∨ r = .withStubs

variable {r : Registry} {call : Call} {durationMs : UInt64} {tool : String}

theorem mem_of_lookup {α : Type} {entries : List (String × α)} {key : String} {found : α}
    (h : entries.lookup key = some found) : (key, found) ∈ entries := by
  obtain ⟨before, after, rfl, -⟩ := List.lookup_eq_some_iff.mp h
  exact List.mem_append_right _ List.mem_cons_self

theorem eq_of_lookup_map {α : Type} {names : List Backend} {key : Backend → String}
    {value found : α}
    (h : (names.map fun b => (key b, value)).lookup tool = some found) : found = value := by
  obtain ⟨b, -, hb⟩ := List.mem_map.mp (mem_of_lookup h)
  exact (Prod.mk.inj hb).2.symm

theorem orElse_eq_ite {α : Type} {first : Option α} {value stub : α}
    (hfirst : ∀ found, first = some found → found = value) :
    (first <|> some stub) = some (if first.isSome = true then value else stub) := by
  cases first with
  | none => rfl
  | some found => rw [hfirst found rfl]; rfl

/-- Every tool has a handler: that of its stage if it is registered, and else the stub. -/
theorem BuiltIn.extractFor?_eq (hr : r.BuiltIn) (tool : String) : r.extractFor? tool =
    some (if r.isRegistered .extract tool = true then Handler.extractTokens
      else Handler.stubExtract) := by
  rcases hr with rfl | rfl
  · exact orElse_eq_ite fun _ => eq_of_lookup_map
  · rfl

theorem BuiltIn.deriveFor?_eq (hr : r.BuiltIn) (tool : String) : r.deriveFor? tool =
    some (if r.isRegistered .derive tool = true then Handler.deriveLemmas
      else Handler.stubDerive) := by
  rcases hr with rfl | rfl
  · exact orElse_eq_ite fun _ => eq_of_lookup_map
  · rfl

theorem BuiltIn.claimFor?_eq (hr : r.BuiltIn) (tool : String) : r.claimFor? tool =
    some (if r.isRegistered .claim tool = true then Handler.claimLemmas
      else Handler.stubClaim) := by
  rcases hr with rfl | rfl
  · exact orElse_eq_ite fun _ => eq_of_lookup_map
  · rfl

theorem BuiltIn.extract_cases {handler : ExtractHandler} (hr : r.BuiltIn)
    (h : r.extractFor? tool = some handler) :
    handler = Handler.extractTokens ∨ handler = Handler.stubExtract := by
  rw [hr.extractFor?_eq, Option.some.injEq] at h
  exact h ▸ ite_eq_or_eq _ _ _

theorem BuiltIn.derive_cases {handler : DeriveHandler} (hr : r.BuiltIn)
    (h : r.deriveFor? tool = some handler) :
    handler = Handler.deriveLemmas ∨ handler = Handler.stubDerive := by
  rw [hr.deriveFor?_eq, Option.some.injEq] at h
  exact h ▸ ite_eq_or_eq _ _ _

theorem BuiltIn.claim_cases {handler : ClaimHandler} (hr : r.BuiltIn)
    (h : r.claimFor? tool = some handler) :
    handler = Handler.claimLemmas ∨ handler = Handler.stubClaim := by
  rw [hr.claimFor?_eq, Option.some.injEq] at h
  exact h ▸ ite_eq_or_eq _ _ _

/-! ### Handlers that make effects of what they consume -/

/-- Each handler makes its effects of the call and the effect that it was given, with payloads of
this kind. -/
structure Constructs (r : Registry) (fine : Json → Prop) : Prop where
  extract : ∀ {tool : String} {handler : ExtractHandler} {call : Call} {raw : RawResponse}
    {e : Extraction}, r.extractFor? tool = some handler → handler call raw = .ok e →
    ∃ kind canonical payload, fine payload ∧ e = .make call raw kind canonical payload
  derive : ∀ {tool : String} {handler : DeriveHandler} {call : Call} {extraction : Extraction}
    {e : Derivation}, r.deriveFor? tool = some handler → handler call extraction = .ok e →
    ∃ kind canonical payload, fine payload ∧ e = .make call extraction kind canonical payload
  claim : ∀ {tool : String} {handler : ClaimHandler} {call : Call} {derivation : Derivation}
    {e : Claim}, r.claimFor? tool = some handler → handler call derivation = .ok e →
    ∃ subject predicate value, fine value ∧ e = .make call derivation subject predicate value

theorem BuiltIn.constructs (hr : r.BuiltIn) : r.Constructs Json.Lasting where
  extract h he := by
    rcases hr.extract_cases h with rfl | rfl
    · cases he
      exact ⟨_, _, _, Handler.lasting_tokensPayload _ _, rfl⟩
    · cases he
      exact ⟨_, _, _, Handler.lasting_stubPayload _, rfl⟩
  derive {_ _ _ extraction _} h he := by
    rcases hr.derive_cases h with rfl | rfl
    · cases htokens : Handler.stringsIn extraction.payload "tokens" with
      | error text => simp [Handler.deriveLemmas, htokens, bind, Except.bind] at he
      | ok tokens =>
        simp only [Handler.deriveLemmas, htokens, bind, Except.bind, Except.ok.injEq] at he
        exact ⟨_, _, _, Handler.lasting_lemmasPayload _, he.symm⟩
    · cases he
      exact ⟨_, _, _, Handler.lasting_stubPayload _, rfl⟩
  claim {_ _ _ derivation _} h he := by
    rcases hr.claim_cases h with rfl | rfl
    · cases hlemmas : Handler.stringsIn derivation.payload "lemmas" with
      | error text => simp [Handler.claimLemmas, hlemmas, bind, Except.bind] at he
      | ok lemmas =>
        simp only [Handler.claimLemmas, hlemmas, bind, Except.bind, Except.ok.injEq] at he
        exact ⟨_, _, _, Handler.lasting_lemmasPayload _, he.symm⟩
    · cases he
      exact ⟨_, _, _, Handler.lasting_stubPayload _, rfl⟩

theorem Constructs.mono {fine good : Json → Prop} (h : r.Constructs fine)
    (hgood : ∀ v, fine v → good v) : r.Constructs good where
  extract hhandler he :=
    let ⟨kind, canonical, payload, hfine, heq⟩ := h.extract hhandler he
    ⟨kind, canonical, payload, hgood payload hfine, heq⟩
  derive hhandler he :=
    let ⟨kind, canonical, payload, hfine, heq⟩ := h.derive hhandler he
    ⟨kind, canonical, payload, hgood payload hfine, heq⟩
  claim hhandler he :=
    let ⟨subject, predicate, value, hfine, heq⟩ := h.claim hhandler he
    ⟨subject, predicate, value, hgood value hfine, heq⟩

theorem BuiltIn.extract {handler : ExtractHandler} {raw : RawResponse} {e : Extraction}
    (hr : r.BuiltIn) (h : r.extractFor? tool = some handler) (he : handler call raw = .ok e)
    (hduration : Column.Fits durationMs) :
    (Effect.extraction { e with durationMs }).BuiltIn call := by
  obtain ⟨kind, canonical, payload, hpayload, rfl⟩ := hr.constructs.extract h he
  exact Extraction.builtIn_make hpayload hduration raw kind canonical

theorem BuiltIn.derive {handler : DeriveHandler} {extraction : Extraction} {e : Derivation}
    (hr : r.BuiltIn) (h : r.deriveFor? tool = some handler) (he : handler call extraction = .ok e)
    (hsource : (Effect.extraction extraction).Lasting) (hduration : Column.Fits durationMs) :
    (Effect.derivation { e with durationMs }).BuiltIn call := by
  obtain ⟨kind, canonical, payload, hpayload, rfl⟩ := hr.constructs.derive h he
  exact Derivation.builtIn_make hpayload hduration kind canonical hsource

theorem BuiltIn.claim {handler : ClaimHandler} {derivation : Derivation} {e : Claim}
    (hr : r.BuiltIn) (h : r.claimFor? tool = some handler) (he : handler call derivation = .ok e)
    (hsource : (Effect.derivation derivation).Lasting) (hduration : Column.Fits durationMs) :
    (Effect.claim { e with durationMs }).BuiltIn call := by
  obtain ⟨subject, predicate, value, hvalue, rfl⟩ := hr.constructs.claim h he
  exact Claim.builtIn_make hvalue hduration subject predicate hsource

end Registry

end Lemmata
