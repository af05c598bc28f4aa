import Lemmata.Proofs.Run.Searched
import Mathlib.Data.List.Flatten

/-! # Looking up a query from end to end -/

namespace Lemmata

namespace Request

variable {r : Request} {config : PlannerConfig} {planId : String} {query : Query}
variable {layers : List (List String)} {done : List (List (Call × Outcome))} {state : RunState}
variable {s : Search} {stage : Stage}

namespace LooksUp

variable (h : r.LooksUp config planId query)
include h

/-! ## What ends a look-up -/

theorem missing_of_error {failure : Failure} (hl : r.plan.Layered layers)
    (hends : Ends r done (.error failure)) :
    ∃ s ∈ Planner.searches config query, s.isOptional = false ∧
      r.Misses (s.fetch query.language) := by
  cases hends with
  | @stopped done state failure hreach hstart =>
    have hinv := hreach.roundInv hl
    obtain ⟨hpending, hready | ⟨hexpired, -⟩ | hwire⟩ := start_failed hstart
    · exact absurd hready (hinv.skipBlocked.ready_ne_nil hl
        (RunState.skipsDone_skipBlocked hinv.accounted) hpending)
    · simp [Run.isExpired, h.deadline_eq] at hexpired
    · obtain ⟨id, hid, call, hfound, hfailure, hoptional⟩ := RunState.wireAll_error hwire
      have hcall : call ∈ r.plan.calls := List.mem_of_find?_eq_some hfound
      have hcallId : call.id = id := by simpa using List.find?_some hfound
      have hblockers := (RunState.mem_ready.mp hid).2
      rw [h.plan_eq] at hcall
      obtain ⟨s, hs, stage, rfl⟩ := Planner.mem_calls_build.mp hcall
      cases hprevious : stage.previous? with
      | none =>
        obtain rfl := Stage.previous?_eq_none.mp hprevious
        refine ⟨s, hs, ?_, .noClient (RunState.clients_get?_of_wire_error Search.stage_fetch hfailure)⟩
        rw [← Bool.not_eq_true, ← Search.optional_fetch]
        exact fun hopt => hoptional ⟨Search.stage_fetch, hopt⟩
      | some previous =>
        -- A later call finds its source and its handler.
        have hsearched : r.Searched config query (state.skipBlocked r.plan) := by
          intro p hp
          rw [RunState.produced_skipBlocked hinv.accounted] at hp
          exact h.searched hl hreach p hp
        have hnodup := (List.nodup_append.mp hinv.skipBlocked.accounted.done_nodup).1
        rw [← hcallId, Search.id_call] at hblockers
        have hdone := hblockers _ (h.mem_blockers hs hprevious)
        obtain ⟨raw, -, hsource⟩ := hsearched.source?_eq hs hprevious hnodup hdone
        obtain ⟨work, hwork⟩ := Search.wire_ok hprevious hsource
        rw [h.registry_eq, hwork] at hfailure
        cases hfailure
  | @broken done state t works failure hreach hstart htake =>
    obtain ⟨o, ho, hfailure, hrequired⟩ := RunState.failure_of_takeOutcomes htake
    obtain ⟨s, hs, hyields⟩ := h.round_yields hl hreach (h.searched hl hreach) hstart o ho
    cases hyields with
    | made _ hmade =>
      rw [hmade] at hfailure
      cases hfailure
    | missed hcall hmiss ho =>
      refine ⟨s, hs, ?_, hcall ▸ hmiss⟩
      rw [← Search.optional_fetch, ← hcall]
      exact hrequired ho

theorem dropped {id : String} (hdropped : r.Dropped id) :
    ∃ s ∈ Planner.searches config query, s.isOptional = true ∧
      r.Misses (s.fetch query.language) ∧ ∃ stage, id = s.callId stage := by
  induction hdropped with
  | missed hcall hstage hoptional _ hmiss =>
    rw [h.plan_eq] at hcall
    obtain ⟨s, hs, stage, rfl⟩ := Planner.mem_calls_build.mp hcall
    rw [Search.stage_call] at hstage
    subst hstage
    exact ⟨s, hs, Search.optional_fetch ▸ hoptional, hmiss, .fetch, Search.id_call⟩
  | blocked hd _ ih =>
    obtain ⟨s, hs, hoptional, hmiss, stage, hid⟩ := ih
    rw [h.plan_eq] at hd
    obtain ⟨t, ht, other, previous, -, rfl⟩ := Planner.mem_dependencies_build.mp hd
    obtain ⟨rfl, -⟩ := Planner.callId_inj ht hs (Search.id_call.symm.trans hid)
    exact ⟨t, ht, hoptional, hmiss, other, Search.id_call⟩

/-! ## A look-up that completes -/

section

variable (hl : r.plan.Layered layers) (hends : Ends r done (.ok state))
include hl hends

theorem ends_searched : r.Searched config query state := by
  cases hends with
  | finished hreach hstart =>
    obtain ⟨rfl, -⟩ := start_finished hstart
    intro p hp
    rw [RunState.produced_skipBlocked (hreach.roundInv hl).accounted] at hp
    exact h.searched hl hreach p hp

theorem answer_of_completed (hs : s ∈ Planner.searches config query)
    (hid : s.callId stage ∈ state.completed) :
    ∃ raw, r.answer? (s.fetch query.language) = some raw ∧
      (s.call query.language stage, s.effect query.language r.readings raw stage) ∈
        state.produced := by
  obtain ⟨p, hp, hid⟩ := List.mem_map.mp hid
  obtain ⟨t, ht, other, raw, hraw, rfl⟩ := h.ends_searched hl hends p hp
  obtain ⟨rfl, rfl⟩ := Planner.callId_inj ht hs (Search.id_call.symm.trans hid)
  exact ⟨raw, hraw, hp⟩

theorem completed_or_skipped (hs : s ∈ Planner.searches config query) (stage : Stage) :
    (∃ raw, r.answer? (s.fetch query.language) = some raw ∧
      (s.call query.language stage, s.effect query.language r.readings raw stage) ∈
        state.produced) ∨
    r.answer? (s.fetch query.language) = none ∧ s.isOptional = true ∧
      s.callId stage ∈ state.skippedIds := by
  have hcall : s.callId stage ∈ r.plan.callIds := by
    rw [h.plan_eq, Planner.callIds_build]
    exact List.mem_flatMap.mpr ⟨s, hs, List.mem_map_of_mem (Planner.mem_all stage)⟩
  rcases hends.completed_or_skipped hl hcall with hid | hid
  · exact .inl (h.answer_of_completed hl hends hs hid)
  · obtain ⟨t, ht, hoptional, hmiss, other, heq⟩ := h.dropped ((hends.dropped_iff hl).mp hid)
    obtain ⟨rfl, -⟩ := Planner.callId_inj hs ht heq
    exact .inr ⟨misses_iff.mp hmiss, hoptional, hid⟩

theorem effect_mem {raw : RawResponse} (hs : s ∈ Planner.searches config query)
    (hraw : r.answer? (s.fetch query.language) = some raw) (stage : Stage) :
    s.effect query.language r.readings raw stage ∈ state.effects := by
  rcases h.completed_or_skipped hl hends hs stage with ⟨raw', hraw', hp⟩ | ⟨hnone, -⟩
  · obtain rfl := Option.some.inj (hraw.symm.trans hraw')
    have hinv := (hends.final hl).1
    obtain ⟨o, ho, -, heffect⟩ := hinv.mem_produced.mp hp
    rw [hinv.effects_eq]
    exact List.mem_filterMap.mpr ⟨o, ho, Outcome.written?_of_completed? heffect⟩
  · rw [hraw] at hnone
    cases hnone

theorem claim_of_produced {p : Call × Effect} {c : Claim} (hp : p ∈ state.produced)
    (hc : p.2.claim? = some c) : ∃ s ∈ Planner.searches config query, ∃ raw,
      r.answer? (s.fetch query.language) = some raw ∧
        c = s.claim query.language r.readings raw ∧ p.1.id = s.callId .claim := by
  obtain ⟨s, hs, stage, raw, hraw, rfl⟩ := h.ends_searched hl hends p hp
  cases stage <;> cases hc
  exact ⟨s, hs, raw, hraw, rfl, Search.id_call⟩

theorem claims_perm : (state.effects.filterMap Effect.claim?).Perm
    ((Planner.searches config query).filterMap fun s =>
      (r.answer? (s.fetch query.language)).map (s.claim query.language r.readings)) := by
  have hinv := (hends.final hl).1
  have hcallId : ∀ (s : Search) raw, (s.claim query.language r.readings raw).callId =
      s.callId .claim := fun s raw => Search.id_call
  rw [hinv.claims_eq]
  refine (List.perm_ext_iff_of_nodup ?_ ?_).mpr fun c => ?_
  · have hcalls : state.produced.Pairwise fun p q => p.1.id ≠ q.1.id :=
      List.pairwise_map.mp (List.nodup_append.mp hinv.accounted.done_nodup).1
    refine List.pairwise_filterMap.mpr (hcalls.imp_of_mem ?_)
    rintro p q hp hq hne c hc _ hd rfl
    obtain ⟨s, -, raw, -, rfl, hid⟩ := h.claim_of_produced hl hends hp hc
    obtain ⟨t, -, raw', -, heq, hid'⟩ := h.claim_of_produced hl hends hq hd
    have hsame : s.callId .claim = t.callId .claim := by rw [← hcallId s raw, heq, hcallId]
    exact hne (hid.trans (hsame.trans hid'.symm))
  · refine List.pairwise_filterMap.mpr ((Planner.searches_nodup config query).imp_of_mem ?_)
    rintro s t hs ht hne c hc _ hd rfl
    obtain ⟨raw, -, rfl⟩ := Option.map_eq_some_iff.mp hc
    obtain ⟨raw', -, heq⟩ := Option.map_eq_some_iff.mp hd
    have hsame : s.callId .claim = t.callId .claim := by rw [← hcallId s raw, ← heq, hcallId]
    exact hne (Planner.callId_inj hs ht hsame).1
  · simp only [List.mem_filterMap, Option.map_eq_some_iff]
    constructor
    · rintro ⟨p, hp, hc⟩
      obtain ⟨s, hs, raw, hraw, rfl, -⟩ := h.claim_of_produced hl hends hp hc
      exact ⟨s, hs, raw, hraw, rfl⟩
    · rintro ⟨s, hs, raw, hraw, rfl⟩
      rcases h.completed_or_skipped hl hends hs .claim with ⟨raw', hraw', hp⟩ | ⟨hnone, -⟩
      · obtain rfl := Option.some.inj (hraw.symm.trans hraw')
        exact ⟨_, hp, rfl⟩
      · rw [hraw] at hnone
        cases hnone

theorem skippedIds_perm : state.skippedIds.Perm
    (((Planner.searches config query).filter fun s =>
      (r.answer? (s.fetch query.language)).isNone).flatMap Search.callIds) := by
  have hinv := (hends.final hl).1
  refine (List.perm_ext_iff_of_nodup ?_ ?_).mpr fun id => ?_
  · exact (List.nodup_append.mp hinv.accounted.done_nodup).2.1
  · have hall := hl.nodup
    rw [h.plan_eq, Planner.callIds_build] at hall
    exact hall.sublist (List.Sublist.flatMap List.filter_sublist _)
  · simp only [List.mem_flatMap, List.mem_filter, Option.isNone_iff_eq_none]
    constructor
    · intro hid
      obtain ⟨s, hs, -, hmiss, stage, rfl⟩ := h.dropped ((hends.dropped_iff hl).mp hid)
      exact ⟨s, ⟨hs, misses_iff.mp hmiss⟩, List.mem_map_of_mem (Planner.mem_all stage)⟩
    · rintro ⟨s, ⟨hs, hnone⟩, hid⟩
      obtain ⟨stage, -, rfl⟩ := List.mem_map.mp hid
      rcases h.completed_or_skipped hl hends hs stage with ⟨raw, hraw, -⟩ | ⟨-, -, hid⟩
      · rw [hraw] at hnone
        cases hnone
      · exact hid

end

theorem fails_iff (hl : r.plan.Layered layers) :
    (∃ failure, r.allRounds.2 = .error failure) ↔
      ∃ s ∈ Planner.searches config query, s.isOptional = false ∧
        r.Misses (s.fetch query.language) := by
  have hends := ends_allRounds hl
  constructor
  · rintro ⟨failure, hfailure⟩
    exact h.missing_of_error hl (hfailure ▸ hends)
  · rintro ⟨s, hs, hrequired, hmiss⟩
    cases hresult : r.allRounds.2 with
    | error failure => exact ⟨failure, rfl⟩
    | ok state =>
      rcases h.completed_or_skipped hl (hresult ▸ hends) hs .fetch with
        ⟨raw, hraw, -⟩ | ⟨-, hoptional, -⟩
      · rw [misses_iff.mp hmiss] at hraw
        cases hraw
      · rw [hrequired] at hoptional
        cases hoptional

end LooksUp

end Request

/-! ## The whole look-up -/

theorem Search.isOptional_eq_false {s : Search} :
    s.isOptional = false ↔ s.backend = .diogenes ∨ s.backend = .heritage := by
  obtain ⟨backend, index, candidate, endpoint⟩ := s
  cases backend <;> simp [isOptional]

namespace Query

variable (query : Query) (config : PlannerConfig) (planId : String) (clients : Clients)
variable (options : ExecutionOptions) (readings : Readings) (store : Store)

/-- A query is looked up with one fetch for each search. With more permits than there can be, the
look-up is over before it has started anything. Otherwise, without a deadline, an answer from the
cache or a fault, it fails exactly if nothing comes of a search in Diogenes or Heritage. If it does
not fail, there is one claim for each search with an answer: it says which lemmas are in that
answer, and rests on the calls of its own search only. The other searches are skipped with all their
calls. -/
theorem lookUp_claims_answers (hdeadline : options.deadlineMs = none)
    (hask : options.allowCache = true →
      (Run.ask readings store (Planner.build config planId query).hash).2 = .ok none)
    (htask : ∀ id, readings.faults.task id = none) (hwrite : ∀ id, readings.faults.write id = none)
    (hfinish : readings.faults.finish = none) :
    let r : Request := ⟨Planner.build config planId query, clients, .standard, options, readings⟩
    let searches := Planner.searches config query
    let report := query.lookUp config planId clients .standard options readings store
    (r.plan.callsIn .fetch = searches.map fun s => s.fetch query.language) ∧
    (Run.greatestConcurrency < options.maxConcurrency →
      report = ⟨store, [], .error (.outOfRange .concurrency)⟩) ∧
    (options.maxConcurrency ≤ Run.greatestConcurrency →
      ((∃ failure, report.result = .error failure) ↔ ∃ s ∈ searches,
        (s.backend = .diogenes ∨ s.backend = .heritage) ∧ r.Misses (s.fetch query.language))) ∧
    ∀ a, report.result = .ok a →
      a.claims.Perm (searches.filterMap fun s =>
        (r.answer? (s.fetch query.language)).map (s.claim query.language readings)) ∧
      (∀ c ∈ a.claims, ∃ s ∈ searches, ∃ raw ∈ a.raws, ∃ x ∈ a.extractions, ∃ d ∈ a.derivations,
        r.answer? (s.fetch query.language) = some raw ∧
        query.candidates[s.index]? = some s.candidate ∧
        x.callId = s!"{s.backend.name}-{s.index}/extract" ∧
        d.callId = s!"{s.backend.name}-{s.index}/derive" ∧
        c.callId = s!"{s.backend.name}-{s.index}/claim" ∧
        c.subject = s.candidate.headword ∧ c.predicate = "has_lemmas" ∧
        c.value = Handler.lemmasPayload (Handler.lemmas (tokens (Handler.visibleText raw))) ∧
        c.chain.map (fun l => (l.stage, l.effectId)) =
          [(.fetch, raw.id), (.extract, x.id), (.derive, d.id), (.claim, c.id)]) ∧
      a.skippedIds.Perm ((searches.filter fun s =>
        (r.answer? (s.fetch query.language)).isNone).flatMap Search.callIds) := by
  intro r searches report
  have h : r.LooksUp config planId query := ⟨rfl, rfl, hdeadline, htask, hwrite⟩
  obtain ⟨layers, hlayers⟩ := h.layered
  have hl := Plan.layered_of_layers hlayers
  have hends := Request.ends_allRounds hl
  have hlimits := Run.checkLimits_of_untimed readings hdeadline
  have hover (hlimit : Run.greatestConcurrency < options.maxConcurrency) :
      report = ⟨store, [], .error (.outOfRange .concurrency)⟩ :=
    Request.execute_of_limits (r := r) hask hlayers (hlimits.trans (if_neg (Nat.not_le.mpr hlimit)))
  have hresult (hlimit : options.maxConcurrency ≤ Run.greatestConcurrency) : report.result =
      r.allRounds.2.map fun s => .ofEffects (r.summary s) s.effects s.skipped :=
    Request.result_of_allRounds hlayers (hlimits.trans (if_pos hlimit)) hask hfinish
  refine ⟨Planner.fetches_build config planId query, hover, ?_, ?_⟩
  · intro hlimit
    have hfails : (∃ failure, report.result = .error failure) ↔
        ∃ failure, r.allRounds.2 = .error failure := by
      rw [hresult hlimit]
      cases r.allRounds.2 <;> simp [Except.map]
    rw [hfails, h.fails_iff hl]
    simp only [Search.isOptional_eq_false, searches]
  · intro a ha
    have hlimit : options.maxConcurrency ≤ Run.greatestConcurrency := by
      by_contra hlimit
      rw [hover (Nat.not_le.mp hlimit)] at ha
      cases ha
    obtain ⟨state, hstate, rfl⟩ : ∃ state, r.allRounds.2 = .ok state ∧
        .ofEffects (r.summary state) state.effects state.skipped = a := by
      rw [hresult hlimit] at ha
      cases hrounds : r.allRounds.2 with
      | error failure =>
        rw [hrounds] at ha
        cases ha
      | ok state =>
        rw [hrounds] at ha
        exact ⟨state, rfl, Except.ok.inj ha⟩
    rw [hstate] at hends
    have hclaims := h.claims_perm hl hends
    refine ⟨hclaims, ?_, h.skippedIds_perm hl hends⟩
    intro c hc
    obtain ⟨s, hs, hc⟩ := List.mem_filterMap.mp (hclaims.mem_iff.mp hc)
    obtain ⟨raw, hraw, rfl⟩ := Option.map_eq_some_iff.mp hc
    have hmem := h.effect_mem hl hends hs hraw
    exact ⟨s, hs, raw, List.mem_filterMap.mpr ⟨_, hmem .fetch, rfl⟩,
      _, List.mem_filterMap.mpr ⟨_, hmem .extract, rfl⟩,
      _, List.mem_filterMap.mpr ⟨_, hmem .derive, rfl⟩, hraw,
      (Planner.mem_searches.mp hs).1.2, Search.id_call.trans Search.callId_extract,
      Search.id_call.trans Search.callId_derive, Search.id_call.trans Search.callId_claim,
      rfl, rfl, rfl, rfl⟩

/-! ### A word that one of two backends knows -/

def lupus : Query where
  typed := "lupus"
  language := .latin
  candidates := [{ headword := "lupus" }]

/-- Diogenes and Whitaker's Words, but there is no client for the latter. -/
def lupusConfig : PlannerConfig where
  diogenesUrl := "http://localhost:8888"
  whitakersPath := "words"

def lupusRaw : RawResponse where
  id := "raw-lupus"
  tool := "fetch.diogenes"
  callId := "diogenes-0"
  endpoint := "http://localhost:8888"
  status := 200
  contentType := "text/plain"
  headers := .empty
  body := []
  durationMs := 1

def lupusClient : Client where
  name := "pages"
  execute _ _ _ := .ok lupusRaw
  isSuccess := Client.isHttpSuccess

def lupusClients : Clients :=
  Clients.empty.add "fetch.diogenes" lupusClient

def lupusReport : RunReport :=
  lupus.lookUp lupusConfig "plan-1" lupusClients .standard {} (.still { second := 0 }) .empty

def lupusRequest : Request where
  plan := Planner.build lupusConfig "plan-1" lupus
  clients := lupusClients
  registry := .standard
  options := {}
  readings := .still { second := 0 }

def inDiogenes : Search := ⟨.diogenes, 0, { headword := "lupus" }, "http://localhost:8888"⟩

def inWhitakers : Search := ⟨.whitakers, 0, { headword := "lupus" }, "words"⟩

theorem searches_lupus : Planner.searches lupusConfig lupus = [inDiogenes, inWhitakers] := by
  cbv

theorem answer_inDiogenes : lupusRequest.answer? (inDiogenes.fetch .latin) = some lupusRaw := rfl

theorem lupus_claims_answers :
    (∃ a, lupusReport.result = .ok a ∧ a.claims.map Claim.callId = ["diogenes-0/claim"] ∧
      a.skippedIds.Perm
        ["whitakers-0", "whitakers-0/extract", "whitakers-0/derive", "whitakers-0/claim"]) ∧
    (lupus.lookUp lupusConfig "plan-1" lupusClients .standard
        { maxConcurrency := 0x2000000000000000 } (.still { second := 0 }) .empty).result =
      .error (.outOfRange .concurrency) := by
  obtain ⟨-, -, herror, hclaims⟩ := lookUp_claims_answers lupus lupusConfig "plan-1" lupusClients {}
    (.still { second := 0 }) .empty rfl (fun _ => rfl) (fun _ => rfl) (fun _ => rfl) rfl
  have hover := (lookUp_claims_answers lupus lupusConfig "plan-1" lupusClients
    { maxConcurrency := 0x2000000000000000 } (.still { second := 0 }) .empty rfl (fun _ => rfl)
    (fun _ => rfl) (fun _ => rfl) rfl).2.1 (by decide)
  refine ⟨?_, congrArg RunReport.result hover⟩
  cases hresult : lupusReport.result with
  | error failure =>
    obtain ⟨s, hs, hbackend, hmiss⟩ := (herror (by decide)).mp ⟨failure, hresult⟩
    have hnone : lupusRequest.answer? (s.fetch .latin) = none := Request.misses_iff.mp hmiss
    rw [searches_lupus] at hs
    rcases List.mem_cons.mp hs with rfl | hs
    · rw [answer_inDiogenes] at hnone
      cases hnone
    · rw [List.mem_singleton.mp hs] at hbackend
      rcases hbackend with hbackend | hbackend <;> cases hbackend
  | ok a =>
    obtain ⟨hperm, -, hskipped⟩ := hclaims a hresult
    rw [searches_lupus] at hperm hskipped
    have hone : a.claims.Perm [inDiogenes.claim .latin (.still { second := 0 }) lupusRaw] := hperm
    have hids : inWhitakers.callIds =
        ["whitakers-0", "whitakers-0/extract", "whitakers-0/derive", "whitakers-0/claim"] := by
      cbv
    refine ⟨a, rfl, ?_, ?_⟩
    · rw [List.perm_singleton.mp hone]
      exact congrArg (fun id => [id]) (Search.id_call.trans Search.callId_claim)
    · rw [← hids, ← List.append_nil inWhitakers.callIds]
      exact hskipped

end Query

end Lemmata
