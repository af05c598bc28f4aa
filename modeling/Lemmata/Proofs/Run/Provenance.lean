import Lemmata.Proofs.Run.History
import Lemmata.Proofs.Run.Lineage
import Lemmata.Proofs.Run.Skips
import Lemmata.Run.Trace

/-! # A claim can always be traced to its response -/

namespace Lemmata

/-! ## What a run writes follows -/

theorem Work.written?_outcomeOf {α : Type} {planId : String} {call : Call} {make : α → Effect}
    {result : Except String α} :
    (outcomeOf planId call make result).written? = (outcomeOf planId call make result).completed? := by
  cases result <;> rfl

namespace Request

variable {r : Request} {layers : List (List String)} {done : List (List (Call × Outcome))}
variable {result : Except Failure RunState} {store : Store} {fine : Json → Prop}
variable {produced : List (Call × Effect)} {o : Call × Outcome} {e : Effect}

theorem Made.follows (h : r.Made produced o) (hregistry : r.registry.Constructs fine)
    (he : o.2.written? = some e) : e.Follows fine (produced.map Prod.snd) o.1 := by
  obtain ⟨s, work, hbefore, hwires, ho⟩ := h
  have hsource : ∀ {source : Effect}, s.source? r.plan o.1 = some source →
      source ∈ produced.map Prod.snd := by
    intro source hsource
    obtain ⟨p, hp, rfl⟩ := RunState.mem_produced_of_source? hsource
    exact List.mem_map_of_mem (hbefore.subset hp)
  rcases settle_cases r.plan r.readings.faults o.1
    (work.perform r.plan.id o.1 (r.readings.call o.1.id)) with hsettle | ⟨failure, hsettle⟩
  · rw [ho, hsettle] at he
    cases hwires with
    | fetch _ hclient =>
      rw [written?_perform_fetch hclient] at he
      obtain ⟨raw, -, rfl⟩ := Option.map_eq_some_iff.mp he
      exact .raw raw
    | extract _ hraw hhandler =>
      rw [Work.perform, Work.written?_outcomeOf] at he
      obtain ⟨x, hx, rfl⟩ := Work.completed?_outcomeOf he
      obtain ⟨kind, canonical, payload, hfine, rfl⟩ := hregistry.extract hhandler hx
      exact .extraction (hsource hraw) hfine kind canonical _
    | derive _ hextraction hhandler =>
      rw [Work.perform, Work.written?_outcomeOf] at he
      obtain ⟨d, hd, rfl⟩ := Work.completed?_outcomeOf he
      obtain ⟨kind, canonical, payload, hfine, rfl⟩ := hregistry.derive hhandler hd
      exact .derivation (hsource hextraction) hfine kind canonical _
    | claim _ hderivation hhandler =>
      rw [Work.perform, Work.written?_outcomeOf] at he
      obtain ⟨c, hc, rfl⟩ := Work.completed?_outcomeOf he
      obtain ⟨subject, predicate, value, hfine, rfl⟩ := hregistry.claim hhandler hc
      exact .claim (hsource hderivation) hfine subject predicate _
  · rw [ho, hsettle] at he
    cases he

/-- Each call of a run was given effects that the run wrote before. -/
theorem Ends.made (h : Ends r done result) (hl : r.plan.Layered layers) : ∀ o ∈ done.flatten,
    ∃ produced, r.Made produced o ∧
      produced.map Prod.snd ⊆ done.flatten.filterMap fun o => o.2.written? := by
  have hreached : ∀ {done s}, Reaches r done s → s.produced.map Prod.snd ⊆
      done.flatten.filterMap fun o => o.2.written? := by
    intro done s h e he
    obtain ⟨p, hp, rfl⟩ := List.mem_map.mp he
    obtain ⟨o, ho, -, heffect⟩ := (h.roundInv hl).mem_produced.mp hp
    exact List.mem_filterMap.mpr ⟨o, ho, Outcome.written?_of_completed? heffect⟩
  have hpassed : ∀ {done s}, Reaches r done s → ∀ o ∈ done.flatten, ∃ produced,
      r.Made produced o ∧ produced.map Prod.snd ⊆ done.flatten.filterMap fun o => o.2.written? :=
    fun h o ho => ⟨_, ((h.roundInv hl).passed o ho).made, hreached h⟩
  cases h with
  | finished h _ => exact hpassed h
  | stopped h _ => exact hpassed h
  | @broken done s t works failure h hstart htake =>
    intro o ho
    rw [List.flatten_append, List.flatten_singleton, List.filterMap_append]
    rw [List.flatten_append, List.flatten_singleton, List.mem_append] at ho
    rcases ho with ho | ho
    · obtain ⟨produced, hmade, hsub⟩ := hpassed h o ho
      exact ⟨produced, hmade, fun e he => List.mem_append_left _ (hsub he)⟩
    · obtain ⟨w, hw, rfl⟩ := mem_perform.mp ho
      obtain ⟨-, -, -, hwires⟩ := (h.startInv hl hstart).works_mem w hw
      exact ⟨s.produced, ⟨s, w.2, List.prefix_refl _, hwires, rfl⟩,
        fun e he => List.mem_append_left _ (hreached h he)⟩

theorem outcomes_nodup (r : Request) (store : Store) :
    ((r.outcomes store).map fun o => o.1.id).Nodup := by
  rcases r.outcomes_cases store with hnone | ⟨⟨layers, hlayers⟩, hall⟩
  · rw [hnone]
    exact List.nodup_nil
  · have hl := Plan.layered_of_layers hlayers
    have hnodup := (ends_allRounds hl).allStarted.nodup hl
    rw [hall, List.map_flatten]
    exact hnodup

theorem outcomes_follow (hregistry : r.registry.Constructs fine) :
    ∀ o ∈ r.outcomes store, ∀ e, o.2.written? = some e → e.Follows fine (r.written store) o.1 := by
  unfold written
  rcases r.outcomes_cases store with hnone | ⟨⟨layers, hlayers⟩, hall⟩
  · rw [hnone]
    exact fun o ho => (List.not_mem_nil ho).elim
  · have hl := Plan.layered_of_layers hlayers
    rw [hall]
    intro o ho e he
    obtain ⟨produced, hmade, hsub⟩ := (ends_allRounds hl).made hl o ho
    exact (hmade.follows hregistry he).mono hsub

theorem grown_written (hregistry : r.registry.Constructs fine) :
    Effect.Grown fine (r.written store) := by
  intro e he
  obtain ⟨o, ho, howritten⟩ := List.mem_filterMap.mp he
  exact ⟨o.1, outcomes_follow hregistry o ho e howritten⟩

end Request

theorem Event.grown_writtenAll {fine : Json → Prop} {events : List Event} (store : Store)
    (h : ∀ r, .run r ∈ events → r.registry.Constructs fine) :
    Effect.Grown fine (writtenAll store events) := by
  induction events generalizing store with
  | nil => exact fun e he => (List.not_mem_nil he).elim
  | cons event rest ih =>
    refine Effect.Grown.append ?_ (ih _ fun r hr => h r (List.mem_cons_of_mem _ hr))
    cases event with
    | run r => exact Request.grown_written (h r List.mem_cons_self)
    | prune cutoff => exact fun e he => (List.not_mem_nil he).elim

/-! ## Tracing -/

namespace Store

variable {s : Store} {raw : RawResponse} {x : Extraction} {d : Derivation} {c : Claim}

theorem eq_of_map_some {α : Type} {found : Except Failure (Option α)} {wrap : α → Effect} {a : α}
    (hwrap : Function.Injective wrap) (h : found.map (·.map wrap) = .ok (some (wrap a))) :
    found = .ok (some a) := by
  cases found with
  | error failure => cases h
  | ok o =>
    obtain ⟨b, rfl, hb⟩ := Option.map_eq_some_iff.mp (Except.ok.inj h)
    rw [hwrap hb]

/-- A trace follows the IDs that the effects were made with. -/
theorem trace_eq (hclaim : s.get .claim c.id = .ok (some (.claim c.stored)))
    (hderivation : s.get .derive c.derivationId = .ok (some (.derivation d.stored)))
    (hextraction : s.get .extract d.extractionId = .ok (some (.extraction x.stored)))
    (hraw : s.get .fetch x.responseId = .ok (some (.raw raw.stored))) :
    s.trace c.id = .ok ⟨c.stored, some d.stored, some x.stored, some raw.stored⟩ := by
  have hclaim := eq_of_map_some (fun _ _ => Effect.claim.inj) hclaim
  have hderivation := eq_of_map_some (fun _ _ => Effect.derivation.inj) hderivation
  have hextraction := eq_of_map_some (fun _ _ => Effect.extraction.inj) hextraction
  have hraw := eq_of_map_some (fun _ _ => Effect.raw.inj) hraw
  have hderivation' : s.getDerivation c.stored.derivationId = .ok (some d.stored) := hderivation
  have hextraction' : s.getExtraction d.stored.extractionId = .ok (some x.stored) := hextraction
  have hraw' : s.getRaw x.stored.responseId = .ok (some raw.stored) := hraw
  simp only [trace, hclaim, bind, Except.bind, hderivation', follow, hextraction', hraw', pure,
    Except.pure]

end Store

theorem ClaimTrace.stored_eq {raw : RawResponse} {x : Extraction} {d : Derivation} {c : Claim}
    (h : ∀ ms ∈ [c.durationMs, d.durationMs, x.durationMs, raw.durationMs], Column.Fits ms) :
    (⟨c.stored, some d.stored, some x.stored, some raw.stored⟩ : ClaimTrace) =
      ⟨c, some d, some x, some raw⟩ := by
  simp only [List.forall_mem_cons] at h
  obtain ⟨hc, hd, hx, hraw, -⟩ := h
  rw [Claim.stored, Derivation.stored, Extraction.stored, RawResponse.stored, Column.stored_eq hc,
    Column.stored_eq hd, Column.stored_eq hx, Column.stored_eq hraw]

namespace Request

variable {r : Request} {store : Store}

/-- Each effect of a run with built-in handlers is read back, as long as no other replaces it. -/
theorem get_after {later : List Event} (hconstructs : r.registry.Constructs Json.Lasting)
    (hids : Effect.RawsDistinct (r.written store)) (hcollision : Effect.NoCollision (r.written store))
    (hapart : ∀ e ∈ r.written store, ∀ f ∈ Event.writtenAll (r.execute store).store later,
      e.Apart f) :
    ∀ e ∈ r.written store, (Event.afterAll (r.execute store).store later).get e.stage e.id =
      .ok (some e.stored) := by
  obtain ⟨xs, hxs, hxswritten⟩ := r.execute_written store
  obtain ⟨ys, hys, hyswritten⟩ := Event.afterAll_statements (r.execute store).store later
  have hafter : Event.afterAll (r.execute store).store later = Statement.runAll store (xs ++ ys) := by
    rw [hys, hxs, Statement.runAll, Statement.runAll, Statement.runAll, List.foldl_append]
  intro e he
  rw [hafter]
  refine Store.get_runAll_stored ((grown_written hconstructs).readable e he) ?_ ?_
  · rw [← hxswritten, Statement.mem_effects] at he
    obtain ⟨now, hnow⟩ := he
    exact ⟨now, List.mem_append_left _ hnow⟩
  · intro now f hf hstage hid
    rcases List.mem_append.mp hf with hf | hf
    · have hmem : f ∈ r.written store := hxswritten ▸ Statement.mem_effects.mpr ⟨now, hf⟩
      exact Effect.eq_of_id_eq (r.outcomes_nodup store) (outcomes_follow hconstructs) hids hcollision
        f hmem e he hstage hid
    · have hmem := hyswritten ▸ Statement.mem_effects.mpr ⟨now, hf⟩
      exact absurd hid.symm (hapart e he f hmem hstage.symm)

/-- Right after a run with built-in handlers, and after any runs and prunings later on, each of its
claims is traced to the effects of the run that it was made of, if the handlers of the later runs
make their effects as they should. The effects are those of the run itself, if the store can hold
their durations. The links of the claim are those of these effects. -/
theorem claims_traced (p : Request) (store : Store) (a : Artifacts) (later : List Event)
    (hregistry : p.registry = .standard ∨ p.registry = .withStubs)
    (hrun : (p.execute store).result = .ok a) (hfresh : a.executed.fromCache = false)
    (hlater : ∀ q, .run q ∈ later → q.registry.Constructs fun _ => True)
    (hids : Effect.RawsDistinct
      (p.written store ++ Event.writtenAll (p.execute store).store later))
    (hcollision : Effect.NoCollision
      (p.written store ++ Event.writtenAll (p.execute store).store later)) :
    ∀ c ∈ a.claims, ∃ d ∈ a.derivations, ∃ x ∈ a.extractions, ∃ raw ∈ a.raws, ∃ t,
      (p.execute store).store.trace c.id = .ok t ∧
      (Event.afterAll (p.execute store).store later).trace c.id = .ok t ∧
      t = ⟨c.stored, some d.stored, some x.stored, some raw.stored⟩ ∧ t.isComplete = true ∧
      ((∀ ms ∈ [c.durationMs, d.durationMs, x.durationMs, raw.durationMs], Column.Fits ms) →
        t = ⟨c, some d, some x, some raw⟩) ∧
      c.chain.map (fun l => (l.stage, l.effectId, l.tool)) =
        [(.fetch, raw.id, raw.tool), (.extract, x.id, x.tool), (.derive, d.id, d.tool),
          (.claim, c.id, c.tool)] := by
  obtain ⟨layers, s, -, -, hwritten, rfl⟩ := reported_of_execute hrun hfresh
  have hconstructs : p.registry.Constructs Json.Lasting := Registry.BuiltIn.constructs hregistry
  have hgrown : Effect.Grown Json.Lasting (p.written store) := grown_written hconstructs
  have hapart := hgrown.apart (Event.grown_writtenAll (p.execute store).store hlater) hids hcollision
  have hcollision := hcollision.mono (List.subset_append_left (p.written store) _)
  have hnow : ∀ e ∈ p.written store,
      (Event.afterAll (p.execute store).store []).get e.stage e.id = .ok (some e.stored) :=
    get_after hconstructs hids.left hcollision fun _ _ _ => nofun
  have hthen := get_after hconstructs hids.left hcollision hapart
  rw [hwritten] at hgrown hnow hthen
  -- The claim, its derivation and so on, each with the effect that it was made of.
  intro c hc
  obtain ⟨e, hc, heq⟩ := List.mem_filterMap.mp hc
  obtain rfl : e = .claim c := by cases e <;> cases heq; rfl
  obtain ⟨call, hcall⟩ := hgrown _ hc
  cases hcall with
  | @claim d _ hd _ _ _ _ =>
    obtain ⟨call', hcall⟩ := hgrown _ hd
    cases hcall with
    | @derivation x _ hx _ _ _ _ =>
      obtain ⟨call'', hcall⟩ := hgrown _ hx
      cases hcall with
      | @extraction raw _ hraw _ _ _ _ =>
        refine ⟨_, List.mem_filterMap.mpr ⟨_, hd, rfl⟩, _, List.mem_filterMap.mpr ⟨_, hx, rfl⟩, raw,
          List.mem_filterMap.mpr ⟨_, hraw, rfl⟩, _, ?_, ?_, rfl, rfl,
          ClaimTrace.stored_eq, rfl⟩
        · exact Store.trace_eq (hnow _ hc) (hnow _ hd) (hnow _ hx) (hnow _ hraw)
        · exact Store.trace_eq (hthen _ hc) (hthen _ hd) (hthen _ hx) (hthen _ hraw)

/-! ### A page, its words, their lemmas and a claim -/

variable {raw : RawResponse}

def lemmasCall : Call := { tool := "lemmas", id := "d", endpoint := "", stage := .derive }

def claimCall : Call := { tool := "lemmas", id := "e", endpoint := "", stage := .claim }

def answering (raw : RawResponse) : Client :=
  { sampleClient with execute := fun _ _ _ => .ok raw }

def chained (raw : RawResponse) : Request :=
  { stubbed with
    plan := { stubbed.plan with
      calls := [pageCall, wordsCall, lemmasCall, claimCall]
      dependencies := [{ blocker := "a", blocked := "c" }, { blocker := "c", blocked := "d" },
        { blocker := "d", blocked := "e" }] }
    clients := Clients.empty.add "page" (answering raw) }

def wordsOf (raw : RawResponse) : Extraction :=
  .make wordsCall raw "words" none (Handler.stubPayload wordsCall)

def lemmasOf (raw : RawResponse) : Derivation :=
  .make lemmasCall (wordsOf raw) "lemmas" none (Handler.stubPayload lemmasCall)

def claimOf (raw : RawResponse) : Claim :=
  .make claimCall (lemmasOf raw) "d" "stub" (Handler.stubPayload claimCall)

def chainedDone (raw : RawResponse) : RunState :=
  let start := (RunState.initial (chained raw).plan).complete pageCall (.raw raw)
  ((start.complete wordsCall (.extraction (wordsOf raw))).complete lemmasCall
    (.derivation (lemmasOf raw))).complete claimCall (.claim (claimOf raw))

/-- The response of a page is kept as the client gave it. -/
def IsPage (raw : RawResponse) : Prop :=
  Work.fetchOutcome "p" pageCall 0 (answering raw) = .completed (.raw raw)

theorem chained_allRounds (h : IsPage raw) : (chained raw).allRounds =
    ([[(pageCall, .completed (.raw raw))], [(wordsCall, .completed (.extraction (wordsOf raw)))],
      [(lemmasCall, .completed (.derivation (lemmasOf raw)))],
      [(claimCall, .completed (.claim (claimOf raw)))]], .ok (chainedDone raw)) := by
  have hpage : (chained raw).start 0 (.initial (chained raw).plan) =
      .work (.initial (chained raw).plan) [(pageCall, .fetch (answering raw))] := by cbv
  have hperform : (chained raw).perform [(pageCall, .fetch (answering raw))] =
      [(pageCall, .completed (.raw raw))] := by
    have houtcome : (Work.fetch (answering raw)).perform "p" pageCall 0 =
      .completed (.raw raw) := h
    change [(pageCall, Run.settle (chained raw).plan {} pageCall
      ((Work.fetch (answering raw)).perform "p" pageCall 0))] = _
    rw [houtcome]
    rfl
  generalize hfirst : (RunState.initial (chained raw).plan).complete pageCall (.raw raw) = first
  have hwords : (chained raw).start 1 first =
      .work first [(wordsCall, .extract Handler.stubExtract raw)] := by
    rw [← hfirst]
    cbv
  have hlemmas : ∀ x, (chained raw).start 2 (first.complete wordsCall (.extraction x)) =
      .work (first.complete wordsCall (.extraction x))
        [(lemmasCall, .derive Handler.stubDerive x)] := by
    intro x
    rw [← hfirst]
    cbv
  have hclaim : ∀ x d, (chained raw).start 3 ((first.complete wordsCall (.extraction x)).complete
      lemmasCall (.derivation d)) =
      .work ((first.complete wordsCall (.extraction x)).complete lemmasCall (.derivation d))
        [(claimCall, .claim Handler.stubClaim d)] := by
    intro x d
    rw [← hfirst]
    cbv
  have hlast : ∀ x d c, (chained raw).start 4 (((first.complete wordsCall (.extraction x)).complete
      lemmasCall (.derivation d)).complete claimCall (.claim c)) =
      .finished (((first.complete wordsCall (.extraction x)).complete lemmasCall
        (.derivation d)).complete claimCall (.claim c)) := by
    intro x d c
    rw [← hfirst]
    cbv
  have hlength : (chained raw).plan.calls.length = 4 := rfl
  have hperformWords : (chained raw).perform [(wordsCall, .extract Handler.stubExtract raw)] =
      [(wordsCall, .completed (.extraction (wordsOf raw)))] := rfl
  have hperformLemmas : (chained raw).perform
      [(lemmasCall, .derive Handler.stubDerive (wordsOf raw))] =
      [(lemmasCall, .completed (.derivation (lemmasOf raw)))] := rfl
  have hperformClaim : (chained raw).perform [(claimCall, .claim Handler.stubClaim (lemmasOf raw))] =
      [(claimCall, .completed (.claim (claimOf raw)))] := rfl
  simp only [allRounds, hlength, rounds, hpage, hperform, RunState.takeOutcomes,
    RunState.takeOutcome, hfirst, hwords, hperformWords, hlemmas, hperformLemmas, hclaim,
    hperformClaim, hlast, chainedDone]

theorem chained_execute (h : IsPage raw) :
    ((chained raw).execute .empty).result = .ok ((chained raw).artifacts (chainedDone raw)) ∧
      (chained raw).written .empty = [.raw raw, .extraction (wordsOf raw),
        .derivation (lemmasOf raw), .claim (claimOf raw)] := by
  have hlayers : (chained raw).plan.layers = .ok [["a"], ["c"], ["d"], ["e"]] := by cbv
  have hresult : ((chained raw).execute .empty).result = _ :=
    result_of_allRounds hlayers rfl (fun _ => rfl) rfl
  rw [chained_allRounds h] at hresult
  refine ⟨hresult, ?_⟩
  rw [written_of_result hresult rfl, chained_allRounds h]
  rfl

theorem noCollision_chained (h : IsPage raw) :
    Effect.NoCollision ((chained raw).written .empty) := by
  rw [(chained_execute h).2]
  intro stage
  cases stage with
  | fetch => exact fun m hm => (List.not_mem_nil hm).elim
  | extract => exact .of_nodup "x" (List.nodup_singleton _)
  | derive => exact .of_nodup "x" (List.nodup_singleton _)
  | claim => exact .of_nodup "x" (List.nodup_singleton _)

theorem rawsDistinct_chained (h : IsPage raw) :
    Effect.RawsDistinct ((chained raw).written .empty) := by
  rw [(chained_execute h).2]
  exact List.nodup_singleton raw.id

theorem chained_get (h : IsPage raw) : ∀ e ∈ (chained raw).written .empty,
    ((chained raw).execute .empty).store.get e.stage e.id = .ok (some e.stored) :=
  @get_after (chained raw) .empty [] (Registry.BuiltIn.constructs (.inr rfl))
    (rawsDistinct_chained h) (noCollision_chained h) fun _ _ _ => nofun

/-- A run of one fetch that fails, though its response is kept. -/
def failing : Request :=
  { stubbed with
    plan := { stubbed.plan with
      calls := [{ tool := "page", id := "b", endpoint := "", stage := .fetch }]
      dependencies := [] } }

def failedRaw : RawResponse := { pageRaw with id := "raw-b", callId := "b", status := 500 }

theorem failing_written (store : Store) :
    failing.written store = [] ∨ failing.written store = [.raw failedRaw] := by
  rcases failing.outcomes_cases store with hnone | ⟨-, hall⟩
  · exact .inl (by rw [written, hnone]; rfl)
  · exact .inr (by rw [written, hall]; cbv)

/-- The chained run, the failing one, and a pruning of all that was not asked for since. -/
def afterPruning : Store :=
  Event.afterAll ((chained pageRaw).execute .empty).store [.run failing, .prune { second := 1 }]

theorem fits_page : ∀ ms ∈ [(0 : UInt64), 0, 0, 1], Column.Fits ms := by
  have hzero : Column.Fits 0 := by decide
  have hone : Column.Fits 1 := by decide
  simp [hzero, hone]

theorem chained_claims_traced :
    ((chained pageRaw).execute .empty).result =
      .ok ((chained pageRaw).artifacts (chainedDone pageRaw)) ∧
    ∃ t, ((chained pageRaw).execute .empty).store.trace (claimOf pageRaw).id = .ok t ∧
      afterPruning.trace (claimOf pageRaw).id = .ok t ∧ t.isComplete = true ∧
      t = ⟨claimOf pageRaw, some (lemmasOf pageRaw), some (wordsOf pageRaw), some pageRaw⟩ := by
  have hpage : IsPage pageRaw := rfl
  obtain ⟨hresult, hwritten⟩ := chained_execute hpage
  have hall : ∃ more, (chained pageRaw).written .empty ++
      Event.writtenAll ((chained pageRaw).execute .empty).store
        [.run failing, .prune { second := 1 }] =
      (chained pageRaw).written .empty ++ more ∧ (more = [] ∨ more = [.raw failedRaw]) := by
    refine ⟨failing.written ((chained pageRaw).execute .empty).store, ?_, failing_written _⟩
    rw [Event.writtenAll, Event.writtenAll, Event.writtenAll, Event.written, Event.written,
      List.append_nil, List.append_nil]
  obtain ⟨more, hall, hmore⟩ := hall
  have hbuilt : Registry.withStubs.Constructs fun _ => True :=
    (Registry.BuiltIn.constructs (.inr rfl)).mono fun _ _ => trivial
  have htraced := claims_traced (chained pageRaw) .empty _ [.run failing, .prune { second := 1 }]
    (.inr rfl) hresult rfl ?_ ?_ ?_ (claimOf pageRaw) List.mem_cons_self
  · obtain ⟨d, hd, x, hx, raw, hraw, t, hnow, hthen, -, hcomplete, hown, -⟩ := htraced
    obtain rfl : d = lemmasOf pageRaw := List.mem_singleton.mp hd
    obtain rfl : x = wordsOf pageRaw := List.mem_singleton.mp hx
    obtain rfl : raw = pageRaw := List.mem_singleton.mp hraw
    exact ⟨hresult, t, hnow, hthen, hcomplete, hown fits_page⟩
  · intro q hq
    obtain rfl : q = failing := by simpa using hq
    exact hbuilt
  · rw [hall, hwritten]
    rcases hmore with rfl | rfl
    · exact List.nodup_singleton "raw-a"
    · have hids : ["raw-a", "raw-b"].Nodup := by decide
      exact hids
  · rw [hall]
    -- A response has no material.
    have hone : ∀ stage, (((chained pageRaw).written .empty ++ more).filter
        fun e => e.stage = stage).filterMap Effect.material? =
        (((chained pageRaw).written .empty).filter fun e => e.stage = stage).filterMap
          Effect.material? := by
      intro stage
      rw [hwritten]
      rcases hmore with rfl | rfl <;> cases stage <;> rfl
    intro stage
    rw [hone]
    exact noCollision_chained hpage stage

/-! ### Later handlers that do not keep to the rules, and durations that are too long -/

def otherRaw : RawResponse := { pageRaw with id := "raw-x" }

def retold : Extraction := { wordsOf pageRaw with responseId := otherRaw.id }

def retelling : Request :=
  { stubbed with
    clients := Clients.empty.add "page" (answering otherRaw)
    registry := Registry.withStubs.addExtract "words" fun _ raw =>
      .ok { wordsOf pageRaw with responseId := raw.id }
    options := { allowCache := false } }

theorem retelling_written (store : Store) :
    retelling.written store = [.raw otherRaw, .extraction retold] := by
  have hlayers : retelling.plan.layers = .ok [["a"], ["c"]] := by cbv
  have hpage : retelling.start 0 (.initial retelling.plan) =
      .work (.initial retelling.plan) [(pageCall, .fetch (answering otherRaw))] := by cbv
  have hperform : retelling.perform [(pageCall, .fetch (answering otherRaw))] =
      [(pageCall, .completed (.raw otherRaw))] := rfl
  generalize hfirst : (RunState.initial retelling.plan).complete pageCall (.raw otherRaw) = first
  have hwords : retelling.start 1 first = .work first [(wordsCall,
      .extract (fun _ raw => .ok { wordsOf pageRaw with responseId := raw.id }) otherRaw)] := by
    rw [← hfirst]
    cbv
  have hlast : ∀ x, retelling.start 2 (first.complete wordsCall (.extraction x)) =
      .finished (first.complete wordsCall (.extraction x)) := by
    intro x
    rw [← hfirst]
    cbv
  have hlength : retelling.plan.calls.length = 2 := rfl
  have hperformWords : retelling.perform [(wordsCall,
      .extract (fun _ raw => .ok { wordsOf pageRaw with responseId := raw.id }) otherRaw)] =
      [(wordsCall, .completed (.extraction retold))] := rfl
  have hrounds : retelling.allRounds = ([[(pageCall, .completed (.raw otherRaw))],
      [(wordsCall, .completed (.extraction retold))]],
      .ok (first.complete wordsCall (.extraction retold))) := by
    simp only [allRounds, hlength, rounds, hpage, hperform, RunState.takeOutcomes,
      RunState.takeOutcome, hfirst, hwords, hperformWords, hlast]
  have hresult : (retelling.execute store).result = _ :=
    result_of_allRounds hlayers rfl (fun hallow => by cases hallow) rfl
  rw [hrounds] at hresult
  rw [written_of_result hresult rfl, hrounds]
  rfl

theorem mem_retelling_statements (store : Store) :
    ∃ xs, (retelling.execute store).store = Statement.runAll store xs ∧
      ∀ e, (∃ now, .write now e ∈ xs) ↔ e = .raw otherRaw ∨ e = .extraction retold := by
  obtain ⟨xs, hxs, hwritten⟩ := retelling.execute_written store
  refine ⟨xs, hxs, fun e => ?_⟩
  rw [← Statement.mem_effects, hwritten, retelling_written]
  simp

theorem get_retelling_of_kept (store : Store) {stage : Stage} (h : stage = .derive ∨ stage = .claim)
    (id : String) : (retelling.execute store).store.get stage id = store.get stage id := by
  obtain ⟨xs, hxs, hmem⟩ := mem_retelling_statements store
  rw [hxs]
  refine Store.get_runAll ?_
  rintro x hx now e rfl rfl
  rcases (hmem e).mp ⟨now, hx⟩ with rfl | rfl <;> rcases h with h | h <;> cases h

theorem get_retelling_of_written (store : Store) {e : Effect}
    (h : e = .raw otherRaw ∨ e = .extraction retold) (hreadable : e.Readable) :
    (retelling.execute store).store.get e.stage e.id = .ok (some e.stored) := by
  obtain ⟨xs, hxs, hmem⟩ := mem_retelling_statements store
  rw [hxs]
  refine Store.get_runAll_stored hreadable ((hmem e).mpr h) ?_
  intro now f hf hstage _
  rcases (hmem f).mp ⟨now, hf⟩ with rfl | rfl <;> rcases h with rfl | rfl <;>
    first | rfl | cases hstage

def slowRaw : RawResponse := { pageRaw with durationMs := 0x8000000000000000 }

/-- Without one of the two conditions it is not so: a later handler can put its own words under the
ID of the first ones, and then the trace ends at another response, though no ID of a response comes
twice and nothing collides. And a duration that the store cannot hold comes back as nothing. -/
theorem retold_trace :
    let first := (chained pageRaw).execute .empty
    let made := (chained pageRaw).artifacts (chainedDone pageRaw)
    let written := (chained pageRaw).written .empty ++
      Event.writtenAll first.store [.run retelling]
    (first.result = .ok made ∧ claimOf pageRaw ∈ made.claims ∧
      Effect.RawsDistinct written ∧ Effect.NoCollision written ∧
      (Event.afterAll first.store [.run retelling]).trace (claimOf pageRaw).id =
        .ok ⟨claimOf pageRaw, some (lemmasOf pageRaw), some retold, some otherRaw⟩ ∧
      retold ∉ made.extractions ∧ otherRaw ∉ made.raws) ∧
    let slow := (chained slowRaw).execute .empty
    let slowMade := (chained slowRaw).artifacts (chainedDone slowRaw)
    slow.result = .ok slowMade ∧ claimOf slowRaw ∈ slowMade.claims ∧
      slow.store.trace (claimOf slowRaw).id = .ok ⟨claimOf slowRaw, some (lemmasOf slowRaw),
        some (wordsOf slowRaw), some { slowRaw with durationMs := 0 }⟩ ∧
      { slowRaw with durationMs := 0 } ∉ slowMade.raws := by
  intro first made written
  have hpage : IsPage pageRaw := rfl
  have hslow : IsPage slowRaw := rfl
  obtain ⟨hresult, hwritten⟩ := chained_execute hpage
  have hall : written = [.raw pageRaw, .extraction (wordsOf pageRaw),
      .derivation (lemmasOf pageRaw), .claim (claimOf pageRaw), .raw otherRaw,
      .extraction retold] := by
    change (chained pageRaw).written .empty ++ (retelling.written first.store ++ []) = _
    rw [hwritten, retelling_written]
    rfl
  have hretold : retold ≠ wordsOf pageRaw :=
    ne_of_apply_ne Extraction.responseId (by decide : "raw-x" ≠ "raw-a")
  have hother : otherRaw ≠ pageRaw := ne_of_apply_ne RawResponse.id (by decide : "raw-x" ≠ "raw-a")
  have hkept : { slowRaw with durationMs := 0 } ≠ slowRaw :=
    ne_of_apply_ne RawResponse.durationMs (by decide : (0 : UInt64) ≠ 0x8000000000000000)
  refine ⟨⟨hresult, List.mem_cons_self, ?_, ?_, ?_, List.mem_singleton.not.mpr hretold,
    List.mem_singleton.not.mpr hother⟩, (chained_execute hslow).1, List.mem_cons_self, ?_,
    List.mem_singleton.not.mpr hkept⟩
  · rw [hall]
    have hids : ["raw-a", "raw-x"].Nodup := by decide
    exact hids
  · rw [hall]
    intro stage
    cases stage with
    | fetch => exact fun m hm => (List.not_mem_nil hm).elim
    | extract =>
      have hids : [EffectId.derived "x" "c" "raw-a", EffectId.derived "x" "c" "raw-x"].Nodup := by
        decide +kernel
      exact .of_nodup "x" hids
    | derive => exact .of_nodup "x" (List.nodup_singleton _)
    | claim => exact .of_nodup "x" (List.nodup_singleton _)
  · have hget := chained_get hpage
    have hgrown : Effect.Grown Json.Lasting ((chained pageRaw).written .empty) :=
      grown_written (Registry.BuiltIn.constructs (.inr rfl))
    have hreadable := hgrown.readable
    rw [hwritten] at hget hreadable
    have hclaim := (get_retelling_of_kept first.store (.inr rfl) _).trans
      (hget (.claim (claimOf pageRaw)) (by simp))
    have hderivation := (get_retelling_of_kept first.store (.inl rfl) _).trans
      (hget (.derivation (lemmasOf pageRaw)) (by simp))
    have hwords : (Effect.extraction retold).Readable :=
      hreadable (.extraction (wordsOf pageRaw)) (by simp)
    exact Store.trace_eq hclaim hderivation
      (get_retelling_of_written first.store (.inr rfl) hwords)
      (get_retelling_of_written first.store (.inl rfl) trivial)
  · have hget := chained_get hslow
    rw [(chained_execute hslow).2] at hget
    exact Store.trace_eq (hget (.claim (claimOf slowRaw)) (by simp))
      (hget (.derivation (lemmasOf slowRaw)) (by simp))
      (hget (.extraction (wordsOf slowRaw)) (by simp)) (hget (.raw slowRaw) (by simp))

end Request

end Lemmata
