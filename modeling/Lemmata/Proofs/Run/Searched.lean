import Lemmata.Proofs.Effect.BuiltIn
import Lemmata.Proofs.Plan.Searches
import Lemmata.Proofs.Run.Skips

/-! # What the calls of a search make of its answer -/

namespace Lemmata

/-! ## What a search makes of a response -/

namespace Search

variable {s : Search} {language : Language} {readings : Readings} {raw : RawResponse}
variable {stage previous : Stage}

def extraction (s : Search) (language : Language) (readings : Readings) (raw : RawResponse) :
    Extraction :=
  { Extraction.make (s.call language .extract) raw "tokens" s.candidate.headword
      (Handler.tokensPayload raw (tokens (Handler.visibleText raw))) with
    durationMs := readings.call (s.callId .extract) }

def lemmas (raw : RawResponse) : Json :=
  Handler.lemmasPayload (Handler.lemmas (tokens (Handler.visibleText raw)))

def derivation (s : Search) (language : Language) (readings : Readings) (raw : RawResponse) :
    Derivation :=
  { Derivation.make (s.call language .derive) (s.extraction language readings raw) "lemmas"
      s.candidate.headword (lemmas raw) with
    durationMs := readings.call (s.callId .derive) }

def claim (s : Search) (language : Language) (readings : Readings) (raw : RawResponse) : Claim :=
  { Claim.make (s.call language .claim) (s.derivation language readings raw) s.candidate.headword
      "has_lemmas" (lemmas raw) with
    durationMs := readings.call (s.callId .claim) }

def effect (s : Search) (language : Language) (readings : Readings) (raw : RawResponse) :
    Stage → Effect
  | .fetch => .raw raw
  | .extract => .extraction (s.extraction language readings raw)
  | .derive => .derivation (s.derivation language readings raw)
  | .claim => .claim (s.claim language readings raw)

@[simp] theorem stage_effect : (s.effect language readings raw stage).stage = stage := by
  cases stage <;> rfl

theorem extractFor?_tool (b : Backend) :
    Registry.standard.extractFor? (b.tool .extract) = some Handler.extractTokens := by
  cases b <;> rfl

theorem deriveFor?_tool (b : Backend) :
    Registry.standard.deriveFor? (b.tool .derive) = some Handler.deriveLemmas := by
  cases b <;> rfl

theorem claimFor?_tool (b : Backend) :
    Registry.standard.claimFor? (b.tool .claim) = some Handler.claimLemmas := by
  cases b <;> rfl

theorem perform_eq {planId : String} {plan : Plan} {clients : Clients} {state : RunState}
    {work : Work} (hprevious : stage.previous? = some previous)
    (hsource : state.source? plan (s.call language stage) =
      some (s.effect language readings raw previous))
    (hwires : state.Wires plan clients .standard (s.call language stage) work) :
    work.perform planId (s.call language stage) (readings.call (s.callId stage)) =
      .completed (s.effect language readings raw stage) := by
  have hlemma : (s.call language stage).param? "lemma" = some s.candidate.headword :=
    param?_lemma hprevious
  cases hwires with
  | fetch hstage =>
    rw [stage_call] at hstage
    subst hstage
    cases hprevious
  | extract hstage hraw hhandler =>
    rw [stage_call] at hstage
    subst hstage
    cases hprevious
    cases hsource.symm.trans hraw
    rw [tool_call, extractFor?_tool] at hhandler
    cases hhandler
    simp only [Work.perform, Handler.extractTokens, hlemma, Work.outcomeOf]
    rfl
  | derive hstage hextraction hhandler =>
    rw [stage_call] at hstage
    subst hstage
    cases hprevious
    cases hsource.symm.trans hextraction
    rw [tool_call, deriveFor?_tool] at hhandler
    cases hhandler
    have htokens : Handler.stringsIn (s.extraction language readings raw).payload "tokens" =
        .ok (tokens (Handler.visibleText raw)) := Handler.stringsIn_eq_ok_iff.mpr rfl
    simp only [Work.perform, Handler.deriveLemmas, htokens, hlemma, Work.outcomeOf, bind,
      Except.bind]
    rfl
  | claim hstage hderivation hhandler =>
    rw [stage_call] at hstage
    subst hstage
    cases hprevious
    cases hsource.symm.trans hderivation
    rw [tool_call, claimFor?_tool] at hhandler
    cases hhandler
    have hlemmas : Handler.stringsIn (s.derivation language readings raw).payload "lemmas" =
        .ok (Handler.lemmas (tokens (Handler.visibleText raw))) :=
      Handler.stringsIn_eq_ok_iff.mpr rfl
    simp only [Work.perform, Handler.claimLemmas, hlemmas, hlemma, Work.outcomeOf, bind,
      Except.bind]
    rfl

theorem wire_ok {plan : Plan} {clients : Clients} {state : RunState}
    (hprevious : stage.previous? = some previous)
    (hsource : state.source? plan (s.call language stage) =
      some (s.effect language readings raw previous)) :
    ∃ work, state.wire plan clients .standard (s.call language stage) = .ok work := by
  cases stage with
  | fetch => cases hprevious
  | extract =>
    cases hprevious
    refine ⟨.extract Handler.extractTokens raw, ?_⟩
    simp only [RunState.wire, stage_call, hsource, effect, tool_call, extractFor?_tool]
  | derive =>
    cases hprevious
    refine ⟨.derive Handler.deriveLemmas (s.extraction language readings raw), ?_⟩
    simp only [RunState.wire, stage_call, hsource, effect, tool_call, deriveFor?_tool]
  | claim =>
    cases hprevious
    refine ⟨.claim Handler.claimLemmas (s.derivation language readings raw), ?_⟩
    simp only [RunState.wire, stage_call, hsource, effect, tool_call, claimFor?_tool]

end Search

/-! ## Where a call finds its source -/

theorem RunState.source?_eq {s : RunState} {plan : Plan} {call : Call} {p : Call × Effect}
    (hnodup : s.completed.Nodup) (hprevious : call.stage.previous? = some p.2.stage)
    (hnamed : call.param? "source_call_id" = some p.1.id) (hp : p ∈ s.produced) :
    s.source? plan call = some p.2 := by
  have hat : s.producedAt? p.2.stage p.1.id = some p.2 := by
    rw [producedAt?, produced?_eq hnodup hp]
    simp
  simp only [source?, hprevious, hnamed, Option.bind_eq_bind, Option.bind_some, hat]
  rfl

theorem Outcome.eq_of_completed? {outcome : Outcome} {effect : Effect}
    (h : outcome.completed? = some effect) : outcome = .completed effect := by
  cases outcome with
  | completed effect => rw [Option.some.inj h]
  | failedFetch raw reason failure => cases h
  | failed failure => cases h

def Effect.claim? : Effect → Option Claim
  | claim e => some e
  | _ => none

namespace Request

variable {r : Request} {config : PlannerConfig} {planId : String} {query : Query}
variable {layers : List (List String)} {done : List (List (Call × Outcome))} {state t : RunState}
variable {works : List (Call × Work)} {call : Call} {o : Call × Outcome} {s : Search}
variable {stage previous : Stage}

/-! ## Fetches that succeed -/

/-- The response of a fetch, if it is a success. -/
def answer? (r : Request) (call : Call) : Option RawResponse := do
  let client ← r.clients.get? call.tool
  (r.response? call).filter client.isSuccess

theorem completed?_perform_fetch {client : Client}
    (hclient : r.clients.get? call.tool = some client) :
    ((Work.fetch client).perform r.plan.id call (r.readings.call call.id)).completed? =
      (r.answer? call).map .raw := by
  simp only [Work.perform, Work.fetchOutcome, answer?, response?, hclient, Option.bind_eq_bind,
    Option.bind_some]
  cases hexecute : client.execute call.id call.endpoint call.params with
  | error failure => simp [Outcome.completed?]
  | ok raw =>
    simp only [Option.filter_some]
    split <;> rfl

theorem misses_iff : r.Misses call ↔ r.answer? call = none := by
  cases hclient : r.clients.get? call.tool with
  | none =>
    have hnone : r.answer? call = none := by simp [answer?, hclient]
    exact ⟨fun _ => hnone, fun _ => .noClient hclient⟩
  | some client =>
    rw [← isMiss_perform_fetch hclient, ← Option.map_eq_none_iff (f := Effect.raw),
      ← completed?_perform_fetch hclient]
    simp only [Work.perform, Work.fetchOutcome]
    cases client.execute call.id call.endpoint call.params with
    | error failure => simp [Outcome.isMiss, Outcome.completed?]
    | ok raw =>
      simp only
      split <;> simp [Outcome.isMiss, Outcome.completed?]

theorem RoundInv.claims_eq (h : RoundInv r layers done state) :
    state.effects.filterMap Effect.claim? = state.produced.filterMap fun p => p.2.claim? := by
  rw [h.effects_eq, h.produced_eq, List.filterMap_filterMap, List.filterMap_filterMap]
  apply List.filterMap_congr
  rintro ⟨call, outcome⟩ -
  cases outcome with
  | completed effect => rfl
  | failedFetch raw reason failure => cases raw <;> rfl
  | failed failure => rfl

/-! ## The rounds of a look-up -/

/-- A run of a planned query with the built-in handlers, without a deadline, in which no task
breaks off and every row is written. -/
structure LooksUp (r : Request) (config : PlannerConfig) (planId : String) (query : Query) :
    Prop where
  plan_eq : r.plan = Planner.build config planId query
  registry_eq : r.registry = .standard
  deadline_eq : r.options.deadlineMs = none
  task_eq : ∀ id, r.readings.faults.task id = none
  write_eq : ∀ id, r.readings.faults.write id = none

def Makes (r : Request) (language : Language) (s : Search) (p : Call × Effect) : Prop :=
  ∃ stage raw, r.answer? (s.fetch language) = some raw ∧
    p = (s.call language stage, s.effect language r.readings raw stage)

def Searched (r : Request) (config : PlannerConfig) (query : Query) (state : RunState) : Prop :=
  ∀ p ∈ state.produced, ∃ s ∈ Planner.searches config query, r.Makes query.language s p

inductive Yields (r : Request) (language : Language) (s : Search) (o : Call × Outcome) : Prop
  | made {effect : Effect} (hmakes : r.Makes language s (o.1, effect))
      (ho : o.2 = .completed effect)
  | missed (hcall : o.1 = s.fetch language) (hmiss : r.Misses o.1) (ho : o.2.isMiss = true)

/-- Once the call before has completed, its effect is the source. -/
theorem Searched.source?_eq {plan : Plan} (h : r.Searched config query state)
    (hs : s ∈ Planner.searches config query) (hprevious : stage.previous? = some previous)
    (hnodup : state.completed.Nodup) (hdone : s.callId previous ∈ state.completed) :
    ∃ raw, r.answer? (s.fetch query.language) = some raw ∧
      state.source? plan (s.call query.language stage) =
        some (s.effect query.language r.readings raw previous) := by
  obtain ⟨p, hp, hid⟩ := List.mem_map.mp hdone
  obtain ⟨s', hs', other, raw, hraw, rfl⟩ := h p hp
  obtain ⟨rfl, rfl⟩ := Planner.callId_inj hs' hs (Search.id_call.symm.trans hid)
  refine ⟨raw, hraw, RunState.source?_eq hnodup ?_ ?_ hp⟩
  · rw [Search.stage_call, hprevious, Search.stage_effect]
  · rw [Search.param?_source hprevious, Search.id_call]

namespace LooksUp

variable (h : r.LooksUp config planId query)
include h

theorem settle_eq (call : Call) (outcome : Outcome) :
    Run.settle r.plan r.readings.faults call outcome = outcome := by
  rw [Run.settle, h.task_eq, h.write_eq]
  cases outcome.written? <;> rfl

theorem layered : ∃ layers, r.plan.layers = .ok layers := by
  rw [h.plan_eq]
  exact Planner.layers_build config planId query

theorem mem_blockers (hs : s ∈ Planner.searches config query)
    (hprevious : stage.previous? = some previous) :
    s.callId previous ∈ r.plan.blockers (s.callId stage) := by
  rw [h.plan_eq, Planner.mem_blockers_build hs]
  exact ⟨previous, hprevious, rfl⟩

theorem yields {work : Work} (hnodup : state.completed.Nodup)
    (hsearched : r.Searched config query state) (hcall : call ∈ r.plan.calls)
    (hblockers : ∀ b ∈ r.plan.blockers call.id, b ∈ state.completed)
    (hwires : state.Wires r.plan r.clients r.registry call work) :
    ∃ s ∈ Planner.searches config query, r.Yields query.language s
      (call, work.perform r.plan.id call (r.readings.call call.id)) := by
  rw [h.plan_eq] at hcall
  obtain ⟨s, hs, stage, rfl⟩ := Planner.mem_calls_build.mp hcall
  refine ⟨s, hs, ?_⟩
  cases hprevious : stage.previous? with
  | none =>
    obtain rfl := Stage.previous?_eq_none.mp hprevious
    cases hwires with
    | fetch _ hclient =>
      cases hanswer : r.answer? (s.call query.language .fetch) with
      | none =>
        have hmiss := misses_iff.mpr hanswer
        exact .missed rfl hmiss ((isMiss_perform_fetch hclient).mpr hmiss)
      | some raw =>
        refine .made ⟨.fetch, raw, hanswer, rfl⟩ (Outcome.eq_of_completed? ?_)
        rw [completed?_perform_fetch hclient, hanswer]
        rfl
    | extract hstage => simp at hstage
    | derive hstage => simp at hstage
    | claim hstage => simp at hstage
  | some previous =>
    rw [Search.id_call] at hblockers
    have hdone := hblockers _ (h.mem_blockers hs hprevious)
    obtain ⟨raw, hraw, hsource⟩ := hsearched.source?_eq hs hprevious hnodup hdone
    rw [h.registry_eq] at hwires
    refine .made ⟨stage, raw, hraw, rfl⟩ ?_
    rw [Search.id_call]
    exact Search.perform_eq hprevious hsource hwires

theorem round_yields (hl : r.plan.Layered layers) (hreach : Reaches r done state)
    (hsearched : r.Searched config query state)
    (hstart : r.start done.length state = .work t works) :
    ∀ o ∈ r.perform works, ∃ s ∈ Planner.searches config query, r.Yields query.language s o := by
  have hs := hreach.startInv hl hstart
  have hnodup := (List.nodup_append.mp (hreach.roundInv hl).accounted.done_nodup).1
  intro o ho
  obtain ⟨w, hw, rfl⟩ := mem_perform.mp ho
  obtain ⟨hcall, -, hblockers, hwires⟩ := hs.works_mem w hw
  rw [h.settle_eq]
  exact h.yields hnodup hsearched hcall (fun b hb => hs.completed_eq ▸ hblockers b hb) hwires

theorem searched (hl : r.plan.Layered layers) (hreach : Reaches r done state) :
    r.Searched config query state := by
  induction hreach with
  | start => exact fun p hp => (List.not_mem_nil hp).elim
  | @round done state t u works hreach hstart htake ih =>
    have hs := hreach.startInv hl hstart
    intro p hp
    rw [(hs.taken htake).produced_eq, hs.produced_eq, List.mem_append] at hp
    rcases hp with hp | hp
    · exact ih p hp
    · obtain ⟨o, ho, hp⟩ := List.mem_filterMap.mp hp
      obtain ⟨effect, heffect, rfl⟩ := Option.map_eq_some_iff.mp hp
      obtain ⟨s, hs, hyields⟩ := h.round_yields hl hreach ih hstart o ho
      cases hyields with
      | made hmakes hmade =>
        rw [hmade] at heffect
        cases heffect
        exact ⟨s, hs, hmakes⟩
      | missed _ _ hmiss =>
        exact absurd hmiss (Outcome.not_isMiss_of_isSome (heffect ▸ rfl))

end LooksUp

end Request

end Lemmata
