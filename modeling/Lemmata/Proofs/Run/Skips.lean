import Lemmata.Proofs.Run.LayerByLayer

/-! # What a run completes, skips and reports -/

namespace Lemmata.Request

variable {r : Request} {layers : List (List String)} {done : List (List (Call × Outcome))}
variable {s t u : RunState} {works : List (Call × Work)} {store : Store}
variable {call : Call} {work : Work} {id : String} {a : Artifacts}

/-! ## Fetches that get nothing -/

def response? (r : Request) (call : Call) : Option RawResponse := do
  let client ← r.clients.get? call.tool
  match client.execute call.id call.endpoint call.params with
  | .ok raw => some (Work.stamp call.tool (r.readings.call call.id) raw)
  | .error _ => none

/-- Nothing comes of a fetch. -/
inductive Misses (r : Request) (call : Call) : Prop
  | noClient (h : r.clients.get? call.tool = none)
  | clientFailed {client : Client} {failure : Failure}
      (hclient : r.clients.get? call.tool = some client)
      (h : client.execute call.id call.endpoint call.params = .error failure)
  | noSuccess {client : Client} {raw : RawResponse}
      (hclient : r.clients.get? call.tool = some client)
      (hraw : r.response? call = some raw) (h : client.isSuccess raw = false)

/-- The call was ready in a round that the run came to. -/
def Comes (r : Request) (id : String) : Prop :=
  ∃ done s, Reaches r done s ∧ id ∈ (s.skipBlocked r.plan).ready r.plan

/-- The least set with the optional fetches that came up and missed, and with all that waits for
one of its own. -/
inductive Dropped (r : Request) : String → Prop
  | missed {call : Call} (hcall : call ∈ r.plan.calls) (hstage : call.stage = .fetch)
      (hoptional : call.optional = true) (hcomes : r.Comes call.id) (hmiss : r.Misses call) :
      Dropped r call.id
  | blocked {d : Dependency} (hd : d ∈ r.plan.dependencies) (h : Dropped r d.blocker) :
      Dropped r d.blocked

theorem written?_perform_fetch {client : Client}
    (hclient : r.clients.get? call.tool = some client) :
    ((Work.fetch client).perform r.plan.id call (r.readings.call call.id)).written? =
      (r.response? call).map .raw := by
  simp only [Work.perform, Work.fetchOutcome, response?, hclient]
  cases hexecute : client.execute call.id call.endpoint call.params with
  | error failure => simp [hexecute, Outcome.written?]
  | ok raw =>
    simp only [hexecute, Option.bind_eq_bind, Option.bind_some, Option.map_some]
    split <;> rfl

theorem isMiss_perform_fetch {client : Client} (hclient : r.clients.get? call.tool = some client) :
    ((Work.fetch client).perform r.plan.id call (r.readings.call call.id)).isMiss = true ↔
      r.Misses call := by
  have hmisses : r.Misses call ↔
      ∀ raw, r.response? call = some raw → client.isSuccess raw = false := by
    constructor
    · rintro (hnone | ⟨hsome, hexecute⟩ | ⟨hsome, hraw, hsuccess⟩)
      · simp [hnone] at hclient
      · intro raw hraw
        simp [response?, hsome, hexecute] at hraw
      · intro raw hraw'
        obtain rfl : raw = _ := Option.some.inj (hraw'.symm.trans hraw)
        obtain rfl : client = _ := Option.some.inj (hclient.symm.trans hsome)
        exact hsuccess
    · intro h
      cases hexecute : client.execute call.id call.endpoint call.params with
      | error failure => exact .clientFailed hclient hexecute
      | ok raw =>
        have hraw : r.response? call =
            some (Work.stamp call.tool (r.readings.call call.id) raw) := by
          simp [response?, hclient, hexecute]
        exact .noSuccess hclient hraw (h _ hraw)
  rw [hmisses]
  simp only [Work.perform, Work.fetchOutcome, response?, hclient]
  cases hexecute : client.execute call.id call.endpoint call.params with
  | error failure => simp [hexecute, Outcome.isMiss]
  | ok raw =>
    simp only [Option.bind_eq_bind, Option.bind_some, hexecute, Option.some.injEq, forall_eq']
    split
    · next hsuccess => simp [Outcome.isMiss, hsuccess]
    · next hsuccess => simpa [Outcome.isMiss] using hsuccess

theorem written?_outcomeOf {α : Type} {planId : String} {make : α → Effect}
    {result : Except String α} (h : ∀ e, (make e).raw? = none) :
    (Work.outcomeOf planId call make result).written?.bind Effect.raw? = none := by
  cases result with
  | ok e => exact h e
  | error text => rfl

theorem isMiss_outcomeOf {α : Type} {planId : String} {make : α → Effect}
    {result : Except String α} : (Work.outcomeOf planId call make result).isMiss = false := by
  cases result <;> rfl

theorem Passed.fetch {o : Call × Outcome} (h : r.Passed s o) (hstage : o.1.stage = .fetch) :
    ∃ client, r.clients.get? o.1.tool = some client ∧
      o.2 = (Work.fetch client).perform r.plan.id o.1 (r.readings.call o.1.id) := by
  obtain ⟨before, work, -, hwork, ho⟩ := h.outcome_eq
  cases hwork with
  | fetch _ hclient => exact ⟨_, hclient, ho⟩
  | extract hother => simp [hstage] at hother
  | derive hother => simp [hstage] at hother
  | claim hother => simp [hstage] at hother

theorem Passed.fetch_of_isMiss {o : Call × Outcome} (h : r.Passed s o)
    (hmiss : o.2.isMiss = true) : o.1.stage = .fetch ∧ r.Misses o.1 := by
  obtain ⟨before, work, -, hwork, ho⟩ := h.outcome_eq
  rw [ho] at hmiss
  cases hwork with
  | fetch hstage hclient => exact ⟨hstage, (isMiss_perform_fetch hclient).mp hmiss⟩
  | extract => simp [Work.perform, isMiss_outcomeOf] at hmiss
  | derive => simp [Work.perform, isMiss_outcomeOf] at hmiss
  | claim => simp [Work.perform, isMiss_outcomeOf] at hmiss

/-! ## What is skipped is dropped -/

section

variable {P : String → Prop}
variable (hblocked : ∀ d ∈ r.plan.dependencies, P d.blocker → P d.blocked)
include hblocked

theorem skipBlocked_closed (hacc : s.Accounted r.plan) (h : ∀ id ∈ s.skippedIds, P id) :
    ∀ id ∈ (s.skipBlocked r.plan).skippedIds, P id := by
  refine RunState.skipBlocked_induct (motive := fun t => ∀ id ∈ t.skippedIds, P id) ?_ h hacc
  intro t call reason b ht _ _ _ hb hskipped id hid
  rw [RunState.skippedIds_skip, List.mem_append, List.mem_singleton] at hid
  rcases hid with hid | rfl
  · exact ht id hid
  · obtain ⟨d, hd, hend, rfl⟩ := Plan.mem_blockers.mp hb
    exact hend ▸ hblocked d hd (ht _ hskipped)

/-- A call is skipped since it missed in one of the rounds, or since it waits for a skipped one. -/
theorem Reaches.skipped_induct (h : Reaches r done s) (hl : r.plan.Layered layers)
    (hmissed : ∀ {before : List (List (Call × Outcome))} {t : RunState} {call : Call},
      Reaches r before t → before.length < done.length → call ∈ r.plan.calls →
      call.id ∈ (t.skipBlocked r.plan).ready r.plan → call.stage = .fetch →
      call.optional = true → r.Misses call → P call.id) :
    ∀ id ∈ s.skippedIds, P id := by
  induction h with
  | start => simp [RunState.initial, RunState.skippedIds]
  | @round done s t u works h hstart htake ih =>
    have hinv := h.roundInv hl
    have hw := hinv.wired hstart
    have hs := hinv.starts hl hstart
    have ht := hs.taken htake
    have hlonger : (done ++ [r.perform works]).length = done.length + 1 := List.length_append
    have hready : ∀ {call : Call}, call ∈ r.plan.calls →
        call.id ∈ (s.skipBlocked r.plan).ready r.plan → call.stage = .fetch →
        call.optional = true → r.Misses call → P call.id := hmissed h (by omega)
    have hearlier : ∀ id ∈ s.skippedIds, P id :=
      ih fun hbefore hlt => hmissed hbefore (by omega)
    intro id hid
    rcases (ht.mem_skippedIds id).mp hid with hid | ⟨o, ho, rfl, hmiss⟩
    · rcases hw.skipped_cases id hid with hid | ⟨hdue, call, hcall, rfl, hstage, hoptional, hnone⟩
      · exact skipBlocked_closed hblocked hinv.accounted hearlier id hid
      · exact hready hcall hdue hstage hoptional (.noClient hnone)
    · have hpassed := (hinv.round hs htake).passed o (by simp [ho])
      have hoptional : o.1.optional = true := by
        rcases hpassed.not_fatal with hsome | h
        · exact absurd hmiss (Outcome.not_isMiss_of_isSome hsome)
        · exact h.1
      obtain ⟨hstage, hmisses⟩ := hpassed.fetch_of_isMiss hmiss
      refine hready hpassed.call_mem ?_ hstage hoptional hmisses
      obtain ⟨w, hw', rfl⟩ := mem_perform.mp ho
      have hname : w.1.id ∈ works.map fun w => w.1.id := List.mem_map_of_mem hw'
      rw [hw.names_eq] at hname
      exact (List.mem_filter.mp hname).1

end

theorem dropped_skipBlocked (hacc : s.Accounted r.plan) (h : ∀ id ∈ s.skippedIds, r.Dropped id) :
    ∀ id ∈ (s.skipBlocked r.plan).skippedIds, r.Dropped id :=
  skipBlocked_closed (fun _ hd => .blocked hd) hacc h

theorem Reaches.dropped (h : Reaches r done s) (hl : r.plan.Layered layers) :
    ∀ id ∈ s.skippedIds, r.Dropped id := by
  refine h.skipped_induct (fun _ hd => .blocked hd) hl ?_
  intro before t call hreach _ hcall hready hstage hoptional hmiss
  exact .missed hcall hstage hoptional ⟨before, t, hreach, hready⟩ hmiss

/-! ## What is dropped is skipped -/

theorem RoundInv.not_completed_of_misses (h : RoundInv r layers done s)
    (hcall : call ∈ r.plan.calls) (hstage : call.stage = .fetch) (hmiss : r.Misses call) :
    call.id ∉ s.completed := by
  intro hcompleted
  obtain ⟨o, ho, hid, hsome⟩ := h.completed_iff.mp hcompleted
  have hpassed := h.passed o ho
  obtain rfl : o.1 = call :=
    List.inj_on_of_nodup_map h.accounted.callIds_nodup hpassed.call_mem hcall hid
  obtain ⟨client, hclient, hperform⟩ := hpassed.fetch hstage
  have hmissed := (isMiss_perform_fetch hclient).mpr hmiss
  rw [← hperform] at hmissed
  exact Outcome.not_isMiss_of_isSome hsome hmissed

theorem Ends.dropped_iff (h : Ends r done (.ok s)) (hl : r.plan.Layered layers) :
    id ∈ s.skippedIds ↔ r.Dropped id := by
  obtain ⟨hinv, -⟩ := h.final hl
  have hdisjoint : ∀ id ∈ s.completed, id ∉ s.skippedIds := fun id hid hskipped =>
    (List.nodup_append.mp hinv.accounted.done_nodup).2.2 id hid id hskipped rfl
  constructor
  · cases h with
    | finished h hstart =>
      obtain ⟨rfl, -⟩ := start_finished hstart
      exact dropped_skipBlocked (h.roundInv hl).accounted (h.dropped hl) id
  · intro hdropped
    induction hdropped with
    | @missed call hcall hstage hoptional hcomes hmiss =>
      refine (h.completed_or_skipped hl (List.mem_map_of_mem hcall)).resolve_left ?_
      exact hinv.not_completed_of_misses hcall hstage hmiss
    | @blocked d hd hdropped ih =>
      refine (h.completed_or_skipped hl (hl.known d hd).2).resolve_left ?_
      intro hcompleted
      have hblocker := hinv.blockers_completed _ hcompleted d.blocker
        (Plan.mem_blockers.mpr ⟨d, hd, rfl, rfl⟩)
      exact hdisjoint _ hblocker ih

/-! ## The responses that are reported -/

theorem Passed.written? {o : Call × Outcome} (h : r.Passed s o) :
    o.2.written?.bind Effect.raw? = if o.1.stage = .fetch then r.response? o.1 else none := by
  obtain ⟨before, work, -, hwork, ho⟩ := h.outcome_eq
  rw [ho]
  cases hwork with
  | fetch hstage hclient =>
    rw [written?_perform_fetch hclient, if_pos hstage]
    cases r.response? o.1 <;> rfl
  | extract hstage =>
    rw [hstage, if_neg (by decide)]
    exact written?_outcomeOf fun _ => rfl
  | derive hstage =>
    rw [hstage, if_neg (by decide)]
    exact written?_outcomeOf fun _ => rfl
  | claim hstage =>
    rw [hstage, if_neg (by decide)]
    exact written?_outcomeOf fun _ => rfl

theorem RoundInv.raws_eq (h : RoundInv r layers done s) :
    s.effects.filterMap Effect.raw? =
      ((done.flatten.map Prod.fst).filter fun c => c.stage = .fetch).filterMap r.response? := by
  have hall : ∀ os ⊆ done.flatten, os.filterMap (fun o => o.2.written?.bind Effect.raw?) =
      ((os.map Prod.fst).filter fun c => c.stage = .fetch).filterMap r.response? := by
    intro os
    induction os with
    | nil => intro _; rfl
    | cons o rest ih =>
      intro hsub
      obtain ⟨ho, hrest⟩ := List.cons_subset.mp hsub
      have hraw := (h.passed o ho).written?
      by_cases hstage : o.1.stage = .fetch
      · rw [if_pos hstage] at hraw
        rw [List.filterMap_cons, hraw, ih hrest, List.map_cons,
          List.filter_cons_of_pos (by simpa using hstage), List.filterMap_cons]
      · rw [if_neg hstage] at hraw
        rw [List.filterMap_cons, hraw, ih hrest, List.map_cons,
          List.filter_cons_of_neg (by simpa using hstage)]
  rw [h.effects_eq, List.filterMap_filterMap]
  exact hall _ (List.Subset.refl _)

def completedFetches (r : Request) (a : Artifacts) : List Call :=
  r.plan.calls.filter fun c => c.stage = .fetch ∧ c.id ∈ a.completedIds

def failedFetches (r : Request) (started : List (List String)) (a : Artifacts) : List Call :=
  r.plan.calls.filter fun c =>
    c.stage = .fetch ∧ c.optional = true ∧ c.id ∈ started.flatten ∧ c.id ∈ a.skippedIds

theorem Ends.fetches_perm (h : Ends r done (.ok s)) (hl : r.plan.Layered layers)
    (hcompleted : a.completedIds = s.completed) (hskipped : a.skippedIds = s.skippedIds) :
    ((done.flatten.map Prod.fst).filter fun c => c.stage = .fetch).Perm
      (r.completedFetches a ++ r.failedFetches (done.map names) a) := by
  obtain ⟨hinv, -⟩ := h.final hl
  have hnodup : r.plan.calls.Nodup := List.Nodup.of_map _ hl.nodup
  have hnames : (done.map names).flatten = (done.flatten.map Prod.fst).map Call.id := by
    rw [List.map_map, List.map_flatten]
    rfl
  have hstarted : (done.flatten.map Prod.fst).Nodup := by
    have := h.allStarted.nodup hl
    rw [hnames] at this
    exact List.Nodup.of_map _ this
  have hboth : (r.completedFetches a ++ r.failedFetches (done.map names) a).Nodup := by
    refine List.nodup_append.mpr ⟨hnodup.filter _, hnodup.filter _, ?_⟩
    rintro c hc _ hc' rfl
    have hc := (List.mem_filter.mp hc).2
    have hc' := (List.mem_filter.mp hc').2
    simp only [decide_eq_true_eq, hcompleted, hskipped] at hc hc'
    exact (List.nodup_append.mp hinv.accounted.done_nodup).2.2 _ hc.2 _ hc'.2.2.2 rfl
  have hcall : ∀ c ∈ r.plan.calls, ∀ o ∈ done.flatten, o.1.id = c.id →
      c ∈ done.flatten.map Prod.fst := by
    intro c hc o ho hid
    rw [← List.inj_on_of_nodup_map hl.nodup (hinv.passed o ho).call_mem hc hid]
    exact List.mem_map_of_mem ho
  refine (List.perm_ext_iff_of_nodup (hstarted.filter _) hboth).mpr fun c => ?_
  simp only [List.mem_append, completedFetches, failedFetches, List.mem_filter, decide_eq_true_eq,
    hcompleted, hskipped]
  constructor
  · rintro ⟨hc, hstage⟩
    obtain ⟨o, ho, rfl⟩ := List.mem_map.mp hc
    have hpassed := hinv.passed o ho
    rcases hpassed.not_fatal with hsome | ⟨hoptional, -, hskip⟩
    · exact .inl ⟨hpassed.call_mem, hstage, hinv.completed_iff.mpr ⟨o, ho, rfl, hsome⟩⟩
    · refine .inr ⟨hpassed.call_mem, hstage, hoptional, ?_, hskip⟩
      rw [hnames]
      exact List.mem_map_of_mem hc
  · rintro (⟨hc, hstage, hid⟩ | ⟨hc, hstage, -, hid, -⟩)
    · obtain ⟨o, ho, hid, -⟩ := hinv.completed_iff.mp hid
      exact ⟨hcall c hc o ho hid, hstage⟩
    · rw [hnames, List.map_map] at hid
      obtain ⟨o, ho, hid⟩ := List.mem_map.mp hid
      exact ⟨hcall c hc o ho hid, hstage⟩

/-! ## Nothing is lost, doubled or skipped without a cause -/

/-- Each call of the plan has completed or is skipped, and that once; a call is skipped exactly if
it is dropped; and the responses are those of the fetches that completed or failed. -/
theorem execute_accounts_for_calls (r : Request) (store : Store) (a : Artifacts)
    (h : (r.execute store).result = .ok a) (hfresh : a.executed.fromCache = false) :
    (a.completedIds ++ a.skippedIds).Perm r.plan.callIds ∧
    (a.completedIds ++ a.skippedIds).Nodup ∧
    (∀ id, id ∈ a.skippedIds ↔ r.Dropped id) ∧
    a.raws.Perm ((r.completedFetches a ++ r.failedFetches (r.execute store).started a).filterMap
      r.response?) := by
  obtain ⟨layers, done, s, saved, hlayers, hends, -, rfl, hreport⟩ := completed_of_execute h hfresh
  have hl := Plan.layered_of_layers hlayers
  obtain ⟨hinv, -⟩ := hends.final hl
  have hcompleted := completedIds_ofEffects r s
  have hskipped : (Artifacts.ofEffects (r.summary s) s.effects s.skipped).skippedIds =
      s.skippedIds := rfl
  rw [hreport]
  refine ⟨?_, ?_, ?_, ?_⟩
  · rw [hcompleted, hskipped, List.perm_ext_iff_of_nodup hinv.accounted.done_nodup hl.nodup]
    intro id
    rw [List.mem_append]
    exact ⟨hinv.accounted.callIds_of_done, fun hid => hends.completed_or_skipped hl hid⟩
  · rw [hcompleted, hskipped]
    exact hinv.accounted.done_nodup
  · exact fun id => hends.dropped_iff hl
  · have hraws := (hends.fetches_perm hl hcompleted hskipped).filterMap r.response?
    rw [← hinv.raws_eq] at hraws
    exact hraws

theorem sample_accounts_for_calls :
    ∃ a, (sample.execute .empty).result = .ok a ∧ a.executed.fromCache = false ∧
      a.skippedIds = ["b", "d"] ∧ ∀ id, id ∈ a.skippedIds ↔ sample.Dropped id := by
  have hrun : ((sample.execute .empty).result.toOption.map fun a =>
      (a.executed.fromCache, a.skippedIds)) = some (false, ["b", "d"]) := by cbv
  cases hresult : (sample.execute .empty).result with
  | error failure => simp [hresult, Except.toOption] at hrun
  | ok a =>
    obtain ⟨hcache, hskipped⟩ : a.executed.fromCache = false ∧ a.skippedIds = ["b", "d"] := by
      simpa [hresult, Except.toOption] using hrun
    have haccount := execute_accounts_for_calls sample .empty a hresult hcache
    exact ⟨a, rfl, hcache, hskipped, haccount.2.2.1⟩

end Lemmata.Request
