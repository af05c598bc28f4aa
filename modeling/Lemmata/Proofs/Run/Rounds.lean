import Lemmata.Proofs.Plan.Layers
import Lemmata.Proofs.Run.Round

/-! # The rounds of a run, one layer of the plan each -/

namespace Lemmata

/-- All that a run is given, apart from the store. -/
structure Request where
  plan : Plan
  clients : Clients
  registry : Registry
  options : ExecutionOptions
  readings : Readings

namespace Request

def execute (r : Request) (store : Store) : RunReport :=
  Run.execute r.plan r.clients r.registry r.options r.readings store

def start (r : Request) (round : Nat) (state : RunState) : Run.RoundStart :=
  Run.startRound r.plan r.clients r.registry r.options r.readings round state

def perform (r : Request) (works : List (Call × Work)) : List (Call × Outcome) :=
  Run.performAll r.plan r.readings works

/-- The run comes to its next round in this state, after rounds with these outcomes. -/
inductive Reaches (r : Request) : List (List (Call × Outcome)) → RunState → Prop
  | start : Reaches r [] (.initial r.plan)
  | round {done : List (List (Call × Outcome))} {s t u : RunState} {works : List (Call × Work)}
      (h : Reaches r done s) (hstart : r.start done.length s = .work t works)
      (htake : t.takeOutcomes (r.perform works) = .ok u) : Reaches r (done ++ [r.perform works]) u

variable {r : Request} {layers : List (List String)} {done : List (List (Call × Outcome))}
variable {s t u : RunState} {works : List (Call × Work)} {k : Nat} {id : String}

/-! ## What a round begins with -/

theorem start_work (h : r.start k s = .work t works) :
    (s.skipBlocked r.plan).pending ≠ [] ∧
      RunState.wireAll r.plan r.clients r.registry ((s.skipBlocked r.plan).ready r.plan)
        (s.skipBlocked r.plan) = .ok (t, works) := by
  unfold start Run.startRound at h
  simp only at h
  split_ifs at h with hpending
  split at h
  · next hwire =>
    cases h
    exact ⟨by simpa using hpending, hwire⟩
  · cases h

theorem start_finished (h : r.start k s = .finished t) :
    t = s.skipBlocked r.plan ∧ t.pending = [] := by
  unfold start Run.startRound at h
  simp only at h
  split_ifs at h with hpending
  · cases h
    exact ⟨rfl, List.isEmpty_iff.mp hpending⟩
  · split at h <;> cases h

theorem start_failed {failure : Failure} (h : r.start k s = .failed failure) :
    (s.skipBlocked r.plan).pending ≠ [] ∧
      ((s.skipBlocked r.plan).ready r.plan = [] ∨
        Run.isExpired r.options r.readings k = true ∧
          failure = .timeout r.plan.id (s.skipBlocked r.plan).completed ∨
        RunState.wireAll r.plan r.clients r.registry ((s.skipBlocked r.plan).ready r.plan)
          (s.skipBlocked r.plan) = .error failure) := by
  unfold start Run.startRound at h
  simp only at h
  split_ifs at h with hpending hready hexpired
  · exact ⟨by simpa using hpending, .inl (List.isEmpty_iff.mp hready)⟩
  · cases h
    exact ⟨by simpa using hpending, .inr (.inl ⟨hexpired, rfl⟩)⟩
  · split at h
    · cases h
    · next hwire =>
      cases h
      exact ⟨by simpa using hpending, .inr (.inr hwire)⟩

/-! ## What a round does -/

theorem mem_perform {o : Call × Outcome} : o ∈ r.perform works ↔ ∃ w ∈ works, o = (w.1,
    Run.settle r.plan r.readings.faults w.1
      (w.2.perform r.plan.id w.1 (r.readings.call w.1.id))) := by
  simp [perform, Run.performAll, eq_comm]

def names {β : Type} (entries : List (Call × β)) : List String :=
  entries.map fun e => e.1.id

@[simp] theorem names_perform : names (r.perform works) = names works := by
  simp [names, perform, Run.performAll]

/-- The call was wired when these effects had been produced, or fewer, and this came of it. -/
def Made (r : Request) (produced : List (Call × Effect)) (o : Call × Outcome) : Prop :=
  ∃ (s : RunState) (work : Work), s.produced <+: produced ∧
    s.Wires r.plan r.clients r.registry o.1 work ∧
    o.2 = Run.settle r.plan r.readings.faults o.1
      (work.perform r.plan.id o.1 (r.readings.call o.1.id))

structure Passed (r : Request) (s : RunState) (o : Call × Outcome) : Prop where
  call_mem : o.1 ∈ r.plan.calls
  made : r.Made s.produced o
  not_fatal : o.2.completed?.isSome = true ∨
    o.1.optional = true ∧ o.2.isMiss = true ∧ o.1.id ∈ s.skippedIds

theorem Passed.mono {o : Call × Outcome} (h : r.Passed s o) (hproduced : s.produced <+: t.produced)
    (hskipped : s.skippedIds ⊆ t.skippedIds) : r.Passed t o := by
  obtain ⟨hcall, ⟨before, work, hbefore, hwork, ho⟩, hfatal⟩ := h
  refine ⟨hcall, ⟨before, work, hbefore.trans hproduced, hwork, ho⟩, ?_⟩
  exact hfatal.imp_right fun h => ⟨h.1, h.2.1, hskipped h.2.2⟩

theorem settle_cases (plan : Plan) (faults : Faults) (call : Call) (outcome : Outcome) :
    Run.settle plan faults call outcome = outcome ∨
      ∃ failure, Run.settle plan faults call outcome = .failed failure := by
  unfold Run.settle
  split
  · exact .inr ⟨_, rfl⟩
  · exact .inr ⟨_, rfl⟩
  · exact .inl rfl

theorem Passed.outcome_eq {o : Call × Outcome} (h : r.Passed s o) :
    ∃ (before : RunState) (work : Work), before.produced <+: s.produced ∧
      before.Wires r.plan r.clients r.registry o.1 work ∧
      o.2 = work.perform r.plan.id o.1 (r.readings.call o.1.id) := by
  obtain ⟨-, ⟨before, work, hbefore, hwork, ho⟩, hfatal⟩ := h
  refine ⟨before, work, hbefore, hwork, ?_⟩
  rcases settle_cases r.plan r.readings.faults o.1
    (work.perform r.plan.id o.1 (r.readings.call o.1.id)) with hsettle | ⟨failure, hsettle⟩
  · rw [ho, hsettle]
  · rw [ho, hsettle] at hfatal
    rcases hfatal with h | ⟨-, h, -⟩ <;> cases h

theorem Passed.stage_eq {o : Call × Outcome} {effect : Effect} (h : r.Passed s o)
    (heffect : o.2.completed? = some effect) : effect.stage = o.1.stage := by
  obtain ⟨before, work, -, hwork, ho⟩ := h.outcome_eq
  rw [ho] at heffect
  cases hwork with
  | fetch hstage _ =>
    obtain ⟨raw, -, -, rfl⟩ := Work.completed?_fetchOutcome heffect
    exact hstage.symm
  | extract hstage _ _ =>
    obtain ⟨e, -, rfl⟩ := Work.completed?_outcomeOf heffect
    exact hstage.symm
  | derive hstage _ _ =>
    obtain ⟨e, -, rfl⟩ := Work.completed?_outcomeOf heffect
    exact hstage.symm
  | claim hstage _ _ =>
    obtain ⟨e, -, rfl⟩ := Work.completed?_outcomeOf heffect
    exact hstage.symm

/-! ## The invariant of the rounds -/

/-- Between two rounds: as many layers are done as there were rounds, but for what was skipped. -/
structure RoundInv (r : Request) (layers : List (List String))
    (done : List (List (Call × Outcome))) (s : RunState) : Prop where
  accounted : s.Accounted r.plan
  completed_eq : s.completed =
    (Plan.firstLayers layers done.length).filter fun id => !s.isSkipped id
  blockers_completed : ∀ id ∈ s.completed, ∀ b ∈ r.plan.blockers id, b ∈ s.completed
  produced_eq : s.produced = done.flatten.filterMap RunState.completedOf
  effects_eq : s.effects = done.flatten.filterMap fun o => o.2.written?
  passed : ∀ o ∈ done.flatten, r.Passed s o

theorem roundInv_start (hl : r.plan.Layered layers) : RoundInv r layers [] (.initial r.plan) where
  accounted := RunState.accounted_initial hl.nodup
  completed_eq := by simp [RunState.initial, RunState.completed]
  blockers_completed := by simp [RunState.initial, RunState.completed]
  produced_eq := rfl
  effects_eq := rfl
  passed := by simp

theorem completed_eq_of_subset {names : List String} (ht : t.Accounted r.plan)
    (hcompleted : s.completed ⊆ t.completed) (hskipped : s.skippedIds ⊆ t.skippedIds)
    (hs : s.completed = names.filter fun id => !s.isSkipped id) :
    s.completed = names.filter fun id => !t.isSkipped id := by
  rw [hs]
  apply List.filter_congr
  intro id hid
  by_cases hskip : id ∈ s.skippedIds
  · rw [RunState.isSkipped_iff.mpr hskip, RunState.isSkipped_iff.mpr (hskipped hskip)]
  · have hmem : id ∈ s.completed := by
      rw [hs, List.mem_filter]
      exact ⟨hid, by simpa [← RunState.isSkipped_iff] using hskip⟩
    have hnot : id ∉ t.skippedIds := fun h =>
      (List.nodup_append.mp ht.done_nodup).2.2 _ (hcompleted hmem) _ h rfl
    rw [← RunState.isSkipped_iff, Bool.not_eq_true] at hskip hnot
    rw [hskip, hnot]

namespace RoundInv

theorem mem_completed (h : RoundInv r layers done s) :
    id ∈ s.completed ↔ id ∈ Plan.firstLayers layers done.length ∧ id ∉ s.skippedIds := by
  rw [h.completed_eq, List.mem_filter, RunState.not_isSkipped_iff]

theorem mem_produced {p : Call × Effect} (h : RoundInv r layers done s) :
    p ∈ s.produced ↔ ∃ o ∈ done.flatten, o.1 = p.1 ∧ o.2.completed? = some p.2 := by
  rw [h.produced_eq, List.mem_filterMap]
  constructor
  · rintro ⟨o, ho, hp⟩
    obtain ⟨effect, heffect, rfl⟩ := Option.map_eq_some_iff.mp hp
    exact ⟨o, ho, rfl, heffect⟩
  · rintro ⟨o, ho, hcall, heffect⟩
    exact ⟨o, ho, by simp [RunState.completedOf, hcall, heffect]⟩

theorem completed_iff (h : RoundInv r layers done s) :
    id ∈ s.completed ↔ ∃ o ∈ done.flatten, o.1.id = id ∧ o.2.completed?.isSome = true := by
  rw [RunState.completed, List.mem_map]
  constructor
  · rintro ⟨p, hp, rfl⟩
    obtain ⟨o, ho, hcall, heffect⟩ := h.mem_produced.mp hp
    exact ⟨o, ho, by rw [hcall], by rw [heffect, Option.isSome_some]⟩
  · rintro ⟨o, ho, rfl, hsome⟩
    obtain ⟨effect, heffect⟩ := Option.isSome_iff_exists.mp hsome
    exact ⟨(o.1, effect), h.mem_produced.mpr ⟨o, ho, rfl, heffect⟩, rfl⟩

theorem call_mem {p : Call × Effect} (h : RoundInv r layers done s) (hp : p ∈ s.produced) :
    p.1 ∈ r.plan.calls := by
  obtain ⟨o, ho, hcall, -⟩ := h.mem_produced.mp hp
  exact hcall ▸ (h.passed o ho).call_mem

theorem stage_eq {p : Call × Effect} (h : RoundInv r layers done s) (hp : p ∈ s.produced) :
    p.2.stage = p.1.stage := by
  obtain ⟨o, ho, hcall, heffect⟩ := h.mem_produced.mp hp
  rw [(h.passed o ho).stage_eq heffect, hcall]

theorem lt_length (hl : r.plan.Layered layers) (h : RoundInv r layers done s)
    (hpending : s.pending ≠ []) : done.length < layers.length := by
  obtain ⟨id, hid⟩ := List.exists_mem_of_ne_nil _ hpending
  obtain ⟨hcall, hcompleted, hskipped⟩ := h.accounted.mem_pending.mp hid
  by_contra hle
  apply hcompleted
  rw [h.mem_completed, Plan.firstLayers_of_length_le (by omega)]
  exact ⟨hl.complete id hcall, hskipped⟩

theorem skipBlocked (h : RoundInv r layers done s) :
    RoundInv r layers done (s.skipBlocked r.plan) := by
  have hacc := RunState.accounted_skipBlocked h.accounted
  have hproduced : (s.skipBlocked r.plan).produced = s.produced :=
    RunState.produced_skipBlocked h.accounted
  have hcompleted := RunState.completed_congr hproduced
  refine ⟨hacc, ?_, ?_, ?_, ?_, ?_⟩
  · rw [hcompleted]
    exact completed_eq_of_subset hacc (by rw [hcompleted]; exact List.Subset.refl _)
      (RunState.skippedIds_subset_skipBlocked h.accounted) h.completed_eq
  · rw [hcompleted]
    exact h.blockers_completed
  · rw [hproduced, h.produced_eq]
  · rw [RunState.effects_skipBlocked h.accounted, h.effects_eq]
  · intro o ho
    exact (h.passed o ho).mono (hproduced ▸ List.prefix_refl _)
      (RunState.skippedIds_subset_skipBlocked h.accounted)

/-- The ready calls are those of the next layer, but for what was skipped. -/
theorem ready_eq (hl : r.plan.Layered layers) (h : RoundInv r layers done s)
    (hskips : s.SkipsDone r.plan) {layer : List String} (hk : layers[done.length]? = some layer) :
    s.ready r.plan = layer.filter fun id => !s.isSkipped id := by
  rw [hl.layer_eq _ layer hk, Plan.nextLayer, RunState.ready, h.accounted.pending_eq,
    List.filter_filter, List.filter_filter]
  apply List.filter_congr
  intro id hid
  rw [Bool.eq_iff_iff]
  rw [Bool.and_eq_true, RunState.isOpen_iff, List.all_eq_true, Bool.and_eq_true,
    Bool.and_eq_true, Plan.isUnblocked_iff, RunState.not_isSkipped_iff, Bool.not_eq_true',
    List.contains_eq_mem, decide_eq_false_iff_not]
  simp only [RunState.isSome_produced?_iff, h.mem_completed]
  constructor
  · rintro ⟨hblockers, hopen, hskipped⟩
    exact ⟨hskipped, fun hlayer => hopen ⟨hlayer, hskipped⟩, fun b hb => (hblockers b hb).1⟩
  · rintro ⟨hskipped, hlater, hblockers⟩
    have hpending : id ∈ s.pending := h.accounted.mem_pending.mpr
      ⟨mem_sortNames.mp hid, fun hc => hlater (h.mem_completed.mp hc).1, hskipped⟩
    exact ⟨fun b hb => ⟨hblockers b hb, hskips id hpending b hb⟩,
      fun hc => hlater hc.1, hskipped⟩

/-- A pending call of a later layer waits for one of an earlier layer, and so for a ready one. -/
theorem ready_ne_nil (hl : r.plan.Layered layers) (h : RoundInv r layers done s)
    (hskips : s.SkipsDone r.plan) (hpending : s.pending ≠ []) : s.ready r.plan ≠ [] := by
  have hbelow : ∀ n id, id ∈ s.pending → id ∈ Plan.firstLayers layers (done.length + n) →
      s.ready r.plan ≠ [] := by
    intro n
    induction n with
    | zero =>
      intro id hid hlayer
      obtain ⟨-, hcompleted, hskipped⟩ := h.accounted.mem_pending.mp hid
      exact absurd (h.mem_completed.mpr ⟨hlayer, hskipped⟩) hcompleted
    | succ n ih =>
      intro id hid hlayer
      cases hk : layers[done.length + n]? with
      | none =>
        have hlen : layers.length ≤ done.length + n := List.getElem?_eq_none_iff.mp hk
        rw [Plan.firstLayers_of_length_le (by omega)] at hlayer
        exact ih id hid (by rwa [Plan.firstLayers_of_length_le hlen])
      | some layer =>
        rw [← Nat.add_assoc, Plan.firstLayers_succ hk, List.mem_append] at hlayer
        rcases hlayer with hlayer | hlayer
        · exact ih id hid hlayer
        by_cases hready : id ∈ s.ready r.plan
        · exact List.ne_nil_of_mem hready
        rw [RunState.mem_ready, not_and] at hready
        obtain ⟨b, hb, hbnot⟩ : ∃ b ∈ r.plan.blockers id, b ∉ s.completed := by
          simpa using hready hid
        have hbmem := ((hl.mem_layer hk).mp hlayer).2.2 b hb
        refine ih b (h.accounted.mem_pending.mpr ⟨?_, hbnot, hskips id hid b hb⟩) hbmem
        exact hl.mem_flatten.mp (Plan.mem_flatten_of_mem_firstLayers hbmem)
  obtain ⟨id, hid⟩ := List.exists_mem_of_ne_nil _ hpending
  have hmem := hl.complete id (h.accounted.mem_pending.mp hid).1
  refine hbelow layers.length id hid ?_
  rwa [Plan.firstLayers_of_length_le (by omega)]

end RoundInv

/-! ## The calls of a round -/

structure StartInv (r : Request) (layers : List (List String))
    (done : List (List (Call × Outcome))) (s t : RunState) (works : List (Call × Work)) :
    Prop where
  accounted : t.Accounted r.plan
  produced_eq : t.produced = s.produced
  effects_eq : t.effects = s.effects
  skippedIds_subset : s.skippedIds ⊆ t.skippedIds
  names_eq : ∃ layer, layers[done.length]? = some layer ∧
    names works = layer.filter fun id => !t.isSkipped id
  names_nodup : (names works).Nodup
  works_mem : ∀ w ∈ works, w.1 ∈ r.plan.calls ∧ w.1.id ∈ t.pending ∧
    (∀ b ∈ r.plan.blockers w.1.id, b ∈ t.completed) ∧
    s.Wires r.plan r.clients r.registry w.1 w.2

theorem RoundInv.wired (h : RoundInv r layers done s) (hstart : r.start k s = .work t works) :
    RunState.Wired r.plan r.clients r.registry ((s.skipBlocked r.plan).ready r.plan)
      (s.skipBlocked r.plan) t works := by
  have hacc := h.skipBlocked.accounted
  exact RunState.wired_of_wireAll (start_work hstart).2 hacc
    (fun id hid => (RunState.mem_ready.mp hid).1) (hacc.pending_nodup.filter _)

theorem RoundInv.starts (hl : r.plan.Layered layers) (h : RoundInv r layers done s)
    (hstart : r.start done.length s = .work t works) : StartInv r layers done s t works := by
  obtain ⟨hpending, -⟩ := start_work hstart
  have hw := h.wired hstart
  have hready := h.skipBlocked
  have hskips := RunState.skipsDone_skipBlocked h.accounted
  have hproduced : (s.skipBlocked r.plan).produced = s.produced :=
    RunState.produced_skipBlocked h.accounted
  have hcompleted : t.completed = (s.skipBlocked r.plan).completed :=
    RunState.completed_congr hw.produced_eq
  have hk := List.getElem?_eq_getElem (hready.lt_length hl hpending)
  refine ⟨hw.accounted, hw.produced_eq.trans hproduced, ?_, ?_, ⟨_, hk, ?_⟩, ?_, ?_⟩
  · rw [hw.effects_eq, RunState.effects_skipBlocked h.accounted]
  · exact fun id hid =>
      hw.skippedIds_subset (RunState.skippedIds_subset_skipBlocked h.accounted hid)
  · rw [names, hw.names_eq, hready.ready_eq hl hskips hk, List.filter_filter]
    apply List.filter_congr
    intro id _
    rw [Bool.eq_iff_iff, Bool.and_eq_true, RunState.not_isSkipped_iff,
      RunState.not_isSkipped_iff]
    exact ⟨fun hid => hid.1, fun hid => ⟨hid, fun hs => hid (hw.skippedIds_subset hs)⟩⟩
  · rw [names, hw.names_eq]
    exact (hready.accounted.pending_nodup.filter _).filter _
  · intro w hmem
    obtain ⟨hcall, hwork⟩ := hw.works_mem w hmem
    have hid : w.1.id ∈ names works := List.mem_map_of_mem hmem
    rw [names, hw.names_eq, List.mem_filter, RunState.not_isSkipped_iff, RunState.mem_ready] at hid
    obtain ⟨⟨hid, hblockers⟩, hskipped⟩ := hid
    obtain ⟨hplan, hopen, -⟩ := hready.accounted.mem_pending.mp hid
    rw [← hcompleted] at hblockers hopen
    refine ⟨hcall, hw.accounted.mem_pending.mpr ⟨hplan, hopen, hskipped⟩, hblockers, ?_⟩
    exact RunState.wires_of_wire (RunState.wire_congr hproduced _ ▸ hwork)

namespace StartInv

variable (hs : StartInv r layers done s t works)
include hs

theorem completed_eq : t.completed = s.completed :=
  RunState.completed_congr hs.produced_eq

theorem taken (htake : t.takeOutcomes (r.perform works) = .ok u) :
    RunState.Taken r.plan (r.perform works) t u := by
  refine RunState.taken_of_takeOutcomes htake hs.accounted ?_ ?_
  · intro o ho
    obtain ⟨w, hw, rfl⟩ := mem_perform.mp ho
    obtain ⟨hcall, hid, -⟩ := hs.works_mem w hw
    exact ⟨hcall, hid⟩
  · change (names (r.perform works)).Nodup
    rw [names_perform]
    exact hs.names_nodup

end StartInv

theorem RoundInv.round (h : RoundInv r layers done s) (hs : StartInv r layers done s t works)
    (htake : t.takeOutcomes (r.perform works) = .ok u) :
    RoundInv r layers (done ++ [r.perform works]) u := by
  have ht := hs.taken htake
  have hskipped : t.skippedIds ⊆ u.skippedIds := fun id hid => (ht.mem_skippedIds id).mpr (.inl hid)
  have hprefix : s.produced <+: u.produced := by
    rw [ht.produced_eq, hs.produced_eq]
    exact List.prefix_append _ _
  have hsubset : s.completed ⊆ u.completed := RunState.completed_subset hprefix
  obtain ⟨layer, hk, hnames⟩ := hs.names_eq
  have hround : u.completed = s.completed ++ layer.filter fun id => !u.isSkipped id := by
    rw [ht.completed_eq, hs.completed_eq]
    change s.completed ++ (names (r.perform works)).filter _ = _
    rw [names_perform, hnames, List.filter_filter]
    congr 1
    apply List.filter_congr
    intro id _
    rw [Bool.eq_iff_iff, Bool.and_eq_true, RunState.not_isSkipped_iff,
      RunState.not_isSkipped_iff]
    exact ⟨fun hid => hid.1, fun hid => ⟨hid, fun hs => hid (hskipped hs)⟩⟩
  refine ⟨ht.accounted, ?_, ?_, ?_, ?_, ?_⟩
  · rw [hround, completed_eq_of_subset ht.accounted hsubset
      (fun id hid => hskipped (hs.skippedIds_subset hid)) h.completed_eq, List.length_append,
      List.length_singleton, Plan.firstLayers_succ hk, List.filter_append]
  · intro id hid b hb
    rw [ht.completed_eq, List.mem_append] at hid
    rcases hid with hid | hid
    · rw [hs.completed_eq] at hid
      exact hsubset (h.blockers_completed id hid b hb)
    · obtain ⟨o, ho, rfl⟩ := List.mem_map.mp (List.mem_filter.mp hid).1
      obtain ⟨w, hw, rfl⟩ := mem_perform.mp ho
      exact hsubset (hs.completed_eq ▸ (hs.works_mem w hw).2.2.1 b hb)
  · rw [ht.produced_eq, hs.produced_eq, h.produced_eq]
    simp
  · rw [ht.effects_eq, hs.effects_eq, h.effects_eq]
    simp
  · intro o ho
    rw [List.flatten_append, List.flatten_singleton, List.mem_append] at ho
    rcases ho with ho | ho
    · exact (h.passed o ho).mono hprefix fun id hid => hskipped (hs.skippedIds_subset hid)
    · have hfatal := ht.not_fatal o ho
      have hmiss := fun hmiss => (ht.mem_skippedIds o.1.id).mpr (.inr ⟨o, ho, rfl, hmiss⟩)
      obtain ⟨w, hw, rfl⟩ := mem_perform.mp ho
      obtain ⟨hcall, -, -, hwires⟩ := hs.works_mem w hw
      exact ⟨hcall, ⟨s, w.2, hprefix, hwires, rfl⟩,
        hfatal.imp_right fun h => ⟨h.1, h.2, hmiss h.2⟩⟩

theorem Reaches.roundInv (h : Reaches r done s) (hl : r.plan.Layered layers) :
    RoundInv r layers done s := by
  induction h with
  | start => exact roundInv_start hl
  | round h hstart htake ih => exact ih.round (ih.starts hl hstart) htake

theorem Reaches.startInv (h : Reaches r done s) (hl : r.plan.Layered layers)
    (hstart : r.start done.length s = .work t works) : StartInv r layers done s t works :=
  (h.roundInv hl).starts hl hstart

/-- The wiring fails for want of a client, a handler or a source, and the rounds never get
stuck. -/
theorem RoundInv.start_ne_cycle (hl : r.plan.Layered layers) (h : RoundInv r layers done s)
    (planId : String) (ids : List String) :
    r.start done.length s ≠ .failed (.cycle planId ids) := by
  intro hstart
  obtain ⟨hpending, hready | ⟨-, htimeout⟩ | hwire⟩ := start_failed hstart
  · exact h.skipBlocked.ready_ne_nil hl (RunState.skipsDone_skipBlocked h.accounted) hpending hready
  · cases htimeout
  · exact RunState.wireAll_ne_cycle hwire

end Request

end Lemmata
