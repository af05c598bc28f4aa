import Lemmata.Proofs.Plan.LongestChains
import Lemmata.Proofs.Plan.Searches

/-! # A planned query is a set of whole chains -/

namespace Lemmata

namespace Plan

variable {p : Plan} {rank : String → Nat} {id : String} {n : Nat}

/-! ## Around one call -/

def incoming (p : Plan) (id : String) : List Dependency :=
  p.dependencies.filter fun d => d.blocked == id

def outgoing (p : Plan) (id : String) : List Dependency :=
  p.dependencies.filter fun d => d.blocker == id

def idsIn (p : Plan) (stage : Stage) : List String :=
  sortNames ((p.callsIn stage).map Call.id)

theorem mem_idsIn {stage : Stage} :
    id ∈ p.idsIn stage ↔ ∃ c ∈ p.calls, c.stage = stage ∧ c.id = id := by
  simp [idsIn, callsIn, and_assoc]

theorem ascending_idsIn (hnodup : p.callIds.Nodup) (stage : Stage) : Ascending (p.idsIn stage) := by
  refine ascending_of_sublist_sortNames (hnodup.sublist ?_) (List.Sublist.refl _)
  exact List.filter_sublist.map Call.id

theorem ChainTo.le_rank (hrank : ∀ a b, p.Blocks a b → rank a < rank b) (h : p.ChainTo n id) :
    n ≤ rank id := by
  induction h with
  | start => exact Nat.zero_le _
  | next _ hab ih =>
    have := hrank _ _ hab
    omega

end Plan

theorem filter_eq_singleton {α : Type} {key : α → String} {as : List α} {a : α}
    (hnodup : (as.map key).Nodup) (ha : a ∈ as) : as.filter (fun b => key b == key a) = [a] := by
  rw [← List.perm_singleton]
  refine (List.perm_ext_iff_of_nodup (hnodup.of_map.filter _) (List.nodup_singleton a)).mpr ?_
  intro b
  rw [List.mem_filter, beq_iff_eq, List.mem_singleton]
  constructor
  · rintro ⟨hb, hkey⟩
    exact List.inj_on_of_nodup_map hnodup hb ha hkey
  · rintro rfl
    exact ⟨ha, rfl⟩

namespace Search

variable {s : Search} {language : Language} {stage : Stage}

/-! ## The calls of one search agree -/

theorem optional_call : (s.call language stage).optional = (s.fetch language).optional := by
  cases stage <;> rfl

theorem priority_call : (s.call language stage).priority = (s.fetch language).priority := by
  cases stage <;> rfl

theorem blocked_sublist (s : Search) (language : Language) :
    ((s.dependencies language).map Dependency.blocked).Sublist s.callIds := by
  simp only [dependencies, List.map_filterMap, Option.map_map, Function.comp_def,
    Planner.chainDependency, id_call]
  exact List.sublist_cons_self _ _

theorem blocker_sublist (s : Search) (language : Language) :
    ((s.dependencies language).map Dependency.blocker).Sublist s.callIds := by
  simp only [dependencies, List.map_filterMap, Option.map_map, Function.comp_def,
    Planner.chainDependency, id_call]
  exact List.sublist_append_left [s.callId .fetch, s.callId .extract, s.callId .derive] _

end Search

namespace Planner

variable {config : PlannerConfig} {query : Query} {planId id : String} {s : Search}
variable {stage previous : Stage} {layers : List (List String)} {layer : List String} {k : Nat}

/-! ## How many chains there are -/

def hasEndpoint (config : PlannerConfig) (backend : Backend) : Bool :=
  (config.setting backend).any fun endpoint => !Blank.isOnlyBlank endpoint

def chainCount (config : PlannerConfig) (query : Query) : Nat :=
  min (max 1 config.maxCandidates) query.candidates.length *
    (Backend.forLanguage query.language).countP (hasEndpoint config)

theorem length_searches (config : PlannerConfig) (query : Query) :
    (searches config query).length = chainCount config query := by
  have hbackend : ∀ backend, (config.endpoint? backend).isSome = hasEndpoint config backend := by
    intro backend
    unfold PlannerConfig.endpoint? hasEndpoint
    cases config.setting backend <;> simp [Option.filter, apply_ite Option.isSome]
  simp only [searches, List.length_flatMap, List.length_filterMap_eq_countP, Option.isSome_map,
    hbackend, List.map_const', List.sum_replicate_nat, List.length_zipIdx, List.length_take,
    chainCount, Nat.max_comm]

theorem length_calls_build : (build config planId query).calls.length =
    4 * chainCount config query := by
  have hfour : ∀ s : Search, (s.calls query.language).length = 4 := fun _ => rfl
  simp only [build, Plan.freeze, chains_eq, List.flatMap_map, List.length_flatMap, hfour,
    List.map_const', List.sum_replicate_nat, length_searches, Nat.mul_comm]

theorem length_dependencies_build : (build config planId query).dependencies.length =
    3 * chainCount config query := by
  have hthree : ∀ s : Search, (s.dependencies query.language).length = 3 := fun _ => rfl
  simp only [build, Plan.freeze, chains_eq, List.flatMap_map, List.length_flatMap, hthree,
    List.map_const', List.sum_replicate_nat, length_searches, Nat.mul_comm]

/-! ## What a call waits for, and what waits for it -/

theorem dependencies_build : (build config planId query).dependencies =
    (searches config query).flatMap fun s => s.dependencies query.language := by
  simp only [build, Plan.freeze, chains_eq, List.flatMap_map]

theorem blocked_nodup_build :
    ((build config planId query).dependencies.map Dependency.blocked).Nodup := by
  refine List.Nodup.sublist ?_ (@callIds_build_nodup config query planId)
  rw [dependencies_build, callIds_build, List.map_flatMap]
  exact List.Sublist.flatMap_right _ fun s _ => s.blocked_sublist _

theorem blocker_nodup_build :
    ((build config planId query).dependencies.map Dependency.blocker).Nodup := by
  refine List.Nodup.sublist ?_ (@callIds_build_nodup config query planId)
  rw [dependencies_build, callIds_build, List.map_flatMap]
  exact List.Sublist.flatMap_right _ fun s _ => s.blocker_sublist _

theorem incoming_fetch (hs : s ∈ searches config query) :
    (build config planId query).incoming (s.callId .fetch) = [] := by
  rw [Plan.incoming, List.filter_eq_nil_iff]
  intro d hd hblocked
  have hmem : d.blocker ∈ (build config planId query).blockers (s.callId .fetch) :=
    Plan.mem_blockers.mpr ⟨d, hd, beq_iff_eq.mp hblocked, rfl⟩
  obtain ⟨previous, hprevious, -⟩ := (mem_blockers_build hs).mp hmem
  cases hprevious

section

variable (hs : s ∈ searches config query) (hprevious : stage.previous? = some previous)
include hs hprevious

theorem chainDependency_mem_build :
    chainDependency (s.call query.language previous) (s.call query.language stage) ∈
      (build config planId query).dependencies :=
  mem_dependencies_build.mpr ⟨s, hs, stage, previous, hprevious, rfl⟩

theorem incoming_build : (build config planId query).incoming (s.callId stage) =
    [chainDependency (s.call query.language previous) (s.call query.language stage)] := by
  have hkey : (chainDependency (s.call query.language previous)
      (s.call query.language stage)).blocked = s.callId stage := Search.id_call
  rw [Plan.incoming, ← hkey]
  exact filter_eq_singleton blocked_nodup_build (chainDependency_mem_build hs hprevious)

theorem outgoing_build : (build config planId query).outgoing (s.callId previous) =
    [chainDependency (s.call query.language previous) (s.call query.language stage)] := by
  have hkey : (chainDependency (s.call query.language previous)
      (s.call query.language stage)).blocker = s.callId previous := Search.id_call
  rw [Plan.outgoing, ← hkey]
  exact filter_eq_singleton blocker_nodup_build (chainDependency_mem_build hs hprevious)

end

/-! ## Four layers -/

theorem blocks_build {a b : String} (h : (build config planId query).Blocks a b) :
    stageRank (build config planId query) a < stageRank (build config planId query) b := by
  obtain ⟨d, hd, rfl, rfl⟩ := h
  obtain ⟨s, hs, stage, previous, hprevious, rfl⟩ := mem_dependencies_build.mp hd
  simp only [chainDependency, Search.id_call, stageRank_build hs]
  cases stage <;> cases hprevious <;> decide

theorem chainTo_build (hs : s ∈ searches config query) (stage : Stage) :
    (build config planId query).ChainTo (Stage.all.idxOf stage) (s.callId stage) := by
  have hnext : ∀ {stage previous : Stage}, stage.previous? = some previous →
      (build config planId query).Blocks (s.callId previous) (s.callId stage) := fun hprevious =>
    ⟨_, chainDependency_mem_build hs hprevious, Search.id_call, Search.id_call⟩
  have hextract : (build config planId query).ChainTo 1 (s.callId .extract) :=
    .next (.start _) (hnext rfl)
  have hderive : (build config planId query).ChainTo 2 (s.callId .derive) :=
    .next hextract (hnext rfl)
  cases stage with
  | fetch => exact .start _
  | extract => exact hextract
  | derive => exact hderive
  | claim => exact .next hderive (hnext rfl)

/-- The longest chain that ends at a call comes through the earlier stages of its search. -/
theorem isGreatest_build (hs : s ∈ searches config query) (stage : Stage) :
    IsGreatest { n | (build config planId query).ChainTo n (s.callId stage) }
      (Stage.all.idxOf stage) := by
  refine ⟨chainTo_build hs stage, fun n hn => ?_⟩
  have hrank : stageRank (build config planId query) (s.callId stage) = Stage.all.idxOf stage :=
    stageRank_build hs
  exact hrank ▸ Plan.ChainTo.le_rank (fun _ _ => blocks_build) hn

theorem mem_idsIn_build : id ∈ (build config planId query).idsIn stage ↔
    ∃ s ∈ searches config query, s.callId stage = id := by
  rw [Plan.mem_idsIn]
  constructor
  · rintro ⟨c, hc, rfl, rfl⟩
    obtain ⟨s, hs, stage, rfl⟩ := mem_calls_build.mp hc
    exact ⟨s, hs, by rw [Search.stage_call, Search.id_call]⟩
  · rintro ⟨s, hs, rfl⟩
    exact ⟨_, mem_calls_build.mpr ⟨s, hs, stage, rfl⟩, Search.stage_call, Search.id_call⟩

theorem callId_mem_build (hs : s ∈ searches config query) (stage : Stage) :
    s.callId stage ∈ (build config planId query).callIds := by
  rw [callIds_build]
  exact List.mem_flatMap.mpr ⟨s, hs, List.mem_map_of_mem (mem_all stage)⟩

theorem getElem?_layers_build (h : (build config planId query).ByLongestChain layers)
    (hk : layers[k]? = some layer) :
    ∃ stage, Stage.all[k]? = some stage ∧ (build config planId query).idsIn stage = layer := by
  have hmem := List.mem_of_getElem? hk
  have hrank : ∀ {s}, s ∈ searches config query → ∀ stage,
      (s.callId stage ∈ layer ↔ Stage.all.idxOf stage = k) := by
    intro s hs stage
    rw [h.mem_layer hk]
    constructor
    · exact fun ⟨_, hgreatest⟩ => (isGreatest_build hs stage).unique hgreatest
    · rintro rfl
      exact ⟨callId_mem_build hs stage, isGreatest_build hs stage⟩
  have hsearch : ∀ id ∈ layer, ∃ s ∈ searches config query, ∃ stage, s.callId stage = id := by
    intro id hid
    have hcall := ((h.mem_layer hk).mp hid).1
    rw [callIds_build] at hcall
    obtain ⟨s, hs, hid⟩ := List.mem_flatMap.mp hcall
    obtain ⟨stage, -, hstage⟩ := List.mem_map.mp hid
    exact ⟨s, hs, stage, hstage⟩
  obtain ⟨id, hid⟩ := List.exists_mem_of_ne_nil _ (h.ne_nil layer hmem)
  obtain ⟨s, hs, stage, rfl⟩ := hsearch id hid
  have hstage := (hrank hs stage).mp hid
  refine ⟨stage, ?_, ?_⟩
  · rw [← hstage]
    exact List.getElem?_idxOf (mem_all stage)
  · refine (Plan.ascending_idsIn callIds_build_nodup stage).eq_of_mem_iff
      (h.ascending layer hmem) fun id => ?_
    rw [mem_idsIn_build]
    constructor
    · rintro ⟨t, ht, rfl⟩
      exact (hrank ht stage).mpr hstage
    · intro hid
      obtain ⟨t, ht, other, rfl⟩ := hsearch id hid
      have hsame := ((hrank ht other).mp hid).trans hstage.symm
      exact ⟨t, ht, by rw [(List.idxOf_inj (mem_all other)).mp hsame]⟩

theorem layers_build_eq : (build config planId query).layers =
    .ok (if chainCount config query = 0 then []
      else Stage.all.map (build config planId query).idsIn) := by
  obtain ⟨layers, hlayers⟩ := layers_build config planId query
  have h := (Plan.layered_of_layers hlayers).byLongestChain
  rw [hlayers]
  congr 1
  split
  case isTrue hzero =>
    have hsearches : searches config query = [] := by
      rw [← List.length_eq_zero_iff, length_searches, hzero]
    have hcalls := h.perm
    rw [callIds_build, hsearches, List.flatMap_nil, List.perm_nil, List.flatten_eq_nil_iff] at hcalls
    exact List.eq_nil_iff_forall_not_mem.mpr fun layer hl => h.ne_nil layer hl (hcalls layer hl)
  case isFalse hzero =>
    obtain ⟨s, hs⟩ : ∃ s, s ∈ searches config query := by
      refine List.exists_mem_of_length_pos ?_
      rw [length_searches]
      exact Nat.pos_of_ne_zero hzero
    -- Each stage has a call of this search, so no layer is missing.
    have hsome : ∀ stage, layers[Stage.all.idxOf stage]? =
        some ((build config planId query).idsIn stage) := by
      intro stage
      obtain ⟨layer, hlayer, hid⟩ :=
        List.mem_flatten.mp (h.perm.mem_iff.mpr (callId_mem_build hs stage))
      obtain ⟨k, hk⟩ := List.getElem?_of_mem hlayer
      obtain rfl := (isGreatest_build hs stage).unique ((h.mem_layer hk).mp hid).2
      obtain ⟨other, hother, rfl⟩ := getElem?_layers_build h hk
      rw [List.getElem?_idxOf (mem_all stage)] at hother
      rw [hk, Option.some.inj hother]
    apply List.ext_getElem?
    intro k
    cases hk : layers[k]? with
    | some layer =>
      obtain ⟨stage, hstage, rfl⟩ := getElem?_layers_build h hk
      rw [List.getElem?_map, hstage]
      rfl
    | none =>
      rw [List.getElem?_map]
      cases hstage : Stage.all[k]? with
      | none => rfl
      | some stage =>
        have hidx : Stage.all.idxOf stage = k := by
          obtain ⟨hlt, rfl⟩ := List.getElem?_eq_some_iff.mp hstage
          exact List.Nodup.idxOf_getElem (by decide) k hlt
        have := hsome stage
        rw [hidx, hk] at this
        cases this

/-! ## The whole plan -/

/-- However many candidates and whichever backends there are, a planned query is so many whole
chains, each of them from the fetch to the claim of one candidate in one backend. -/
theorem build_chains (config : PlannerConfig) (planId : String) (query : Query) :
    let plan := build config planId query
    let k := chainCount config query
    let isOf := fun (call : Call) (s : Search) =>
      s ∈ searches config query ∧ s.call query.language call.stage = call
    plan.calls.length = 4 * k ∧ plan.dependencies.length = 3 * k ∧
      plan.layers = .ok (if k = 0 then [] else Stage.all.map plan.idsIn) ∧
      (∀ stage, Plan.Ascending (plan.idsIn stage)) ∧
      (∀ call ∈ plan.calls, ∃! s, isOf call s) ∧
      (∀ call ∈ plan.calls, call.stage = .fetch →
        plan.incoming call.id = [] ∧ ∃ d, plan.outgoing call.id = [d]) ∧
      (∀ call ∈ plan.calls, call.stage ≠ .fetch → ∃ d, ∃ source ∈ plan.calls,
        plan.incoming call.id = [d] ∧ d.blocker = source.id ∧
        call.param? "source_call_id" = some source.id ∧
        call.stage.previous? = some source.stage ∧ ∃ s, isOf call s ∧ isOf source s) ∧
      (∀ call ∈ plan.calls, ∀ other ∈ plan.calls, (∃ s, isOf call s ∧ isOf other s) →
        call.optional = other.optional ∧ call.priority = other.priority) := by
  intro plan k isOf
  have hisOf : ∀ call ∈ plan.calls, ∃ s, isOf call s := by
    intro call hcall
    obtain ⟨s, hs, stage, rfl⟩ := mem_calls_build.mp hcall
    exact ⟨s, hs, by rw [Search.stage_call]⟩
  refine ⟨length_calls_build, length_dependencies_build, layers_build_eq,
    Plan.ascending_idsIn callIds_build_nodup, ?_, ?_, ?_, ?_⟩
  · intro call hcall
    obtain ⟨s, hs, hcall⟩ := hisOf call hcall
    refine ⟨s, ⟨hs, hcall⟩, fun t ⟨ht, htcall⟩ => ?_⟩
    have hid := congrArg Call.id (htcall.trans hcall.symm)
    rw [Search.id_call, Search.id_call] at hid
    exact (callId_inj ht hs hid).1
  · intro call hcall hfetch
    obtain ⟨s, hs, hof⟩ := hisOf call hcall
    have hid : call.id = s.callId .fetch := by rw [← hof, Search.id_call, hfetch]
    have hnext : Stage.extract.previous? = some .fetch := rfl
    rw [hid]
    exact ⟨incoming_fetch hs, _, outgoing_build hs hnext⟩
  · intro call hcall hstage
    obtain ⟨s, hs, hof⟩ := hisOf call hcall
    have hid : call.id = s.callId call.stage := by rw [← Search.id_call, hof]
    obtain ⟨previous, hprevious⟩ : ∃ previous, call.stage.previous? = some previous :=
      Option.ne_none_iff_exists'.mp fun hnone => hstage (Stage.previous?_eq_none.mp hnone)
    refine ⟨chainDependency (s.call query.language previous) (s.call query.language call.stage),
      s.call query.language previous, mem_calls_build.mpr ⟨s, hs, previous, rfl⟩, ?_, rfl, ?_, ?_,
      s, ⟨hs, hof⟩, hs, ?_⟩
    · rw [hid]
      exact incoming_build hs hprevious
    · rw [← hof, Search.id_call]
      exact Search.param?_source hprevious
    · rw [hprevious, Search.stage_call]
    · rw [Search.stage_call]
  · rintro call - other - ⟨s, ⟨hs, hcall⟩, ht, hother⟩
    rw [← hcall, ← hother]
    simp only [Search.optional_call, Search.priority_call, and_self]

end Planner

end Lemmata
