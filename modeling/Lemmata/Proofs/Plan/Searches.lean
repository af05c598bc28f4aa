import Lemmata.Planner
import Lemmata.Proofs.Plan.Layers

/-! # The searches that a planned query consists of -/

namespace Lemmata

/-- One candidate that is looked up in one backend. -/
structure Search where
  backend : Backend
  index : Nat
  candidate : Candidate
  endpoint : String

namespace Search

variable {s t : Search} {language : Language} {stage previous : Stage}

/-! ## Its calls -/

def fetch (s : Search) (language : Language) : Call :=
  Planner.fetchCall s.backend s.endpoint language s.index s.candidate

def callId (s : Search) : Stage → String
  | .fetch => s!"{s.backend.name}-{s.index}"
  | stage => s!"{s.backend.name}-{s.index}/{stage.name}"

def call (s : Search) (language : Language) (stage : Stage) : Call :=
  match stage.previous? with
  | none => s.fetch language
  | some previous =>
    Planner.chainCall s.backend (s.fetch language) s.candidate.headword stage (s.callId previous)

def calls (s : Search) (language : Language) : List Call :=
  Stage.all.map (s.call language)

def callIds (s : Search) : List String :=
  Stage.all.map s.callId

def dependencies (s : Search) (language : Language) : List Dependency :=
  Stage.all.filterMap fun stage => stage.previous?.map fun previous =>
    Planner.chainDependency (s.call language previous) (s.call language stage)

def isOptional (s : Search) : Bool :=
  match s.backend with
  | .whitakers | .cdsl => true
  | .diogenes | .heritage => false

theorem id_fetch : (s.fetch language).id = s.callId .fetch := by
  obtain ⟨backend, index, candidate, endpoint⟩ := s
  cases backend <;> rfl

theorem tool_fetch : (s.fetch language).tool = s.backend.tool .fetch := by
  obtain ⟨backend, index, candidate, endpoint⟩ := s
  cases backend <;> rfl

theorem stage_fetch : (s.fetch language).stage = .fetch := by
  obtain ⟨backend, index, candidate, endpoint⟩ := s
  cases backend <;> rfl

theorem optional_fetch : (s.fetch language).optional = s.isOptional := by
  obtain ⟨backend, index, candidate, endpoint⟩ := s
  cases backend <;> rfl

@[simp] theorem id_call : (s.call language stage).id = s.callId stage := by
  cases stage with
  | fetch => exact id_fetch
  | _ =>
    have hid : (s.fetch language).id = s.callId .fetch := id_fetch
    simp only [call, Stage.previous?, Planner.chainCall, Call.withParam, hid]
    rfl

@[simp] theorem stage_call : (s.call language stage).stage = stage := by
  cases stage with
  | fetch => exact stage_fetch
  | _ => rfl

@[simp] theorem tool_call : (s.call language stage).tool = s.backend.tool stage := by
  cases stage with
  | fetch => exact tool_fetch
  | _ => rfl

theorem param?_source (h : stage.previous? = some previous) :
    (s.call language stage).param? "source_call_id" = some (s.callId previous) := by
  rw [call, h]
  rfl

theorem param?_lemma (h : stage.previous? = some previous) :
    (s.call language stage).param? "lemma" = some s.candidate.headword := by
  rw [call, h]
  rfl

theorem callId_extract : s.callId .extract = s!"{s.backend.name}-{s.index}/extract" := by
  simp only [callId, String.append_assoc]
  rfl

theorem callId_derive : s.callId .derive = s!"{s.backend.name}-{s.index}/derive" := by
  simp only [callId, String.append_assoc]
  rfl

theorem callId_claim : s.callId .claim = s!"{s.backend.name}-{s.index}/claim" := by
  simp only [callId, String.append_assoc]
  rfl

theorem chain_eq (s : Search) (language : Language) :
    Planner.chain s.backend (s.fetch language) s.candidate.headword =
      (s.calls language, s.dependencies language) := by
  have hextract : s.call language .extract = Planner.chainCall s.backend (s.fetch language)
      s.candidate.headword .extract (s.fetch language).id := by
    rw [id_fetch]
    rfl
  have hderive : s.call language .derive = Planner.chainCall s.backend (s.fetch language)
      s.candidate.headword .derive (s.call language .extract).id := by
    rw [id_call]
    rfl
  have hclaim : s.call language .claim = Planner.chainCall s.backend (s.fetch language)
      s.candidate.headword .claim (s.call language .derive).id := by
    rw [id_call]
    rfl
  simp only [Planner.chain, ← hextract, ← hderive, ← hclaim]
  rfl

/-! ## No two searches share a call -/

theorem not_mem_repr {n : Nat} {c : Char} (hc : c.isDigit = false) : c ∉ n.repr.toList := by
  intro h
  rw [Nat.toList_repr] at h
  rw [Nat.isDigit_of_mem_toDigits (by decide) (by decide) h] at hc
  cases hc

theorem index_eq_of_repr {m n : Nat} (h : m.repr.toList = n.repr.toList) : m = n := by
  rw [Nat.toList_repr, Nat.toList_repr] at h
  rw [← Nat.ofDigitChars_ten_toDigits (n := m), h, Nat.ofDigitChars_ten_toDigits]

theorem toList_callId : (s.callId stage).toList = s.backend.name.toList ++ '-' ::
    (s.index.repr.toList ++ if stage = .fetch then [] else '/' :: stage.name.toList) := by
  cases stage <;> simp [callId, String.toList_append] <;> rfl

theorem callId_inj {other : Stage} (h : s.callId stage = t.callId other) :
    s.backend = t.backend ∧ s.index = t.index ∧ stage = other := by
  have hbackend : ∀ b : Backend, '-' ∉ b.name.toList := fun b => by cases b <;> decide
  have hstage : ∀ stage : Stage, '-' ∉ stage.name.toList ∧ '/' ∉ stage.name.toList :=
    fun stage => by cases stage <;> decide
  have hname : ∀ b c : Backend, b.name.toList = c.name.toList → b = c := fun b c => by
    cases b <;> cases c <;> decide
  replace h := congrArg String.toList h
  rw [toList_callId, toList_callId] at h
  have hdash : '-' ∉ s.index.repr.toList ++ if stage = .fetch then [] else '/' :: stage.name.toList := by
    rw [List.mem_append, not_or]
    refine ⟨not_mem_repr rfl, ?_⟩
    split
    · exact List.not_mem_nil
    · exact List.not_mem_cons_of_ne_of_not_mem (by decide) (hstage stage).1
  obtain ⟨hb, -, h⟩ := (List.append_cons_inj_of_notMem (hbackend s.backend) hdash).mp h
  refine ⟨hname _ _ hb, ?_⟩
  have hslash : ∀ n : Nat, '/' ∉ n.repr.toList := fun n => not_mem_repr rfl
  split at h <;> split at h
  · next hfetch hfetch' =>
    rw [List.append_nil, List.append_nil] at h
    exact ⟨index_eq_of_repr h, hfetch.trans hfetch'.symm⟩
  · refine absurd ?_ (hslash s.index)
    rw [List.append_nil] at h
    simp [h]
  · refine absurd ?_ (hslash t.index)
    rw [List.append_nil] at h
    simp [← h]
  · obtain ⟨hindex, -, hlast⟩ :=
      (List.append_cons_inj_of_notMem (hslash s.index) (hstage stage).2).mp h
    exact ⟨index_eq_of_repr hindex,
      Stage.name_inj.mp (String.toList_inj.mp hlast)⟩

theorem callIds_nodup (s : Search) : s.callIds.Nodup := by
  have hstages : Stage.all.Nodup := by decide
  exact hstages.map_on fun _ _ _ _ h => (callId_inj h).2.2

end Search

/-! ## The searches of a query -/

namespace Planner

variable {config : PlannerConfig} {query : Query} {s t : Search}

def searches (config : PlannerConfig) (query : Query) : List Search :=
  (query.candidates.take (max config.maxCandidates 1)).zipIdx.flatMap fun (candidate, index) =>
    (Backend.forLanguage query.language).filterMap fun backend =>
      (config.endpoint? backend).map fun endpoint => { backend, index, candidate, endpoint }

/-- Each of the first candidates is looked up in every backend that has an endpoint. -/
theorem mem_searches : s ∈ searches config query ↔
    (s.index < max config.maxCandidates 1 ∧ query.candidates[s.index]? = some s.candidate) ∧
      s.backend ∈ Backend.forLanguage query.language ∧
      config.endpoint? s.backend = some s.endpoint := by
  obtain ⟨backend, index, candidate, endpoint⟩ := s
  simp only [searches, List.mem_flatMap, List.mem_filterMap, Option.map_eq_some_iff, Prod.exists,
    List.mem_zipIdx_iff_getElem?, List.getElem?_take]
  constructor
  · rintro ⟨c, i, hc, b, hb, e, he, ⟨⟩⟩
    split at hc
    · next hlt => exact ⟨⟨hlt, hc⟩, hb, he⟩
    · cases hc
  · rintro ⟨⟨hlt, hc⟩, hb, he⟩
    exact ⟨candidate, index, by rw [if_pos hlt]; exact hc, backend, hb, endpoint, he, rfl⟩

theorem eq_of_mem_searches (hs : s ∈ searches config query) (ht : t ∈ searches config query)
    (hbackend : s.backend = t.backend) (hindex : s.index = t.index) : s = t := by
  obtain ⟨⟨-, hs⟩, -, hse⟩ := mem_searches.mp hs
  obtain ⟨⟨-, ht⟩, -, hte⟩ := mem_searches.mp ht
  obtain ⟨backend, index, candidate, endpoint⟩ := s
  obtain ⟨backend', index', candidate', endpoint'⟩ := t
  cases hbackend
  cases hindex
  obtain rfl := Option.some.inj (hs.symm.trans ht)
  obtain rfl := Option.some.inj (hse.symm.trans hte)
  rfl

theorem searches_nodup (config : PlannerConfig) (query : Query) :
    (searches config query).Nodup := by
  refine List.nodup_flatMap.mpr ⟨?_, ?_⟩
  · rintro ⟨candidate, index⟩ -
    have hbackends : (Backend.forLanguage query.language).Nodup := by
      cases query.language <;> decide
    refine List.Nodup.filterMap ?_ hbackends
    intro a b s ha hb
    obtain ⟨e, -, rfl⟩ := Option.map_eq_some_iff.mp ha
    obtain ⟨f, -, hf⟩ := Option.map_eq_some_iff.mp hb
    exact (congrArg Search.backend hf).symm
  · -- Different candidates have different indices.
    have hindices : (query.candidates.take (max config.maxCandidates 1)).zipIdx.Pairwise
        fun p q => p.2 ≠ q.2 := by
      rw [← List.pairwise_map, List.zipIdx_map_snd]
      exact List.nodup_range'
    refine hindices.imp ?_
    rintro ⟨c, i⟩ ⟨d, j⟩ hne s hs ht
    obtain ⟨b, -, hb⟩ := List.mem_filterMap.mp hs
    obtain ⟨b', -, hb'⟩ := List.mem_filterMap.mp ht
    obtain ⟨e, -, rfl⟩ := Option.map_eq_some_iff.mp hb
    obtain ⟨f, -, hf⟩ := Option.map_eq_some_iff.mp hb'
    exact hne (congrArg Search.index hf).symm

theorem chains_eq (config : PlannerConfig) (query : Query) : chains config query =
    (searches config query).map fun s => (s.calls query.language, s.dependencies query.language) := by
  simp only [chains, searches, candidateChains, List.map_flatMap, List.map_filterMap,
    Option.map_map, Function.comp_def, ← Search.chain_eq]
  rfl

/-! ## The plan of a query -/

section

variable {planId b : String} {call : Call} {stage previous : Stage} {d : Dependency}

theorem mem_all (stage : Stage) : stage ∈ Stage.all := by
  cases stage <;> decide

theorem callIds_build : (build config planId query).callIds =
    (searches config query).flatMap Search.callIds := by
  simp only [Plan.callIds, build, Plan.freeze, chains_eq, List.flatMap_map, List.map_flatMap,
    Search.calls, List.map_map, Function.comp_def, Search.id_call]
  rfl

theorem mem_calls_build : call ∈ (build config planId query).calls ↔
    ∃ s ∈ searches config query, ∃ stage, s.call query.language stage = call := by
  simp only [build, Plan.freeze, chains_eq, List.flatMap_map, List.mem_flatMap, Search.calls,
    List.mem_map, mem_all, true_and]

theorem mem_dependencies_build : d ∈ (build config planId query).dependencies ↔
    ∃ s ∈ searches config query, ∃ stage previous, stage.previous? = some previous ∧
      chainDependency (s.call query.language previous) (s.call query.language stage) = d := by
  simp only [build, Plan.freeze, chains_eq, List.flatMap_map, List.mem_flatMap,
    Search.dependencies, List.mem_filterMap, Option.map_eq_some_iff, mem_all, true_and]

theorem fetches_build (config : PlannerConfig) (planId : String) (query : Query) :
    (build config planId query).callsIn .fetch =
      (searches config query).map fun s => s.fetch query.language := by
  have hone : ∀ s : Search, ((s.calls query.language).filter fun c => c.stage = .fetch) =
      [s.fetch query.language] := by
    intro s
    simp only [Search.calls, Stage.all, List.map_cons, List.map_nil, List.filter_cons,
      Search.stage_call, List.filter_nil]
    rfl
  simp only [Plan.callsIn, build, Plan.freeze, chains_eq, List.flatMap_map, List.filter_flatMap,
    hone]
  exact List.map_eq_flatMap.symm

theorem callId_inj {other : Stage} (hs : s ∈ searches config query)
    (ht : t ∈ searches config query) (h : s.callId stage = t.callId other) :
    s = t ∧ stage = other := by
  obtain ⟨hbackend, hindex, hstage⟩ := Search.callId_inj h
  exact ⟨eq_of_mem_searches hs ht hbackend hindex, hstage⟩

theorem callIds_build_nodup : (build config planId query).callIds.Nodup := by
  rw [callIds_build]
  refine List.nodup_flatMap.mpr ⟨fun s _ => s.callIds_nodup, ?_⟩
  refine (searches_nodup config query).imp_of_mem ?_
  intro s t hs ht hne id hid hid'
  obtain ⟨stage, -, rfl⟩ := List.mem_map.mp hid
  obtain ⟨other, -, hother⟩ := List.mem_map.mp hid'
  exact hne (callId_inj ht hs hother).1.symm

theorem mem_blockers_build (hs : s ∈ searches config query) :
    b ∈ (build config planId query).blockers (s.callId stage) ↔
      ∃ previous, stage.previous? = some previous ∧ b = s.callId previous := by
  rw [Plan.mem_blockers]
  constructor
  · rintro ⟨d, hd, hblocked, rfl⟩
    obtain ⟨t, ht, other, previous, hprevious, rfl⟩ := mem_dependencies_build.mp hd
    have hid : t.callId other = s.callId stage := Search.id_call.symm.trans hblocked
    obtain ⟨rfl, rfl⟩ := callId_inj ht hs hid
    exact ⟨previous, hprevious, Search.id_call⟩
  · rintro ⟨previous, hprevious, rfl⟩
    exact ⟨_, mem_dependencies_build.mpr ⟨s, hs, stage, previous, hprevious, rfl⟩,
      Search.id_call, Search.id_call⟩

theorem call?_build (hs : s ∈ searches config query) :
    (build config planId query).call? (s.callId stage) = some (s.call query.language stage) :=
  (Call.find?_eq_some_iff callIds_build_nodup).mpr
    ⟨mem_calls_build.mpr ⟨s, hs, stage, rfl⟩, Search.id_call⟩

def stageRank (plan : Plan) (id : String) : Nat :=
  (plan.call? id).elim 0 fun c => Stage.all.idxOf c.stage

theorem stageRank_build (hs : s ∈ searches config query) :
    stageRank (build config planId query) (s.callId stage) = Stage.all.idxOf stage := by
  rw [stageRank, call?_build hs, Option.elim, Search.stage_call]

theorem layers_build (config : PlannerConfig) (planId : String) (query : Query) :
    ∃ layers, (build config planId query).layers = .ok layers := by
  have hids : ∀ s ∈ searches config query, ∀ stage,
      s.callId stage ∈ (build config planId query).callIds := by
    intro s hs stage
    rw [callIds_build]
    exact List.mem_flatMap.mpr ⟨s, hs, List.mem_map_of_mem (mem_all stage)⟩
  have hrank : ∀ d ∈ (build config planId query).dependencies,
      stageRank (build config planId query) d.blocker <
        stageRank (build config planId query) d.blocked := by
    intro d hd
    obtain ⟨s, hs, stage, previous, hprevious, rfl⟩ := mem_dependencies_build.mp hd
    simp only [chainDependency, Search.id_call, stageRank_build hs]
    cases stage <;> cases hprevious <;> decide
  refine Plan.layers_of_rank ?_ hrank callIds_build_nodup
  intro d hd
  obtain ⟨s, hs, stage, previous, -, rfl⟩ := mem_dependencies_build.mp hd
  rw [chainDependency, Search.id_call, Search.id_call]
  exact ⟨hids s hs previous, hids s hs stage⟩

end

end Planner

end Lemmata
