import Lemmata.Proofs.Plan.SameWork
import Lemmata.Proofs.Run.CacheIntegrity

/-! # A plan without layers runs nothing, whatever ran before -/

namespace Lemmata

/-! ## Plans of the same work -/

namespace Plan

variable {p q : Plan} {layers : List (List String)} {id : String} {k : Nat}

def rank (layers : List (List String)) (id : String) : Nat :=
  layers.findIdx fun layer => layer.contains id

theorem rank_lt_of_mem_firstLayers (h : id ∈ firstLayers layers k) : rank layers id < k := by
  obtain ⟨layer, hlayer, hid⟩ := List.mem_flatten.mp h
  have hlt : rank (layers.take k) id < (layers.take k).length :=
    List.findIdx_lt_length_of_exists ⟨layer, hlayer, List.contains_iff_mem.mpr hid⟩
  have hsame : rank layers id = rank (layers.take k) id := by
    unfold rank at hlt ⊢
    conv_lhs => rw [← List.take_append_drop k layers]
    rw [List.findIdx_append, if_pos hlt]
  have hlength := List.length_take_le k layers
  omega

theorem Layered.rank_lt (hl : p.Layered layers) {d : Dependency} (hd : d ∈ p.dependencies) :
    rank layers d.blocker < rank layers d.blocked := by
  obtain ⟨layer, hlayer, hid⟩ := List.mem_flatten.mp (hl.complete _ (hl.known d hd).2)
  have hlt : rank layers d.blocked < layers.length :=
    List.findIdx_lt_length_of_exists ⟨layer, hlayer, List.contains_iff_mem.mpr hid⟩
  have hmem : d.blocked ∈ layers[rank layers d.blocked] :=
    List.contains_iff_mem.mp (List.findIdx_getElem (w := hlt))
  have hblockers := ((hl.mem_layer (List.getElem?_eq_getElem hlt)).mp hmem).2.2
  exact rank_lt_of_mem_firstLayers (hblockers _ (mem_blockers.mpr ⟨d, hd, rfl, rfl⟩))

theorem SameWork.layers_ok (h : p.SameWork q) (hp : p.layers = .ok layers) :
    ∃ layers, q.layers = .ok layers := by
  have hl := layered_of_layers hp
  have hends : ∀ d ∈ q.dependencies, ∃ e ∈ p.dependencies, e.ends = d.ends := by
    intro d hd
    exact List.mem_map.mp (h.ends_perm.mem_iff.mpr (List.mem_map_of_mem hd))
  have hnodup : q.callIds.Nodup := h.callIds_perm.nodup_iff.mp hl.nodup
  refine @layers_of_rank q (rank layers) ?_ ?_ hnodup
  · intro d hd
    obtain ⟨e, he, hed⟩ := hends d hd
    obtain ⟨hblocker, hblocked⟩ := Prod.mk.inj hed
    obtain ⟨hfirst, hsecond⟩ := hl.known e he
    rw [hblocker] at hfirst
    rw [hblocked] at hsecond
    exact ⟨h.callIds_perm.mem_iff.mp hfirst, h.callIds_perm.mem_iff.mp hsecond⟩
  · intro d hd
    obtain ⟨e, he, hed⟩ := hends d hd
    obtain ⟨hblocker, hblocked⟩ := Prod.mk.inj hed
    have hlt := hl.rank_lt he
    rwa [hblocker, hblocked] at hlt

/-- The hash is that of the rest of the plan. -/
def Frozen (p : Plan) : Prop :=
  p = .freeze p.id p.query p.calls p.dependencies

def covered (p : Plan) : Json :=
  material p.query p.calls p.dependencies

theorem Frozen.sameWork (hp : p.Frozen) (hq : q.Frozen) (hnodup : p.callIds.Nodup)
    (hcollision : Json.NoCollision p.covered q.covered) (h : p.hash = q.hash) : p.SameWork q := by
  rw [hp, hq] at h ⊢
  exact sameWork_of_hash_eq hnodup hcollision h

end Plan

/-! ## Such a plan is never in the cache -/

namespace Request

variable {r : Request} {a : Artifacts}

theorem opening_ne_ended : r.opening ≠ .ended (.ok a) := by
  unfold opening
  split
  · exact fun h => by cases h
  · split <;> exact fun h => by cases h

theorem first_ne_ended : r.first ≠ .ended (.ok a) := by
  unfold first
  split
  · exact fun h => by cases h
  · exact opening_ne_ended

end Request

namespace System

variable {sys : System} {r : Request} {failure : Failure} {job : Job} {a : Artifacts}
variable {p q : Point} {x : Option Statement} {row : PlanRow}

theorem PointInv.layers_of_step (h : sys.PointInv r p) (hstep : r.Step sys.store p x q)
    (hended : q = .ended (.ok a)) (hfresh : a.executed.fromCache = false) :
    ∃ layers, r.plan.layers = .ok layers := by
  cases hstep with
  | missed => exact absurd hended Request.opening_ne_ended
  | @touched entry =>
    unfold Request.serving at hended
    cases hentry : entry.executed <;> simp [hentry] at hended
  | @read executed found ref left =>
    cases hread : Run.restoreEffect r.readings.faults sys.store ref with
    | error failure => simp [hread, Request.afterRead] at hended
    | ok effect => cases effect <;> simp [hread, Request.afterRead] at hended
  | served =>
    -- What is served is marked as cached.
    obtain ⟨⟨entry, e, -, -, -, rfl⟩, -⟩ := h
    cases hended
    cases hfresh
  | finished => exact h.1
  | saved => exact h.1
  | _ => cases hended

theorem Reachable.layers_of_ended (h : sys.Reachable) (hjob : job ∈ sys.jobs)
    (hended : job.point = .ended (.ok a)) (hfresh : a.executed.fromCache = false) :
    ∃ layers, job.request.plan.layers = .ok layers := by
  induction h with
  | empty => exact (List.not_mem_nil hjob).elim
  | next h hnext ih =>
    cases hnext with
    | prunes => exact ih hjob
    | begins _ r =>
      rcases List.mem_append.mp hjob with hjob | hjob
      · exact ih hjob
      · obtain rfl := List.mem_singleton.mp hjob
        exact absurd hended Request.first_ne_ended
    | @steps store before after r p q x hstep =>
      rw [List.mem_append, List.mem_cons] at hjob
      rcases hjob with hjob | rfl | hjob
      · exact ih (List.mem_append_left _ hjob)
      · have hpoint := h.invariant.points ⟨r, p⟩ (List.mem_append_right _ List.mem_cons_self)
        exact PointInv.layers_of_step hpoint hstep hended hfresh
      · exact ih (List.mem_append_right _ (List.mem_cons_of_mem _ hjob))

section

variable (h : sys.Reachable) (hlayers : r.plan.layers = .error failure) (hfrozen : r.plan.Frozen)
variable (hjobs : ∀ job ∈ sys.jobs, job.request.plan.Frozen)
variable (hcollision : ∀ job ∈ sys.jobs, Json.NoCollision job.request.plan.covered r.plan.covered)
include h hlayers hfrozen hjobs hcollision

/-- The plan of a genuine entry has layers, and so has every plan of its hash. -/
theorem Genuine.hash_ne (hrow : sys.Genuine row) : row.hash ≠ r.plan.hash := by
  intro hhash
  obtain ⟨e, -, job, hjob, a, hended, hcompletes, hplan, -⟩ := hrow.executed
  obtain ⟨layers, hok⟩ := h.layers_of_ended hjob hended hcompletes.fresh
  have hwork := (hjobs job hjob).sameWork hfrozen hcompletes.callIds_nodup (hcollision job hjob)
    (hplan.trans hhash)
  obtain ⟨layers', hok'⟩ := hwork.layers_ok hok
  rw [hlayers] at hok'
  cases hok'

/-- While other runs go on, a run of such a plan asks the cache and fails. -/
theorem Reachable.point_of_no_layers {p : Point} (hjob : ⟨r, p⟩ ∈ sys.jobs) :
    p = .asking ∨ ∃ why, p = .ended (.error why) := by
  have hnot : ∀ layers, r.plan.layers ≠ .ok layers := by
    intro layers hok
    rw [hlayers] at hok
    cases hok
  have hpoint := h.invariant.points _ hjob
  cases p with
  | asking => exact .inl rfl
  | touching entry =>
    exact absurd hpoint.2 (Genuine.hash_ne h hlayers hfrozen hjobs hcollision hpoint.1)
  | reading executed found left =>
    obtain ⟨⟨entry, e, hgenuine, hhash, -⟩, -⟩ := hpoint
    exact absurd hhash (Genuine.hash_ne h hlayers hfrozen hjobs hcollision hgenuine)
  | working done s => exact absurd hpoint.1.choose_spec (hnot _)
  | writing done t outcomes left => exact absurd hpoint.1.choose_spec (hnot _)
  | saving done s => exact absurd hpoint.1.choose_spec (hnot _)
  | ended result =>
    cases result with
    | error why => exact .inr ⟨why, rfl⟩
    | ok a =>
      cases hcache : a.executed.fromCache with
      | true =>
        obtain ⟨⟨entry, e, hgenuine, hhash, -⟩, -⟩ := hpoint hcache
        exact absurd hhash (Genuine.hash_ne h hlayers hfrozen hjobs hcollision hgenuine)
      | false => exact absurd (h.layers_of_ended hjob rfl hcache).choose_spec (hnot _)

theorem plans_get?_of_no_layers : sys.store.plans.get? r.plan.hash = none := by
  cases hfound : sys.store.plans.get? r.plan.hash with
  | none => rfl
  | some row =>
    obtain ⟨hmem, hhash⟩ := Table.mem_of_get? hfound
    have hgenuine := h.invariant.genuine row hmem
    exact absurd hhash (Genuine.hash_ne h hlayers hfrozen hjobs hcollision hgenuine)

end

/-- In whatever store the runs of other plans have left, a plan without layers starts no call and
changes no row, and its run ends with what is wrong with the plan. -/
theorem execute_of_no_layers (sys : System) (r : Request) (failure : Failure) (h : sys.Reachable)
    (hlayers : r.plan.layers = .error failure) (hfrozen : r.plan.Frozen)
    (hjobs : ∀ job ∈ sys.jobs, job.request.plan.Frozen)
    (hcollision : ∀ job ∈ sys.jobs,
      Json.NoCollision job.request.plan.covered r.plan.covered) :
    (r.execute sys.store).store = sys.store ∧ (r.execute sys.store).started = [] ∧
      ((r.options.allowCache = true → r.readings.faults.lookup = none) →
        (r.execute sys.store).result = .error failure) := by
  have hnone := plans_get?_of_no_layers h hlayers hfrozen hjobs hcollision
  have htouch : sys.store.touch r.readings.lookup r.plan.hash = sys.store := by
    rw [Store.touch, hnone]
  have hfresh : ∀ store, Run.runFresh r.plan r.clients r.registry r.options r.readings store =
      ⟨store, [], .error failure⟩ := by
    intro store
    rw [Run.runFresh, hlayers]
  unfold Request.execute Run.execute
  by_cases hallow : r.options.allowCache = true
  · rw [if_pos hallow]
    cases hlookup : r.readings.faults.lookup with
    | some text => simp [Run.ask, hlookup, hallow]
    | none =>
      have hask : Run.ask r.readings sys.store r.plan.hash = (sys.store, .ok none) := by
        rw [Run.ask, hlookup]
        simp only [Store.findExecuted, hnone, htouch]
        rfl
      rw [hask]
      simp only [hfresh, and_self, implies_true]
  · rw [if_neg hallow, hfresh]
    exact ⟨rfl, rfl, fun _ => rfl⟩

/-! ### A dependency on calls that are not there -/

end System

namespace Plan

def idle (dependencies : List Dependency) : Plan :=
  .freeze "p" { typed := "", language := .latin, candidates := [] } [] dependencies

def dangling : Plan := idle [⟨"a", "b", none⟩]

def idleSorted (ends : List Json) : Json :=
  .object [("calls", .array []), ("dependencies", .array ends),
    ("query", .object [("candidates", .array []), ("language", .string "lat"),
      ("original", .string "")])]

theorem sorted_covered_idle {ds : List Dependency} {ends : List Json}
    (hends : (((ds.map Dependency.ends).mergeSort Dependency.endsLe).map
      fun e => (Dependency.identity e).sorted) = ends) :
    (idle ds).covered.sorted = idleSorted ends := by
  have hcovered : (idle ds).covered = material (idle []).query [] ds := rfl
  rw [hcovered, sorted_material, hends, Query.sorted_identity, List.mergeSort_nil]
  rfl

theorem noCollision_idle : Json.NoCollision (idle []).covered dangling.covered := by
  have hidle : (idle []).covered.sorted = idleSorted [] :=
    sorted_covered_idle (by simp)
  have hdangling : dangling.covered.sorted = idleSorted [.array [.string "a", .string "b"]] :=
    sorted_covered_idle (by
      simp [Json.sorted, Json.sortedItems, Dependency.identity, Dependency.ends, Json.ofStrings])
  exact .of_sorted hidle hdangling (by decide +kernel)

end Plan

namespace System

def idled : System where
  store := ({ steady with plan := .idle [] }.execute .empty).store
  jobs := [⟨{ steady with plan := .idle [] },
    .ended ({ steady with plan := .idle [] }.execute .empty).result⟩]

theorem dangling_runs_nothing :
    let r : Request := { steady with plan := .dangling }
    let why : Failure := .unknownDependency "p" "a"
    idled.Reachable ∧ r.plan.layers = .error why ∧ r.options.allowCache = true ∧
      (r.execute idled.store).store = idled.store ∧ (r.execute idled.store).started = [] ∧
      (r.execute idled.store).result = .error why := by
  have hreachable : idled.Reachable := Reachable.empty.execute _
  have hlayers : ∀ hash, { Plan.dangling with hash }.layers =
      .error (.unknownDependency "p" "a") := by
    intro hash
    dsimp only [Plan.dangling, Plan.idle, Plan.freeze]
    cbv
  have hrun := execute_of_no_layers idled { steady with plan := .dangling } _ hreachable (hlayers _)
    rfl (fun job hjob => ?_) fun job hjob => ?_
  · exact ⟨hreachable, hlayers _, rfl, hrun.1, hrun.2.1, hrun.2.2 fun _ => rfl⟩
  · obtain rfl := List.mem_singleton.mp hjob
    rfl
  · obtain rfl := List.mem_singleton.mp hjob
    exact Plan.noCollision_idle

end System

end Lemmata
