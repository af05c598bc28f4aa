import Lemmata.Proofs.Plan.Hash
import Lemmata.Proofs.Plan.Layers

/-! # Plans of one hash ask for the same work -/

namespace Lemmata

/-! ## Calls by their IDs -/

theorem Call.find?_eq_of_perm {cs ds : List Call} (h : cs.Perm ds) (hnodup : (cs.map Call.id).Nodup)
    (id : String) : cs.find? (fun c => c.id == id) = ds.find? fun c => c.id == id := by
  have hnodup' := (h.map Call.id).nodup_iff.mp hnodup
  ext c
  rw [find?_eq_some_iff hnodup, find?_eq_some_iff hnodup', h.mem_iff]

namespace Plan

variable {p q : Plan} {id : String}

/-- The same calls and dependencies, in any order, but for what a hash leaves out. -/
structure SameWork (p q : Plan) : Prop where
  calls_perm : (p.calls.map Call.bare).Perm (q.calls.map Call.bare)
  ends_perm : (p.dependencies.map Dependency.ends).Perm (q.dependencies.map Dependency.ends)
  nodup : p.callIds.Nodup
  hash_eq : p.hash = q.hash

theorem sameWork_of_hash_eq {id id' : String} {a b : Query} {cs ds : List Call}
    {es fs : List Dependency} (hcs : (cs.map Call.id).Nodup)
    (hcollision : Json.NoCollision (material a cs es) (material b ds fs))
    (h : (freeze id a cs es).hash = (freeze id' b ds fs).hash) :
    SameWork (freeze id a cs es) (freeze id' b ds fs) := by
  have hsorted := (hash_eq_iff_sorted_eq hcollision).mp h
  obtain ⟨hcalls, hends, -⟩ := (sorted_material_eq_iff hcs).mp hsorted
  exact ⟨hcalls, hends, hcs, h⟩

namespace SameWork

variable (h : p.SameWork q)
include h

theorem callIds_perm : p.callIds.Perm q.callIds := by
  have hids := h.calls_perm.map Call.id
  rwa [Call.map_bare_id, Call.map_bare_id] at hids

theorem length_eq : p.calls.length = q.calls.length := by
  simpa using h.calls_perm.length_eq

theorem call?_bare (id : String) : (p.call? id).map Call.bare = (q.call? id).map Call.bare := by
  have hfind := Call.find?_eq_of_perm h.calls_perm (by rw [Call.map_bare_id]; exact h.nodup) id
  rwa [List.find?_map, List.find?_map] at hfind

theorem blockers_eq (id : String) : p.blockers id = q.blockers id := by
  refine distinctSorted_eq_of_mem_iff fun blocker => ?_
  have hmem : ∀ p : Plan, blocker ∈ (p.dependencies.filter fun d => d.blocked == id).map
      Dependency.blocker ↔ (blocker, id) ∈ p.dependencies.map Dependency.ends := by
    intro p
    simp only [List.mem_map, List.mem_filter, beq_iff_eq, Dependency.ends, Prod.mk.injEq]
    exact exists_congr fun d => ⟨fun h => ⟨h.1.1, h.2, h.1.2⟩, fun h => ⟨⟨h.1, h.2.2⟩, h.2.1⟩⟩
  rw [hmem p, hmem q, h.ends_perm.mem_iff]

end SameWork

end Plan

end Lemmata
