import Lemmata.Plan.Layers
import Lemmata.Proofs.Names
import Mathlib.Data.List.Nodup
import Mathlib.Tactic.Tauto

/-! # What the layers of a plan are -/

namespace Lemmata

theorem Call.find?_eq_some_iff {cs : List Call} {c : Call} {id : String}
    (h : (cs.map Call.id).Nodup) : cs.find? (fun c => c.id == id) = some c ↔ c ∈ cs ∧ c.id = id := by
  constructor
  · intro hfound
    exact ⟨List.mem_of_find?_eq_some hfound, by simpa using List.find?_some hfound⟩
  · rintro ⟨hc, rfl⟩
    have hsome : (cs.find? fun d => d.id == c.id).isSome = true :=
      List.find?_isSome.mpr ⟨c, hc, beq_self_eq_true c.id⟩
    obtain ⟨d, hd⟩ := Option.isSome_iff_exists.mp hsome
    have hid : d.id = c.id := by simpa using List.find?_some hd
    rw [hd, List.inj_on_of_nodup_map h (List.mem_of_find?_eq_some hd) hc hid]

namespace Plan

variable {p : Plan} {layers : List (List String)} {id : String} {k : Nat} {layer : List String}

/-! ## Blockers -/

theorem mem_blockers {b : String} :
    b ∈ p.blockers id ↔ ∃ d ∈ p.dependencies, d.blocked = id ∧ d.blocker = b := by
  simp [blockers, and_assoc]

theorem isUnblocked_iff {done : List String} :
    p.isUnblocked done id = true ↔ ∀ b ∈ p.blockers id, b ∈ done := by
  simp only [isUnblocked, List.all_eq_true, Bool.or_eq_true, bne_iff_ne, List.contains_iff_mem,
    mem_blockers]
  constructor
  · rintro h b ⟨d, hd, rfl, rfl⟩
    exact (h d hd).resolve_left (fun hne => hne rfl)
  · intro h d hd
    by_cases hid : d.blocked = id
    · exact .inr (h _ ⟨d, hd, hid, rfl⟩)
    · exact .inl hid

/-! ## The checks -/

theorem nodup_of_firstRepeat? {seen names : List String} (h : firstRepeat? seen names = none) :
    names.Nodup ∧ ∀ name ∈ names, name ∉ seen := by
  induction names generalizing seen with
  | nil => simp
  | cons name rest ih =>
    rw [firstRepeat?] at h
    split at h
    · simp at h
    · next hname =>
      obtain ⟨hnodup, hnew⟩ := ih h
      simp only [List.contains_iff_mem] at hname
      refine ⟨List.nodup_cons.mpr ⟨fun hm => hnew _ hm List.mem_cons_self, hnodup⟩, ?_⟩
      intro n hn
      rcases List.mem_cons.mp hn with rfl | hn
      · exact hname
      · exact fun hs => hnew n hn (List.mem_cons_of_mem _ hs)

theorem known_of_firstUnknown? (h : p.firstUnknown? = none) :
    ∀ d ∈ p.dependencies, d.blocker ∈ p.callIds ∧ d.blocked ∈ p.callIds := by
  intro d hd
  have hmem : ∀ name ∈ [d.blocker, d.blocked], name ∈ p.callIds := by
    intro name hname
    have := List.find?_eq_none.mp h name (List.mem_flatMap.mpr ⟨d, hd, hname⟩)
    simpa using this
  exact ⟨hmem _ (by simp), hmem _ (by simp)⟩

/-! ## Layer by layer -/

def firstLayers (layers : List (List String)) (k : Nat) : List String :=
  (layers.take k).flatten

@[simp] theorem firstLayers_zero (layers : List (List String)) : firstLayers layers 0 = [] := rfl

theorem firstLayers_succ (h : layers[k]? = some layer) :
    firstLayers layers (k + 1) = firstLayers layers k ++ layer := by
  simp [firstLayers, List.take_add_one, h]

theorem firstLayers_of_length_le (h : layers.length ≤ k) :
    firstLayers layers k = layers.flatten := by
  rw [firstLayers, List.take_of_length_le h]

theorem mem_flatten_of_mem_firstLayers (h : id ∈ firstLayers layers k) : id ∈ layers.flatten := by
  obtain ⟨layer, hlayer, hid⟩ := List.mem_flatten.mp h
  exact List.mem_flatten.mpr ⟨layer, List.mem_of_mem_take hlayer, hid⟩

/-- What comes free when the calls in `done` have completed. -/
def nextLayer (p : Plan) (done : List String) : List String :=
  (sortNames p.callIds).filter fun id => !done.contains id && p.isUnblocked done id

theorem mem_nextLayer {done : List String} :
    id ∈ p.nextLayer done ↔ id ∈ p.callIds ∧ id ∉ done ∧ ∀ b ∈ p.blockers id, b ∈ done := by
  simp [nextLayer, isUnblocked_iff]

def unlayered (p : Plan) (done : List String) : List String :=
  (sortNames p.callIds).filter fun id => !done.contains id

theorem filter_unlayered (p : Plan) (done : List String) :
    (p.unlayered done).filter (p.isUnblocked done) = p.nextLayer done := by
  rw [unlayered, List.filter_filter, nextLayer]
  simp only [Bool.and_comm]

theorem unlayered_append (p : Plan) (done layer : List String) :
    ((p.unlayered done).filter fun id => !layer.contains id) = p.unlayered (done ++ layer) := by
  rw [unlayered, List.filter_filter, unlayered]
  apply List.filter_congr
  intro id _
  rw [Bool.eq_iff_iff]
  simp only [Bool.and_eq_true, Bool.not_eq_eq_eq_not, Bool.not_true, List.contains_eq_mem,
    decide_eq_false_iff_not, List.mem_append]
  tauto

theorem layersFrom_ok {fuel : Nat} {done : List String}
    (h : layersFrom p fuel done (p.unlayered done) = .ok layers) :
    (∀ k layer, layers[k]? = some layer →
      layer ≠ [] ∧ layer = p.nextLayer (done ++ firstLayers layers k)) ∧
      ∀ id ∈ p.callIds, id ∈ done ∨ id ∈ layers.flatten := by
  induction fuel generalizing done layers with
  | zero =>
    rw [layersFrom] at h
    split at h
    case isFalse => cases h
    case isTrue hempty =>
      obtain rfl : [] = layers := by simpa using h
      simp_all [unlayered]
  | succ fuel ih =>
    simp only [layersFrom, filter_unlayered, unlayered_append] at h
    split at h
    case isTrue hempty =>
      obtain rfl : [] = layers := by simpa using h
      simp_all [unlayered]
    split at h
    case isTrue => cases h
    case isFalse hlayer =>
      obtain ⟨further, hfurther, rfl⟩ : ∃ further,
          layersFrom p fuel (done ++ p.nextLayer done) (p.unlayered (done ++ p.nextLayer done)) =
            .ok further ∧ p.nextLayer done :: further = layers := by
        cases hf : layersFrom p fuel (done ++ p.nextLayer done)
          (p.unlayered (done ++ p.nextLayer done)) with
        | error e => simp [hf, Except.map] at h
        | ok further => exact ⟨further, rfl, by simpa [hf, Except.map] using h⟩
      obtain ⟨hlayers, hall⟩ := ih hfurther
      refine ⟨?_, ?_⟩
      · rintro (_ | k) layer hk
        · obtain rfl : p.nextLayer done = layer := by simpa using hk
          exact ⟨by simpa using hlayer, by simp⟩
        · have := hlayers k layer (by simpa using hk)
          simpa [firstLayers] using this
      · intro id hid
        have := hall id hid
        simp only [List.mem_append, List.flatten_cons] at this ⊢
        tauto

theorem length_le_length_flatten (h : ∀ layer ∈ layers, layer ≠ []) :
    layers.length ≤ layers.flatten.length := by
  induction layers with
  | nil => simp
  | cons layer rest ih =>
    have hpos := List.length_pos_iff.mpr (h layer List.mem_cons_self)
    have hrest := ih fun l hl => h l (List.mem_cons_of_mem _ hl)
    simp only [List.length_cons, List.flatten_cons, List.length_append]
    omega

/-! ## The whole layering -/

structure Layered (p : Plan) (layers : List (List String)) : Prop where
  nodup : p.callIds.Nodup
  known : ∀ d ∈ p.dependencies, d.blocker ∈ p.callIds ∧ d.blocked ∈ p.callIds
  ne_nil : ∀ layer ∈ layers, layer ≠ []
  layer_eq : ∀ k layer, layers[k]? = some layer → layer = p.nextLayer (firstLayers layers k)
  complete : ∀ id ∈ p.callIds, id ∈ layers.flatten

theorem layered_of_layers (h : p.layers = .ok layers) : p.Layered layers := by
  unfold Plan.layers at h
  split at h
  case h_1 => cases h
  case h_2 hrepeat =>
    split at h
    case h_1 => cases h
    case h_2 hunknown =>
      obtain ⟨ls, hls, rfl⟩ : ∃ ls, layersFrom p p.calls.length [] (sortNames p.callIds) = .ok ls ∧
          ls = layers := by
        cases hl : layersFrom p p.calls.length [] (sortNames p.callIds) with
        | error e => simp [hl, Except.mapError] at h
        | ok ls => exact ⟨ls, rfl, by simpa [hl, Except.mapError] using h⟩
      have hstart : p.unlayered [] = sortNames p.callIds := by simp [unlayered]
      rw [← hstart] at hls
      obtain ⟨hlayers, hall⟩ := layersFrom_ok hls
      refine ⟨(nodup_of_firstRepeat? hrepeat).1, known_of_firstUnknown? hunknown, ?_, ?_, ?_⟩
      · intro layer hlayer
        obtain ⟨k, hk⟩ := List.getElem?_of_mem hlayer
        exact (hlayers k layer hk).1
      · intro k layer hk
        simpa using (hlayers k layer hk).2
      · intro id hid
        simpa using hall id hid

namespace Layered

variable (hl : p.Layered layers)
include hl

theorem mem_layer (hk : layers[k]? = some layer) :
    id ∈ layer ↔ id ∈ p.callIds ∧ id ∉ firstLayers layers k ∧
      ∀ b ∈ p.blockers id, b ∈ firstLayers layers k := by
  rw [hl.layer_eq k layer hk, mem_nextLayer]

theorem layer_nodup (hk : layers[k]? = some layer) : layer.Nodup := by
  rw [hl.layer_eq k layer hk]
  exact (sortNames_nodup hl.nodup).filter _

theorem firstLayers_nodup (k : Nat) : (firstLayers layers k).Nodup := by
  induction k with
  | zero => simp
  | succ k ih =>
    cases hk : layers[k]? with
    | none =>
      have hlen : layers.length ≤ k := List.getElem?_eq_none_iff.mp hk
      rw [firstLayers_of_length_le hlen] at ih
      rwa [firstLayers_of_length_le (Nat.le_succ_of_le hlen)]
    | some layer =>
      rw [firstLayers_succ hk, List.nodup_append]
      refine ⟨ih, hl.layer_nodup hk, ?_⟩
      rintro a ha _ hb rfl
      exact ((hl.mem_layer hk).mp hb).2.1 ha

theorem flatten_nodup : layers.flatten.Nodup := by
  rw [← firstLayers_of_length_le (Nat.le_refl _)]
  exact hl.firstLayers_nodup _

theorem mem_flatten : id ∈ layers.flatten ↔ id ∈ p.callIds := by
  refine ⟨fun h => ?_, hl.complete id⟩
  obtain ⟨layer, hlayer, hid⟩ := List.mem_flatten.mp h
  obtain ⟨k, hk⟩ := List.getElem?_of_mem hlayer
  exact ((hl.mem_layer hk).mp hid).1

theorem flatten_perm : layers.flatten.Perm p.callIds :=
  (List.perm_ext_iff_of_nodup hl.flatten_nodup hl.nodup).mpr fun _ => hl.mem_flatten

theorem length_le : layers.length ≤ p.calls.length := by
  calc layers.length ≤ layers.flatten.length := length_le_length_flatten hl.ne_nil
    _ = p.callIds.length := hl.flatten_perm.length_eq
    _ = p.calls.length := List.length_map _

end Layered

/-! ## Plans that have layers -/

theorem firstRepeat?_of_nodup {seen names : List String} (h : names.Nodup)
    (hnew : ∀ name ∈ names, name ∉ seen) : firstRepeat? seen names = none := by
  induction names generalizing seen with
  | nil => rfl
  | cons name rest ih =>
    obtain ⟨hname, hrest⟩ := List.nodup_cons.mp h
    have hfirst : seen.contains name = false := by simpa using hnew name List.mem_cons_self
    rw [firstRepeat?, hfirst]
    refine ih hrest fun n hn => ?_
    rw [List.mem_cons, not_or]
    exact ⟨fun heq => hname (heq ▸ hn), hnew n (List.mem_cons_of_mem _ hn)⟩

theorem firstUnknown?_of_known
    (h : ∀ d ∈ p.dependencies, d.blocker ∈ p.callIds ∧ d.blocked ∈ p.callIds) :
    p.firstUnknown? = none := by
  rw [firstUnknown?, List.find?_eq_none]
  intro name hname
  obtain ⟨d, hd, hname⟩ := List.mem_flatMap.mp hname
  obtain ⟨hblocker, hblocked⟩ := h d hd
  rcases List.mem_cons.mp hname with rfl | hname
  · simpa using hblocker
  · rw [List.mem_singleton.mp hname]
    simpa using hblocked

section

variable {rank : String → Nat} {done : List String}
variable (hknown : ∀ d ∈ p.dependencies, d.blocker ∈ p.callIds ∧ d.blocked ∈ p.callIds)
variable (hrank : ∀ d ∈ p.dependencies, rank d.blocker < rank d.blocked)
include hknown hrank

theorem nextLayer_ne_nil (h : p.unlayered done ≠ []) : p.nextLayer done ≠ [] := by
  have hbelow : ∀ n id, rank id = n → id ∈ p.unlayered done → p.nextLayer done ≠ [] := by
    intro n
    induction n using Nat.strongRecOn with
    | ind n ih =>
      intro id hn hid
      obtain ⟨hcall, hopen⟩ := List.mem_filter.mp hid
      by_cases hfree : ∀ b ∈ p.blockers id, b ∈ done
      · refine List.ne_nil_of_mem (a := id) (mem_nextLayer.mpr ⟨mem_sortNames.mp hcall, ?_, hfree⟩)
        simpa using hopen
      · obtain ⟨b, hb, hbopen⟩ : ∃ b ∈ p.blockers id, b ∉ done := by simpa using hfree
        obtain ⟨d, hd, rfl, rfl⟩ := mem_blockers.mp hb
        refine ih (rank d.blocker) (hn ▸ hrank d hd) d.blocker rfl (List.mem_filter.mpr ⟨?_, ?_⟩)
        · exact mem_sortNames.mpr (hknown d hd).1
        · simpa using hbopen
  obtain ⟨id, hid⟩ := List.exists_mem_of_ne_nil _ h
  exact hbelow (rank id) id rfl hid

theorem layersFrom_of_rank {fuel : Nat} (hfuel : (p.unlayered done).length ≤ fuel) :
    ∃ layers, layersFrom p fuel done (p.unlayered done) = .ok layers := by
  induction fuel generalizing done with
  | zero =>
    rw [layersFrom, List.length_eq_zero_iff.mp (Nat.le_zero.mp hfuel)]
    exact ⟨[], rfl⟩
  | succ fuel ih =>
    simp only [layersFrom, filter_unlayered, unlayered_append]
    by_cases hempty : p.unlayered done = []
    · exact ⟨[], if_pos (List.isEmpty_iff.mpr hempty)⟩
    have hlayer := nextLayer_ne_nil hknown hrank hempty
    obtain ⟨id, hid⟩ := List.exists_mem_of_ne_nil _ hlayer
    have hpending : id ∈ p.unlayered done :=
      (List.mem_filter.mp (filter_unlayered p done ▸ hid)).1
    have hless : (p.unlayered (done ++ p.nextLayer done)).length < (p.unlayered done).length := by
      rw [← unlayered_append]
      exact List.length_filter_lt_length_iff_exists.mpr ⟨id, hpending, by simpa using hid⟩
    have hrest : (p.unlayered (done ++ p.nextLayer done)).length ≤ fuel := by omega
    obtain ⟨further, hfurther⟩ := ih hrest
    refine ⟨p.nextLayer done :: further, ?_⟩
    rw [if_neg (by simpa using hempty), if_neg (by simpa using hlayer), hfurther]
    rfl

/-- A plan has layers if its calls can be ranked so that no call waits for one of its own rank. -/
theorem layers_of_rank (hnodup : p.callIds.Nodup) : ∃ layers, p.layers = .ok layers := by
  have hstart : p.unlayered [] = sortNames p.callIds := by simp [unlayered]
  have hlength : (p.unlayered []).length = p.calls.length := by
    rw [hstart, (sortNames_perm p.callIds).length_eq, callIds, List.length_map]
  obtain ⟨layers, hlayers⟩ := layersFrom_of_rank hknown hrank (Nat.le_of_eq hlength)
  refine ⟨layers, ?_⟩
  rw [Plan.layers, firstRepeat?_of_nodup hnodup (by simp), firstUnknown?_of_known hknown]
  simp only [← hstart, hlayers]
  rfl

end

end Plan

end Lemmata
