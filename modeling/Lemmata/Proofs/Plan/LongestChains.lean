import Lemmata.Proofs.Plan.Layers
import Lemmata.Proofs.Text.ByteOrder
import Mathlib.Data.Fintype.EquivFin
import Mathlib.Data.Set.Finite.List
import Mathlib.Logic.Relation
import Mathlib.Order.Bounds.Basic
import Mathlib.Order.WellFounded

/-! # The layer of a call is the length of the longest chain that ends at it -/

namespace Lemmata.Plan

variable {p : Plan} {layers layers' : List (List String)} {layer done pending ids : List String}
variable {a b c id : String} {n k fuel : Nat} {result result' : Except (List String) (List (List String))}

/-! ## The first fault -/

/-- The calls before this one all differ, and it repeats one of them. -/
def FirstRepeat (names : List String) (id : String) : Prop :=
  ∃ before after, names = before ++ id :: after ∧ before.Nodup ∧ id ∈ before

theorem FirstRepeat.not_nodup {names : List String} (h : FirstRepeat names id) : ¬ names.Nodup := by
  obtain ⟨before, after, rfl, -, hid⟩ := h
  intro hnodup
  exact (List.nodup_append.mp hnodup).2.2 id hid id List.mem_cons_self rfl

theorem firstRepeat?_append {seen before rest : List String} (hnodup : before.Nodup)
    (hnew : ∀ name ∈ before, name ∉ seen) :
    firstRepeat? seen (before ++ rest) = firstRepeat? (before.reverse ++ seen) rest := by
  induction before generalizing seen with
  | nil => rfl
  | cons name before ih =>
    obtain ⟨hname, hbefore⟩ := List.nodup_cons.mp hnodup
    have hfirst : seen.contains name = false := by simpa using hnew name List.mem_cons_self
    rw [List.cons_append, firstRepeat?, hfirst, List.reverse_cons, List.append_assoc]
    refine ih hbefore fun n hn => ?_
    rw [List.mem_cons, not_or]
    exact ⟨fun heq => hname (heq ▸ hn), hnew n (List.mem_cons_of_mem _ hn)⟩

theorem exists_firstRepeat {names : List String} (h : ¬ names.Nodup) :
    ∃ id, FirstRepeat names id := by
  induction names using List.reverseRecOn with
  | nil => exact absurd List.nodup_nil h
  | append_singleton names name ih =>
    by_cases hnames : names.Nodup
    · refine ⟨name, names, [], rfl, hnames, ?_⟩
      by_contra hname
      exact h (List.concat_eq_append ▸ hnames.concat hname)
    · obtain ⟨id, before, after, rfl, hfirst⟩ := ih hnames
      exact ⟨id, before, after ++ [name], by simp, hfirst⟩

theorem firstRepeat?_eq_some_iff {names : List String} :
    firstRepeat? [] names = some id ↔ FirstRepeat names id := by
  have hback : ∀ id, FirstRepeat names id → firstRepeat? [] names = some id := by
    rintro id ⟨before, after, rfl, hnodup, hid⟩
    rw [firstRepeat?_append hnodup (by simp), firstRepeat?]
    exact if_pos (by simpa using hid)
  refine ⟨fun h => ?_, hback id⟩
  by_cases hnodup : names.Nodup
  · rw [firstRepeat?_of_nodup hnodup (by simp)] at h
    cases h
  · obtain ⟨first, hfirst⟩ := exists_firstRepeat hnodup
    rw [hback first hfirst] at h
    exact Option.some.inj h ▸ hfirst

/-- Both ends of each dependency, the blocker before the blocked. -/
def dependencyEnds (p : Plan) : List String :=
  p.dependencies.flatMap fun d => [d.blocker, d.blocked]

/-- The ends before this one are calls, and it is none. -/
def FirstStray (p : Plan) (id : String) : Prop :=
  ∃ before after, p.dependencyEnds = before ++ id :: after ∧ (∀ name ∈ before, name ∈ p.callIds) ∧
    id ∉ p.callIds

theorem firstUnknown?_eq_some_iff : p.firstUnknown? = some id ↔ p.FirstStray id := by
  unfold firstUnknown? FirstStray dependencyEnds
  rw [List.find?_eq_some_iff_append]
  simp only [Bool.not_eq_true', Bool.not_not, List.contains_eq_mem, decide_eq_false_iff_not,
    decide_eq_true_eq]
  tauto

def IsKnown (p : Plan) : Prop :=
  ∀ d ∈ p.dependencies, d.blocker ∈ p.callIds ∧ d.blocked ∈ p.callIds

theorem exists_firstStray_iff : (∃ id, p.FirstStray id) ↔ ¬ p.IsKnown := by
  simp only [← firstUnknown?_eq_some_iff, ← Option.isSome_iff_exists, Option.isSome_iff_ne_none]
  exact not_congr ⟨known_of_firstUnknown?, firstUnknown?_of_known⟩

/-! ## Chains of dependencies -/

def Blocks (p : Plan) (a b : String) : Prop :=
  ∃ d ∈ p.dependencies, d.blocker = a ∧ d.blocked = b

theorem mem_blockers_iff_blocks : a ∈ p.blockers b ↔ p.Blocks a b := by
  rw [mem_blockers]
  constructor <;> exact fun ⟨d, hd, h⟩ => ⟨d, hd, h.symm⟩

/-- A chain of so many dependencies ends at the call. -/
inductive ChainTo (p : Plan) : Nat → String → Prop
  | start (id : String) : ChainTo p 0 id
  | next {n : Nat} {a b : String} (h : ChainTo p n a) (hab : p.Blocks a b) : ChainTo p (n + 1) b

def OnCycle (p : Plan) (id : String) : Prop :=
  Relation.TransGen p.Blocks id id

/-- The call is on a cycle, or waits for one that is, however indirectly. -/
def Stuck (p : Plan) (id : String) : Prop :=
  ∃ c, p.OnCycle c ∧ Relation.ReflTransGen p.Blocks c id

theorem OnCycle.stuck (h : p.OnCycle id) : p.Stuck id :=
  ⟨id, h, .refl⟩

theorem Stuck.next (h : p.Stuck a) (hab : p.Blocks a b) : p.Stuck b := by
  obtain ⟨c, hc, hca⟩ := h
  exact ⟨c, hc, hca.tail hab⟩

theorem Stuck.exists_blocks (h : p.Stuck b) : ∃ a, p.Blocks a b ∧ p.Stuck a := by
  obtain ⟨c, hc, hcb⟩ := h
  rcases hcb.cases_tail with rfl | ⟨a, hca, hab⟩
  · obtain ⟨a, hba, hab⟩ := Relation.TransGen.tail'_iff.mp hc
    exact ⟨a, hab, b, hc, hba⟩
  · exact ⟨a, hab, c, hc, hca⟩

theorem OnCycle.mem_callIds (h : p.OnCycle id) (hknown : p.IsKnown) : id ∈ p.callIds := by
  obtain ⟨a, -, d, hd, -, rfl⟩ := Relation.TransGen.tail'_iff.mp h
  exact (hknown d hd).2

/-- If each of these calls waits for one of them, they are all stuck: of those that are not, one
would have to come first. -/
theorem stuck_of_waiting {waiting : List String}
    (hwaits : ∀ id ∈ waiting, ∃ a ∈ waiting, p.Blocks a id) : ∀ id ∈ waiting, p.Stuck id := by
  by_contra hnot
  push Not at hnot
  obtain ⟨id, hid, hfree⟩ := hnot
  let Free := { name // name ∈ waiting ∧ ¬ p.Stuck name }
  let before : Free → Free → Prop := fun a b => Relation.TransGen p.Blocks a.1 b.1
  have hfinite : Finite Free :=
    Set.Finite.to_subtype ((List.finite_toSet waiting).subset fun _ h => h.1)
  have htrans : IsTrans Free before := ⟨fun _ _ _ hab hbc => hab.trans hbc⟩
  have hirrefl : Std.Irrefl before := ⟨fun a h => a.2.2 (OnCycle.stuck h)⟩
  obtain ⟨⟨first, hfirst, hnot⟩, -, hmin⟩ :=
    (Finite.wellFounded_of_trans_of_irrefl before).has_min Set.univ ⟨⟨id, hid, hfree⟩, trivial⟩
  obtain ⟨a, ha, hblocks⟩ := hwaits first hfirst
  have hafree : ¬ p.Stuck a := fun h => hnot (h.next hblocks)
  exact hmin ⟨a, ha, hafree⟩ trivial (.single hblocks)

/-! ## The loop -/

/-- The loop over the pending calls, with nothing that bounds its rounds. -/
inductive LoopsTo (p : Plan) :
    List String → List String → Except (List String) (List (List String)) → Prop
  | finished {done : List String} : LoopsTo p done [] (.ok [])
  | blocked {done pending : List String} (hpending : pending ≠ [])
      (hlayer : pending.filter (p.isUnblocked done) = []) : LoopsTo p done pending (.error pending)
  | layer {done pending layer : List String} {result : Except (List String) (List (List String))}
      (hfree : pending.filter (p.isUnblocked done) = layer) (hlayer : layer ≠ [])
      (hrest : LoopsTo p (done ++ layer) (pending.filter fun id => !layer.contains id) result) :
      LoopsTo p done pending (result.map (layer :: ·))

/-- Each round takes at least one call, so as many rounds as there are calls are enough. -/
theorem loopsTo_layersFrom (h : pending.length ≤ fuel) :
    p.LoopsTo done pending (p.layersFrom fuel done pending) := by
  induction fuel generalizing done pending with
  | zero =>
    rw [layersFrom, List.length_eq_zero_iff.mp (Nat.le_zero.mp h)]
    exact .finished
  | succ fuel ih =>
    rw [layersFrom]
    split
    case isTrue hempty =>
      rw [List.isEmpty_iff.mp hempty]
      exact .finished
    case isFalse hpending =>
      dsimp only
      split
      case isTrue hlayer => exact .blocked (by simpa using hpending) (List.isEmpty_iff.mp hlayer)
      case isFalse hlayer =>
        have hne : pending.filter (p.isUnblocked done) ≠ [] := by simpa using hlayer
        obtain ⟨id, hid⟩ := List.exists_mem_of_ne_nil _ hne
        have hless : (pending.filter fun id =>
            !(pending.filter (p.isUnblocked done)).contains id).length < pending.length :=
          List.length_filter_lt_length_iff_exists.mpr
            ⟨id, (List.mem_filter.mp hid).1, by simpa using hid⟩
        exact .layer rfl hne (ih (by omega))

theorem LoopsTo.unique (h : p.LoopsTo done pending result) (h' : p.LoopsTo done pending result') :
    result = result' := by
  induction h generalizing result' with
  | finished =>
    cases h' with
    | finished => rfl
    | blocked hpending => exact absurd rfl hpending
    | layer hfree hlayer => exact absurd hfree.symm hlayer
  | blocked hpending hlayer =>
    cases h' with
    | finished => exact absurd rfl hpending
    | blocked => rfl
    | layer hfree hne => exact absurd (hfree.symm.trans hlayer) hne
  | layer hfree hlayer _ ih =>
    cases h' with
    | finished => exact absurd hfree.symm hlayer
    | blocked _ hempty => exact absurd (hfree.symm.trans hempty) hlayer
    | layer hfree' _ hrest' =>
      obtain rfl := hfree.symm.trans hfree'
      rw [ih hrest']

theorem existsUnique_loopsTo (p : Plan) (done pending : List String) :
    ∃! result, p.LoopsTo done pending result :=
  ⟨_, loopsTo_layersFrom (Nat.le_refl _), fun _ h => h.unique (loopsTo_layersFrom (Nat.le_refl _))⟩

/-! ## Where no call comes free -/

theorem not_stuck_nextLayer (hdone : ∀ id ∈ done, ¬ p.Stuck id) :
    ∀ id ∈ done ++ p.nextLayer done, ¬ p.Stuck id := by
  intro id hid
  rcases List.mem_append.mp hid with hid | hid
  · exact hdone id hid
  · intro hstuck
    obtain ⟨a, hab, ha⟩ := hstuck.exists_blocks
    exact hdone a ((mem_nextLayer.mp hid).2.2 a (mem_blockers_iff_blocks.mpr hab)) ha

theorem mem_unlayered : id ∈ p.unlayered done ↔ id ∈ p.callIds ∧ id ∉ done := by
  simp [unlayered]

theorem mem_unlayered_iff_stuck (hknown : p.IsKnown) (hdone : ∀ id ∈ done, ¬ p.Stuck id)
    (hnone : p.nextLayer done = []) : id ∈ p.unlayered done ↔ id ∈ p.callIds ∧ p.Stuck id := by
  constructor
  · intro hid
    refine ⟨(mem_unlayered.mp hid).1, stuck_of_waiting ?_ id hid⟩
    intro id hid
    obtain ⟨hcall, hopen⟩ := mem_unlayered.mp hid
    have hnot : id ∉ p.nextLayer done := by simp [hnone]
    obtain ⟨a, ha, hadone⟩ : ∃ a ∈ p.blockers id, a ∉ done := by
      by_contra hall
      push Not at hall
      exact hnot (mem_nextLayer.mpr ⟨hcall, hopen, hall⟩)
    obtain ⟨d, hd, rfl, rfl⟩ := mem_blockers.mp ha
    exact ⟨d.blocker, mem_unlayered.mpr ⟨(hknown d hd).1, hadone⟩, d, hd, rfl, rfl⟩
  · rintro ⟨hcall, hstuck⟩
    exact mem_unlayered.mpr ⟨hcall, fun hid => hdone id hid hstuck⟩

theorem LoopsTo.error (h : p.LoopsTo done pending result) (hpending : pending = p.unlayered done)
    (hdone : ∀ id ∈ done, ¬ p.Stuck id) (hresult : result = .error ids) :
    ∃ last, ids = p.unlayered last ∧ ids ≠ [] ∧ p.nextLayer last = [] ∧
      ∀ id ∈ last, ¬ p.Stuck id := by
  induction h with
  | finished => cases hresult
  | @blocked done pending hne hlayer =>
    cases hresult
    rw [hpending, filter_unlayered] at hlayer
    exact ⟨done, hpending, hne, hlayer, hdone⟩
  | @layer done pending layer result hfree hlayer hrest ih =>
    rw [hpending, filter_unlayered] at hfree
    subst hfree
    refine ih (by rw [hpending, unlayered_append]) (not_stuck_nextLayer hdone) ?_
    cases result with
    | error e => exact hresult
    | ok further => cases hresult

/-! ## Layers by longest chains -/

/-- In the order of the bytes, each name once. -/
def Ascending (names : List String) : Prop :=
  names.Pairwise fun a b => Utf8.encode a < Utf8.encode b

theorem ascending_of_sublist_sortNames {names : List String} (hnodup : names.Nodup)
    (hsub : ids.Sublist (sortNames names)) : Ascending ids := by
  have hle := (sortNames_pairwise names).sublist hsub
  have hne : ids.Pairwise (· ≠ ·) := (sortNames_nodup hnodup).sublist hsub
  refine (hle.and hne).imp fun h => Utf8.encode_lt_iff.mpr ?_
  exact Std.lt_of_le_of_ne h.1 h.2

theorem Ascending.nodup (h : Ascending ids) : ids.Nodup := by
  refine h.imp fun {a b} hlt => ?_
  rintro rfl
  exact List.lt_irrefl _ hlt

theorem Ascending.eq_of_mem_iff {names : List String} (hids : Ascending ids)
    (hnames : Ascending names) (h : ∀ id, id ∈ ids ↔ id ∈ names) : ids = names := by
  refine List.Perm.eq_of_pairwise (fun a b _ _ hab hba => ?_) hids hnames
    ((List.perm_ext_iff_of_nodup hids.nodup hnames.nodup).mpr h)
  exact absurd hba (List.lt_asymm hab)

structure ByLongestChain (p : Plan) (layers : List (List String)) : Prop where
  /-- Every call occurs exactly once. -/
  perm : layers.flatten.Perm p.callIds
  ne_nil : ∀ layer ∈ layers, layer ≠ []
  ascending : ∀ layer ∈ layers, Ascending layer
  longest : ∀ k layer, layers[k]? = some layer → ∀ id ∈ layer,
    IsGreatest { n | p.ChainTo n id } k

namespace ByLongestChain

theorem mem_layer (h : p.ByLongestChain layers) (hk : layers[k]? = some layer) :
    id ∈ layer ↔ id ∈ p.callIds ∧ IsGreatest { n | p.ChainTo n id } k := by
  constructor
  · intro hid
    refine ⟨h.perm.mem_iff.mp (List.mem_flatten.mpr ⟨layer, List.mem_of_getElem? hk, hid⟩), ?_⟩
    exact h.longest k layer hk id hid
  · rintro ⟨hcall, hgreatest⟩
    obtain ⟨other, hother, hid⟩ := List.mem_flatten.mp (h.perm.mem_iff.mpr hcall)
    obtain ⟨j, hj⟩ := List.getElem?_of_mem hother
    obtain rfl := (h.longest j other hj id hid).unique hgreatest
    exact Option.some.inj (hk.symm.trans hj) ▸ hid

theorem getElem?_of_getElem? (h : p.ByLongestChain layers) (h' : p.ByLongestChain layers')
    (hk : layers[k]? = some layer) : layers'[k]? = some layer := by
  have hmem := List.mem_of_getElem? hk
  obtain ⟨id, hid⟩ := List.exists_mem_of_ne_nil _ (h.ne_nil layer hmem)
  obtain ⟨hcall, hgreatest⟩ := (h.mem_layer hk).mp hid
  obtain ⟨layer', hlayer', hid'⟩ := List.mem_flatten.mp (h'.perm.mem_iff.mpr hcall)
  obtain ⟨j, hj⟩ := List.getElem?_of_mem hlayer'
  obtain rfl := (h'.longest j layer' hj id hid').unique hgreatest
  rw [hj, Ascending.eq_of_mem_iff (h'.ascending layer' hlayer') (h.ascending layer hmem)]
  intro id
  rw [h.mem_layer hk, h'.mem_layer hj]

theorem unique (h : p.ByLongestChain layers) (h' : p.ByLongestChain layers') :
    layers = layers' := by
  apply List.ext_getElem?
  intro k
  cases hk : layers[k]? with
  | some layer => exact (h.getElem?_of_getElem? h' hk).symm
  | none =>
    cases hk' : layers'[k]? with
    | none => rfl
    | some layer => exact hk.symm.trans (h'.getElem?_of_getElem? h hk')

end ByLongestChain

namespace Layered

variable (hl : p.Layered layers)
include hl

theorem mem_firstLayers_of_blocks (hk : layers[k]? = some layer) (hb : b ∈ layer)
    (hab : p.Blocks a b) : ∃ j < k, ∃ layer, layers[j]? = some layer ∧ a ∈ layer := by
  have ha := ((hl.mem_layer hk).mp hb).2.2 a (mem_blockers_iff_blocks.mpr hab)
  obtain ⟨layer', hlayer', ha⟩ := List.mem_flatten.mp ha
  obtain ⟨j, hj⟩ := List.getElem?_of_mem hlayer'
  rw [List.getElem?_take] at hj
  split at hj
  · next hlt => exact ⟨j, hlt, layer', hj, ha⟩
  · cases hj

/-- No chain is longer: each dependency on it leads to a later layer. -/
theorem le_of_chainTo (h : p.ChainTo n id) (hk : layers[k]? = some layer) (hid : id ∈ layer) :
    n ≤ k := by
  induction h generalizing k layer with
  | start => exact Nat.zero_le _
  | next _ hab ih =>
    obtain ⟨j, hj, layer', hlayer', ha⟩ := hl.mem_firstLayers_of_blocks hk hid hab
    have := ih hlayer' ha
    omega

theorem chainTo (hk : layers[k]? = some layer) (hid : id ∈ layer) : p.ChainTo k id := by
  induction k generalizing id layer with
  | zero => exact .start id
  | succ k ih =>
    obtain ⟨hcall, hnew, hblockers⟩ := (hl.mem_layer hk).mp hid
    obtain ⟨last, hlast⟩ : ∃ last, layers[k]? = some last := by
      have hlt := (List.getElem?_eq_some_iff.mp hk).1
      exact ⟨layers[k], List.getElem?_eq_getElem (by omega)⟩
    rw [firstLayers_succ hlast] at hnew hblockers
    rw [List.mem_append, not_or] at hnew
    obtain ⟨a, ha, hanew⟩ : ∃ a ∈ p.blockers id, a ∉ firstLayers layers k := by
      by_contra hall
      push Not at hall
      exact hnew.2 ((hl.mem_layer hlast).mpr ⟨hcall, hnew.1, hall⟩)
    have halast : a ∈ last := (List.mem_append.mp (hblockers a ha)).resolve_left hanew
    exact .next (ih hlast halast) (mem_blockers_iff_blocks.mp ha)

theorem byLongestChain : p.ByLongestChain layers where
  perm := hl.flatten_perm
  ne_nil := hl.ne_nil
  ascending := by
    intro layer hlayer
    obtain ⟨k, hk⟩ := List.getElem?_of_mem hlayer
    rw [hl.layer_eq k layer hk]
    exact ascending_of_sublist_sortNames hl.nodup List.filter_sublist
  longest := fun k layer hk id hid =>
    ⟨hl.chainTo hk hid, fun _ hn => hl.le_of_chainTo hn hk hid⟩

theorem not_stuck_firstLayers (k : Nat) : ∀ id ∈ firstLayers layers k, ¬ p.Stuck id := by
  induction k with
  | zero => simp
  | succ k ih =>
    cases hk : layers[k]? with
    | none =>
      have hlen : layers.length ≤ k := List.getElem?_eq_none_iff.mp hk
      rw [firstLayers_of_length_le (Nat.le_succ_of_le hlen), ← firstLayers_of_length_le hlen]
      exact ih
    | some layer =>
      rw [firstLayers_succ hk, hl.layer_eq k layer hk]
      exact not_stuck_nextLayer ih

theorem not_onCycle (c : String) : ¬ p.OnCycle c := by
  intro hc
  have hmem := hl.complete c (hc.mem_callIds hl.known)
  rw [← firstLayers_of_length_le (Nat.le_refl _)] at hmem
  exact hl.not_stuck_firstLayers _ c hmem hc.stuck

end Layered

/-! ## What comes of a plan -/

/-- What is wrong with a plan, or its layers; the first that applies. -/
inductive Verdict (p : Plan) : Except Failure (List (List String)) → Prop
  | repeated {id : String} (h : FirstRepeat p.callIds id) :
      Verdict p (.error (.duplicateCall p.id id))
  | stray {id : String} (hnodup : p.callIds.Nodup) (h : p.FirstStray id) :
      Verdict p (.error (.unknownDependency p.id id))
  | stuck {c : String} {ids : List String} (hnodup : p.callIds.Nodup) (hknown : p.IsKnown)
      (hc : p.OnCycle c) (hids : Ascending ids)
      (hmem : ∀ id, id ∈ ids ↔ id ∈ p.callIds ∧ p.Stuck id) : Verdict p (.error (.cycle p.id ids))
  | layered {layers : List (List String)} (hnodup : p.callIds.Nodup) (hknown : p.IsKnown)
      (hfree : ∀ c, ¬ p.OnCycle c) (h : p.ByLongestChain layers) : Verdict p (.ok layers)

theorem verdict_of_layersFrom_error (hnodup : p.callIds.Nodup) (hknown : p.IsKnown)
    (h : p.layersFrom p.calls.length [] (sortNames p.callIds) = .error ids) :
    p.Verdict (.error (.cycle p.id ids)) := by
  have hlength : (sortNames p.callIds).length ≤ p.calls.length := by
    rw [(sortNames_perm p.callIds).length_eq, callIds, List.length_map]
  have hstart : sortNames p.callIds = p.unlayered [] := by simp [unlayered]
  obtain ⟨last, rfl, hne, hnone, hlast⟩ :=
    (loopsTo_layersFrom hlength).error hstart (by simp) h
  have hmem : ∀ id, id ∈ p.unlayered last ↔ id ∈ p.callIds ∧ p.Stuck id := fun _ =>
    mem_unlayered_iff_stuck hknown hlast hnone
  obtain ⟨id, hid⟩ := List.exists_mem_of_ne_nil _ hne
  obtain ⟨-, c, hc, -⟩ := (hmem id).mp hid
  exact .stuck hnodup hknown hc (ascending_of_sublist_sortNames hnodup List.filter_sublist) hmem

theorem verdict_layers (p : Plan) : p.Verdict p.layers := by
  cases hresult : p.layers with
  | ok layers =>
    have hl := layered_of_layers hresult
    exact .layered hl.nodup hl.known hl.not_onCycle hl.byLongestChain
  | error failure =>
    unfold Plan.layers at hresult
    split at hresult
    case h_1 id hrepeat =>
      cases hresult
      exact .repeated (firstRepeat?_eq_some_iff.mp hrepeat)
    case h_2 hrepeat =>
      have hnodup := (nodup_of_firstRepeat? hrepeat).1
      split at hresult
      case h_1 id hstray =>
        cases hresult
        exact .stray hnodup (firstUnknown?_eq_some_iff.mp hstray)
      case h_2 hknown =>
        cases hloop : p.layersFrom p.calls.length [] (sortNames p.callIds) with
        | ok layers => simp [hloop, Except.mapError] at hresult
        | error ids =>
          obtain rfl : .cycle p.id ids = failure := by
            simpa [hloop, Except.mapError] using hresult
          exact verdict_of_layersFrom_error hnodup (known_of_firstUnknown? hknown) hloop

theorem Verdict.unique {x y : Except Failure (List (List String))} (hx : p.Verdict x)
    (hy : p.Verdict y) : x = y := by
  have hnotStray : ∀ {id}, p.IsKnown → ¬ p.FirstStray id := fun hknown h =>
    exists_firstStray_iff.mp ⟨_, h⟩ hknown
  cases hx with
  | repeated h =>
    cases hy with
    | repeated h' =>
      have := (firstRepeat?_eq_some_iff.mpr h).symm.trans (firstRepeat?_eq_some_iff.mpr h')
      rw [Option.some.inj this]
    | stray hnodup | stuck hnodup | layered hnodup => exact absurd hnodup h.not_nodup
  | stray hnodup h =>
    cases hy with
    | repeated h' => exact absurd hnodup h'.not_nodup
    | stray _ h' =>
      have := (firstUnknown?_eq_some_iff.mpr h).symm.trans (firstUnknown?_eq_some_iff.mpr h')
      rw [Option.some.inj this]
    | stuck _ hknown | layered _ hknown => exact absurd h (hnotStray hknown)
  | stuck hnodup hknown hc hids hmem =>
    cases hy with
    | repeated h' => exact absurd hnodup h'.not_nodup
    | stray _ h' => exact absurd h' (hnotStray hknown)
    | stuck _ _ _ hids' hmem' =>
      rw [hids.eq_of_mem_iff hids' fun id => (hmem id).trans (hmem' id).symm]
    | layered _ _ hfree => exact absurd hc (hfree _)
  | layered hnodup hknown hfree h =>
    cases hy with
    | repeated h' => exact absurd hnodup h'.not_nodup
    | stray _ h' => exact absurd h' (hnotStray hknown)
    | stuck _ _ hc => exact absurd hc (hfree _)
    | layered _ _ _ h' => rw [h.unique h']

/-- The layers of a plan, or its first fault, are what the dependencies say, and the loop that
finds them comes to an end. -/
theorem layers_exact (p : Plan) :
    (∀ result, p.layers = result ↔ p.Verdict result) ∧
      ((∃ id, FirstRepeat p.callIds id) ↔ ¬ p.callIds.Nodup) ∧
      ((∃ id, p.FirstStray id) ↔
        ∃ d ∈ p.dependencies, d.blocker ∉ p.callIds ∨ d.blocked ∉ p.callIds) ∧
      (∀ done pending, ∃! result, p.LoopsTo done pending result) ∧
      p.LoopsTo [] (sortNames p.callIds)
        (p.layersFrom p.calls.length [] (sortNames p.callIds)) := by
  refine ⟨fun result => ⟨?_, fun h => (verdict_layers p).unique h⟩,
    ⟨fun ⟨_, h⟩ => h.not_nodup, exists_firstRepeat⟩, ?_, existsUnique_loopsTo p, ?_⟩
  · rintro rfl
    exact verdict_layers p
  · rw [exists_firstStray_iff, IsKnown]
    push Not
    simp only [imp_iff_not_or]
  · refine loopsTo_layersFrom ?_
    rw [(sortNames_perm p.callIds).length_eq, callIds, List.length_map]

end Lemmata.Plan
