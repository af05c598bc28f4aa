import Lemmata.Proofs.Names
import Lemmata.Run.Basic
import Mathlib.Data.List.Nodup
import Mathlib.Tactic.Tauto

/-! # Every call is pending, completed or skipped -/

namespace Lemmata.RunState

variable {plan : Plan} {s t : RunState} {id : String} {call : Call} {effect : Effect}
variable {reason : String}

/-! ## The parts of a state -/

def skippedIds (s : RunState) : List String :=
  s.skipped.map SkippedCall.callId

@[simp] theorem isSkipped_iff : s.isSkipped id = true ↔ id ∈ s.skippedIds := by
  simp [isSkipped, skippedIds]

@[simp] theorem pending_skip : (s.skip call reason).pending = s.pending.filter (· != call.id) := rfl
@[simp] theorem produced_skip : (s.skip call reason).produced = s.produced := rfl
@[simp] theorem effects_skip : (s.skip call reason).effects = s.effects := rfl
@[simp] theorem skipped_skip :
    (s.skip call reason).skipped = s.skipped ++ [⟨call.id, call.tool, call.stage, reason⟩] := rfl

@[simp] theorem pending_complete :
    (s.complete call effect).pending = s.pending.filter (· != call.id) := rfl
@[simp] theorem produced_complete :
    (s.complete call effect).produced = s.produced ++ [(call, effect)] := rfl
@[simp] theorem effects_complete : (s.complete call effect).effects = s.effects ++ [effect] := rfl
@[simp] theorem skipped_complete : (s.complete call effect).skipped = s.skipped := rfl

@[simp] theorem completed_skip : (s.skip call reason).completed = s.completed := rfl

@[simp] theorem skippedIds_skip :
    (s.skip call reason).skippedIds = s.skippedIds ++ [call.id] := by
  simp [skippedIds]

@[simp] theorem completed_complete :
    (s.complete call effect).completed = s.completed ++ [call.id] := by
  simp [completed]

@[simp] theorem skippedIds_complete : (s.complete call effect).skippedIds = s.skippedIds := rfl

theorem completed_congr (h : s.produced = t.produced) : s.completed = t.completed := by
  rw [completed, completed, h]

theorem completed_subset (h : s.produced <+: t.produced) : s.completed ⊆ t.completed := by
  unfold completed
  exact (h.map _).subset

theorem not_isSkipped_iff : (!s.isSkipped id) = true ↔ id ∉ s.skippedIds := by
  simp [← isSkipped_iff]

theorem not_isSkipped_eq : (!s.isSkipped id) = decide (id ∉ s.skippedIds) := by
  rw [Bool.eq_iff_iff, not_isSkipped_iff, decide_eq_true_iff]

theorem isOpen_iff : (!s.completed.contains id && !s.isSkipped id) = true ↔
    id ∉ s.completed ∧ id ∉ s.skippedIds := by
  simp [← isSkipped_iff]

theorem isSome_produced?_iff : (s.produced? id).isSome = true ↔ id ∈ s.completed := by
  simp [produced?, completed]

theorem produced?_eq {p : Call × Effect} (hnodup : s.completed.Nodup) (hp : p ∈ s.produced) :
    s.produced? p.1.id = some p.2 := by
  have hfound : s.produced.find? (fun q => q.1.id == p.1.id) = some p := by
    cases hq : s.produced.find? (fun q => q.1.id == p.1.id) with
    | none => simpa using List.find?_eq_none.mp hq p hp
    | some q =>
      have hid : q.1.id = p.1.id := by simpa using List.find?_some hq
      rw [List.inj_on_of_nodup_map hnodup (List.mem_of_find?_eq_some hq) hp hid]
  rw [produced?, hfound, Option.map_some]

theorem mem_ready : id ∈ s.ready plan ↔
    id ∈ s.pending ∧ ∀ b ∈ plan.blockers id, b ∈ s.completed := by
  rw [ready, List.mem_filter, List.all_eq_true]
  simp only [isSome_produced?_iff]

/-! ## The account -/

/-- Every call of the plan is in one place only, and nothing else is. -/
structure Accounted (plan : Plan) (s : RunState) : Prop where
  callIds_nodup : plan.callIds.Nodup
  pending_eq : s.pending =
    (sortNames plan.callIds).filter fun id => !s.completed.contains id && !s.isSkipped id
  done_nodup : (s.completed ++ s.skippedIds).Nodup
  produced_mem : ∀ p ∈ s.produced, p.1 ∈ plan.calls
  skipped_mem : ∀ c ∈ s.skipped,
    ∃ call ∈ plan.calls, c.callId = call.id ∧ c.tool = call.tool ∧ c.stage = call.stage

theorem accounted_initial (h : plan.callIds.Nodup) : (initial plan).Accounted plan where
  callIds_nodup := h
  pending_eq := by
    simp only [initial, completed, isSkipped, List.map_nil, List.any_nil, List.contains_nil,
      Bool.not_false, Bool.and_self, List.filter_true]
  done_nodup := by simp [initial, completed, skippedIds]
  produced_mem := by simp [initial]
  skipped_mem := by simp [initial]

namespace Accounted

variable (h : s.Accounted plan)
include h

theorem mem_pending :
    id ∈ s.pending ↔ id ∈ plan.callIds ∧ id ∉ s.completed ∧ id ∉ s.skippedIds := by
  rw [h.pending_eq, List.mem_filter, mem_sortNames, isOpen_iff]

theorem callIds_of_done (hid : id ∈ s.completed ∨ id ∈ s.skippedIds) : id ∈ plan.callIds := by
  rcases hid with hid | hid
  · obtain ⟨p, hp, rfl⟩ := List.mem_map.mp hid
    exact List.mem_map_of_mem (h.produced_mem p hp)
  · obtain ⟨c, hc, rfl⟩ := List.mem_map.mp hid
    obtain ⟨call, hcall, hcallId, -⟩ := h.skipped_mem c hc
    exact hcallId ▸ List.mem_map_of_mem hcall

theorem pending_nodup : s.pending.Nodup := by
  rw [h.pending_eq]
  exact (sortNames_nodup h.callIds_nodup).filter _

theorem call?_of_pending (hid : id ∈ s.pending) : ∃ call ∈ plan.calls,
    plan.call? id = some call ∧ call.id = id := by
  obtain ⟨call, hcall, rfl⟩ := List.mem_map.mp (h.mem_pending.mp hid).1
  obtain ⟨found, hfound⟩ : ∃ found, plan.call? call.id = some found :=
    Option.isSome_iff_exists.mp (List.find?_isSome.mpr ⟨call, hcall, by simp⟩)
  exact ⟨found, List.mem_of_find?_eq_some hfound, hfound, by
    simpa using List.find?_some hfound⟩

theorem pending_filter_ne (hcompleted : ∀ x, x ∈ t.completed ∨ x ∈ t.skippedIds ↔
      (x ∈ s.completed ∨ x ∈ s.skippedIds) ∨ x = id) :
    s.pending.filter (· != id) =
      (sortNames plan.callIds).filter fun x => !t.completed.contains x && !t.isSkipped x := by
  rw [h.pending_eq, List.filter_filter]
  apply List.filter_congr
  intro x _
  have hx := hcompleted x
  rw [Bool.eq_iff_iff, Bool.and_eq_true, bne_iff_ne, isOpen_iff, isOpen_iff]
  tauto

theorem skip (hcall : call ∈ plan.calls) (hid : call.id ∈ s.pending) :
    (s.skip call reason).Accounted plan where
  callIds_nodup := h.callIds_nodup
  pending_eq := h.pending_filter_ne (by simp [or_assoc])
  done_nodup := by
    obtain ⟨-, hcompleted, hskipped⟩ := h.mem_pending.mp hid
    rw [completed_skip, skippedIds_skip, ← List.append_assoc, List.nodup_append]
    refine ⟨h.done_nodup, by simp, ?_⟩
    rintro a ha b hb rfl
    simp_all
  produced_mem := h.produced_mem
  skipped_mem := by
    intro c hc
    rw [skipped_skip, List.mem_append, List.mem_singleton] at hc
    rcases hc with hc | rfl
    · exact h.skipped_mem c hc
    · exact ⟨call, hcall, rfl, rfl, rfl⟩

theorem complete (hcall : call ∈ plan.calls) (hid : call.id ∈ s.pending) :
    (s.complete call effect).Accounted plan where
  callIds_nodup := h.callIds_nodup
  pending_eq := h.pending_filter_ne (by simp; tauto)
  done_nodup := by
    obtain ⟨-, hcompleted, hskipped⟩ := h.mem_pending.mp hid
    have hperm : (s.completed ++ [call.id] ++ s.skippedIds).Perm
        (call.id :: (s.completed ++ s.skippedIds)) := by
      simp
    rw [completed_complete, skippedIds_complete, hperm.nodup_iff, List.nodup_cons]
    exact ⟨by simp_all, h.done_nodup⟩
  produced_mem := by
    intro p hp
    rw [produced_complete, List.mem_append, List.mem_singleton] at hp
    rcases hp with hp | rfl
    · exact h.produced_mem p hp
    · exact hcall
  skipped_mem := h.skipped_mem

theorem reportRaw (raw : Option RawResponse) : (s.reportRaw raw).Accounted plan :=
  ⟨h.callIds_nodup, h.pending_eq, h.done_nodup, h.produced_mem, h.skipped_mem⟩

end Accounted

/-! ## Skipping what is blocked -/

/-- No pending call waits for a skipped one. -/
def SkipsDone (plan : Plan) (s : RunState) : Prop :=
  ∀ id ∈ s.pending, ∀ b ∈ plan.blockers id, b ∉ s.skippedIds

theorem mem_blockedBySkipped {entry : String × String} (h : entry ∈ s.blockedBySkipped plan) :
    entry.1 ∈ s.pending ∧ entry.2 ∈ plan.blockers entry.1 ∧ entry.2 ∈ s.skippedIds := by
  obtain ⟨id, hid, hentry⟩ := List.mem_filterMap.mp h
  obtain ⟨b, hb, rfl⟩ := Option.map_eq_some_iff.mp hentry
  exact ⟨hid, List.mem_of_find?_eq_some hb, isSkipped_iff.mp (List.find?_some hb)⟩

theorem skipsDone_of_blockedBySkipped (h : s.blockedBySkipped plan = []) : s.SkipsDone plan := by
  intro id hid b hb hskipped
  have hnone := List.filterMap_eq_nil_iff.mp h id hid
  rw [Option.map_eq_none_iff, List.find?_eq_none] at hnone
  exact hnone b hb (isSkipped_iff.mpr hskipped)

theorem blockedBySkipped_nodup (h : s.Accounted plan) :
    ((s.blockedBySkipped plan).map Prod.fst).Nodup := by
  refine List.Sublist.nodup ?_ h.pending_nodup
  unfold blockedBySkipped
  induction s.pending with
  | nil => simp
  | cons id rest ih =>
    rw [List.filterMap_cons]
    cases (plan.blockers id).find? s.isSkipped with
    | none => exact ih.cons id
    | some b => exact ih.cons_cons id

/-- What holds before the skipping, and is kept by each single skip, holds after it. -/
theorem skipBlockedCalls_induct {motive : RunState → Prop} {entries : List (String × String)}
    (hstep : ∀ s call reason b, motive s → s.Accounted plan → call ∈ plan.calls →
      call.id ∈ s.pending → b ∈ plan.blockers call.id → b ∈ s.skippedIds →
      motive (s.skip call reason))
    (hs : motive s) (hacc : s.Accounted plan) (hnodup : (entries.map Prod.fst).Nodup)
    (hentries : ∀ entry ∈ entries,
      entry.1 ∈ s.pending ∧ entry.2 ∈ plan.blockers entry.1 ∧ entry.2 ∈ s.skippedIds) :
    motive (entries.foldl (skipBlockedCall plan) s) ∧
      (entries.foldl (skipBlockedCall plan) s).Accounted plan := by
  induction entries generalizing s with
  | nil => exact ⟨hs, hacc⟩
  | cons entry rest ih =>
    obtain ⟨hid, hb, hskipped⟩ := hentries entry List.mem_cons_self
    obtain ⟨call, hcall, hfound, hcallId⟩ := hacc.call?_of_pending hid
    obtain ⟨hnew, hnodup⟩ := List.nodup_cons.mp hnodup
    rw [← hcallId] at hid hb
    have hnext : skipBlockedCall plan s entry =
        s.skip call s!"upstream call {entry.2} was skipped" := by
      simp [skipBlockedCall, hfound]
    rw [List.foldl_cons, hnext]
    refine ih (hstep s call _ _ hs hacc hcall hid hb hskipped) (hacc.skip hcall hid) hnodup ?_
    intro other hother
    obtain ⟨hid', hb', hskipped'⟩ := hentries other (List.mem_cons_of_mem _ hother)
    have hne : other.1 ≠ call.id := by
      intro heq
      exact hnew (hcallId ▸ heq ▸ List.mem_map_of_mem hother)
    simp [hid', hb', hskipped', hne]

theorem skipBlockedWithin_induct {motive : RunState → Prop} {rounds : Nat}
    (hstep : ∀ s call reason b, motive s → s.Accounted plan → call ∈ plan.calls →
      call.id ∈ s.pending → b ∈ plan.blockers call.id → b ∈ s.skippedIds →
      motive (s.skip call reason))
    (hs : motive s) (hacc : s.Accounted plan) :
    motive (skipBlockedWithin plan rounds s) ∧
      (skipBlockedWithin plan rounds s).Accounted plan := by
  induction rounds generalizing s with
  | zero => exact ⟨hs, hacc⟩
  | succ rounds ih =>
    rw [skipBlockedWithin]
    split
    · exact ⟨hs, hacc⟩
    · obtain ⟨hm, hacc'⟩ := skipBlockedCalls_induct hstep hs hacc (blockedBySkipped_nodup hacc)
        fun _ => mem_blockedBySkipped
      exact ih hm hacc'

theorem skipBlocked_induct {motive : RunState → Prop}
    (hstep : ∀ s call reason b, motive s → s.Accounted plan → call ∈ plan.calls →
      call.id ∈ s.pending → b ∈ plan.blockers call.id → b ∈ s.skippedIds →
      motive (s.skip call reason))
    (hs : motive s) (hacc : s.Accounted plan) : motive (s.skipBlocked plan) :=
  (skipBlockedWithin_induct hstep hs hacc).1

theorem length_pending_skipBlockedCalls (entries : List (String × String)) :
    (entries.foldl (skipBlockedCall plan) s).pending.length ≤ s.pending.length := by
  induction entries generalizing s with
  | nil => exact Nat.le_refl _
  | cons entry rest ih =>
    refine Nat.le_trans ih ?_
    unfold skipBlockedCall
    split <;> exact List.length_filter_le _ _

/-- Each round takes the first of the blocked calls at least, so enough rounds leave none. -/
theorem skipsDone_skipBlockedWithin {rounds : Nat} (hacc : s.Accounted plan)
    (h : s.pending.length < rounds) : (skipBlockedWithin plan rounds s).SkipsDone plan := by
  induction rounds generalizing s with
  | zero => omega
  | succ rounds ih =>
    rw [skipBlockedWithin]
    split
    · next hnone => exact skipsDone_of_blockedBySkipped (List.isEmpty_iff.mp hnone)
    · next hsome =>
      obtain ⟨-, hacc'⟩ := skipBlockedCalls_induct (motive := fun _ => True)
        (fun _ _ _ _ _ _ _ _ _ _ => trivial) trivial hacc (blockedBySkipped_nodup hacc)
        fun _ => mem_blockedBySkipped
      refine ih hacc' ?_
      cases hentries : s.blockedBySkipped plan with
      | nil => simp [hentries] at hsome
      | cons entry rest =>
        obtain ⟨hid, -, -⟩ := mem_blockedBySkipped (hentries ▸ List.mem_cons_self)
        obtain ⟨call, hcall, hfound, hcallId⟩ := hacc.call?_of_pending hid
        have hlt : (skipBlockedCall plan s entry).pending.length < s.pending.length := by
          simp only [skipBlockedCall, hfound, pending_skip, hcallId]
          exact List.length_filter_lt_length_iff_exists.mpr ⟨entry.1, hid, by simp⟩
        have hle : (rest.foldl (skipBlockedCall plan)
            (skipBlockedCall plan s entry)).pending.length ≤
            (skipBlockedCall plan s entry).pending.length :=
          length_pending_skipBlockedCalls rest
        rw [List.foldl_cons]
        omega

theorem accounted_skipBlocked (hacc : s.Accounted plan) : (s.skipBlocked plan).Accounted plan :=
  (skipBlockedWithin_induct (motive := fun _ => True)
    (fun _ _ _ _ _ _ _ _ _ _ => trivial) trivial hacc).2

theorem skipsDone_skipBlocked (hacc : s.Accounted plan) : (s.skipBlocked plan).SkipsDone plan :=
  skipsDone_skipBlockedWithin hacc (Nat.lt_succ_self _)

theorem produced_skipBlocked (hacc : s.Accounted plan) :
    (s.skipBlocked plan).produced = s.produced :=
  skipBlocked_induct (motive := fun t => t.produced = s.produced)
    (fun _ _ _ _ h _ _ _ _ _ => h) rfl hacc

theorem effects_skipBlocked (hacc : s.Accounted plan) :
    (s.skipBlocked plan).effects = s.effects :=
  skipBlocked_induct (motive := fun t => t.effects = s.effects)
    (fun _ _ _ _ h _ _ _ _ _ => h) rfl hacc

theorem skippedIds_subset_skipBlocked (hacc : s.Accounted plan) :
    s.skippedIds ⊆ (s.skipBlocked plan).skippedIds :=
  skipBlocked_induct (motive := fun t => s.skippedIds ⊆ t.skippedIds)
    (fun t call reason _ h _ _ _ _ _ => by
      rw [skippedIds_skip]
      exact fun _ hid => List.mem_append_left _ (h hid))
    (fun _ => id) hacc

end Lemmata.RunState
