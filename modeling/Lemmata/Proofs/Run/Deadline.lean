import Lemmata.Proofs.Run.RoundFailure
import Lemmata.Proofs.Run.Skips

/-! # What a run reports when its time is up -/

namespace Lemmata

theorem Plan.mem_firstLayers {layers : List (List String)} {layer : List String} {id : String}
    {j k : Nat} (hj : layers[j]? = some layer) (hid : id ∈ layer) (hlt : j < k) :
    id ∈ firstLayers layers k := by
  refine List.mem_flatten.mpr ⟨layer, List.mem_of_getElem? (i := j) ?_, hid⟩
  rw [List.getElem?_take_of_lt hlt, hj]

namespace Request

variable {r : Request} {layers : List (List String)} {done : List (List (Call × Outcome))}
variable {s t : RunState} {works : List (Call × Work)} {store : Store} {deeds : List Deed}
variable {each : List (List Deed)} {call : Call} {work : Work} {effect : Effect} {id : String}
variable {failure : Failure} {final : RunReport} {k : Nat}

/-! ## What the first layers have lost -/

/-- The optional fetches of the first layers that get nothing, and all that waits for a lost call. -/
inductive Lost (r : Request) (layers : List (List String)) (k : Nat) : String → Prop
  | missed {call : Call} (hcall : call ∈ r.plan.calls) (hstage : call.stage = .fetch)
      (hoptional : call.optional = true) (hlayer : call.id ∈ Plan.firstLayers layers k)
      (hmiss : r.Misses call) : Lost r layers k call.id
  | blocked {d : Dependency} (hd : d ∈ r.plan.dependencies) (h : Lost r layers k d.blocker) :
      Lost r layers k d.blocked

theorem RoundInv.mem_layer_of_ready (h : RoundInv r layers done s) (hl : r.plan.Layered layers)
    (hid : id ∈ (s.skipBlocked r.plan).ready r.plan) :
    ∃ layer, layers[done.length]? = some layer ∧ id ∈ layer := by
  have hpending := List.ne_nil_of_mem (RunState.mem_ready.mp hid).1
  have hk := List.getElem?_eq_getElem (h.skipBlocked.lt_length hl hpending)
  rw [h.skipBlocked.ready_eq hl (RunState.skipsDone_skipBlocked h.accounted) hk] at hid
  exact ⟨_, hk, (List.mem_filter.mp hid).1⟩

theorem RoundInv.skipped_of_lost (h : RoundInv r layers done s) (hl : r.plan.Layered layers)
    (hskips : s.SkipsDone r.plan) (hlost : r.Lost layers done.length id) : id ∈ s.skippedIds := by
  induction hlost with
  | missed hcall hstage _ hlayer hmiss =>
    by_contra hskipped
    exact h.not_completed_of_misses hcall hstage hmiss (h.mem_completed.mpr ⟨hlayer, hskipped⟩)
  | @blocked d hd _ ih =>
    have hblocker : d.blocker ∈ r.plan.blockers d.blocked := Plan.mem_blockers.mpr ⟨d, hd, rfl, rfl⟩
    by_contra hskipped
    by_cases hcompleted : d.blocked ∈ s.completed
    · have := h.blockers_completed _ hcompleted _ hblocker
      exact (List.nodup_append.mp h.accounted.done_nodup).2.2 _ this _ ih rfl
    · have hpending : d.blocked ∈ s.pending :=
        h.accounted.mem_pending.mpr ⟨(hl.known d hd).2, hcompleted, hskipped⟩
      exact hskips _ hpending _ hblocker ih

theorem Reaches.skipped_iff_lost (h : Reaches r done s) (hl : r.plan.Layered layers) :
    id ∈ (s.skipBlocked r.plan).skippedIds ↔ r.Lost layers done.length id := by
  have hinv := h.roundInv hl
  have hblocked : ∀ d ∈ r.plan.dependencies, r.Lost layers done.length d.blocker →
      r.Lost layers done.length d.blocked := fun _ hd => .blocked hd
  constructor
  · refine skipBlocked_closed hblocked hinv.accounted (h.skipped_induct hblocked hl ?_) id
    intro before t call hreach hlt hcall hready hstage hoptional hmiss
    obtain ⟨layer, hk, hid⟩ := (hreach.roundInv hl).mem_layer_of_ready hl hready
    exact .missed hcall hstage hoptional (Plan.mem_firstLayers hk hid hlt) hmiss
  · exact hinv.skipBlocked.skipped_of_lost hl (RunState.skipsDone_skipBlocked hinv.accounted)

/-! ## Rounds that nothing goes wrong in -/

/-- No call of a round that comes before the deadline lacks anything or fails, and the store takes
all rows. -/
structure Unharmed (r : Request) : Prop where
  rounds : ∀ {done : List (List (Call × Outcome))} {s : RunState}, Reaches r done s →
    Run.isExpired r.options r.readings done.length = false →
    ∀ call why, ¬ r.Lacking s call why ∧ ¬ r.Failing s call why
  writes : ∀ id, r.readings.faults.write id = none
  finish : r.readings.faults.finish = none

theorem not_expired_of_work (h : r.start k s = .work t works) :
    Run.isExpired r.options r.readings k = false := by
  unfold start Run.startRound at h
  simp only at h
  split_ifs at h with hpending hready hexpired
  exact Bool.not_eq_true _ ▸ hexpired

theorem Reaches.not_expired_before (h : Reaches r done s) :
    ∀ j < done.length, Run.isExpired r.options r.readings j = false := by
  induction h with
  | start => simp
  | @round done s t u works _ hstart _ ih =>
    intro j hj
    rw [List.length_append, List.length_singleton] at hj
    rcases Nat.lt_succ_iff_lt_or_eq.mp hj with hlt | rfl
    · exact ih j hlt
    · exact not_expired_of_work hstart

/-- Where no call lacks anything, only the deadline keeps a round from its calls. -/
theorem RoundInv.timeout_of_failed (h : RoundInv r layers done s) (hl : r.plan.Layered layers)
    (hnone : Run.isExpired r.options r.readings done.length = false →
      ∀ call why, ¬ r.Lacking s call why)
    (hstart : r.start done.length s = .failed failure) :
    (s.skipBlocked r.plan).ready r.plan ≠ [] ∧
      Run.isExpired r.options r.readings done.length = true ∧
      failure = .timeout r.plan.id (s.skipBlocked r.plan).completed := by
  have hready : (s.skipBlocked r.plan).pending ≠ [] → (s.skipBlocked r.plan).ready r.plan ≠ [] :=
    h.skipBlocked.ready_ne_nil hl (RunState.skipsDone_skipBlocked h.accounted)
  unfold start Run.startRound at hstart
  simp only at hstart
  split_ifs at hstart with hpending hempty hexpired
  · exact absurd (List.isEmpty_iff.mp hempty) (hready (by simpa using hpending))
  · cases hstart
    exact ⟨by simpa using hempty, hexpired, rfl⟩
  · split at hstart
    · cases hstart
    · next hwire =>
      obtain ⟨call, hlacking, -⟩ := h.least_lacking hwire
      exact absurd hlacking (hnone (Bool.not_eq_true _ ▸ hexpired) call _)

theorem Ends.ok_or_timeout {result : Except Failure RunState} (h : Ends r done result)
    (hl : r.plan.Layered layers) (hunharmed : r.Unharmed) :
    (∃ s, result = .ok s) ∨ ∃ s, Reaches r done s ∧ (s.skipBlocked r.plan).ready r.plan ≠ [] ∧
      Run.isExpired r.options r.readings done.length = true ∧
      result = .error (.timeout r.plan.id (s.skipBlocked r.plan).completed) := by
  cases h with
  | finished => exact .inl ⟨_, rfl⟩
  | @stopped _ s _ h hstart =>
    have hnone := fun htime call why => (hunharmed.rounds h htime call why).1
    obtain ⟨hready, hexpired, rfl⟩ := (h.roundInv hl).timeout_of_failed hl hnone hstart
    exact .inr ⟨s, h, hready, hexpired, rfl⟩
  | broken h hstart htake =>
    obtain ⟨call, hfailing, -⟩ := (h.roundInv hl).least_failing hstart hunharmed.writes htake
    exact absurd hfailing (hunharmed.rounds h (not_expired_of_work hstart) call _).2

/-! ## The deeds of the rounds -/

theorem mem_outcomes_of_called (h : List.Forall₂ r.Leads each done)
    (hcalled : .called call work ∈ each.flatten) : call.id ∈ (done.map names).flatten := by
  induction h with
  | nil => cases hcalled
  | cons hfirst _ ih =>
    obtain ⟨works, rfl, hworks, -⟩ := hfirst
    rw [List.flatten_cons, List.mem_append] at hcalled
    rw [List.map_cons, List.flatten_cons, names_perform, List.mem_append]
    refine hcalled.imp (fun hcalled => ?_) ih
    have hwork : (call, work) ∈ works := hworks.mem_iff.mp (mem_called.mpr hcalled)
    exact List.mem_map_of_mem hwork

theorem deeds_of_outcome {o : Call × Outcome} (h : List.Forall₂ r.Leads each done)
    (ho : o ∈ done.flatten) : ∃ work, .called o.1 work ∈ each.flatten ∧
      o.2 = r.outcomeOf o.1 work ∧
      ∀ effect, o.2.written? = some effect → .wrote o.1 effect ∈ each.flatten := by
  induction h with
  | nil => cases ho
  | @cons first outcomes rest others hfirst _ ih =>
    rw [List.flatten_cons, List.mem_append] at ho
    simp only [List.flatten_cons, List.mem_append]
    rcases ho with ho | ho
    · obtain ⟨works, rfl, hworks, hwrote⟩ := hfirst
      obtain ⟨w, hw, rfl⟩ := mem_perform.mp ho
      refine ⟨w.2, .inl (mem_called.mp (hworks.mem_iff.mpr hw)), rfl, fun effect heffect => ?_⟩
      have hrow : (w.1, effect) ∈ (r.perform works).filterMap rowOf :=
        List.mem_filterMap.mpr ⟨_, ho, Option.map_eq_some_iff.mpr ⟨effect, heffect, rfl⟩⟩
      exact .inl (mem_wrote.mp (hwrote.mem_iff.mpr hrow))
    · obtain ⟨work, hcalled, houtcome, hwrote⟩ := ih ho
      exact ⟨work, .inr hcalled, houtcome, fun effect heffect => .inr (hwrote effect heffect)⟩

theorem Reaches.names_subset (h : Reaches r done s) (hl : r.plan.Layered layers) :
    (done.map names).flatten ⊆ Plan.firstLayers layers done.length := by
  induction h with
  | start => simp
  | @round done s t u works h hstart _ ih =>
    obtain ⟨layer, hk, hnames⟩ := (h.startInv hl hstart).names_eq
    rw [List.map_append, List.flatten_append, List.length_append, List.length_singleton,
      Plan.firstLayers_succ hk]
    simp only [List.map_cons, List.map_nil, List.flatten_cons, List.flatten_nil, List.append_nil,
      names_perform, hnames]
    exact List.append_subset.mpr ⟨fun id hid => List.mem_append_left _ (ih hid),
      fun id hid => List.mem_append_right _ (List.mem_filter.mp hid).1⟩

/-! ## When the time is up -/

/-- How a run is left that has gone through so many rounds when its time is up. -/
structure TimedOut (r : Request) (store : Store) (layers : List (List String)) (k : Nat)
    (skipped : List String) (deeds : List Deed) (final : RunReport) : Prop where
  expired_iff : Run.isExpired r.options r.readings k = true ∧
    ∀ j < k, Run.isExpired r.options r.readings j = false
  skipped_iff : ∀ id, id ∈ skipped ↔ r.Lost layers k id
  result_eq : final.result = .error (.timeout r.plan.id
    ((Plan.firstLayers layers k).filter fun id => !skipped.contains id))
  /-- What a completed call has produced is in the store, unless another effect of the run has the
  same ID; then that one is. -/
  rows : ∀ id ∈ Plan.firstLayers layers k, id ∉ skipped → ∃ call work effect,
    call ∈ r.plan.calls ∧ call.id = id ∧ .called call work ∈ deeds ∧
    (r.outcomeOf call work).completed? = some effect ∧ .wrote call effect ∈ deeds ∧
    ∃ c e, .wrote c e ∈ deeds ∧ e.stage = effect.stage ∧ e.id = effect.id ∧
      final.store.HasRow (r.readings.write c.id) e
  not_called : ∀ call work, .called call work ∈ deeds → call.id ∉ (layers.drop k).flatten
  plans_eq : final.store.plans = store.plans
  /-- There was something left to do. -/
  open_call : ∃ id ∈ (layers.drop k).flatten, id ∉ skipped ∧ ∀ b ∈ r.plan.blockers id, b ∉ skipped

theorem not_mem_drop_of_mem_firstLayers (hl : r.plan.Layered layers)
    (hid : id ∈ Plan.firstLayers layers k) : id ∉ (layers.drop k).flatten := by
  have hnodup := hl.flatten_nodup
  rw [← List.take_append_drop k layers, List.flatten_append] at hnodup
  exact fun hlater => (List.nodup_append.mp hnodup).2.2 id hid id hlater rfl

theorem Reaches.timedOut (h : Reaches r done s) (hl : r.plan.Layered layers)
    (hmissed : r.options.allowCache = true → (Run.ask r.readings store r.plan.hash).2 = .ok none)
    (heach : List.Forall₂ r.Leads each done) (hready : (s.skipBlocked r.plan).ready r.plan ≠ [])
    (hexpired : Run.isExpired r.options r.readings done.length = true) :
    r.TimedOut store layers done.length (s.skipBlocked r.plan).skippedIds each.flatten
      (r.report (Run.saveAll r.readings (r.asked store) (each.flatten.filterMap Deed.wrote?)) done
        (.error (.timeout r.plan.id (s.skipBlocked r.plan).completed))) := by
  have hinv := (h.roundInv hl).skipBlocked
  refine ⟨⟨hexpired, h.not_expired_before⟩, fun id => h.skipped_iff_lost hl, ?_, ?_, ?_, ?_, ?_⟩
  · have hfilter : (s.skipBlocked r.plan).completed = (Plan.firstLayers layers done.length).filter
        fun id => !(s.skipBlocked r.plan).skippedIds.contains id := by
      rw [hinv.completed_eq]
      refine List.filter_congr fun id _ => ?_
      rw [RunState.not_isSkipped_eq, List.contains_eq_mem, decide_not]
    rw [report, hfilter]
  · intro id hlayer hskipped
    obtain ⟨o, ho, rfl, hsome⟩ := hinv.completed_iff.mp (hinv.mem_completed.mpr ⟨hlayer, hskipped⟩)
    obtain ⟨effect, heffect⟩ := Option.isSome_iff_exists.mp hsome
    obtain ⟨work, hcalled, houtcome, hwrote⟩ := deeds_of_outcome heach ho
    have hrow := hwrote effect (Outcome.written?_of_completed? heffect)
    obtain ⟨other, hother, hstage, hid, hkept⟩ :=
      exists_hasRow_saveAll r.readings (r.asked store) (mem_wrote.mpr hrow)
    exact ⟨o.1, work, effect, (hinv.passed o ho).call_mem, rfl, hcalled, houtcome ▸ heffect, hrow,
      other.1, other.2, mem_wrote.mp hother, hstage, hid, hkept⟩
  · intro call work hcalled
    exact not_mem_drop_of_mem_firstLayers hl
      (h.names_subset hl (mem_outcomes_of_called heach hcalled))
  · exact (plans_saveAll _ _ _).trans (congrArg Store.plans (asked_of_missed hmissed))
  · obtain ⟨id, hid⟩ := List.exists_mem_of_ne_nil _ hready
    obtain ⟨layer, hk, hlayer⟩ := (h.roundInv hl).mem_layer_of_ready hl hid
    obtain ⟨hpending, hblockers⟩ := RunState.mem_ready.mp hid
    refine ⟨id, List.mem_flatten.mpr ⟨layer, ?_, hlayer⟩, ?_, ?_⟩
    · exact List.mem_of_getElem? (i := 0) (by rw [List.getElem?_drop, Nat.add_zero, hk])
    · exact (hinv.accounted.mem_pending.mp hpending).2.2
    · exact fun b hb => (hinv.mem_completed.mp (hblockers b hb)).2

/-- A run that nothing goes wrong in, whatever its clock shows: the machine does not take its limits,
and it does nothing; or else it completes, or its time is up after some of the layers. It reports
what was completed of these, and has started nothing of the others. -/
theorem timeout_reports_what_ran (r : Request) (store : Store) (layers : List (List String))
    (hlayers : r.plan.layers = .ok layers)
    (hmissed : r.options.allowCache = true → (Run.ask r.readings store r.plan.hash).2 = .ok none)
    (hunharmed : r.Unharmed) :
    (∀ failure, Run.checkLimits r.options r.readings = .error failure →
      r.execute store = ⟨store, [], .error failure⟩) ∧
    (Run.checkLimits r.options r.readings = .ok () →
      (∃ deeds final, r.Goes store deeds (.ended final)) ∧
      (∀ deeds c, r.Goes store deeds c → ∃ more final, r.Turns c more (.ended final)) ∧
      ∀ deeds final, r.Goes store deeds (.ended final) → (∃ a, final.result = .ok a) ∨
        ∃ k skipped, r.TimedOut store layers k skipped deeds final) := by
  have hl := Plan.layered_of_layers hlayers
  refine ⟨?_, fun hlimits => ⟨?_, fun deeds c hgoes => hgoes.completes, ?_⟩⟩
  · intro failure hlimits
    exact execute_of_limits hmissed hlayers hlimits
  · obtain ⟨deeds, hgoes⟩ := goes_execute hlimits store
    exact ⟨deeds, _, hgoes⟩
  · intro deeds final hgoes
    rcases hgoes.cases with ⟨report, hbegins, -, -⟩ | ⟨-, -, -, hway⟩
    · cases (hbegins.within_limits hlayers hmissed).2
    · cases hway with
      | @ended done result each hends hdeeds heach =>
        subst hdeeds
        rcases hends.ok_or_timeout hl hunharmed with ⟨s, rfl⟩ | ⟨s, h, hready, hexpired, rfl⟩
        · refine .inl ?_
          unfold report Run.remember
          simp only [hunharmed.finish]
          split_ifs <;> exact ⟨_, rfl⟩
        · exact .inr ⟨_, _, h.timedOut hl hmissed heach hready hexpired⟩

/-! ### Time for one layer -/

def hurried : Request :=
  { sample with
    options := { deadlineMs := some 50 }
    readings := { sample.readings with round := fun k => 60 * k } }

def hurriedFetch (id : String) (isOptional : Bool) : Call × Work :=
  ({ tool := "page", id, endpoint := "", stage := .fetch, optional := isOptional },
    .fetch sampleClient)

theorem unharmed_hurried : hurried.Unharmed := by
  refine ⟨fun {done s} h htime => ?_, fun _ => rfl, rfl⟩
  cases h with
  | round =>
    -- The second layer comes too late.
    have hlate : ∀ k, Run.isExpired hurried.options hurried.readings (k + 1) = true := by
      intro k
      have hover : 0 + 50 ≤ 60 * (k + 1) := by omega
      exact decide_eq_true hover
    rw [List.length_append, List.length_singleton, hlate] at htime
    cases htime
  | start =>
    have hlayers : hurried.plan.layers = .ok [["a", "b"], ["c", "d"]] := by cbv
    have hinv := roundInv_start (Plan.layered_of_layers hlayers)
    have hstart : hurried.start 0 (.initial hurried.plan) = .work (.initial hurried.plan)
        [hurriedFetch "a" false, hurriedFetch "b" true] := by cbv
    have houtcomes : (hurried.perform [hurriedFetch "a" false, hurriedFetch "b" true]).map
        (fun o => o.2.fatal? o.1) = [none, none] := rfl
    intro call why
    refine ⟨hinv.not_lacking_of_start hstart call why, fun hfailing => ?_⟩
    obtain ⟨o, ho, heq⟩ := List.mem_map.mp ((hinv.failing_iff hstart fun _ => rfl).mp hfailing)
    have hfatal : o.2.fatal? o.1 ∈ [none, none] := houtcomes ▸ List.mem_map_of_mem ho
    rw [(Prod.mk.inj heq).2] at hfatal
    simp at hfatal

theorem hurried_times_out : ∃ deeds final k skipped,
    hurried.Goes .empty deeds (.ended final) ∧
      final.result = .error (.timeout "p" ["a"]) ∧
      hurried.TimedOut .empty [["a", "b"], ["c", "d"]] k skipped deeds final := by
  have hlayers : hurried.plan.layers = .ok [["a", "b"], ["c", "d"]] := by cbv
  have hresult : (hurried.execute .empty).result = .error (.timeout "p" ["a"]) := by cbv
  have hruns := timeout_reports_what_ran hurried .empty _ hlayers (fun _ => rfl) unharmed_hurried
  obtain ⟨deeds, hgoes⟩ := goes_execute (r := hurried) rfl .empty
  rcases (hruns.2 rfl).2.2 deeds _ hgoes with ⟨a, ha⟩ | ⟨k, skipped, htimedOut⟩
  · rw [hresult] at ha
    cases ha
  · exact ⟨deeds, _, k, skipped, hgoes, hresult, htimedOut⟩

end Request

end Lemmata
