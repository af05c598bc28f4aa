import Lemmata.Proofs.Run.Failures
import Lemmata.Proofs.Run.LayerByLayer
import Lemmata.Proofs.Run.Schedule
import Mathlib.Data.List.Induction

/-! # What a round leaves when it fails -/

namespace Lemmata.Request

variable {r : Request} {layers : List (List String)} {done : List (List (Call × Outcome))}
variable {s t : RunState} {works : List (Call × Work)} {store now : Store}
variable {before deeds : List Deed} {call : Call} {work : Work} {failure : Failure}
variable {final : RunReport} {p : Pool}

/-! ## From the beginning of a round to the end of the run -/

theorem Turns.cases_between (h : r.Turns (.between now done s) deeds (.ended final)) :
    deeds = [] ∧ (∃ t, r.start done.length s = .finished t ∧
        final = r.report now done (.ok t)) ∨
      deeds = [] ∧ (∃ failure, r.start done.length s = .failed failure ∧
        final = r.report now done (.error failure)) ∨
      ∃ t works, r.start done.length s = .work t works ∧
        r.Turns (.during done t (.opened now works)) deeds (.ended final) := by
  cases h with
  | head hturn hrest =>
    cases hturn with
    | finished hstart =>
      obtain ⟨rfl, hfinal⟩ := hrest.of_ended
      cases hfinal
      exact .inl ⟨rfl, _, hstart, rfl⟩
    | stopped hstart =>
      obtain ⟨rfl, hfinal⟩ := hrest.of_ended
      cases hfinal
      exact .inr (.inl ⟨rfl, _, hstart, rfl⟩)
    | opened hstart => exact .inr (.inr ⟨_, _, hstart, hrest⟩)

/-- No outcome is taken in before all tasks are finished. -/
theorem Turns.cases_during (h : r.Turns (.during done t p) deeds (.ended final)) :
    ∃ first q outcomes rest, r.Moves p first q ∧ q.Yields outcomes ∧ deeds = first ++ rest ∧
      ((∃ u, t.takeOutcomes outcomes = .ok u ∧
          r.Turns (.between q.store (done ++ [outcomes]) u) rest (.ended final)) ∨
        rest = [] ∧ ∃ failure, t.takeOutcomes outcomes = .error failure ∧
          final = r.report q.store (done ++ [outcomes]) (.error failure)) := by
  generalize hfirst : Course.during done t p = first at h
  generalize hlast : Course.ended final = last at h
  induction h generalizing p with
  | refl =>
    subst hfirst
    cases hlast
  | head hturn hrest ih =>
    subst hfirst hlast
    cases hturn with
    | moved hmove =>
      obtain ⟨first, q, outcomes, rest, hmoves, hyields, rfl, hend⟩ := ih rfl rfl
      exact ⟨_, q, outcomes, rest, .head hmove hmoves, hyields,
        (List.append_assoc _ _ _).symm, hend⟩
    | taken hyields htake => exact ⟨[], p, _, _, .refl p, hyields, rfl, .inl ⟨_, htake, hrest⟩⟩
    | broken hyields htake =>
      obtain ⟨rfl, hfinal⟩ := hrest.of_ended
      cases hfinal
      exact ⟨[], p, _, [], .refl p, hyields, rfl, .inr ⟨rfl, _, htake, rfl⟩⟩

/-! ## The calls of a round -/

def Due (r : Request) (s : RunState) (call : Call) : Prop :=
  call ∈ r.plan.calls ∧ call.id ∈ (s.skipBlocked r.plan).ready r.plan

def Lacking (r : Request) (s : RunState) (call : Call) (why : Failure) : Prop :=
  r.Due s call ∧ s.Lacks r.plan r.clients r.registry call why

def Working (r : Request) (s : RunState) (call : Call) (work : Work) : Prop :=
  r.Due s call ∧ s.Wires r.plan r.clients r.registry call work

def Failing (r : Request) (s : RunState) (call : Call) (why : Failure) : Prop :=
  ∃ work, r.Working s call work ∧ r.Fails call work why

def Least (fails : Call → Failure → Prop) (call : Call) (why : Failure) : Prop :=
  fails call why ∧ ∀ c w, fails c w → call.id ≤ c.id

def Obtains (r : Request) (call : Call) (work : Work) (effect : Effect) : Prop :=
  r.readings.faults.task call.id = none ∧
    (work.perform r.plan.id call (r.readings.call call.id)).written? = some effect

structure WholeRound (r : Request) (s : RunState) (deeds : List Deed) (store : Store) : Prop where
  due : ∀ call, r.Due s call → (∃ work, r.Working s call work) ∨
    call.stage = .fetch ∧ call.optional = true ∧ r.clients.get? call.tool = none
  called_iff : ∀ call work, .called call work ∈ deeds ↔ r.Working s call work
  called_once : (names (deeds.filterMap Deed.called?)).Nodup
  wrote_iff : ∀ call effect, .wrote call effect ∈ deeds ↔
    ∃ work, r.Working s call work ∧ r.Obtains call work effect
  /-- A row is there in the end, unless another call of the round has replaced it. -/
  rows : ∀ call effect, .wrote call effect ∈ deeds → ∃ c e, .wrote c e ∈ deeds ∧
    e.stage = effect.stage ∧ e.id = effect.id ∧ store.HasRow (r.readings.write c.id) e

theorem written?_iff_obtains {effect : Effect} (hwrite : r.readings.faults.write call.id = none) :
    (r.outcomeOf call work).written? = some effect ↔ r.Obtains call work effect := by
  unfold Obtains
  cases hwhole : r.readings.faults.task call.id with
  | some text => simp [outcomeOf_broken hwhole, Outcome.written?]
  | none => simp [outcomeOf_whole hwhole hwrite]

theorem Due.call? (h : r.Due s call) (hnodup : r.plan.callIds.Nodup) :
    r.plan.call? call.id = some call :=
  (Call.find?_eq_some_iff hnodup).mpr ⟨h.1, rfl⟩

theorem start_of_due {k : Nat} (hdue : r.Due s call)
    (htime : Run.isExpired r.options r.readings k = false) :
    (∃ failure, r.start k s = .failed failure ∧
        RunState.wireAll r.plan r.clients r.registry ((s.skipBlocked r.plan).ready r.plan)
          (s.skipBlocked r.plan) = .error failure) ∨
      ∃ t works, r.start k s = .work t works := by
  obtain ⟨-, hready⟩ := hdue
  cases hstart : r.start k s with
  | finished t =>
    obtain ⟨rfl, hnone⟩ := start_finished hstart
    have hpending := (RunState.mem_ready.mp hready).1
    rw [hnone] at hpending
    cases hpending
  | failed failure =>
    obtain ⟨-, hnone | ⟨hexpired, -⟩ | hwire⟩ := start_failed hstart
    · rw [hnone] at hready
      cases hready
    · rw [htime] at hexpired
      cases hexpired
    · exact .inl ⟨_, rfl, hwire⟩
  | work t works => exact .inr ⟨_, _, rfl⟩

/-! ### The least of them -/

theorem le_of_first {α : Type} {f : α → String} {first last : List α} {x y : α}
    (hsorted : ((first ++ x :: last).map f).Pairwise (· ≤ ·)) (hy : y ∈ first ++ x :: last)
    (hfirst : y ∉ first) : f x ≤ f y := by
  rw [List.map_append, List.map_cons, List.pairwise_append, List.pairwise_cons] at hsorted
  rcases List.mem_cons.mp ((List.mem_append.mp hy).resolve_left hfirst) with rfl | hlast
  · exact String.le_refl _
  · exact hsorted.2.1.1 _ (List.mem_map_of_mem hlast)

theorem ready_ascending (h : s.Accounted r.plan) : (s.ready r.plan).Pairwise (· ≤ ·) := by
  rw [RunState.ready, h.pending_eq]
  exact ((sortNames_pairwise _).filter _).filter _

namespace RoundInv

variable {k : Nat} (h : RoundInv r layers done s)
include h

theorem produced_skipBlocked : (s.skipBlocked r.plan).produced = s.produced :=
  RunState.produced_skipBlocked h.accounted

theorem lacks_skipBlocked :
    (s.skipBlocked r.plan).Unwired r.plan r.clients r.registry call failure ↔
      s.Lacks r.plan r.clients r.registry call failure := by
  rw [RunState.lacks_iff, RunState.unwired_congr h.produced_skipBlocked]

theorem least_lacking
    (hwire : RunState.wireAll r.plan r.clients r.registry ((s.skipBlocked r.plan).ready r.plan)
      (s.skipBlocked r.plan) = .error failure) :
    ∃ call, Least (r.Lacking s) call failure := by
  have hacc := h.skipBlocked.accounted
  obtain ⟨first, id, last, call, hready, hcall, hunwired, hfirst⟩ :=
    RunState.wireAll_error_first hwire
  obtain ⟨hmem, rfl⟩ := (Call.find?_eq_some_iff hacc.callIds_nodup).mp hcall
  have hdue : r.Due s call := ⟨hmem, hready ▸ List.mem_append_right _ List.mem_cons_self⟩
  refine ⟨call, ⟨hdue, h.lacks_skipBlocked.mp hunwired⟩, ?_⟩
  rintro c why ⟨hc, hlacks⟩
  have hsorted := ready_ascending hacc
  rw [hready, ← List.map_id (first ++ call.id :: last)] at hsorted
  refine le_of_first (f := id) hsorted (hready ▸ hc.2) fun hbefore => ?_
  exact hfirst _ hbefore c why (hc.call? hacc.callIds_nodup) (h.lacks_skipBlocked.mpr hlacks)

theorem mem_works (hstart : r.start k s = .work t works) :
    (call, work) ∈ works ↔ r.Working s call work := by
  have hw := h.wired hstart
  constructor
  · intro hmem
    obtain ⟨hcall, hwork⟩ := hw.works_mem _ hmem
    have hid : call.id ∈ works.map fun w => w.1.id := List.mem_map_of_mem hmem
    rw [hw.names_eq, List.mem_filter] at hid
    rw [RunState.wire_congr h.produced_skipBlocked] at hwork
    exact ⟨⟨hcall, hid.1⟩, RunState.wires_of_wire hwork⟩
  · rintro ⟨hdue, hwires⟩
    have hfound := hdue.call? h.accounted.callIds_nodup
    have hwire := RunState.wire_of_wires hwires
    rw [← RunState.wire_congr h.produced_skipBlocked] at hwire
    rcases RunState.cases_of_wireAll (start_work hstart).2 _ hdue.2 _ hfound with
      ⟨other, hother, hsame⟩ | ⟨hstage, -, hclient⟩
    · rw [RunState.wire_of_wires hsame] at hwire
      cases hwire
      exact hother
    · cases hwires <;> simp_all

/-- A round opens if and only if no call of it lacks anything. -/
theorem start_of_not_lacking (hdue : r.Due s call) (hnone : ∀ c why, ¬ r.Lacking s c why)
    (htime : Run.isExpired r.options r.readings k = false) :
    ∃ t works, r.start k s = .work t works := by
  rcases start_of_due hdue htime with ⟨failure, -, hwire⟩ | hwork
  · obtain ⟨c, hc, -⟩ := h.least_lacking hwire
    exact absurd hc (hnone c failure)
  · exact hwork

theorem not_lacking_of_start (hstart : r.start k s = .work t works) (c : Call) (why : Failure) :
    ¬ r.Lacking s c why := by
  rintro ⟨hdue, hlacks⟩
  have hfound := hdue.call? h.accounted.callIds_nodup
  have hunwired := h.lacks_skipBlocked.mpr hlacks
  rcases RunState.cases_of_wireAll (start_work hstart).2 _ hdue.2 _ hfound with
    ⟨work, -, hwires⟩ | ⟨hstage, hoptional, -⟩
  · have hwire := hunwired.1
    rw [RunState.wire_of_wires hwires] at hwire
    cases hwire
  · exact hunwired.2 ⟨hstage, hoptional⟩

theorem failing_iff (hstart : r.start k s = .work t works)
    (hwrites : ∀ id, r.readings.faults.write id = none) :
    r.Failing s call failure ↔
      (call, some failure) ∈ (r.perform works).map fun o => (o.1, o.2.fatal? o.1) := by
  rw [List.mem_map]
  constructor
  · rintro ⟨work, hwork, hfails⟩
    refine ⟨_, mem_perform.mpr ⟨_, (h.mem_works hstart).mpr hwork, rfl⟩, ?_⟩
    exact Prod.ext rfl ((fails_iff (hwrites _)).mp hfails)
  · rintro ⟨o, ho, heq⟩
    obtain ⟨rfl, hfatal⟩ := Prod.mk.inj heq
    obtain ⟨⟨call, work⟩, hwork, rfl⟩ := mem_perform.mp ho
    exact ⟨work, (h.mem_works hstart).mp hwork, (fails_iff (hwrites _)).mpr hfatal⟩

theorem least_failing (hstart : r.start k s = .work t works)
    (hwrites : ∀ id, r.readings.faults.write id = none)
    (htake : t.takeOutcomes (r.perform works) = .error failure) :
    ∃ call, Least (r.Failing s) call failure := by
  obtain ⟨first, o, last, hsplit, hfatal, hfirst⟩ := RunState.takeOutcomes_error_first htake
  have hmem : o ∈ r.perform works := hsplit ▸ List.mem_append_right _ List.mem_cons_self
  refine ⟨o.1, (h.failing_iff hstart hwrites).mpr (List.mem_map.mpr ⟨o, hmem, ?_⟩), ?_⟩
  · rw [hfatal]
  intro c why hc
  obtain ⟨x, hx, heq⟩ := List.mem_map.mp ((h.failing_iff hstart hwrites).mp hc)
  obtain ⟨rfl, hwhy⟩ := Prod.mk.inj heq
  have hsorted : (names (r.perform works)).Pairwise (· ≤ ·) := by
    rw [names_perform, names, (h.wired hstart).names_eq]
    exact (ready_ascending h.skipBlocked.accounted).filter _
  rw [names, hsplit] at hsorted
  refine le_of_first (f := fun o : Call × Outcome => o.1.id) hsorted (hsplit ▸ hx) fun hbefore => ?_
  rw [hfirst x hbefore] at hwhy
  cases hwhy

end RoundInv

/-! ## The rows of a round -/

theorem plans_saveAll (readings : Readings) (store : Store) (rows : List (Call × Effect)) :
    (Run.saveAll readings store rows).plans = store.plans := by
  induction rows generalizing store with
  | nil => rfl
  | cons row rest ih => exact (ih _).trans (store.plans_save _ _)

theorem exists_hasRow_saveAll (readings : Readings) (store : Store) {rows : List (Call × Effect)}
    {row : Call × Effect} (hrow : row ∈ rows) :
    ∃ other ∈ rows, other.2.stage = row.2.stage ∧ other.2.id = row.2.id ∧
      (Run.saveAll readings store rows).HasRow (readings.write other.1.id) other.2 := by
  induction rows using List.reverseRecOn with
  | nil => cases hrow
  | append_singleton rest last ih =>
    have hsplit : Run.saveAll readings store (rest ++ [last]) =
        (Run.saveAll readings store rest).save (readings.write last.1.id) last.2 :=
      saveAll_append readings store rest [last]
    rw [hsplit]
    -- The last row replaces this one, or leaves it alone.
    by_cases hlast : last.2.stage = row.2.stage ∧ last.2.id = row.2.id
    · exact ⟨last, by simp, hlast.1, hlast.2, Store.hasRow_save _ _ _⟩
    · have hrest : row ∈ rest := by
        rcases List.mem_append.mp hrow with hrest | hsame
        · exact hrest
        · obtain rfl := List.mem_singleton.mp hsame
          exact absurd ⟨rfl, rfl⟩ hlast
      obtain ⟨other, hother, hstage, hid, hkept⟩ := ih hrest
      refine ⟨other, List.mem_append_left _ hother, hstage, hid, hkept.save ?_⟩
      exact fun hsame heq => hlast ⟨hsame.trans hstage, heq.trans hid⟩

theorem mem_wrote {effect : Effect} :
    (call, effect) ∈ deeds.filterMap Deed.wrote? ↔ .wrote call effect ∈ deeds := by
  rw [List.mem_filterMap]
  constructor
  · rintro ⟨deed, hdeed, hrow⟩
    cases deed with
    | called c w => cases hrow
    | wrote c e =>
      cases hrow
      exact hdeed
  · exact fun hmem => ⟨_, hmem, rfl⟩

theorem mem_called :
    (call, work) ∈ deeds.filterMap Deed.called? ↔ .called call work ∈ deeds := by
  rw [List.mem_filterMap]
  constructor
  · rintro ⟨deed, hdeed, hw⟩
    cases deed with
    | wrote c e => cases hw
    | called c work =>
      cases hw
      exact hdeed
  · exact fun hmem => ⟨_, hmem, rfl⟩

theorem RoundInv.wholeRound (h : RoundInv r layers done s) (hl : r.plan.Layered layers)
    (hstart : r.start done.length s = .work t works)
    (hwrites : ∀ id, r.readings.faults.write id = none) (hpool : PoolInv r now works deeds p)
    {outcomes : List (Call × Outcome)} (hyields : p.Yields outcomes) :
    r.WholeRound s deeds p.store := by
  obtain ⟨-, hcalled, hwrote⟩ := hpool.yields hyields
  refine ⟨?_, ?_, ?_, ?_, ?_⟩
  · intro call hdue
    have hfound := hdue.call? h.accounted.callIds_nodup
    refine (RunState.cases_of_wireAll (start_work hstart).2 _ hdue.2 _ hfound).imp_left ?_
    rintro ⟨work, hwork, -⟩
    exact ⟨work, (h.mem_works hstart).mp hwork⟩
  · intro call work
    rw [← h.mem_works hstart, ← hcalled.mem_iff, mem_called]
  · unfold names
    rw [(hcalled.map _).nodup_iff]
    exact (h.starts hl hstart).names_nodup
  · intro call effect
    rw [← mem_wrote, hwrote.mem_iff, List.mem_filterMap]
    constructor
    · rintro ⟨o, ho, hrow⟩
      obtain ⟨⟨c, work⟩, hwork, rfl⟩ := mem_perform.mp ho
      obtain ⟨e, he, hrow⟩ := Option.map_eq_some_iff.mp hrow
      cases hrow
      exact ⟨work, (h.mem_works hstart).mp hwork, (written?_iff_obtains (hwrites _)).mp he⟩
    · rintro ⟨work, hwork, hobtains⟩
      refine ⟨_, mem_perform.mpr ⟨_, (h.mem_works hstart).mpr hwork, rfl⟩, ?_⟩
      exact Option.map_eq_some_iff.mpr
        ⟨effect, (written?_iff_obtains (hwrites _)).mpr hobtains, rfl⟩
  · intro call effect hmem
    rw [hpool.store_eq]
    obtain ⟨other, hother, hstage, hid, hrow⟩ := exists_hasRow_saveAll r.readings now
      (mem_wrote.mpr hmem)
    exact ⟨other.1, other.2, mem_wrote.mp hother, hstage, hid, hrow⟩

/-! ## How the run ends -/

/-- Until a run is remembered, the cache stays as it was. -/
theorem Goes.between_cases (h : r.Goes store before (.between now done s)) :
    (∃ layers, r.plan.Layered layers ∧ RoundInv r layers done s) ∧ now.plans = store.plans := by
  obtain ⟨final, -, -, hfinal⟩ | ⟨⟨layers, hlayers⟩, hmissed, -, hway⟩ := h.cases
  · cases hfinal
  · have hl := Plan.layered_of_layers hlayers
    cases hway with
    | between hreach =>
      refine ⟨⟨layers, hl, hreach.roundInv hl⟩, ?_⟩
      rw [plans_saveAll, asked_of_missed hmissed]

theorem RoundInv.ends_of_lacking (h : RoundInv r layers done s)
    (htime : Run.isExpired r.options r.readings done.length = false)
    (hlacking : r.Lacking s call failure)
    (hturns : r.Turns (.between now done s) deeds (.ended final)) :
    deeds = [] ∧ ∃ c why, final = r.report now done (.error why) ∧ Least (r.Lacking s) c why := by
  obtain ⟨why, hfailed, hwire⟩ : ∃ why, r.start done.length s = .failed why ∧
      RunState.wireAll r.plan r.clients r.registry ((s.skipBlocked r.plan).ready r.plan)
        (s.skipBlocked r.plan) = .error why := by
    -- A round that opens has work for all of its calls.
    refine (start_of_due hlacking.1 htime).resolve_right ?_
    rintro ⟨t, works, hwork⟩
    exact h.not_lacking_of_start hwork call failure hlacking
  obtain ⟨c, hleast⟩ := h.least_lacking hwire
  rcases hturns.cases_between with ⟨-, t, hstart, -⟩ | ⟨rfl, why', hstart, rfl⟩ |
    ⟨t, works, hstart, -⟩
  · rw [hfailed] at hstart
    cases hstart
  · rw [hfailed] at hstart
    cases hstart
    exact ⟨rfl, c, why, rfl, hleast⟩
  · rw [hfailed] at hstart
    cases hstart

theorem RoundInv.ends_of_failing (h : RoundInv r layers done s)
    (hwrites : ∀ id, r.readings.faults.write id = none)
    (hstart : r.start done.length s = .work t works) (hfailing : r.Failing s call failure)
    (hturns : r.Turns (.between now done s) deeds (.ended final)) :
    ∃ p, PoolInv r now works deeds p ∧ p.Yields (r.perform works) ∧ ∃ c why,
      final = r.report p.store (done ++ [r.perform works]) (.error why) ∧
        Least (r.Failing s) c why := by
  have hduring : r.Turns (.during done t (.opened now works)) deeds (.ended final) := by
    rcases hturns.cases_between with ⟨-, t', hother, -⟩ | ⟨-, why, hother, -⟩ |
      ⟨t', works', hother, hduring⟩
    · rw [hstart] at hother
      cases hother
    · rw [hstart] at hother
      cases hother
    · rw [hstart] at hother
      cases hother
      exact hduring
  obtain ⟨first, p, outcomes, rest, hmoves, hyields, rfl, hend⟩ := hduring.cases_during
  have hpool := (poolInv_opened r now works).moves hmoves
  rw [List.nil_append] at hpool
  obtain ⟨rfl, -⟩ := hpool.leads hyields
  rcases hend with ⟨u, htake, -⟩ | ⟨rfl, why, htake, rfl⟩
  · -- The run does not go on with a fatal outcome.
    obtain ⟨o, ho, heq⟩ := List.mem_map.mp ((h.failing_iff hstart hwrites).mp hfailing)
    rw [RunState.not_fatal_of_takeOutcomes htake o ho] at heq
    cases heq
  · obtain ⟨c, hleast⟩ := h.least_failing hstart hwrites htake
    rw [List.append_nil]
    exact ⟨p, hpool, hyields, c, why, rfl, hleast⟩

/-- A run that comes to a round before its deadline, and fails there. If a call of the round lacks
something, then nothing of the round is done; otherwise all of it is done. The failure is that of
the least such call, and the run is not remembered. -/
theorem round_failure (r : Request) (store now : Store) (before : List Deed)
    (done : List (List (Call × Outcome))) (s : RunState)
    (hwrites : ∀ id, r.readings.faults.write id = none)
    (hgoes : r.Goes store before (.between now done s))
    (htime : Run.isExpired r.options r.readings done.length = false) :
    (∀ sofar c, r.Turns (.between now done s) sofar c →
      ∃ more final, r.Turns c more (.ended final)) ∧
    ∀ deeds final, r.Turns (.between now done s) deeds (.ended final) →
      ((∃ call why, r.Lacking s call why) →
        deeds = [] ∧ final.store = now ∧ final.store.plans = store.plans ∧
        ∃ call why, final.result = .error why ∧ Least (r.Lacking s) call why) ∧
      ((∀ call why, ¬ r.Lacking s call why) → (∃ call why, r.Failing s call why) →
        r.WholeRound s deeds final.store ∧ final.store.plans = store.plans ∧
        ∃ call why, final.result = .error why ∧ Least (r.Failing s) call why) := by
  obtain ⟨⟨layers, hl, hinv⟩, hplans⟩ := hgoes.between_cases
  refine ⟨fun sofar c hturns => (hgoes.turns hturns).completes, ?_⟩
  intro deeds final hturns
  constructor
  · rintro ⟨call, why, hlacking⟩
    obtain ⟨rfl, least, failure, rfl, hleast⟩ := hinv.ends_of_lacking htime hlacking hturns
    exact ⟨rfl, rfl, hplans, least, failure, rfl, hleast⟩
  · rintro hnone ⟨call, why, hfailing⟩
    have hdue : r.Due s call := hfailing.choose_spec.1.1
    obtain ⟨t, works, hstart⟩ := hinv.start_of_not_lacking hdue hnone htime
    obtain ⟨p, hpool, hyields, least, failure, rfl, hleast⟩ :=
      hinv.ends_of_failing hwrites hstart hfailing hturns
    refine ⟨hinv.wholeRound hl hstart hwrites hpool hyields, ?_, least, failure, rfl, hleast⟩
    exact (hpool.store_eq ▸ plans_saveAll _ _ _).trans hplans

/-! ### Three pages, of which two fail -/

def tornClient : Client where
  name := "torn"
  execute callId endpoint params :=
    if callId = "c" then .error (.transport "gone") else sampleClient.execute callId endpoint params
  isSuccess := Client.isHttpSuccess

def tornCall (id : String) : Call :=
  { tool := "page", id, endpoint := "", stage := .fetch }

def torn : Request where
  plan := { sample.plan with calls := ["c", "b", "a"].map tornCall, dependencies := [] }
  clients := Clients.empty.add "page" tornClient
  registry := Registry.empty
  options := {}
  readings := .still { second := 0 }

theorem torn_round_failure :
    ∃ deeds final, torn.Goes .empty deeds (.ended final) ∧
      final.result = .error (.fetchFailed "p" "b" 500) ∧
      torn.WholeRound (.initial torn.plan) deeds final.store := by
  have hlayers : torn.plan.layers = .ok [["a", "b", "c"]] := by cbv
  have hbegins : torn.Begins .empty (.between .empty [] (.initial torn.plan)) :=
    .fresh hlayers (fun _ => rfl) rfl
  have hinv := roundInv_start (Plan.layered_of_layers hlayers)
  have hstart : torn.start 0 (.initial torn.plan) = .work (.initial torn.plan)
      (["a", "b", "c"].map fun id => (tornCall id, .fetch tornClient)) := by cbv
  have houtcomes : (torn.perform (["a", "b", "c"].map fun id =>
      (tornCall id, .fetch tornClient))).map (fun o => (o.1, o.2.fatal? o.1)) =
      [(tornCall "a", none), (tornCall "b", some (.fetchFailed "p" "b" 500)),
        (tornCall "c", some (.clientFailed "p" "c" "page" "Transport error: gone"))] := rfl
  have hfailing : ∀ call why, torn.Failing (.initial torn.plan) call why ↔
      call = tornCall "b" ∧ why = .fetchFailed "p" "b" 500 ∨
        call = tornCall "c" ∧ why = .clientFailed "p" "c" "page" "Transport error: gone" := by
    intro call why
    rw [hinv.failing_iff hstart fun _ => rfl, houtcomes]
    simp
  obtain ⟨hcompletes, hends⟩ :=
    round_failure torn .empty .empty [] [] _ (fun _ => rfl) ⟨_, hbegins, .refl _⟩ rfl
  obtain ⟨deeds, final, hturns⟩ := hcompletes [] _ (.refl _)
  obtain ⟨hwhole, -, call, why, hresult, hcall, hleast⟩ :=
    (hends deeds final hturns).2 (hinv.not_lacking_of_start hstart)
      ⟨_, _, (hfailing _ _).mpr (.inl ⟨rfl, rfl⟩)⟩
  refine ⟨deeds, final, ⟨_, hbegins, hturns⟩, ?_, hwhole⟩
  rcases (hfailing _ _).mp hcall with ⟨-, rfl⟩ | ⟨rfl, -⟩
  · exact hresult
  · have hle := hleast _ _ ((hfailing _ _).mpr (.inl ⟨rfl, rfl⟩))
    exact absurd hle (by decide)

end Lemmata.Request
