import Lemmata.Proofs.Run.Rerun
import Lemmata.Proofs.Run.SameWork
import Lemmata.Proofs.Run.Schedule
import Lemmata.Proofs.Store.SameRows

/-! # Neither the order of the tasks nor the number of permits makes a difference -/

namespace Lemmata

/-! ## The rows of a round in any order -/

theorem Run.writeAll_eq_saveAll (readings : Readings) (store : Store)
    (outcomes : List (Call × Outcome)) :
    writeAll readings store outcomes = saveAll readings store (outcomes.filterMap rowOf) := by
  induction outcomes generalizing store with
  | nil => rfl
  | cons o rest ih =>
    rw [Request.writeAll_cons, ih, writeOutcome, List.filterMap_cons, rowOf]
    cases o.2.written? <;> rfl

theorem Run.sameRows_saveAll {s t : Store} (h : s.SameRows t) (readings : Readings)
    (rows : List (Call × Effect)) :
    (saveAll readings s rows).SameRows (saveAll readings t rows) := by
  induction rows generalizing s t with
  | nil => exact h
  | cons row rest ih => exact ih (h.save _ _)

def RowsApart (rows : List (Call × Effect)) : Prop :=
  rows.Pairwise fun a b => a.2.Apart b.2

theorem rowsApart_iff {rows : List (Call × Effect)} :
    RowsApart rows ↔ (rows.map fun row => (row.2.stage, row.2.id)).Nodup := by
  rw [RowsApart, List.Nodup, List.pairwise_map]
  simp only [Effect.Apart, ne_eq, Prod.mk.injEq, not_and]

theorem RowsApart.of_perm {rows rows' : List (Call × Effect)} (h : RowsApart rows)
    (hperm : rows.Perm rows') : RowsApart rows' := by
  refine List.Perm.pairwise hperm h fun {a b} hab => ?_
  exact fun hstage heq => hab hstage.symm heq.symm

theorem Run.sameRows_saveAll_perm {s t : Store} {rows rows' : List (Call × Effect)}
    (hperm : rows.Perm rows') (hs : s.SameRows t) (readings : Readings) (hapart : RowsApart rows) :
    (saveAll readings s rows).SameRows (saveAll readings t rows') := by
  induction hperm generalizing s t with
  | nil => exact hs
  | cons row _ ih => exact ih (hs.save _ _) (List.pairwise_cons.mp hapart).2
  | swap a b rest =>
    have hne : b.2.Apart a.2 := (List.pairwise_cons.mp hapart).1 a List.mem_cons_self
    have hfirst : ((s.save (readings.write b.1.id) b.2).save (readings.write a.1.id) a.2).SameRows
        ((t.save (readings.write a.1.id) a.2).save (readings.write b.1.id) b.2) :=
      ((hs.save _ _).save _ _).trans (t.save_comm _ _ hne)
    exact sameRows_saveAll hfirst readings rest
  | trans hfirst _ ih ih' => exact (ih hs hapart).trans (ih' (.refl t) (hapart.of_perm hfirst))

namespace Request

variable {r : Request} {store : Store} {deeds : List Deed} {final : RunReport}
variable {each : List (List Deed)} {done : List (List (Call × Outcome))}

/-- The calls of a round make different IDs. -/
def WritesApart (r : Request) : Prop :=
  ∀ outcomes ∈ r.allRounds.1, RowsApart (outcomes.filterMap rowOf)

theorem sameRows_rounds {s t : Store} (h : List.Forall₂ r.Leads each done) (hs : s.SameRows t)
    (hapart : ∀ outcomes ∈ done, RowsApart (outcomes.filterMap rowOf)) :
    (Run.saveAll r.readings s (each.flatten.filterMap Deed.wrote?)).SameRows
      (Run.writeAll r.readings t done.flatten) := by
  induction h generalizing s t with
  | nil => exact hs
  | cons hleads _ ih =>
    obtain ⟨works, -, -, hperm⟩ := hleads
    obtain ⟨hfirst, hlater⟩ := List.forall_mem_cons.mp hapart
    rw [List.flatten_cons, List.flatten_cons, List.filterMap_append, saveAll_append,
      writeAll_append, Run.writeAll_eq_saveAll r.readings t]
    have hround := hfirst.of_perm hperm.symm
    exact ih (Run.sameRows_saveAll_perm hperm hs r.readings hround) hlater

/-- Reports that differ in the order of the rows only. -/
structure SameReport (a b : RunReport) : Prop where
  result : a.result = b.result
  started : a.started = b.started
  rows : a.store.SameRows b.store

theorem sameReport_report {s t : Store} (h : s.SameRows t) (done : List (List (Call × Outcome)))
    (result : Except Failure RunState) :
    SameReport (r.report s done result) (r.report t done result) := by
  cases result with
  | error failure => exact ⟨rfl, rfl, h⟩
  | ok state =>
    simp only [report, Run.remember]
    split_ifs
    · cases r.readings.faults.finish with
      | some text => exact ⟨rfl, rfl, h⟩
      | none => exact ⟨rfl, rfl, h.saveExecuted _ _⟩
    · exact ⟨rfl, rfl, h⟩

theorem SameReport.symm {a b : RunReport} (h : SameReport a b) : SameReport b a :=
  ⟨h.result.symm, h.started.symm, h.rows.symm⟩

theorem SameReport.trans {a b c : RunReport} (h : SameReport a b) (hnext : SameReport b c) :
    SameReport a c :=
  ⟨h.result.trans hnext.result, h.started.trans hnext.started, h.rows.trans hnext.rows⟩

/-- However its tasks go on, the run reports what `execute` reports. -/
theorem Goes.sameReport (h : r.Goes store deeds (.ended final)) (hapart : r.WritesApart) :
    SameReport final (r.execute store) := by
  rcases h.ended_cases with ⟨-, rfl⟩ | ⟨each, rfl, heach, rfl, hexecute⟩
  · exact ⟨rfl, rfl, .refl _⟩
  · rw [hexecute]
    exact sameReport_report (sameRows_rounds heach (.refl _) hapart) _ _

/-! ## Any number of permits -/

/-- The same run with this limit and with these readings of the clock. -/
def under (r : Request) (limit : Nat) (readings : Readings) : Request :=
  { r with options := { r.options with maxConcurrency := limit }, readings }

theorem rounds_under (p : Request) (limit limit' : Nat) (readings : Readings) (fuel k : Nat)
    (s : RunState) :
    (p.under limit readings).rounds fuel k s = (p.under limit' readings).rounds fuel k s := by
  induction fuel generalizing k s with
  | zero => rfl
  | succ fuel ih =>
    have hstart : (p.under limit readings).start k s = (p.under limit' readings).start k s := rfl
    have hperform : (p.under limit readings).perform = (p.under limit' readings).perform := rfl
    simp only [rounds, hstart, hperform, ih]

theorem allRounds_under (p : Request) (limit limit' : Nat) (readings : Readings) :
    (p.under limit readings).allRounds = (p.under limit' readings).allRounds :=
  rounds_under p limit limit' readings _ 0 _

theorem checkLimits_under {p : Request} (limit : Nat) (readings : Readings)
    (hdeadline : p.options.deadlineMs = none) :
    Run.checkLimits (p.under limit readings).options (p.under limit readings).readings =
      if limit ≤ Run.greatestConcurrency then .ok () else .error (.outOfRange .concurrency) := by
  have hdeadline : (p.under limit readings).options.deadlineMs = none := hdeadline
  exact Run.checkLimits_of_untimed readings hdeadline

/-- A run that can begin does so as with a single permit. -/
theorem execute_under {p : Request} {limit : Nat} {readings : Readings} {first : Course}
    (hdeadline : p.options.deadlineMs = none) (h : (p.under limit readings).Begins store first) :
    (p.under limit readings).execute store = (p.under 1 readings).execute store := by
  have hended : ∀ {final}, (p.under limit readings).Begins store (.ended final) →
      (p.under 1 readings).Begins store (.ended final) →
      (p.under limit readings).execute store = (p.under 1 readings).execute store :=
    fun hlimit hone => hlimit.eq_execute.trans hone.eq_execute.symm
  cases h with
  | refused hallow hask => exact hended (.refused hallow hask) (.refused hallow hask)
  | served hserved => exact hended (.served hserved) (.served hserved)
  | invalid hlayers hmissed => exact hended (.invalid hlayers hmissed) (.invalid hlayers hmissed)
  | fresh hlayers hmissed hlimits =>
    have hone : Run.checkLimits (p.under 1 readings).options readings = .ok () :=
      (checkLimits_under 1 readings hdeadline).trans (if_pos (by decide))
    rw [execute_of_missed hmissed, runFresh_eq hlayers hlimits,
      execute_of_missed (r := p.under 1 readings) hmissed,
      runFresh_eq (r := p.under 1 readings) hlayers hone,
      allRounds_under p limit 1]
    rfl

end Request

/-! ## Any clock -/

namespace View

variable {v : View} {p : Request} {a b : Readings} {store : Store} {s t : Store}

/-- No handler tells apart sources that look the same. -/
structure Handled (v : View) (registry : Registry) : Prop where
  extract : ∀ tool handler, registry.extractFor? tool = some handler →
    ∀ call e f, v.raw e = v.raw f → handler call e = handler call f
  derive : ∀ tool handler, registry.deriveFor? tool = some handler →
    ∀ call e f, v.extraction e = v.extraction f → handler call e = handler call f
  claim : ∀ tool handler, registry.claimFor? tool = some handler →
    ∀ call e f, v.derivation e = v.derivation f → handler call e = handler call f

theorem Handled.heeds {layers : List (List String)} (h : v.Handled p.registry)
    (hl : p.plan.Layered layers) : v.Heeds p.registry p.plan p.plan := by
  have hsame : ∀ c ∈ p.plan.calls, ∀ d ∈ p.plan.calls, c.bare = d.bare → c = d := by
    intro c hc d hd hcd
    exact List.inj_on_of_nodup_map hl.nodup hc hd (Call.bare_eq_iff.mp hcd).2.1
  refine ⟨?_, ?_, ?_⟩
  · intro tool handler hhandler c hc d hd hcd e f hef
    rw [hsame c hc d hd hcd]
    exact h.extract tool handler hhandler d e f hef
  · intro tool handler hhandler c hc d hd hcd e f hef
    rw [hsame c hc d hd hcd]
    exact h.derive tool handler hhandler d e f hef
  · intro tool handler hhandler c hc d hd hcd e f hef
    rw [hsame c hc d hd hcd]
    exact h.claim tool handler hhandler d e f hef

theorem handled_of_builtIn {registry : Registry} (hregistry : registry.BuiltIn) :
    v.Handled registry where
  extract _ _ hhandler _ _ _ he :=
    handler_eq (extract_untimed hregistry hhandler) rfl
      (congrArg (fun source => { source with durationMs := 0 }) he)
  derive _ _ hhandler _ _ _ he :=
    handler_eq (derive_untimed hregistry hhandler) rfl
      (congrArg (fun source => { source with durationMs := 0 }) he)
  claim _ _ hhandler _ _ _ he :=
    handler_eq (claim_untimed hregistry hhandler) rfl
      (congrArg (fun source => { source with durationMs := 0 }) he)

theorem store_touch {m n : Moment} (h : v.access m.text = v.access n.text) (s : Store)
    (hash : String) : v.store (s.touch m hash) = v.store (s.touch n hash) := by
  have hkey : ∀ r : PlanRow, Keyed.key (v.planRow r) = Keyed.key r := fun _ => rfl
  have hrow : ∀ row : PlanRow, v.planRow { row with lastAccess := m.text } =
      v.planRow { row with lastAccess := n.text } := fun row => by simp [planRow, h]
  unfold Store.touch
  split
  · rfl
  · simp only [store, table_put hkey, hrow]

theorem restore_touch (faults : Faults) (s : Store) (now : Moment) (hash : String)
    (cached : ExecutedPlan) :
    Run.restore faults (s.touch now hash) cached = Run.restore faults s cached := by
  have heffect : Run.restoreEffect faults (s.touch now hash) = Run.restoreEffect faults s := by
    funext ref
    unfold Run.restoreEffect
    rw [Store.get_touch]
  rw [Run.restore, Run.restore, Run.restoreEffects, Run.restoreEffects, heffect]

theorem sameRows_store (h : s.SameRows t) : (v.store s).SameRows (v.store t) :=
  ⟨h.raws.map _, h.extractions.map _, h.derivations.map _, h.claims.map _, h.plans.map _⟩

/-- Onlookers who cannot tell the clocks of two runs of a plan apart. -/
structure Unclocked (v : View) (a b : Readings) : Prop where
  call : ∀ id, v.duration (a.call id) = v.duration (b.call id)
  total : v.duration a.total = v.duration b.total
  write : ∀ id, v.savedAt (a.write id).second = v.savedAt (b.write id).second
  lookup : v.access a.lookup.text = v.access b.lookup.text
  finish : v.access a.finish.text = v.access b.finish.text

/-- Sees everything but what was read from a clock. -/
def clockless : View where
  planId := id
  reason := id
  duration := fun _ => 0
  savedAt := fun _ => 0
  access := fun _ => ""

theorem execute_seen (hdeadline : p.options.deadlineMs = none) (hfaults : a.faults = b.faults)
    (hclocks : v.Unclocked a b) (hhandled : v.Handled p.registry) (hjudged : v.Judged p.clients)
    (store : Store) :
    v.report (Run.execute p.plan p.clients p.registry p.options a store) =
      v.report (Run.execute p.plan p.clients p.registry p.options b store) := by
  have hfresh : v.report (Run.runFresh p.plan p.clients p.registry p.options a store) =
      v.report (Run.runFresh p.plan p.clients p.registry p.options b store) := by
    cases hlayers : p.plan.layers with
    | error failure => simp only [Run.runFresh, hlayers]
    | ok layers =>
      have hl := Plan.layered_of_layers hlayers
      have hblind : v.Blind p.plan p.plan a b :=
        ⟨rfl, fun _ _ => rfl, hclocks.call, hclocks.total, hclocks.write, hclocks.finish⟩
      exact fresh_seen ⟨.refl _, .refl _, hl.nodup, rfl⟩ hblind hfaults hdeadline
        (hhandled.heeds hl) hjudged hlayers hlayers store
  unfold Run.execute
  split_ifs
  · cases hfault : a.faults.lookup with
    | some text => simp [Run.ask, ← hfaults, hfault, report]
    | none =>
      simp only [Run.ask, ← hfaults, hfault, Store.findExecuted]
      cases hrow : store.plans.get? p.plan.hash with
      | none =>
        have htouch : ∀ now, store.touch now p.plan.hash = store := by
          intro now
          simp [Store.touch, hrow]
        simpa only [Store.readRow, htouch] using hfresh
      | some row =>
        have hstore := store_touch hclocks.lookup store p.plan.hash
        cases hexecuted : row.executed with
        | error failure => simp [Store.readRow, hexecuted, Except.map, report, hstore]
        | ok cached =>
          simp only [Store.readRow, hexecuted, Except.map, report, restore_touch, hstore]
  · exact hfresh

end View

namespace Request

theorem Goes.sameReport_one {p : Request} {limit : Nat} {readings : Readings}
    (h : (p.under limit readings).Goes store deeds (.ended final))
    (hdeadline : p.options.deadlineMs = none) (hapart : (p.under limit readings).WritesApart) :
    SameReport final ((p.under 1 readings).execute store) := by
  obtain ⟨first, hbegins, -⟩ := id h
  rw [← execute_under hdeadline hbegins]
  exact h.sameReport hapart

/-- How a run over the store can go. With permits that there can be, `execute` is one way; from
wherever it is, it can be brought to an end. With more permits than there can be, a valid plan that
is not answered from the store does not get to its first round: nothing is done. -/
structure Runnable (r : Request) (store : Store) : Prop where
  goes : r.options.maxConcurrency ≤ Run.greatestConcurrency →
    ∃ deeds, r.Goes store deeds (.ended (r.execute store))
  completes : ∀ deeds c, r.Goes store deeds c → ∃ more final, r.Turns c more (.ended final)
  beyond : ∀ layers, r.plan.layers = .ok layers →
    (r.options.allowCache = true → (Run.ask r.readings store r.plan.hash).2 = .ok none) →
    Run.greatestConcurrency < r.options.maxConcurrency →
      (∀ deeds c, ¬ r.Goes store deeds c) ∧
        r.execute store = ⟨store, [], .error (.outOfRange .concurrency)⟩

theorem runnable_under {p : Request} (limit : Nat) (readings : Readings) (store : Store)
    (hdeadline : p.options.deadlineMs = none) : (p.under limit readings).Runnable store where
  goes hlimit :=
    goes_execute ((checkLimits_under limit readings hdeadline).trans (if_pos hlimit)) store
  completes _ _ hgoes := hgoes.completes
  beyond layers hlayers hmissed hlimit := by
    have hlimits :=
      (checkLimits_under limit readings hdeadline).trans (if_neg (Nat.not_le.mpr hlimit))
    refine ⟨?_, execute_of_limits hmissed hlayers hlimits⟩
    rintro deeds c ⟨first, hbegins, -⟩
    cases hlimits.symm.trans (hbegins.within_limits hlayers hmissed).1

/-- Two runs of a plan, with any numbers of permits and with their tasks in any order that the
permits allow; there is such an order unless there cannot be that many permits, and then nothing is
done. If their clocks agree, they end with the same report and the same rows; if not, no onlooker
can tell them apart who cannot tell the clocks apart, as long as no handler and no client can. -/
theorem ends_alike (p : Request) (limit limit' : Nat) (a b : Readings) (store : Store)
    (hdeadline : p.options.deadlineMs = none) (hfaults : a.faults = b.faults)
    (hapart : (p.under limit a).WritesApart) (hapart' : (p.under limit' b).WritesApart) :
    let first := p.under limit a
    let second := p.under limit' b
    first.Runnable store ∧ second.Runnable store ∧
    ∀ deeds deeds' final final', first.Goes store deeds (.ended final) →
      second.Goes store deeds' (.ended final') →
      (a = b → SameReport final final') ∧
      ∀ v : View, v.Unclocked a b → v.Handled p.registry → v.Judged p.clients →
        v.except v.artifacts final.result = v.except v.artifacts final'.result ∧
        final.started = final'.started ∧
        (v.store final.store).SameRows (v.store final'.store) := by
  refine ⟨runnable_under limit a store hdeadline, runnable_under limit' b store hdeadline, ?_⟩
  intro deeds deeds' final final' hgoes hgoes'
  have hfirst := hgoes.sameReport_one hdeadline hapart
  have hsecond := hgoes'.sameReport_one hdeadline hapart'
  constructor
  · rintro rfl
    exact hfirst.trans hsecond.symm
  · intro v hclocks hhandled hjudged
    have hseen : v.report ((p.under 1 a).execute store) = v.report ((p.under 1 b).execute store) :=
      View.execute_seen (p := p.under 1 a) hdeadline hfaults hclocks hhandled hjudged store
    obtain ⟨hstore, hstarted, hresult⟩ := RunReport.mk.inj hseen
    refine ⟨?_, ?_, ?_⟩
    · rw [hfirst.result, hsecond.result, hresult]
    · rw [hfirst.started, hsecond.started]
      exact hstarted
    · have hrows := View.sameRows_store (v := v) hfirst.rows
      rw [hstore] at hrows
      exact hrows.trans (View.sameRows_store hsecond.rows).symm

/-! ### Two pages, the second one first -/

def stopped (second : Nat) : Readings :=
  { Readings.still { second := (second : Int) } with call := fun _ => .ofNat second }

def pageA : Call := { tool := "page", id := "a", endpoint := "", stage := .fetch }

def pageB : Call := { tool := "page", id := "b", endpoint := "", stage := .fetch, optional := true }

theorem handled_sample : View.clockless.Handled sample.registry where
  extract := by
    intro tool handler hhandler call e f hef
    have hid : e.id = f.id := (RawResponse.mk.inj hef).1
    have hcall : e.callId = f.callId := (RawResponse.mk.inj hef).2.2.1
    obtain rfl : sampleExtract = handler := by
      unfold Registry.extractFor? at hhandler
      cases htool : tool == "words" <;>
        simp [sample, Registry.addExtract, Registry.empty, List.lookup, htool] at hhandler
      exact hhandler
    simp only [sampleExtract, hid, hcall]
  derive := fun _ _ hhandler => by
    simp [sample, Registry.addExtract, Registry.empty, Registry.deriveFor?] at hhandler
  claim := fun _ _ hhandler => by
    simp [sample, Registry.addExtract, Registry.empty, Registry.claimFor?] at hhandler

theorem judged_sample : View.clockless.Judged sample.clients := by
  intro tool client hclient e f hef
  have hstatus : e.status = f.status := (RawResponse.mk.inj hef).2.2.2.2.1
  obtain ⟨-, rfl⟩ := Prod.mk.inj (List.mem_singleton.mp (Registry.mem_of_lookup hclient))
  simp only [sampleClient, Client.isHttpSuccess, hstatus]

theorem writesApart_sample (limit second : Nat) :
    (sample.under limit (stopped second)).WritesApart := by
  have hrounds : (sample.under 1 (stopped second)).allRounds.1.map (fun outcomes =>
      (outcomes.filterMap rowOf).map fun row => (row.2.stage, row.2.id)) =
        [[(.fetch, "raw-a"), (.fetch, "raw-b")], [(.extract, "ext-c")]] := by cbv
  intro outcomes houtcomes
  rw [allRounds_under _ limit 1] at houtcomes
  have hmem := List.mem_map_of_mem (f := fun outcomes : List (Call × Outcome) =>
    (outcomes.filterMap rowOf).map fun row => (row.2.stage, row.2.id)) houtcomes
  rw [hrounds] at hmem
  rw [rowsApart_iff]
  simp only [List.mem_cons, List.not_mem_nil, or_false] at hmem
  rcases hmem with hmem | hmem
  · rw [hmem]
    decide
  · rw [hmem]
    decide

theorem sample_ends_alike :
    let second := sample.under 2 (stopped 2)
    let third := sample.under 0x2000000000000000 (stopped 2)
    (∃ deeds more final final',
      (sample.under 0 (stopped 1)).Goes .empty deeds (.ended final) ∧
      second.Goes .empty (second.deedsOf pageB (.fetch sampleClient) ++
        second.deedsOf pageA (.fetch sampleClient) ++ more) (.ended final') ∧
      View.clockless.except View.clockless.artifacts final.result =
        View.clockless.except View.clockless.artifacts final'.result ∧
      (View.clockless.store final.store).SameRows (View.clockless.store final'.store)) ∧
    (∀ deeds c, ¬ third.Goes .empty deeds c) ∧
    third.execute .empty = ⟨.empty, [], .error (.outOfRange .concurrency)⟩ := by
  intro second third
  have hclocks : View.clockless.Unclocked (stopped 1) (stopped 2) :=
    ⟨fun _ => rfl, rfl, fun _ => rfl, rfl, rfl⟩
  obtain ⟨hone, htwo, halike⟩ := ends_alike sample 0 2 (stopped 1) (stopped 2) .empty rfl rfl
    (writesApart_sample 0 1) (writesApart_sample 2 2)
  obtain ⟨deeds, hgoes⟩ := hone.goes (Nat.zero_le _)
  have hstart : second.start 0 (.initial sample.plan) =
      .work (.initial sample.plan)
        [(pageA, .fetch sampleClient), (pageB, .fetch sampleClient)] := by cbv
  have hlayers : second.plan.layers = .ok [["a", "b"], ["c", "d"]] := by cbv
  -- The task of the second page is finished before that of the first one is admitted.
  have hlast := @moves_task second [⟨pageA, .fetch sampleClient, .waiting⟩] [] rfl
    .empty pageB (.fetch sampleClient)
  have hfirst := fun store => @moves_task second []
    [⟨pageB, .fetch sampleClient,
      .finished (second.outcomeOf pageB (.fetch sampleClient))⟩] rfl store pageA
    (.fetch sampleClient)
  have hbegins : second.Begins .empty (.between .empty [] (.initial second.plan)) :=
    .fresh hlayers (fun _ => rfl) rfl
  have hopened : second.Turn (.between .empty [] (.initial second.plan)) none _ := .opened hstart
  have hround := Turns.head hopened (hlast.trans (hfirst _)).turns
  obtain ⟨more, final', hmore⟩ := htwo.completes _ _ ⟨_, hbegins, hround⟩
  have hgoes' := Goes.turns ⟨_, hbegins, hround⟩ hmore
  obtain ⟨hresult, -, hrows⟩ := (halike _ _ _ _ hgoes hgoes').2 _ hclocks handled_sample
    judged_sample
  -- With so many permits the third run is over where the second one begins.
  have hthree := (ends_alike sample 0x2000000000000000 2 (stopped 2) (stopped 2) .empty rfl rfl
    (writesApart_sample _ 2) (writesApart_sample 2 2)).1
  exact ⟨⟨deeds, more, _, final', hgoes, hgoes', hresult, hrows⟩,
    hthree.beyond _ hlayers (fun _ => rfl) (by decide)⟩

end Request

end Lemmata
