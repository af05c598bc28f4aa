import Lemmata.Proofs.Run.AnyOrder
import Lemmata.Proofs.Run.Provenance
import Lemmata.Proofs.Store.Saves

/-! # A run that is repeated leaves nothing new -/

namespace Lemmata

/-! ## What an uncached run puts into the store -/

def saveOf (readings : Readings) (o : Call × Outcome) : Option Save :=
  o.2.written?.map (Save.mk (readings.write o.1.id))

theorem Run.writeAll_eq_putAll (readings : Readings) (store : Store)
    (outcomes : List (Call × Outcome)) :
    writeAll readings store outcomes =
      store.putAll (.ofSaves (outcomes.filterMap (saveOf readings)) []) := by
  rw [← Store.saveAll_eq_putAll]
  induction outcomes generalizing store with
  | nil => rfl
  | cons o rest ih =>
    rw [Request.writeAll_cons, ih, writeOutcome, List.filterMap_cons, saveOf]
    cases o.2.written? <;> rfl

namespace Request

variable {r : Request} {store : Store} {deeds : List Deed} {final : RunReport}
variable {layers : List (List String)} {produced produced' : List (Call × Effect)}
variable {o o' : Call × Outcome} {e f : Effect}

theorem report_putAll (r : Request) (done : List (List (Call × Outcome)))
    (result : Except Failure RunState) :
    ∃ (plans : List PlanRow) (ended : Except Failure Artifacts), ∀ store : Store,
      r.report store done result =
        ⟨{ store with plans := store.plans.putAll plans }, done.map names, ended⟩ := by
  cases result with
  | error failure => exact ⟨[], .error failure, fun _ => rfl⟩
  | ok s =>
    by_cases hskipped : s.skipped.isEmpty = true
    · cases hfinish : r.readings.faults.finish with
      | some text =>
        refine ⟨[], .error (.storage text), fun store => ?_⟩
        simp only [report, Run.remember, if_pos hskipped, hfinish]
        rfl
      | none =>
        refine ⟨[.ofExecuted r.readings.finish (r.summary s)], .ok (r.artifacts s), fun store => ?_⟩
        simp only [report, Run.remember, if_pos hskipped, hfinish]
        rfl
    · refine ⟨[], .ok (r.artifacts s), fun store => ?_⟩
      simp only [report, Run.remember, if_neg hskipped]
      rfl

/-- The store takes rows from an uncached run and has no say in it. -/
theorem exists_rows (hcache : r.options.allowCache = false) :
    ∃ (rows : Rows) (started : List (List String)) (result : Except Failure Artifacts),
      ∀ store, r.execute store = ⟨store.putAll rows, started, result⟩ := by
  have huncached : ¬ r.options.allowCache = true := by rw [hcache]; exact Bool.false_ne_true
  have hfresh : ∀ store, r.execute store =
      Run.runFresh r.plan r.clients r.registry r.options r.readings store := fun store =>
    if_neg huncached
  have hnothing : ∀ failure, (∀ store, Run.runFresh r.plan r.clients r.registry r.options
      r.readings store = ⟨store, [], .error failure⟩) → ∃ rows started result,
        ∀ store, r.execute store = ⟨store.putAll rows, started, result⟩ := fun failure h =>
    ⟨.ofSaves [] [], [], .error failure, fun store => (hfresh store).trans (h store)⟩
  cases hlayers : r.plan.layers with
  | error failure => exact hnothing failure fun store => by rw [Run.runFresh, hlayers]
  | ok layers =>
    cases hlimits : Run.checkLimits r.options r.readings with
    | error failure => exact hnothing failure fun store => by rw [Run.runFresh, hlayers, hlimits]
    | ok _ =>
      obtain ⟨plans, result, hreport⟩ := r.report_putAll r.allRounds.1 r.allRounds.2
      refine ⟨.ofSaves (r.allRounds.1.flatten.filterMap (saveOf r.readings)) plans,
        r.allRounds.1.map names, result, fun store => ?_⟩
      rw [hfresh, runFresh_eq hlayers hlimits, hreport, Run.writeAll_eq_putAll]
      rfl

/-! ## Different calls write different rows -/

def allWritten (r : Request) : List Effect :=
  r.allRounds.1.flatten.filterMap fun o => o.2.written?

/-- The clients answer different calls with responses of different IDs. -/
def ResponsesDistinct (r : Request) : Prop :=
  ∀ c ∈ r.plan.calls, ∀ d ∈ r.plan.calls, c.id ≠ d.id →
    ∀ x y, r.response? c = some x → r.response? d = some y → x.id ≠ y.id

theorem Made.response?_eq {x : RawResponse} (h : r.Made produced o)
    (hx : o.2.written? = some (.raw x)) : r.response? o.1 = some x := by
  obtain ⟨s, work, -, hwires, ho⟩ := h
  rcases settle_cases r.plan r.readings.faults o.1
    (work.perform r.plan.id o.1 (r.readings.call o.1.id)) with hsettle | ⟨failure, hsettle⟩
  · rw [ho, hsettle] at hx
    cases hwires with
    | fetch _ hclient =>
      rw [written?_perform_fetch hclient] at hx
      obtain ⟨raw, hraw, heq⟩ := Option.map_eq_some_iff.mp hx
      rw [hraw, Effect.raw.inj heq]
    | _ =>
      rw [Work.perform, Work.written?_outcomeOf] at hx
      obtain ⟨made, -, hmade⟩ := Work.completed?_outcomeOf hx
      cases hmade
  · rw [ho, hsettle] at hx
    cases hx

theorem Made.apart {fine : Json → Prop} {es : List Effect} (h : r.Made produced o)
    (h' : r.Made produced' o') (hregistry : r.registry.Constructs fine)
    (hresponses : r.ResponsesDistinct) (hcollision : Effect.NoCollision es)
    (hcall : o.1 ∈ r.plan.calls) (hcall' : o'.1 ∈ r.plan.calls) (hne : o.1.id ≠ o'.1.id)
    (he : o.2.written? = some e) (hf : o'.2.written? = some f) (hmem : e ∈ es) (hmem' : f ∈ es) :
    e.Apart f := by
  intro hstage hid
  rcases Effect.material_cases hstage with ⟨x, y, rfl, rfl⟩ | ⟨m, n, hm, hn⟩
  · exact hresponses _ hcall _ hcall' hne x y (h.response?_eq he) (h'.response?_eq hf) hid
  · have hfollows := h.follows hregistry he
    have hfollows' := h'.follows hregistry hf
    obtain rfl := hcollision.material_eq hmem hmem' hfollows hfollows' hm hn hstage hid
    exact hne ((hfollows.id_eq hm).1.symm.trans (hfollows'.id_eq hn).1)

theorem writesApart_of_distinct (hl : r.plan.Layered layers) (hregistry : r.registry.BuiltIn)
    (hresponses : r.ResponsesDistinct) (hcollision : Effect.NoCollision r.allWritten) :
    r.WritesApart := by
  intro outcomes houtcomes
  have hwritten : ∀ o ∈ outcomes, ∀ e, o.2.written? = some e → e ∈ r.allWritten := fun o ho e he =>
    List.mem_filterMap.mpr ⟨o, List.mem_flatten.mpr ⟨outcomes, houtcomes, ho⟩, he⟩
  obtain ⟨k, hk⟩ := List.getElem?_of_mem houtcomes
  obtain ⟨s, t, works, hreach, hlength, hstart, rfl⟩ := (ends_allRounds hl).allStarted k outcomes hk
  rw [← hlength] at hstart
  have hs := hreach.startInv hl hstart
  have hmade : ∀ o ∈ r.perform works, o.1 ∈ r.plan.calls ∧ r.Made s.produced o := by
    intro o ho
    obtain ⟨w, hw, rfl⟩ := mem_perform.mp ho
    obtain ⟨hcall, -, -, hwires⟩ := hs.works_mem w hw
    exact ⟨hcall, s, w.2, List.prefix_refl _, hwires, rfl⟩
  have hnames : (names (r.perform works)).Nodup := by
    rw [names_perform]
    exact hs.names_nodup
  refine List.pairwise_filterMap.mpr ((List.pairwise_map.mp hnames).imp_of_mem ?_)
  intro o o' ho ho' hne row hrow row' hrow'
  obtain ⟨e, he, rfl⟩ := Option.map_eq_some_iff.mp hrow
  obtain ⟨f, hf, rfl⟩ := Option.map_eq_some_iff.mp hrow'
  obtain ⟨hcall, hmade_o⟩ := hmade o ho
  obtain ⟨hcall', hmade_o'⟩ := hmade o' ho'
  exact hmade_o.apart hmade_o' hregistry.constructs hresponses hcollision hcall hcall' hne he hf
    (hwritten o ho e he) (hwritten o' ho' f hf)

theorem ResponsesDistinct.under (h : r.ResponsesDistinct) (limit : Nat) (readings : Readings) :
    (r.under limit readings).ResponsesDistinct := by
  have hid : ∀ call x, (r.under limit readings).response? call = some x →
      ∃ y, r.response? call = some y ∧ y.id = x.id := by
    intro call x hx
    obtain ⟨client, hclient, hx⟩ := Option.bind_eq_some_iff.mp hx
    simp only [response?, show r.clients.get? call.tool = some client from hclient,
      Option.bind_eq_bind, Option.bind_some]
    cases hexecute : client.execute call.id call.endpoint call.params with
    | error failure => simp [hexecute] at hx
    | ok raw =>
      simp only [hexecute, Option.some.injEq] at hx
      exact ⟨_, rfl, hx ▸ rfl⟩
  intro c hc d hd hne x y hx hy
  obtain ⟨x', hx', hxid⟩ := hid c x hx
  obtain ⟨y', hy', hyid⟩ := hid d y hy
  rw [← hxid, ← hyid]
  exact h c hc d hd hne x' y' hx' hy'

theorem Goes.sameReport_of_distinct {p : Request} {limit : Nat} {readings : Readings}
    (h : (p.under limit readings).Goes store deeds (.ended final))
    (hdeadline : p.options.deadlineMs = none) (hregistry : p.registry.BuiltIn)
    (hresponses : p.ResponsesDistinct)
    (hcollision : Effect.NoCollision (p.under limit readings).allWritten) :
    SameReport final ((p.under 1 readings).execute store) := by
  rcases h.cases with ⟨report, hbegins, -, hfinal⟩ | ⟨⟨layers, hlayers⟩, -⟩
  · cases hfinal
    rw [← execute_under hdeadline hbegins, hbegins.eq_execute]
    exact ⟨rfl, rfl, .refl _⟩
  · exact h.sameReport_one hdeadline (writesApart_of_distinct (Plan.layered_of_layers hlayers)
      hregistry (hresponses.under limit readings) hcollision)

end Request

/-! ## Through a view -/

namespace View

variable (v : View) {s t : Store}

theorem table_putAll {α : Type} [Keyed α] {f : α → α}
    (hf : ∀ a, Keyed.key (f a) = Keyed.key a) (t : Table α) (rows : List α) :
    table f (t.putAll rows) = (table f t).putAll (rows.map f) := by
  induction rows generalizing t with
  | nil => rfl
  | cons row rest ih =>
    change table f ((t.put row).putAll rest) = ((table f t).put (f row)).putAll (rest.map f)
    rw [ih, table_put hf]

def rows (rows : Rows) : Rows where
  raws := rows.raws.map v.rawRow
  extractions := rows.extractions.map v.extractionRow
  derivations := rows.derivations.map v.derivationRow
  claims := rows.claims.map v.claimRow
  plans := rows.plans.map v.planRow

theorem store_putAll (s : Store) (rows : Rows) :
    v.store (s.putAll rows) = (v.store s).putAll (v.rows rows) := by
  simp only [store, Store.putAll, View.rows, table_putAll (f := v.rawRow) fun _ => rfl,
    table_putAll (f := v.extractionRow) fun _ => rfl,
    table_putAll (f := v.derivationRow) fun _ => rfl, table_putAll (f := v.claimRow) fun _ => rfl,
    table_putAll (f := v.planRow) fun _ => rfl]

theorem sizes_store (s : Store) : (v.store s).sizes = s.sizes := by
  simp only [Store.sizes, store, table, Table.size, List.length_map]

end View

/-! ## One run after the other -/

namespace Request

/-- The store before each run: the first one begins with this store, and each other one where the
one before it ended. -/
def storeBefore (store : Store) (finals : Nat → RunReport) : Nat → Store
  | 0 => store
  | i + 1 => (finals i).store

/-- However often a plan is executed without the cache, each run ends as the first one did and
leaves the rows that the first one left, up to what was read from a clock. The tasks of each run may
go on in any order, and the runs may skip calls or fail. -/
theorem repeated_alike (p : Request) (limits : Nat → Nat) (readings : Nat → Readings)
    (store : Store) (finals : Nat → RunReport) (n : Nat)
    (hcache : p.options.allowCache = false) (hdeadline : p.options.deadlineMs = none)
    (hregistry : p.registry = .standard ∨ p.registry = .withStubs)
    (hjudged : View.clockless.Judged p.clients) (hresponses : p.ResponsesDistinct)
    (hfaults : ∀ i, (readings i).faults = (readings 0).faults)
    (hcollision : ∀ i ≤ n, Effect.NoCollision (p.under (limits i) (readings i)).allWritten)
    (hgoes : ∀ i ≤ n, ∃ deeds, (p.under (limits i) (readings i)).Goes
      (storeBefore store finals i) deeds (.ended (finals i))) :
    let v := View.clockless
    v.except v.artifacts (finals n).result = v.except v.artifacts (finals 0).result ∧
      (finals n).started = (finals 0).started ∧
      (v.store (finals n).store).SameRows (v.store (finals 0).store) ∧
      (finals n).store.sizes = (finals 0).store.sizes := by
  intro v
  obtain ⟨rows, started, result, hfirst⟩ := exists_rows (r := p.under 1 (readings 0)) hcache
  -- Each run does to its store what the first one would have done.
  have hrun : ∀ i ≤ n, v.except v.artifacts (finals i).result = v.except v.artifacts result ∧
      (finals i).started = started ∧
      (v.store (finals i).store).SameRows
        ((v.store (storeBefore store finals i)).putAll (v.rows rows)) := by
    intro i hi
    obtain ⟨deeds, hgo⟩ := hgoes i hi
    have hsame := hgo.sameReport_of_distinct hdeadline hregistry hresponses (hcollision i hi)
    have hclocks : v.Unclocked (readings i) (readings 0) :=
      ⟨fun _ => rfl, rfl, fun _ => rfl, rfl, rfl⟩
    have hseen : v.report ((p.under 1 (readings i)).execute (storeBefore store finals i)) =
        v.report ((p.under 1 (readings 0)).execute (storeBefore store finals i)) :=
      View.execute_seen (p := p.under 1 (readings i)) hdeadline (hfaults i) hclocks
        (View.handled_of_builtIn hregistry) hjudged _
    rw [hfirst] at hseen
    obtain ⟨hstore, hstarted, hresult⟩ := RunReport.mk.inj hseen
    refine ⟨?_, hsame.started.trans hstarted, ?_⟩
    · rw [hsame.result, hresult]
    · rw [← View.store_putAll, ← hstore]
      exact View.sameRows_store hsame.rows
  have hrows : ∀ i ≤ n, (v.store (finals i).store).SameRows
      ((v.store store).putAll (v.rows rows)) := by
    intro i hi
    induction i with
    | zero => exact (hrun 0 hi).2.2
    | succ i ih =>
      have hagain := (ih (by omega)).putAll (v.rows rows)
      rw [Store.putAll_putAll] at hagain
      exact (hrun (i + 1) hi).2.2.trans hagain
  obtain ⟨hresult, hstarted, -⟩ := hrun n (Nat.le_refl n)
  obtain ⟨hresult₀, hstarted₀, -⟩ := hrun 0 (Nat.zero_le n)
  have hsame := (hrows n (Nat.le_refl n)).trans (hrows 0 (Nat.zero_le n)).symm
  refine ⟨hresult.trans hresult₀.symm, hstarted.trans hstarted₀.symm, hsame, ?_⟩
  rw [← View.sizes_store v, hsame.sizes_eq, View.sizes_store]

/-! ### A page and its words, time and again -/

def uncached : Request :=
  { stubbed with options := { allowCache := false } }

theorem uncached_written (i : Nat) : (uncached.under 1 (stopped i)).allWritten = [.raw pageRaw,
    .extraction { Extraction.make wordsCall pageRaw "words" none
      (Handler.stubPayload wordsCall) with durationMs := .ofNat i }] := by
  have hpage : (uncached.under 1 (stopped i)).start 0 (.initial uncached.plan) =
      .work (.initial uncached.plan) [(pageCall, .fetch sampleClient)] := by cbv
  have hwords : (uncached.under 1 (stopped i)).start 1 pageDone =
      .work pageDone [(wordsCall, .extract Handler.stubExtract pageRaw)] := by cbv
  have hlast : ∀ e, (uncached.under 1 (stopped i)).start 2 (pageDone.complete wordsCall e) =
      .finished (pageDone.complete wordsCall e) := by
    intro e
    cbv
  have htakePage : (RunState.initial uncached.plan).takeOutcomes
      ((uncached.under 1 (stopped i)).perform [(pageCall, .fetch sampleClient)]) =
        .ok pageDone := by cbv
  have htakeWords : pageDone.takeOutcomes ((uncached.under 1 (stopped i)).perform
      [(wordsCall, .extract Handler.stubExtract pageRaw)]) =
        .ok (pageDone.complete wordsCall _) := rfl
  have hlength : (uncached.under 1 (stopped i)).plan.calls.length = 2 := rfl
  have hplan : (uncached.under 1 (stopped i)).plan = uncached.plan := rfl
  rw [allWritten, allRounds, hlength, hplan]
  simp only [rounds, hpage, htakePage, hwords, htakeWords, hlast]
  rfl

theorem noCollision_uncached (i : Nat) :
    Effect.NoCollision (uncached.under 1 (stopped i)).allWritten := by
  have hall : ∀ stage, ∀ m ∈ ((uncached.under 1 (stopped i)).allWritten.filter
      fun e => e.stage = stage).filterMap Effect.material?, m = ("c", "raw-a") := by
    intro stage m hm
    rw [uncached_written] at hm
    obtain ⟨e, he, hmaterial⟩ := List.mem_filterMap.mp hm
    rcases List.mem_cons.mp (List.mem_filter.mp he).1 with rfl | he
    · cases hmaterial
    · obtain rfl := List.mem_singleton.mp he
      cases hmaterial
      rfl
  intro stage m hm n hn _
  rw [hall stage m hm, hall stage n hn]

theorem responsesDistinct_uncached : uncached.ResponsesDistinct := by
  have hwords : uncached.response? wordsCall = none := rfl
  have hcalls : ∀ c ∈ uncached.plan.calls, c = pageCall ∨ c = wordsCall := by
    intro c hc
    exact (List.mem_cons.mp hc).imp_right List.mem_singleton.mp
  intro c hc d hd hne x y hx hy
  rcases hcalls c hc with rfl | rfl
  · rcases hcalls d hd with rfl | rfl
    · exact absurd rfl hne
    · rw [hwords] at hy
      cases hy
  · rw [hwords] at hx
    cases hx

theorem uncached_repeated :
    let first := (uncached.under 1 (stopped 0)).execute .empty
    let second := (uncached.under 1 (stopped 1)).execute first.store
    View.clockless.except View.clockless.artifacts second.result =
        View.clockless.except View.clockless.artifacts first.result ∧
      (View.clockless.store second.store).SameRows (View.clockless.store first.store) ∧
      second.store.sizes = first.store.sizes := by
  intro first second
  have hgoes : ∀ i ≤ 1, ∃ deeds, (uncached.under 1 (stopped i)).Goes
      (storeBefore .empty (fun i => if i = 0 then first else second) i) deeds
      (.ended (if i = 0 then first else second)) := by
    intro i hi
    cases i with
    | zero => exact goes_execute rfl .empty
    | succ i =>
      obtain rfl : i = 0 := by omega
      exact goes_execute rfl first.store
  obtain ⟨hresult, -, hrows, hsizes⟩ := repeated_alike uncached (fun _ => 1) stopped .empty
    (fun i => if i = 0 then first else second) 1 rfl rfl (.inr rfl) judged_sample
    responsesDistinct_uncached (fun _ => rfl) (fun i _ => noCollision_uncached i) hgoes
  exact ⟨hresult, hrows, hsizes⟩

end Request

end Lemmata
