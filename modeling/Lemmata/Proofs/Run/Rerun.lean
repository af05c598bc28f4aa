import Lemmata.Proofs.Effect.Identity
import Lemmata.Proofs.Run.Interleaving
import Lemmata.Proofs.Run.LayerByLayer

/-! # A run that is served from the cache gives what the first run gave -/

namespace Lemmata

/-! ## IDs -/

/-- No row of the one can replace that of the other. -/
def Effect.Apart (e f : Effect) : Prop :=
  e.stage = f.stage → e.id ≠ f.id

theorem Effect.BuiltIn.apart {e f : Effect} {c d : Call} {m n : String × String}
    {ms : List (String × String)} (he : e.BuiltIn c) (hf : f.BuiltIn d) (hne : c.id ≠ d.id)
    (hm : e.material? = some m) (hn : f.material? = some n) (hlabel : e.label = f.label)
    (hms : EffectId.NoCollision ms) (hmem : m ∈ ms) (hmem' : n ∈ ms) : e.id ≠ f.id := by
  obtain ⟨hcall, hid, -⟩ := he m hm
  obtain ⟨hcall', hid', -⟩ := hf n hn
  intro heq
  rw [hid, hid', ← hlabel] at heq
  obtain rfl := hms.eq hmem hmem' heq
  exact hne (hcall.symm.trans hcall')

namespace Artifacts

def effects (a : Artifacts) : List Effect :=
  a.raws.map .raw ++ a.extractions.map .extraction ++ a.derivations.map .derivation ++
    a.claims.map .claim

/-- What the IDs of the run were made of: the call and the effect that it consumed. -/
def materials (a : Artifacts) : List (String × String) :=
  a.effects.filterMap Effect.material?

theorem mem_effects_ofEffects {executed : ExecutedPlan} {effects : List Effect}
    {skipped : List SkippedCall} {e : Effect} :
    e ∈ (ofEffects executed effects skipped).effects ↔ e ∈ effects := by
  simp only [Artifacts.effects, ofEffects, List.mem_append, List.mem_map, List.mem_filterMap]
  constructor
  · rintro (((⟨x, ⟨f, hf, hx⟩, rfl⟩ | ⟨x, ⟨f, hf, hx⟩, rfl⟩) | ⟨x, ⟨f, hf, hx⟩, rfl⟩) |
      ⟨x, ⟨f, hf, hx⟩, rfl⟩) <;> cases f <;> cases hx <;> exact hf
  · intro he
    cases e with
    | raw x => exact .inl (.inl (.inl ⟨x, ⟨_, he, rfl⟩, rfl⟩))
    | extraction x => exact .inl (.inl (.inr ⟨x, ⟨_, he, rfl⟩, rfl⟩))
    | derivation x => exact .inl (.inr ⟨x, ⟨_, he, rfl⟩, rfl⟩)
    | claim x => exact .inr ⟨x, ⟨_, he, rfl⟩, rfl⟩

end Artifacts

/-! ## Effects of the first run -/

namespace RunState

variable {s : RunState} {plan : Plan} {clients : Clients} {registry : Registry} {call : Call}
variable {work : Work} {effect : Effect}

theorem mem_produced_of_producedAt? {stage : Stage} {callId : String}
    (h : s.producedAt? stage callId = some effect) : ∃ p ∈ s.produced, p.2 = effect := by
  obtain ⟨hfound, -⟩ := Option.filter_eq_some_iff.mp h
  obtain ⟨p, hp, rfl⟩ := Option.map_eq_some_iff.mp hfound
  exact ⟨p, List.mem_of_find?_eq_some hp, rfl⟩

theorem mem_produced_of_source? (h : s.source? plan call = some effect) :
    ∃ p ∈ s.produced, p.2 = effect := by
  obtain ⟨stage, -, h⟩ := Option.bind_eq_some_iff.mp h
  rw [Option.orElse_eq_orElse, Option.orElse_eq_or, Option.or_eq_some_iff] at h
  rcases h with h | ⟨-, h⟩
  · obtain ⟨callId, -, h⟩ := Option.bind_eq_some_iff.mp h
    exact mem_produced_of_producedAt? h
  · obtain ⟨callId, -, h⟩ := List.exists_of_findSome?_eq_some h
    exact mem_produced_of_producedAt? h

theorem Wires.builtIn {planId : String} {durationMs : UInt64}
    (h : s.Wires plan clients registry call work) (hregistry : registry.BuiltIn)
    (hs : ∀ p ∈ s.produced, p.2.BuiltIn p.1) (hduration : Column.Fits durationMs)
    (heffect : (work.perform planId call durationMs).completed? = some effect) :
    effect.BuiltIn call := by
  cases h with
  | fetch _ _ =>
    obtain ⟨raw, -, -, rfl⟩ := Work.completed?_fetchOutcome heffect
    intro m hm
    cases hm
  | extract _ _ hhandler =>
    obtain ⟨e, he, rfl⟩ := Work.completed?_outcomeOf heffect
    exact hregistry.extract hhandler he hduration
  | derive _ hsource hhandler =>
    obtain ⟨e, he, rfl⟩ := Work.completed?_outcomeOf heffect
    obtain ⟨p, hp, hpsource⟩ := mem_produced_of_source? hsource
    have hbuilt := hs p hp
    rw [hpsource] at hbuilt
    exact hregistry.derive hhandler he (hbuilt _ rfl).2.2 hduration
  | claim _ hsource hhandler =>
    obtain ⟨e, he, rfl⟩ := Work.completed?_outcomeOf heffect
    obtain ⟨p, hp, hpsource⟩ := mem_produced_of_source? hsource
    have hbuilt := hs p hp
    rw [hpsource] at hbuilt
    exact hregistry.claim hhandler he (hbuilt _ rfl).2.2 hduration

end RunState

/-- The clock measures durations that a signed number holds. -/
structure Readings.Fits (readings : Readings) : Prop where
  call : ∀ id, Column.Fits (readings.call id)
  total : Column.Fits readings.total

namespace Request

variable {p q r : Request} {layers : List (List String)} {done : List (List (Call × Outcome))}
variable {s t : RunState} {store : Store} {a : Artifacts}

theorem Reaches.builtIn (h : Reaches r done s) (hl : r.plan.Layered layers)
    (hregistry : r.registry.BuiltIn) (hclock : r.readings.Fits) :
    ∀ p ∈ s.produced, p.2.BuiltIn p.1 := by
  induction h with
  | start => exact fun _ hp => (List.not_mem_nil hp).elim
  | @round done s t u works h hstart htake ih =>
    have hs := h.startInv hl hstart
    intro p hp
    rw [(hs.taken htake).produced_eq, hs.produced_eq, List.mem_append] at hp
    rcases hp with hp | hp
    · exact ih p hp
    · obtain ⟨o, ho, hp⟩ := List.mem_filterMap.mp hp
      obtain ⟨effect, heffect, rfl⟩ := Option.map_eq_some_iff.mp hp
      obtain ⟨w, hw, rfl⟩ := mem_perform.mp ho
      obtain ⟨-, -, -, hwires⟩ := hs.works_mem w hw
      rcases settle_cases r.plan r.readings.faults w.1
        (w.2.perform r.plan.id w.1 (r.readings.call w.1.id)) with hsettle | ⟨failure, hsettle⟩
      · rw [hsettle] at heffect
        exact hwires.builtIn hregistry ih (hclock.call w.1.id) heffect
      · rw [hsettle] at heffect
        cases heffect

theorem Ends.builtIn (h : Ends r done (.ok s)) (hl : r.plan.Layered layers)
    (hregistry : r.registry.BuiltIn) (hclock : r.readings.Fits) :
    ∀ p ∈ s.produced, p.2.BuiltIn p.1 := by
  cases h with
  | finished h hstart =>
    obtain ⟨rfl, -⟩ := start_finished hstart
    rw [RunState.produced_skipBlocked (h.roundInv hl).accounted]
    exact h.builtIn hl hregistry hclock

theorem Ends.effects_eq (h : Ends r done (.ok s)) (hl : r.plan.Layered layers)
    (hskipped : s.skipped = []) : s.effects = s.produced.map Prod.snd := by
  obtain ⟨hinv, -⟩ := h.final hl
  rw [hinv.effects_eq, hinv.produced_eq, List.map_filterMap]
  apply List.filterMap_congr
  intro o ho
  rcases (hinv.passed o ho).not_fatal with hsome | ⟨-, -, hid⟩
  · obtain ⟨effect, heffect⟩ := Option.isSome_iff_exists.mp hsome
    rw [Outcome.written?_of_completed? heffect, RunState.completedOf, heffect]
    rfl
  · rw [RunState.skippedIds, hskipped] at hid
    exact (List.not_mem_nil hid).elim

theorem raws_eq_filterMap (executed : ExecutedPlan) (effects : List Effect)
    (skipped : List SkippedCall) :
    (Artifacts.ofEffects executed effects skipped).raws = effects.filterMap Effect.raw? := rfl

theorem Ends.apart (h : Ends r done (.ok s)) (hl : r.plan.Layered layers)
    (hbuilt : ∀ p ∈ s.produced, p.2.BuiltIn p.1) (heffects : s.effects = s.produced.map Prod.snd)
    (hids : ((r.artifacts s).raws.map RawResponse.id).Nodup)
    (hms : EffectId.NoCollision (r.artifacts s).materials) : s.effects.Pairwise Effect.Apart := by
  obtain ⟨hinv, -⟩ := h.final hl
  have hcalls : s.produced.Pairwise fun p q => p.1.id ≠ q.1.id :=
    List.pairwise_map.mp (List.nodup_append.mp hinv.accounted.done_nodup).1
  have hraws : s.produced.Pairwise fun p q =>
      ∀ x, p.2.raw? = some x → ∀ y, q.2.raw? = some y → x.id ≠ y.id := by
    rw [artifacts, raws_eq_filterMap, heffects, List.filterMap_map] at hids
    exact List.pairwise_filterMap.mp (List.pairwise_map.mp hids)
  have hmaterial : ∀ p ∈ s.produced, ∀ m, p.2.material? = some m →
      m ∈ (r.artifacts s).materials := by
    intro p hp m hm
    refine List.mem_filterMap.mpr ⟨p.2, Artifacts.mem_effects_ofEffects.mpr ?_, hm⟩
    exact heffects ▸ List.mem_map_of_mem hp
  rw [heffects, List.pairwise_map]
  refine (hcalls.and hraws).imp_of_mem ?_
  rintro ⟨c, e⟩ ⟨d, f⟩ hp hq ⟨hne, hraw⟩ hstage
  have hsame : ∀ m n, e.material? = some m → f.material? = some n → e.label = f.label →
      e.id ≠ f.id := fun m n hm hn hlabel =>
    (hbuilt _ hp).apart (hbuilt _ hq) hne hm hn hlabel hms (hmaterial _ hp m hm)
      (hmaterial _ hq n hn)
  cases e with
  | raw x =>
    cases f with
    | raw y => exact hraw x rfl y rfl
    | _ => cases hstage
  | extraction x =>
    cases f with
    | extraction y => exact hsame _ _ rfl rfl rfl
    | _ => cases hstage
  | derivation x =>
    cases f with
    | derivation y => exact hsame _ _ rfl rfl rfl
    | _ => cases hstage
  | claim x =>
    cases f with
    | claim y => exact hsame _ _ rfl rfl rfl
    | _ => cases hstage

theorem Ends.lasting (hbuilt : ∀ p ∈ s.produced, p.2.BuiltIn p.1)
    (heffects : s.effects = s.produced.map Prod.snd)
    (hfetches : ∀ e ∈ (r.artifacts s).raws, Column.Fits e.durationMs) :
    ∀ e ∈ s.effects, e.Lasting := by
  intro e he
  rw [heffects] at he
  obtain ⟨p, hp, rfl⟩ := List.mem_map.mp he
  obtain ⟨c, e⟩ := p
  cases e with
  | raw x =>
    refine hfetches x (List.mem_filterMap.mpr ⟨.raw x, ?_, rfl⟩)
    exact heffects ▸ List.mem_map_of_mem hp
  | extraction x => exact (hbuilt _ hp _ rfl).2.2
  | derivation x => exact (hbuilt _ hp _ rfl).2.2
  | claim x => exact (hbuilt _ hp _ rfl).2.2

/-! ## The store after the first run -/

def writes (readings : Readings) (outcomes : List (Call × Outcome)) : List Statement :=
  outcomes.filterMap fun o => o.2.written?.map (.write (readings.write o.1.id))

theorem writeAll_eq_runAll (readings : Readings) (store : Store)
    (outcomes : List (Call × Outcome)) :
    Run.writeAll readings store outcomes = Statement.runAll store (writes readings outcomes) := by
  induction outcomes generalizing store with
  | nil => rfl
  | cons o rest ih =>
    rw [writeAll_cons, ih, Run.writeOutcome, writes, writes, List.filterMap_cons]
    cases o.2.written? <;> rfl

theorem get_writeAll {readings : Readings} {outcomes : List (Call × Outcome)}
    (happart : (outcomes.filterMap fun o => o.2.written?).Pairwise Effect.Apart)
    (hlasting : ∀ e ∈ outcomes.filterMap fun o => o.2.written?, e.Lasting) :
    ∀ e ∈ outcomes.filterMap fun o => o.2.written?,
      (Run.writeAll readings store outcomes).get e.stage e.id = .ok (some e) := by
  induction outcomes generalizing store with
  | nil => exact fun _ he => (List.not_mem_nil he).elim
  | cons o rest ih =>
    rw [writeAll_cons]
    cases hwritten : o.2.written? with
    | none =>
      have hsame := List.filterMap_cons_none (f := fun o => o.2.written?) (l := rest) hwritten
      rw [hsame] at happart hlasting ⊢
      exact ih happart hlasting
    | some new =>
      have hcons := List.filterMap_cons_some (f := fun o => o.2.written?) (l := rest) hwritten
      rw [hcons] at happart hlasting ⊢
      obtain ⟨hnew, hrest⟩ := List.pairwise_cons.mp happart
      obtain ⟨hnewLasting, hlasting⟩ := List.forall_mem_cons.mp hlasting
      intro e he
      rcases List.mem_cons.mp he with rfl | he
      · -- The later rows are others.
        rw [writeAll_eq_runAll, Store.get_runAll, Run.writeOutcome, hwritten]
        · exact Store.get_save hnewLasting
        · intro x hx now f hwrite hstage
          obtain ⟨o', ho', hx⟩ := List.mem_filterMap.mp hx
          obtain ⟨g, hg, rfl⟩ := Option.map_eq_some_iff.mp hx
          cases hwrite
          exact (hnew f (List.mem_filterMap.mpr ⟨o', ho', hg⟩) hstage.symm).symm
      · exact ih hrest hlasting e he

theorem remember_ok {readings : Readings} {executed : ExecutedPlan} {saved : Store}
    (hskipped : s.skipped = []) (h : Run.remember readings store executed s = .ok saved) :
    saved = store.saveExecuted readings.finish executed := by
  unfold Run.remember at h
  rw [if_pos (List.isEmpty_iff.mpr hskipped)] at h
  split at h
  · cases h
  · exact (Except.ok.inj h).symm

theorem Ends.get_writeAll (h : Ends r done (.ok s)) (hl : r.plan.Layered layers)
    (heffects : s.effects = s.produced.map Prod.snd) (happart : s.effects.Pairwise Effect.Apart)
    (hlasting : ∀ e ∈ s.effects, e.Lasting) : ∀ p ∈ s.produced,
      (Run.writeAll r.readings store done.flatten).get p.1.stage p.2.id = .ok (some p.2) := by
  obtain ⟨hinv, -⟩ := h.final hl
  intro p hp
  have hmem : p.2 ∈ s.effects := heffects ▸ List.mem_map_of_mem hp
  rw [hinv.effects_eq] at happart hlasting hmem
  rw [← hinv.stage_eq hp]
  exact Request.get_writeAll happart hlasting p.2 hmem

/-! ## Served -/

theorem restoreEffects_map {faults : Faults} {α : Type} {ref : α → Reference} {e : α → Effect}
    {found : List α}
    (h : ∀ x ∈ found, Run.restoreEffect faults store (ref x) = .ok (some (e x))) :
    Run.restoreEffects faults store (found.map ref) = .ok (found.map e) := by
  have hall : (found.map ref).mapM (Run.restoreEffect faults store) =
      .ok (found.map fun x => some (e x)) := by
    induction found with
    | nil => rfl
    | cons x rest ih =>
      rw [List.map_cons, List.mapM_cons, h x List.mem_cons_self,
        ih fun y hy => h y (List.mem_cons_of_mem _ hy)]
      rfl
  rw [Run.restoreEffects, hall]
  simp [bind, Except.bind, pure, Except.pure, List.filterMap_map]

theorem execute_of_entry {row : PlanRow} {e : ExecutedPlan} (hallow : q.options.allowCache = true)
    (hfaults : q.readings.faults.lookup = none)
    (hfound : store.plans.get? q.plan.hash = some row) (hread : row.executed = .ok e) :
    q.execute store = ⟨store.touch q.readings.lookup q.plan.hash, [],
      Run.restore q.readings.faults (store.touch q.readings.lookup q.plan.hash) e⟩ := by
  have hask : Run.ask q.readings store q.plan.hash =
      (store.touch q.readings.lookup q.plan.hash, .ok (some e)) := by
    rw [Run.ask, hfaults]
    simp only [Store.findExecuted, hfound, Store.readRow, hread]
    rfl
  rw [execute, Run.execute, if_pos hallow, hask]

end Request

/-- The statement leaves the effects and the entry of this run as they are; a pruning may drop the
entry. -/
def Statement.Spares (a : Artifacts) : Statement → Prop
  | write _ e => ∀ ref ∈ a.executed.references, e.stage = ref.stage → e.id ≠ ref.effectId
  | remember _ executed => executed.planHash ≠ a.executed.planHash
  | touch _ _ => True
  | prune _ => True

namespace Request

/-- A run of a plan with the same hash is answered with what the first run gave, in the same order
and marked as cached. In between there may be any statements of other runs and prunings, as long as
they overwrite nothing of it and its entry is still there. The second run starts no call. -/
theorem execute_again (p q : Request) (store : Store) (a : Artifacts) (later : List Statement)
    (hregistry : p.registry = .standard ∨ p.registry = .withStubs)
    (hrun : (p.execute store).result = .ok a) (hfresh : a.executed.fromCache = false)
    (hskipped : a.skipped = []) (hids : (a.raws.map RawResponse.id).Nodup)
    (hfetches : ∀ e ∈ a.raws, Column.Fits e.durationMs) (hclock : p.readings.Fits)
    (hcollision : EffectId.NoCollision a.materials) (hlater : ∀ x ∈ later, x.Spares a)
    (hkept : (Statement.runAll (p.execute store).store later).wasAccessed p.plan.hash = true)
    (hhash : q.plan.hash = p.plan.hash) (hallow : q.options.allowCache = true)
    (hlookup : q.readings.faults.lookup = none)
    (hread : ∀ ref ∈ a.executed.references, q.readings.faults.read ref.effectId = none) :
    let report := q.execute (Statement.runAll (p.execute store).store later)
    report.started = [] ∧ report.result = .ok { a with executed := a.executed.intoCached } := by
  obtain ⟨layers, done, s, saved, hlayers, hends, hsave, rfl, hreport⟩ :=
    completed_of_execute hrun hfresh
  have hl := Plan.layered_of_layers hlayers
  obtain ⟨hinv, -⟩ := hends.final hl
  have heffects := hends.effects_eq hl hskipped
  have hbuilt := hends.builtIn hl hregistry hclock
  have happart := hends.apart hl hbuilt heffects hids hcollision
  have hlasting := Ends.lasting hbuilt heffects hfetches
  obtain rfl := remember_ok hskipped hsave
  rw [hreport] at hkept ⊢
  generalize hfinal : Statement.runAll _ later = final at hkept ⊢
  -- The effects are still there.
  have hget : ∀ p ∈ s.produced, final.get p.1.stage p.2.id = .ok (some p.2) := by
    intro p hp
    rw [← hfinal, Store.get_runAll]
    · exact hends.get_writeAll hl heffects happart hlasting p hp
    · rintro x hx now e rfl
      exact hlater _ hx _ (List.mem_map_of_mem hp)
  -- So is the entry.
  obtain ⟨row, hrow⟩ := Option.isSome_iff_exists.mp hkept
  have hentry : Store.IsEntry row (.ofExecuted p.readings.finish (p.summary s)) := by
    obtain ⟨hmem, hkey⟩ := Table.mem_of_get? hrow
    rw [← hfinal] at hmem
    refine Store.isEntry_runAll Store.isEntry_saveExecuted ?_ row hmem hkey
    rintro x hx now e rfl
    exact hlater _ hx
  obtain ⟨access, rfl⟩ := hentry
  have hsummary : PlanRow.executed { PlanRow.ofExecuted p.readings.finish (p.summary s) with
      lastAccess := access } = .ok (p.summary s) := by
    rw [PlanRow.executed_ofExecuted, summary, Run.summary,
      Column.readDuration_toInt64 hclock.total]
  rw [execute_of_entry hallow hlookup (hhash ▸ hrow) hsummary]
  refine ⟨rfl, ?_⟩
  have hrestore : Run.restoreEffects q.readings.faults (final.touch q.readings.lookup q.plan.hash)
      (p.summary s).intoCached.references = .ok s.effects := by
    have hmap : (p.summary s).intoCached.references =
        s.produced.map fun x => { RunState.reference x with cached := true } := List.map_map
    rw [heffects, hmap]
    refine restoreEffects_map fun x hx => ?_
    have hfault := hread _ (List.mem_map_of_mem hx)
    rw [Run.restoreEffect, hfault]
    rw [Store.get_touch]
    exact hget x hx
  have hnone : s.skipped = [] := hskipped
  simp only [Run.restore, hrestore, hnone]
  rfl

/-! ### A page and its words -/

def pageCall : Call := { tool := "page", id := "a", endpoint := "", stage := .fetch }

def wordsCall : Call := { tool := "words", id := "c", endpoint := "", stage := .extract }

def stubbed : Request :=
  { sample with
    plan := { sample.plan with
      calls := [pageCall, wordsCall], dependencies := [{ blocker := "a", blocked := "c" }] }
    registry := .withStubs }

def pageRaw : RawResponse where
  id := "raw-a"
  tool := "page"
  callId := "a"
  endpoint := ""
  status := 200
  contentType := "text/plain"
  headers := .empty
  body := []
  durationMs := 1

def pageDone : RunState :=
  (RunState.initial stubbed.plan).complete pageCall (.raw pageRaw)

def wordsDone : RunState :=
  pageDone.complete wordsCall
    (.extraction (.make wordsCall pageRaw "words" none (Handler.stubPayload wordsCall)))

theorem stubbed_execute : ∃ (store : Store) (started : List (List String)),
    stubbed.execute .empty =
      ⟨store.saveExecuted stubbed.readings.finish (stubbed.summary wordsDone), started,
        .ok (stubbed.artifacts wordsDone)⟩ := by
  have hpage : Run.startRound stubbed.plan stubbed.clients stubbed.registry stubbed.options
      stubbed.readings 0 (.initial stubbed.plan) =
        .work (.initial stubbed.plan) [(pageCall, .fetch sampleClient)] := by cbv
  have hwords : Run.startRound stubbed.plan stubbed.clients stubbed.registry stubbed.options
      stubbed.readings 1 pageDone =
        .work pageDone [(wordsCall, .extract Handler.stubExtract pageRaw)] := by cbv
  have hany : ∀ e, Run.startRound stubbed.plan stubbed.clients stubbed.registry stubbed.options
      stubbed.readings 2 (pageDone.complete wordsCall e) =
        .finished (pageDone.complete wordsCall e) := by
    intro e
    cbv
  have hlast : Run.startRound stubbed.plan stubbed.clients stubbed.registry stubbed.options
      stubbed.readings 2 wordsDone = .finished wordsDone := hany _
  have htakePage : (RunState.initial stubbed.plan).takeOutcomes (Run.performAll stubbed.plan
      stubbed.readings [(pageCall, .fetch sampleClient)]) = .ok pageDone := by cbv
  have htakeWords : pageDone.takeOutcomes (Run.performAll stubbed.plan stubbed.readings
      [(wordsCall, .extract Handler.stubExtract pageRaw)]) = .ok wordsDone := rfl
  have hlayers : stubbed.plan.layers = .ok [["a"], ["c"]] := by cbv
  have hlimits : Run.checkLimits stubbed.options stubbed.readings = .ok () := rfl
  have hlength : stubbed.plan.calls.length = 2 := rfl
  have hfresh : stubbed.execute .empty = Run.runFresh stubbed.plan stubbed.clients
      stubbed.registry stubbed.options stubbed.readings .empty := rfl
  rw [hfresh, Run.runFresh, hlayers]
  simp only [hlimits, hlength, Run.rounds, hpage, htakePage, hwords, htakeWords, hlast]
  exact ⟨_, _, rfl⟩

theorem stubbed_again :
    let first := stubbed.execute .empty
    let again := stubbed.execute (Statement.runAll first.store
      [.write { second := 1 } (.raw (.blank "other" "a" "")), .touch { second := 2 } "h"])
    let a := stubbed.artifacts wordsDone
    first.result = .ok a ∧ again.started = [] ∧
      again.result = .ok { a with executed := a.executed.intoCached } := by
  obtain ⟨store, started, hreport⟩ := stubbed_execute
  have hresult : (stubbed.execute .empty).result = .ok (stubbed.artifacts wordsDone) := by
    rw [hreport]
  have hzero : Column.Fits 0 := by decide
  refine ⟨hresult, execute_again stubbed stubbed .empty _ _ (.inr rfl) hresult rfl rfl
    (List.nodup_singleton _) ?_ ⟨fun _ => hzero, hzero⟩ ?_ ?_ ?_ rfl rfl rfl fun _ _ => rfl⟩
  · intro e he
    obtain rfl : e = pageRaw := List.mem_singleton.mp he
    decide
  · intro m hm n hn _
    obtain rfl : m = ("c", "raw-a") := List.mem_singleton.mp hm
    obtain rfl : n = ("c", "raw-a") := List.mem_singleton.mp hn
    rfl
  · intro x hx
    simp only [List.mem_cons, List.not_mem_nil, or_false] at hx
    rcases hx with rfl | rfl
    · intro ref href hstage
      rcases List.mem_cons.mp href with rfl | href
      · decide
      · obtain rfl := List.mem_singleton.mp href
        cases hstage
    · trivial
  · rw [hreport]
    rfl

end Request

end Lemmata
