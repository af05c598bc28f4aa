import Lemmata.Proofs.Run.Rerun
import Lemmata.Proofs.Store.Legible
import Mathlib.Data.List.Induction

/-! # A remembered run is served again exactly if its rows can be read -/

namespace Lemmata

/-! ## The row that is there in the end -/

namespace Effect

def latest? (es : List Effect) (stage : Stage) (id : String) : Option Effect :=
  (es.filter fun e => e.stage = stage ∧ e.id = id).getLast?

variable {es : List Effect} {e : Effect} {stage : Stage} {id : String}

theorem latest?_append (es : List Effect) (e : Effect) (stage : Stage) (id : String) :
    latest? (es ++ [e]) stage id =
      if e.stage = stage ∧ e.id = id then some e else latest? es stage id := by
  unfold latest?
  rw [List.filter_append]
  split
  · next h => simp [h]
  · next h => simp [h]

theorem isSome_latest? (h : e ∈ es) : ∃ f, latest? es e.stage e.id = some f := by
  have hmem : e ∈ es.filter fun f => f.stage = e.stage ∧ f.id = e.id := by simp [h]
  obtain ⟨f, hf⟩ :=
    Option.isSome_iff_exists.mp (List.getLast?_isSome.mpr (List.ne_nil_of_mem hmem))
  exact ⟨f, hf⟩

end Effect

namespace Artifacts

variable (executed : ExecutedPlan) (effects : List Effect) (skipped : List SkippedCall)

/-- Stage by stage, and in the order of the effects within each. -/
theorem effects_ofEffects : (ofEffects executed effects skipped).effects =
    effects.filter (fun e => e.stage = .fetch) ++ effects.filter (fun e => e.stage = .extract) ++
      effects.filter (fun e => e.stage = .derive) ++ effects.filter fun e => e.stage = .claim := by
  have hpart : ∀ {α : Type} (part : Effect → Option α) (wrap : α → Effect) (stage : Stage),
      (∀ e, (part e).map wrap = if e.stage = stage then some e else none) →
      (effects.filterMap part).map wrap = effects.filter fun e => e.stage = stage := by
    intro α part wrap stage h
    rw [List.map_filterMap, ← List.filterMap_eq_filter]
    refine List.filterMap_congr fun e _ => ?_
    simpa [Option.guard] using h e
  unfold Artifacts.effects ofEffects
  rw [hpart _ .raw .fetch, hpart _ .extraction .extract, hpart _ .derivation .derive,
    hpart _ .claim .claim]
  all_goals
    intro e
    cases e <;> rfl

theorem latest?_effects (stage : Stage) (id : String) :
    Effect.latest? (ofEffects executed effects skipped).effects stage id =
      Effect.latest? effects stage id := by
  have hpart : ∀ part, (effects.filter fun e => e.stage = part).filter
      (fun e => e.stage = stage ∧ e.id = id) =
        if part = stage then effects.filter fun e => e.stage = stage ∧ e.id = id else [] := by
    intro part
    rw [List.filter_filter]
    split
    · next h =>
      refine List.filter_congr fun e _ => ?_
      simp +contextual [h]
    · next h =>
      rw [List.filter_eq_nil_iff]
      intro e _ he
      simp only [Bool.and_eq_true, decide_eq_true_eq] at he
      exact h (he.2.symm.trans he.1.1)
  unfold Effect.latest?
  rw [effects_ofEffects, List.filter_append, List.filter_append, List.filter_append, hpart, hpart,
    hpart, hpart]
  cases stage <;> simp

end Artifacts

namespace Request

variable {p q r : Request} {layers : List (List String)} {done : List (List (Call × Outcome))}
variable {s : RunState} {store : Store} {a : Artifacts} {stage : Stage} {id : String}

theorem get_writeAll_eq (readings : Readings) (store : Store) (outcomes : List (Call × Outcome))
    (stage : Stage) (id : String) :
    (Run.writeAll readings store outcomes).get stage id =
      match Effect.latest? (outcomes.filterMap fun o => o.2.written?) stage id with
      | none => store.get stage id
      | some e => if e.Legible then .ok (some e.reread) else .error .unreadable := by
  induction outcomes using List.reverseRecOn with
  | nil => rfl
  | append_singleton before o ih =>
    rw [writeAll_append, List.filterMap_append]
    change (Run.writeOutcome readings (Run.writeAll readings store before) o).get stage id = _
    unfold Run.writeOutcome
    cases hwritten : o.2.written? with
    | none => simpa [hwritten] using ih
    | some e =>
      have hlast : [o].filterMap (fun o => o.2.written?) = [e] := by simp [hwritten]
      rw [hlast, Effect.latest?_append]
      by_cases he : e.stage = stage ∧ e.id = id
      · rw [if_pos he]
        obtain ⟨rfl, rfl⟩ := he
        exact Store.get_save_eq _ _ _
      · rw [if_neg he]
        exact (Store.get_save_of_ne he).trans ih

/-! ## Reading all references -/

end Request

theorem mapM_ok_iff {α β : Type} {f : α → Except Failure β} {as : List α} :
    (∃ bs, as.mapM f = .ok bs) ↔ ∀ a ∈ as, ∃ b, f a = .ok b := by
  induction as with
  | nil => simp [pure, Except.pure]
  | cons a rest ih =>
    rw [List.forall_mem_cons, ← ih, List.mapM_cons]
    cases f a with
    | error failure => simp [bind, Except.bind]
    | ok b => cases rest.mapM f <;> simp [bind, Except.bind, pure, Except.pure]

theorem mem_of_mapM_error {α β : Type} {f : α → Except Failure β} {as : List α}
    {failure : Failure} (h : as.mapM f = .error failure) : ∃ a ∈ as, f a = .error failure := by
  induction as with
  | nil => cases h
  | cons a rest ih =>
    rw [List.mapM_cons] at h
    cases ha : f a with
    | error why =>
      simp [ha, bind, Except.bind] at h
      exact ⟨a, List.mem_cons_self, ha.trans (congrArg _ h)⟩
    | ok b =>
      cases hrest : rest.mapM f with
      | ok bs => simp [ha, hrest, bind, Except.bind, pure, Except.pure] at h
      | error why =>
        simp [ha, hrest, bind, Except.bind] at h
        obtain ⟨a', ha', hfail⟩ := ih (hrest.trans (congrArg _ h))
        exact ⟨a', List.mem_cons_of_mem _ ha', hfail⟩

namespace Request

theorem restore_eq (faults : Faults) (store : Store) (cached : ExecutedPlan) :
    Run.restore faults store cached =
      (cached.intoCached.references.mapM (Run.restoreEffect faults store)).map
        fun found => .ofEffects cached.intoCached (found.filterMap id) [] := by
  unfold Run.restore Run.restoreEffects
  dsimp only
  generalize cached.intoCached.references.mapM (Run.restoreEffect faults store) = all
  cases all <;> rfl

theorem restore_ok_iff {faults : Faults} {cached : ExecutedPlan} :
    (∃ b, Run.restore faults store cached = .ok b) ↔
      ∀ ref ∈ cached.intoCached.references, ∃ e, Run.restoreEffect faults store ref = .ok e := by
  rw [← mapM_ok_iff, restore_eq]
  generalize cached.intoCached.references.mapM (Run.restoreEffect faults store) = all
  cases all <;> simp [Except.map]

theorem restore_error {faults : Faults} {cached : ExecutedPlan} {failure : Failure}
    (h : Run.restore faults store cached = .error failure) :
    ∃ ref ∈ cached.intoCached.references,
      Run.restoreEffect faults store ref = .error failure := by
  refine mem_of_mapM_error ?_
  rw [restore_eq] at h
  generalize cached.intoCached.references.mapM (Run.restoreEffect faults store) = all at h ⊢
  cases all with
  | error why => exact congrArg _ (Except.error.inj h)
  | ok found => cases h

/-! ## Served from the rows of an earlier run -/

/-- A run that was remembered is served again exactly if the row of each of its effects can be
read, that is, if what its handlers gave is not nested too deep; and otherwise every further run of
a plan with its hash fails. -/
theorem execute_after (p q : Request) (store : Store) (a : Artifacts)
    (hrun : (p.execute store).result = .ok a) (hfresh : a.executed.fromCache = false)
    (hskipped : a.skipped = []) (hhash : q.plan.hash = p.plan.hash)
    (hallow : q.options.allowCache = true) (hlookup : q.readings.faults.lookup = none)
    (hread : ∀ id, q.readings.faults.read id = none) :
    let again := q.execute (p.execute store).store
    again.started = [] ∧
    ((∃ b, again.result = .ok b) ↔ ∀ ref ∈ a.executed.references, ∀ e,
      Effect.latest? a.effects ref.stage ref.effectId = some e → e.Legible) ∧
    ∀ failure, again.result = .error failure → failure = .unreadable := by
  obtain ⟨layers, done, s, saved, hlayers, hends, hsave, rfl, hreport⟩ :=
    completed_of_execute hrun hfresh
  have hl := Plan.layered_of_layers hlayers
  obtain ⟨hinv, -⟩ := hends.final hl
  have heffects := hends.effects_eq hl hskipped
  obtain rfl := remember_ok hskipped hsave
  rw [hreport]
  generalize hwritten : Run.writeAll p.readings (p.asked store) done.flatten = written
  have hrow : (written.saveExecuted p.readings.finish (p.summary s)).plans.get? q.plan.hash =
      some (.ofExecuted p.readings.finish (p.summary s)) := by
    rw [hhash]
    exact Table.get?_put_self written.plans (.ofExecuted p.readings.finish (p.summary s))
  have hentry := PlanRow.executed_ofExecuted p.readings.finish p.readings.finish.text (p.summary s)
  rw [execute_of_entry hallow hlookup hrow hentry]
  -- What is read for a reference is the last row that the run wrote there.
  have hget : ∀ ref ∈ (p.summary s).references, ∃ e,
      Effect.latest? (p.artifacts s).effects ref.stage ref.effectId = some e ∧
        Run.restoreEffect q.readings.faults
          ((written.saveExecuted p.readings.finish (p.summary s)).touch q.readings.lookup
            q.plan.hash) { ref with cached := true } =
          if e.Legible then .ok (some e.reread) else .error .unreadable := by
    intro ref href
    obtain ⟨x, hx, rfl⟩ := List.mem_map.mp href
    have hmem : x.2 ∈ s.effects := heffects ▸ List.mem_map_of_mem hx
    obtain ⟨e, he⟩ := Effect.isSome_latest? hmem
    rw [hinv.stage_eq hx] at he
    refine ⟨e, (Artifacts.latest?_effects _ _ _ _ _).trans he, ?_⟩
    have hall := get_writeAll_eq p.readings (p.asked store) done.flatten x.1.stage x.2.id
    rw [← hinv.effects_eq, he, hwritten] at hall
    rw [Run.restoreEffect, hread]
    exact (Store.get_touch _ _).trans hall
  refine ⟨rfl, ?_, ?_⟩
  · refine restore_ok_iff.trans (List.forall_mem_map.trans (forall₂_congr fun ref href => ?_))
    obtain ⟨e, he, hrestore⟩ := hget ref href
    rw [hrestore]
    constructor
    · rintro ⟨x, hx⟩ f hf
      obtain rfl : e = f := Option.some.inj (he.symm.trans hf)
      by_contra hnot
      rw [if_neg hnot] at hx
      cases hx
    · intro h
      exact ⟨_, if_pos (h e he)⟩
  · intro failure h
    obtain ⟨ref, href, hfailure⟩ := restore_error h
    obtain ⟨stored, hstored, rfl⟩ := List.mem_map.mp href
    obtain ⟨e, -, hrestore⟩ := hget stored hstored
    rw [hrestore] at hfailure
    split at hfailure
    · cases hfailure
    · exact (Except.error.inj hfailure).symm

/-! ### A page and words that are nested too deep -/

def nested : Nat → Json
  | 0 => .array []
  | n + 1 => .array [nested n]

def laden (payload : Json) : Request :=
  { stubbed with
    registry := Registry.empty.addExtract "words" fun call raw =>
      (sampleExtract call raw).map fun e => { e with payload } }

def ladenWords (payload : Json) : Extraction where
  id := "ext-c"
  tool := "words"
  callId := "c"
  sourceCallId := "a"
  responseId := "raw-a"
  kind := "words"
  canonical := none
  payload := payload
  chain := []
  durationMs := 0

def ladenDone (payload : Json) : RunState :=
  pageDone.complete wordsCall (.extraction (ladenWords payload))

theorem laden_execute (payload : Json) : ((laden payload).execute .empty).result =
    .ok ((laden payload).artifacts (ladenDone payload)) := by
  have hpage : (laden payload).start 0 (.initial stubbed.plan) =
      .work (.initial stubbed.plan) [(pageCall, .fetch sampleClient)] := by cbv
  have hpageTake : (RunState.initial stubbed.plan).takeOutcomes
      ((laden payload).perform [(pageCall, .fetch sampleClient)]) = .ok pageDone := by cbv
  have hwords : (laden payload).start 1 pageDone = .work pageDone [(wordsCall, .extract
      (fun call raw => (sampleExtract call raw).map fun e => { e with payload }) pageRaw)] := by
    cbv
  have hwordsTake : pageDone.takeOutcomes ((laden payload).perform [(wordsCall, .extract
      (fun call raw => (sampleExtract call raw).map fun e => { e with payload }) pageRaw)]) =
        .ok (ladenDone payload) := by cbv
  have hlast : (laden payload).start 2 (ladenDone payload) = .finished (ladenDone payload) := by cbv
  have hrounds : (laden payload).allRounds.2 = .ok (ladenDone payload) := by
    have hfirst : (laden payload).allRounds =
        (laden payload).rounds 3 0 (.initial stubbed.plan) := rfl
    simp only [hfirst, rounds, hpage, hpageTake, Nat.reduceAdd, hwords, hwordsTake, hlast]
  have hlayers : (laden payload).plan.layers = .ok [["a"], ["c"]] := by cbv
  rw [result_of_allRounds hlayers rfl (fun _ => rfl) rfl, hrounds]
  rfl

theorem legible_nested {n : Nat} : (nested n).Legible ↔ n + 1 ≤ Json.Reader.nestingLimit := by
  have hdepth : ∀ n, (nested n).depth = n + 1 := by
    intro n
    induction n with
    | zero => rfl
    | succ n ih => simp [nested, Json.depth, Json.depthItems, ih]
  have hnumbers : ∀ n, (nested n).isLegible = true := by
    intro n
    induction n with
    | zero => rfl
    | succ n ih => simp [nested, Json.isLegible, Json.areLegible, ih]
  rw [Json.Legible, hdepth, hnumbers]
  simp

theorem legible_laden {n : Nat} :
    (∀ ref ∈ ((laden (nested n)).artifacts (ladenDone (nested n))).executed.references, ∀ e,
      Effect.latest? ((laden (nested n)).artifacts (ladenDone (nested n))).effects ref.stage
        ref.effectId = some e → e.Legible) ↔ n + 1 ≤ Json.Reader.nestingLimit := by
  have hreferences : ((laden (nested n)).artifacts (ladenDone (nested n))).executed.references =
      [RunState.reference (pageCall, .raw pageRaw),
        RunState.reference (wordsCall, .extraction (ladenWords (nested n)))] := rfl
  have hpage : Effect.latest? ((laden (nested n)).artifacts (ladenDone (nested n))).effects
      .fetch "raw-a" = some (.raw pageRaw) := by cbv
  have hwords : Effect.latest? ((laden (nested n)).artifacts (ladenDone (nested n))).effects
      .extract "ext-c" = some (.extraction (ladenWords (nested n))) := by cbv
  have hchain : (Json.ofChain []).Legible := by decide
  rw [hreferences, List.forall_mem_cons, List.forall_mem_singleton]
  constructor
  · rintro ⟨-, h⟩
    exact legible_nested.mp (h _ hwords).1
  · intro h
    refine ⟨fun e he => ?_, fun e he => ?_⟩
    · obtain rfl : .raw pageRaw = e := Option.some.inj (hpage.symm.trans he)
      trivial
    · obtain rfl : .extraction (ladenWords (nested n)) = e := Option.some.inj (hwords.symm.trans he)
      exact ⟨legible_nested.mpr h, hchain⟩

theorem laden_again :
    let shallow := laden (nested 126)
    let deep := laden (nested 127)
    (∃ b, (shallow.execute (shallow.execute .empty).store).result = .ok b) ∧
      (∃ a, (deep.execute .empty).result = .ok a) ∧
      (deep.execute (deep.execute .empty).store).result = .error .unreadable := by
  have hagain : ∀ n, _ := fun n =>
    execute_after (laden (nested n)) (laden (nested n)) .empty _ (laden_execute (nested n)) rfl rfl
      rfl rfl rfl fun _ => rfl
  refine ⟨(hagain 126).2.1.mpr (legible_laden.mpr (by decide)), ⟨_, laden_execute _⟩, ?_⟩
  cases hresult : ((laden (nested 127)).execute
    ((laden (nested 127)).execute .empty).store).result with
  | ok b =>
    have hdeep := legible_laden.mp ((hagain 127).2.1.mp ⟨b, hresult⟩)
    exact absurd hdeep (by decide)
  | error failure => rw [(hagain 127).2.2 failure hresult]

end Request

end Lemmata
