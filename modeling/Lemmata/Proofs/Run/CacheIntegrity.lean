import Lemmata.Proofs.Run.Interleaving
import Lemmata.Proofs.Run.Skips

/-! # Whatever is in the cache of plans came of a whole run, and is backed by its effects -/

namespace Lemmata

variable {sys sys' : System} {store : Store} {r : Request} {p q : Point} {x : Option Statement}
variable {done : List (List (Call × Outcome))} {s t : RunState} {works : List (Call × Work)}
variable {outcomes : List (Call × Outcome)} {layers : List (List String)} {a : Artifacts}

/-! ## Effects that are written -/

def Stored (store : Store) (outcomes : List (Call × Outcome)) : Prop :=
  ∀ o ∈ outcomes, ∀ effect, o.2.written? = some effect → store.Holds effect.stage effect.id

theorem stored_nil (store : Store) : Stored store [] :=
  fun _ ho => (List.not_mem_nil ho).elim

def Store.Keeps (old new : Store) : Prop :=
  ∀ stage id, old.Holds stage id → new.Holds stage id

theorem Store.keeps_after (store : Store) (x : Option Statement) :
    store.Keeps (store.after x) := by
  intro stage id h
  cases x with
  | none => exact h
  | some x => exact h.run x

theorem Stored.mono {new : Store} (h : Stored store outcomes) (hkeeps : store.Keeps new) :
    Stored new outcomes :=
  fun o ho effect heffect => hkeeps _ _ (h o ho effect heffect)

theorem left_or_stored {before after : List (Call × Outcome)} {o : Call × Outcome}
    (h : ∀ o' ∈ outcomes, o' ∈ before ++ o :: after ∨ Stored store [o']) (ho : Stored store [o]) :
    ∀ o' ∈ outcomes, o' ∈ before ++ after ∨ Stored store [o'] := by
  intro o' ho'
  rcases h o' ho' with hmem | hdone
  · rw [List.mem_append, List.mem_cons, or_left_comm, ← List.mem_append] at hmem
    rcases hmem with rfl | hmem
    · exact .inr ho
    · exact .inl hmem
  · exact .inr hdone

namespace Request

/-! ## Whole runs -/

/-- A run that went through its plan and left nothing out. -/
structure Completes (r : Request) (a : Artifacts) : Prop where
  fresh : a.executed.fromCache = false
  hash_eq : a.executed.planHash = r.plan.hash
  skipped_eq : a.skipped = []
  callIds_nodup : r.plan.callIds.Nodup
  references_perm : (a.executed.references.map fun ref => (ref.callId, ref.tool, ref.stage)).Perm
    (r.plan.calls.map fun call => (call.id, call.tool, call.stage))

theorem Ends.produced_perm (h : Ends r done (.ok s)) (hl : r.plan.Layered layers)
    (hskipped : s.skipped = []) : (s.produced.map Prod.fst).Perm r.plan.calls := by
  obtain ⟨hinv, -⟩ := h.final hl
  have hnone : s.skippedIds = [] := by rw [RunState.skippedIds, hskipped, List.map_nil]
  have hcompleted : (s.produced.map Prod.fst).map Call.id = s.completed := List.map_map
  have hnodup : (s.produced.map Prod.fst).Nodup := by
    have hids := (List.nodup_append.mp hinv.accounted.done_nodup).1
    rw [← hcompleted] at hids
    exact List.Nodup.of_map _ hids
  refine (List.perm_ext_iff_of_nodup hnodup (List.Nodup.of_map _ hl.nodup)).mpr fun c => ?_
  constructor
  · intro hc
    obtain ⟨p, hp, rfl⟩ := List.mem_map.mp hc
    exact hinv.accounted.produced_mem p hp
  · intro hc
    have hid := h.completed_or_skipped hl (List.mem_map_of_mem hc)
    rw [hnone, ← hcompleted] at hid
    obtain ⟨d, hd, hid⟩ := List.mem_map.mp (hid.resolve_right List.not_mem_nil)
    obtain ⟨p, hp, rfl⟩ := List.mem_map.mp hd
    rwa [← List.inj_on_of_nodup_map hl.nodup (hinv.accounted.produced_mem p hp) hc hid]

theorem Ends.completes (h : Ends r done (.ok s)) (hl : r.plan.Layered layers)
    (hskipped : s.skipped = []) : r.Completes (r.artifacts s) where
  fresh := rfl
  hash_eq := rfl
  skipped_eq := hskipped
  callIds_nodup := hl.nodup
  references_perm := by
    have hperm := (h.produced_perm hl hskipped).map fun call => (call.id, call.tool, call.stage)
    rw [List.map_map] at hperm
    simpa [artifacts, Artifacts.ofEffects, summary, Run.summary, RunState.reference,
      Function.comp_def] using hperm

theorem Ends.holds_references (h : Ends r done (.ok s)) (hl : r.plan.Layered layers)
    (hstored : Stored store done.flatten) :
    ∀ ref ∈ (r.summary s).references, store.Holds ref.stage ref.effectId := by
  intro ref href
  obtain ⟨hinv, -⟩ := h.final hl
  obtain ⟨p, hp, rfl⟩ := List.mem_map.mp href
  obtain ⟨o, ho, -, heffect⟩ := hinv.mem_produced.mp hp
  have hholds := hstored o ho p.2 (Outcome.written?_of_completed? heffect)
  rwa [hinv.stage_eq hp] at hholds

end Request

/-! ## Entries of the cache -/

namespace System

/-- The entry was written by a run that left nothing out, and its effects are there. -/
def Genuine (sys : System) (row : PlanRow) : Prop :=
  ∃ job ∈ sys.jobs, ∃ a now, job.point = .ended (.ok a) ∧ job.request.Completes a ∧
    Store.IsEntry row (.ofExecuted now a.executed) ∧
    ∀ ref ∈ a.executed.references, sys.store.Holds ref.stage ref.effectId

/-- An executed plan as it is served from a genuine entry. -/
def Serves (sys : System) (hash : String) (executed : ExecutedPlan) : Prop :=
  ∃ entry e, sys.Genuine entry ∧ entry.hash = hash ∧ entry.executed = .ok e ∧
    executed = e.intoCached

structure Grows (sys sys' : System) : Prop where
  keeps : sys.store.Keeps sys'.store
  jobs : ∀ job ∈ sys.jobs, ∀ a, job.point = .ended (.ok a) → job ∈ sys'.jobs

theorem Genuine.mono {row : PlanRow} (h : sys.Genuine row) (hgrows : sys.Grows sys') :
    sys'.Genuine row := by
  obtain ⟨job, hjob, a, now, hpoint, hcompletes, hentry, hholds⟩ := h
  exact ⟨job, hgrows.jobs job hjob a hpoint, a, now, hpoint, hcompletes, hentry,
    fun ref href => hgrows.keeps _ _ (hholds ref href)⟩

theorem Genuine.entry {row old : PlanRow} (h : sys.Genuine old) (hentry : Store.IsEntry row old) :
    sys.Genuine row := by
  obtain ⟨job, hjob, a, now, hpoint, hcompletes, hold, hholds⟩ := h
  exact ⟨job, hjob, a, now, hpoint, hcompletes, hentry.trans hold, hholds⟩

theorem Genuine.executed {row : PlanRow} (h : sys.Genuine row) :
    ∃ e, row.executed = .ok e ∧ ∃ job ∈ sys.jobs, ∃ a, job.point = .ended (.ok a) ∧
      job.request.Completes a ∧ job.request.plan.hash = row.hash ∧
      e.references = a.executed.references ∧
      ∀ ref ∈ e.references, sys.store.Holds ref.stage ref.effectId := by
  obtain ⟨job, hjob, a, now, hpoint, hcompletes, ⟨access, rfl⟩, hholds⟩ := h
  exact ⟨_, PlanRow.executed_ofExecuted now access a.executed, job, hjob, a, hpoint, hcompletes,
    hcompletes.hash_eq.symm, rfl, hholds⟩

theorem Serves.mono {hash : String} {executed : ExecutedPlan} (h : sys.Serves hash executed)
    (hgrows : sys.Grows sys') : sys'.Serves hash executed := by
  obtain ⟨entry, e, hgenuine, hrest⟩ := h
  exact ⟨entry, e, hgenuine.mono hgrows, hrest⟩

/-! ## The invariant -/

def PointInv (sys : System) (r : Request) : Point → Prop
  | .asking => True
  | .touching entry => sys.Genuine entry ∧ entry.hash = r.plan.hash
  | .reading executed _ left => sys.Serves r.plan.hash executed ∧ left ⊆ executed.references
  | .working done s => (∃ layers, r.plan.layers = .ok layers) ∧ r.Reaches done s ∧
      Stored sys.store done.flatten
  | .writing done t outcomes left => (∃ layers, r.plan.layers = .ok layers) ∧
      ∃ s works, r.Reaches done s ∧ r.start done.length s = .work t works ∧
        outcomes = r.perform works ∧ Stored sys.store done.flatten ∧
        ∀ o ∈ outcomes, o ∈ left ∨ Stored sys.store [o]
  | .saving done s => (∃ layers, r.plan.layers = .ok layers) ∧ r.Ends done (.ok s) ∧
      s.skipped = [] ∧ Stored sys.store done.flatten
  | .ended (.ok a) => a.executed.fromCache = true →
      sys.Serves r.plan.hash a.executed ∧ a.skipped = []
  | .ended (.error _) => True

structure Invariant (sys : System) : Prop where
  genuine : ∀ row ∈ sys.store.plans.rows, sys.Genuine row
  points : ∀ job ∈ sys.jobs, sys.PointInv job.request job.point

theorem PointInv.mono (h : sys.PointInv r p) (hgrows : sys.Grows sys') : sys'.PointInv r p := by
  cases p with
  | asking => trivial
  | touching entry =>
    obtain ⟨hgenuine, hhash⟩ := h
    exact ⟨hgenuine.mono hgrows, hhash⟩
  | reading executed found left =>
    obtain ⟨hserves, hleft⟩ := h
    exact ⟨hserves.mono hgrows, hleft⟩
  | working done s =>
    obtain ⟨hlayers, hreach, hstored⟩ := h
    exact ⟨hlayers, hreach, hstored.mono hgrows.keeps⟩
  | writing done t outcomes left =>
    obtain ⟨hlayers, s, works, hreach, hstart, houtcomes, hstored, hleft⟩ := h
    exact ⟨hlayers, s, works, hreach, hstart, houtcomes, hstored.mono hgrows.keeps,
      fun o ho => (hleft o ho).imp_right fun h => h.mono hgrows.keeps⟩
  | saving done s =>
    obtain ⟨hlayers, hends, hskipped, hstored⟩ := h
    exact ⟨hlayers, hends, hskipped, hstored.mono hgrows.keeps⟩
  | ended result =>
    cases result with
    | error failure => trivial
    | ok a =>
      intro hcache
      obtain ⟨hserves, hskipped⟩ := h hcache
      exact ⟨hserves.mono hgrows, hskipped⟩

/-! ## Every step keeps it -/

theorem pointInv_opening (sys : System) (r : Request) : sys.PointInv r r.opening := by
  unfold Request.opening
  split
  · trivial
  · next layers hlayers =>
    split
    · trivial
    · exact ⟨⟨layers, hlayers⟩, .start, stored_nil _⟩

theorem pointInv_first (sys : System) (r : Request) : sys.PointInv r r.first := by
  unfold Request.first
  split
  · trivial
  · exact pointInv_opening sys r

/-- What a run does in a step leaves it with what holds of it, once the others have it too. -/
theorem PointInv.step (hinv : sys.Invariant) (h : sys.PointInv r p)
    (hstep : r.Step sys.store p x q) (hgrows : sys.Grows sys')
    (hstore : sys'.store = sys.store.after x) : sys'.PointInv r q := by
  have hnow := h.mono hgrows
  cases hstep with
  | refused => trivial
  | missed => exact pointInv_opening sys' r
  | found hfound =>
    obtain ⟨hmem, hhash⟩ := Table.mem_of_get? hfound
    exact ⟨(hinv.genuine _ hmem).mono hgrows, hhash⟩
  | untouched => trivial
  | @touched entry =>
    obtain ⟨hgenuine, hhash⟩ := hnow
    obtain ⟨e, he, -⟩ := hgenuine.executed
    rw [Request.serving, he]
    exact ⟨⟨entry, e, hgenuine, hhash, he, rfl⟩, List.Subset.refl _⟩
  | @read executed found ref left =>
    obtain ⟨hserves, hleft⟩ := hnow
    have hrest : left ⊆ executed.references := fun _ h => hleft (List.mem_cons_of_mem _ h)
    cases Run.restoreEffect r.readings.faults sys.store ref with
    | error failure => trivial
    | ok effect => cases effect <;> exact ⟨hserves, hrest⟩
  | served => exact fun _ => ⟨hnow.1, rfl⟩
  | finished hstart =>
    obtain ⟨hlayers, hreach, hstored⟩ := hnow
    unfold Request.closing
    split
    · next hskipped =>
      exact ⟨hlayers, .finished hreach hstart, List.isEmpty_iff.mp hskipped, hstored⟩
    · intro hcache
      cases hcache
  | stopped => trivial
  | started hstart =>
    obtain ⟨hlayers, hreach, hstored⟩ := hnow
    exact ⟨hlayers, _, _, hreach, hstart, rfl, hstored, fun o ho => .inl ho⟩
  | @wrote done t effect outcomes before after o hwritten =>
    obtain ⟨hlayers, s, works, hreach, hstart, houtcomes, hstored, hleft⟩ := hnow
    refine ⟨hlayers, s, works, hreach, hstart, houtcomes, hstored, left_or_stored hleft ?_⟩
    intro o ho e he
    obtain rfl := List.mem_singleton.mp ho
    obtain rfl : effect = e := Option.some.inj (hwritten.symm.trans he)
    rw [hstore]
    exact Store.holds_save _ _ _
  | @empty done t outcomes before after o hwritten =>
    obtain ⟨hlayers, s, works, hreach, hstart, houtcomes, hstored, hleft⟩ := hnow
    refine ⟨hlayers, s, works, hreach, hstart, houtcomes, hstored, left_or_stored hleft ?_⟩
    intro o ho e he
    obtain rfl := List.mem_singleton.mp ho
    rw [hwritten] at he
    cases he
  | taken htake =>
    obtain ⟨hlayers, s, works, hreach, hstart, rfl, hstored, hleft⟩ := hnow
    refine ⟨hlayers, .round hreach hstart htake, ?_⟩
    intro o ho
    rw [List.flatten_append, List.flatten_singleton, List.mem_append] at ho
    rcases ho with ho | ho
    · exact hstored o ho
    · exact (hleft o ho).resolve_left List.not_mem_nil o (List.mem_singleton_self o)
  | broken => trivial
  | unsaved => trivial
  | saved =>
    intro hcache
    cases hcache

/-- An entry after a step was there before, or the run has just saved it at its end. -/
theorem genuine_after (hinv : sys.Invariant) (h : sys.PointInv r p)
    (hstep : r.Step sys.store p x q) (hgrows : sys.Grows sys')
    (hstore : sys'.store = sys.store.after x) (hjob : ⟨r, q⟩ ∈ sys'.jobs) :
    ∀ row ∈ sys'.store.plans.rows, sys'.Genuine row := by
  intro row hrow
  rw [hstore] at hrow
  cases x with
  | none => exact (hinv.genuine row hrow).mono hgrows
  | some statement =>
    rcases Store.mem_plans_run hrow with ⟨old, hold, hentry⟩ | ⟨now, executed, rfl, rfl⟩
    · exact ((hinv.genuine old hold).mono hgrows).entry hentry
    · cases hstep with
      | saved =>
        obtain ⟨⟨layers, hlayers⟩, hends, hskipped, hstored⟩ := h.mono hgrows
        have hl := Plan.layered_of_layers hlayers
        exact ⟨_, hjob, _, _, rfl, hends.completes hl hskipped, .refl _,
          hends.holds_references hl hstored⟩

theorem invariant_empty : Invariant ⟨.empty, []⟩ where
  genuine := fun _ hrow => (List.not_mem_nil hrow).elim
  points := fun _ hjob => (List.not_mem_nil hjob).elim

theorem Invariant.next (h : sys.Invariant) (hnext : Next sys sys') : sys'.Invariant := by
  cases hnext with
  | begins _ r =>
    have hgrows : sys.Grows ⟨sys.store, sys.jobs ++ [⟨r, r.first⟩]⟩ :=
      ⟨fun _ _ => id, fun job hjob _ _ => List.mem_append_left _ hjob⟩
    refine ⟨fun row hrow => (h.genuine row hrow).mono hgrows, fun job hjob => ?_⟩
    rcases List.mem_append.mp hjob with hjob | hjob
    · exact (h.points job hjob).mono hgrows
    · obtain rfl := List.mem_singleton.mp hjob
      exact pointInv_first _ r
  | prunes _ cutoff =>
    have hgrows : sys.Grows ⟨(Statement.prune cutoff).run sys.store, sys.jobs⟩ :=
      ⟨fun _ _ hholds => hholds.run _, fun job hjob _ _ => hjob⟩
    refine ⟨fun row hrow => ?_, fun job hjob => (h.points job hjob).mono hgrows⟩
    rcases Store.mem_plans_run hrow with ⟨old, hold, hentry⟩ | ⟨now, executed, hother, -⟩
    · exact ((h.genuine old hold).mono hgrows).entry hentry
    · cases hother
  | @steps store before after r p q x hstep =>
    have hgrows : Grows ⟨store, before ++ ⟨r, p⟩ :: after⟩
        ⟨store.after x, before ++ ⟨r, q⟩ :: after⟩ := by
      refine ⟨store.keeps_after x, fun job hjob a hended => ?_⟩
      rw [List.mem_append, List.mem_cons] at hjob ⊢
      rcases hjob with hjob | rfl | hjob
      · exact .inl hjob
      · -- A run that has ended takes no step.
        cases hended
        cases hstep
      · exact .inr (.inr hjob)
    have hpoint := h.points ⟨r, p⟩ (List.mem_append_right _ List.mem_cons_self)
    refine ⟨genuine_after h hpoint hstep hgrows rfl
      (List.mem_append_right _ List.mem_cons_self), fun job hjob => ?_⟩
    rw [List.mem_append, List.mem_cons] at hjob
    rcases hjob with hjob | rfl | hjob
    · exact (h.points job (List.mem_append_left _ hjob)).mono hgrows
    · exact hpoint.step h hstep hgrows rfl
    · exact (h.points job (List.mem_append_right _ (List.mem_cons_of_mem _ hjob))).mono hgrows

theorem Reachable.invariant (h : sys.Reachable) : sys.Invariant := by
  induction h with
  | empty => exact invariant_empty
  | next _ hnext ih => exact ih.next hnext

/-! ## The cache keeps its word -/

/-- However runs and prunings are interleaved: each entry of the cache was written by a run that
completed every call of a plan with that hash, refers to each of them once, and has all their
effects behind it. No run that is served finds an effect missing, and none is served from a run
that failed or skipped a call. -/
theorem cache_integrity {sys : System} (h : sys.Reachable) :
    (∀ row ∈ sys.store.plans.rows, ∃ e, row.executed = .ok e ∧ ∃ job ∈ sys.jobs, ∃ a,
      job.point = .ended (.ok a) ∧ job.request.Completes a ∧ job.request.plan.hash = row.hash ∧
      e.references = a.executed.references ∧
      ∀ ref ∈ e.references, sys.store.Holds ref.stage ref.effectId) ∧
    (∀ job ∈ sys.jobs, ∀ executed found ref left,
      job.point = .reading executed found (ref :: left) →
      Run.restoreEffect job.request.readings.faults sys.store ref ≠ .ok none) ∧
    ∀ job ∈ sys.jobs, ∀ a, job.point = .ended (.ok a) → a.executed.fromCache = true →
      a.skipped = [] ∧ ∃ earlier ∈ sys.jobs, ∃ b, earlier.point = .ended (.ok b) ∧
        earlier.request.Completes b ∧ earlier.request.plan.hash = job.request.plan.hash ∧
        a.executed.references =
          b.executed.references.map fun ref => { ref with cached := true } := by
  have hinv := h.invariant
  refine ⟨fun row hrow => (hinv.genuine row hrow).executed, ?_, ?_⟩
  · intro job hjob executed found ref left hpoint hread
    have hreading := hinv.points job hjob
    rw [hpoint] at hreading
    obtain ⟨⟨entry, e, hgenuine, -, he, rfl⟩, hleft⟩ := hreading
    obtain ⟨e', he', _, _, _, _, _, _, _, hholds⟩ := hgenuine.executed
    obtain rfl : e = e' := Except.ok.inj (he.symm.trans he')
    obtain ⟨stored, hstored, rfl⟩ := List.mem_map.mp (hleft List.mem_cons_self)
    unfold Run.restoreEffect at hread
    split at hread
    · cases hread
    · exact Store.get_ne_none (hholds stored hstored) hread
  · intro job hjob a hpoint hcache
    have hended := hinv.points job hjob
    rw [hpoint] at hended
    obtain ⟨⟨entry, e, hgenuine, hhash, he, hexecuted⟩, hskipped⟩ := hended hcache
    obtain ⟨e', he', earlier, hearlier, b, hb, hcompletes, hplan, hreferences, -⟩ :=
      hgenuine.executed
    obtain rfl : e = e' := Except.ok.inj (he.symm.trans he')
    refine ⟨hskipped, earlier, hearlier, b, hb, hcompletes, hplan.trans hhash, ?_⟩
    rw [hexecuted, ← hreferences]
    rfl

def steady : Request :=
  { Request.sample with
    clients := Clients.empty.add "page" { Request.sampleClient with isSuccess := fun _ => true } }

def twice : System where
  store := (steady.execute .empty).store
  jobs := [⟨steady, .ended (steady.execute .empty).result⟩, ⟨steady, steady.first⟩]

theorem rows_twice : twice.store.plans.rows.length = 1 := by
  have hlayers : steady.plan.layers = .ok [["a", "b"], ["c", "d"]] := by cbv
  have hskipped : steady.allRounds.2.map RunState.skipped = .ok [] := by cbv
  have hwritten : (Run.writeAll steady.readings .empty steady.allRounds.1.flatten).plans.rows = [] := by
    cbv
  have hfresh : steady.execute .empty = Run.runFresh steady.plan steady.clients steady.registry
      steady.options steady.readings .empty := rfl
  have hlimits : Run.checkLimits steady.options steady.readings = .ok () := rfl
  cases hrounds : steady.allRounds.2 with
  | error failure =>
    rw [hrounds] at hskipped
    cases hskipped
  | ok s =>
    rw [hrounds] at hskipped
    have hnone : s.skipped = [] := Except.ok.inj hskipped
    have hfinish : steady.readings.faults.finish = none := rfl
    change (steady.execute .empty).store.plans.rows.length = 1
    rw [hfresh, Run.runFresh, hlayers, hlimits]
    simp only [Request.rounds_eq_allRounds, hrounds, Run.remember, hnone, hfinish]
    rw [Store.saveExecuted, Table.put, Table.erase, hwritten]
    rfl

theorem twice_cache_integrity : twice.Reachable ∧ twice.store.plans.rows.length = 1 ∧
    ∀ row ∈ twice.store.plans.rows, ∃ e, row.executed = .ok e ∧
      ∀ ref ∈ e.references, twice.store.Holds ref.stage ref.effectId := by
  have hfirst : Reachable ⟨(steady.execute .empty).store,
      [⟨steady, .ended (steady.execute .empty).result⟩]⟩ := Reachable.empty.execute steady
  have hreachable : twice.Reachable := hfirst.next (.begins _ steady)
  refine ⟨hreachable, rows_twice, fun row hrow => ?_⟩
  obtain ⟨e, he, _, _, _, _, _, _, _, hholds⟩ := (cache_integrity hreachable).1 row hrow
  exact ⟨e, he, hholds⟩

end System

end Lemmata
