import Lemmata.Proofs.Run.Failures
import Lemmata.Proofs.Run.LookUp
import Lemmata.Proofs.Run.Repeated

/-! # Stubs among the built-in handlers -/

namespace Lemmata

/-! ## What a call leaves for the next stage -/

/-- The key of the list that the registered tools of a stage leave, and those of the next one ask
for. -/
def Stage.listKey? : Stage → Option String
  | .extract => some "tokens"
  | .derive => some "lemmas"
  | .fetch | .claim => none

def Effect.payload : Effect → Json
  | .raw _ => .null
  | .extraction e => e.payload
  | .derivation e => e.payload
  | .claim e => e.value

namespace Registry

variable {r : Registry} {call : Call} {e : Effect} {key : String} {strings : List String}

theorem BuiltIn.resolves? (hr : r.BuiltIn) {stage : Stage} (hstage : stage ≠ .fetch)
    (tool : String) : r.resolves? stage tool = some true := by
  cases stage with
  | fetch => exact absurd rfl hstage
  | extract => rw [Registry.resolves?, hr.extractFor?_eq, Option.isSome_some]
  | derive => rw [Registry.resolves?, hr.deriveFor?_eq, Option.isSome_some]
  | claim => rw [Registry.resolves?, hr.claimFor?_eq, Option.isSome_some]

/-- A call with a registered tool leaves the list of its stage, any other one no list. -/
def Leaves (r : Registry) (call : Call) (e : Effect) : Prop :=
  ∀ key, call.stage.listKey? = some key →
    if r.isRegistered call.stage call.tool = true
    then ∃ strings, Handler.stringsIn e.payload key = .ok strings
    else Handler.stringsIn e.payload key = .error s!"payload has no '{key}' array"

theorem Leaves.of_list (hkey : call.stage.listKey? = some key)
    (hregistered : r.isRegistered call.stage call.tool = true)
    (h : e.payload.member? key = some (.ofStrings strings)) : r.Leaves call e := by
  intro other hother
  obtain rfl := Option.some.inj (hkey.symm.trans hother)
  rw [if_pos hregistered]
  exact ⟨strings, Handler.stringsIn_eq_ok_iff.mpr h⟩

theorem Leaves.of_stub (hregistered : r.isRegistered call.stage call.tool = false)
    (h : e.payload = Handler.stubPayload call) : r.Leaves call e := by
  intro key hkey
  rw [if_neg (by simp [hregistered]), h]
  cases hstage : call.stage <;> rw [hstage] at hkey <;> cases hkey <;> rfl

theorem Leaves.of_no_list (h : call.stage.listKey? = none) : r.Leaves call e := by
  intro key hkey
  rw [h] at hkey
  cases hkey

end Registry

namespace RunState

variable {s : RunState} {plan : Plan} {clients : Clients} {registry : Registry} {call : Call}
variable {work : Work} {e : Effect} {key text planId : String} {durationMs : UInt64}

/-- A call completes unless its tool is registered and its source has no list for it. -/
theorem Wires.completes (h : s.Wires plan clients registry call work)
    (hregistry : registry.BuiltIn) (hsource : s.source? plan call = some e)
    (hlist : registry.isRegistered call.stage call.tool = true →
      ∀ key, e.stage.listKey? = some key →
        ∃ strings, Handler.stringsIn e.payload key = .ok strings) :
    ∃ made, work.perform planId call durationMs = .completed made ∧
      registry.Leaves call made := by
  cases h with
  | fetch hstage _ => simp [source?, hstage, Stage.previous?] at hsource
  | extract hstage _ hhandler =>
    rw [hregistry.extractFor?_eq, ← hstage, Option.some.injEq] at hhandler
    subst hhandler
    split_ifs with hregistered
    · exact ⟨_, rfl, .of_list (by rw [hstage]; rfl) hregistered rfl⟩
    · exact ⟨_, rfl, .of_stub (by simpa using hregistered) rfl⟩
  | derive hstage hextraction hhandler =>
    cases hsource.symm.trans hextraction
    rw [hregistry.deriveFor?_eq, ← hstage, Option.some.injEq] at hhandler
    subst hhandler
    split_ifs with hregistered
    · obtain ⟨tokens, htokens⟩ := hlist hregistered "tokens" rfl
      simp only [Work.perform, Handler.deriveLemmas, Effect.payload] at htokens ⊢
      rw [htokens]
      exact ⟨_, rfl, .of_list (by rw [hstage]; rfl) hregistered rfl⟩
    · exact ⟨_, rfl, .of_stub (by simpa using hregistered) rfl⟩
  | claim hstage hderivation hhandler =>
    cases hsource.symm.trans hderivation
    rw [hregistry.claimFor?_eq, ← hstage, Option.some.injEq] at hhandler
    subst hhandler
    split_ifs with hregistered
    · obtain ⟨lemmas, hlemmas⟩ := hlist hregistered "lemmas" rfl
      simp only [Work.perform, Handler.claimLemmas, Effect.payload] at hlemmas ⊢
      rw [hlemmas]
      exact ⟨_, rfl, .of_no_list (by rw [hstage]; rfl)⟩
    · exact ⟨_, rfl, .of_no_list (by rw [hstage]; rfl)⟩

theorem Wires.fails (h : s.Wires plan clients registry call work)
    (hregistry : registry.BuiltIn) (hsource : s.source? plan call = some e)
    (hregistered : registry.isRegistered call.stage call.tool = true)
    (hkey : e.stage.listKey? = some key)
    (hlist : Handler.stringsIn e.payload key = .error text) :
    work.perform planId call durationMs =
      .failed (.handlerFailed planId call.id call.stage text) := by
  cases h with
  | fetch hstage _ => simp [source?, hstage, Stage.previous?] at hsource
  | extract _ hraw _ =>
    cases hsource.symm.trans hraw
    cases hkey
  | derive hstage hextraction hhandler =>
    cases hsource.symm.trans hextraction
    cases hkey
    rw [hregistry.deriveFor?_eq, ← hstage, if_pos hregistered, Option.some.injEq] at hhandler
    subst hhandler
    simp only [Work.perform, Handler.deriveLemmas, Effect.payload] at hlist ⊢
    rw [hlist]
    rfl
  | claim hstage hderivation hhandler =>
    cases hsource.symm.trans hderivation
    cases hkey
    rw [hregistry.claimFor?_eq, ← hstage, if_pos hregistered, Option.some.injEq] at hhandler
    subst hhandler
    simp only [Work.perform, Handler.claimLemmas, Effect.payload] at hlist ⊢
    rw [hlist]
    rfl

end RunState

/-! ## Where a call takes its input from -/

namespace Plan

variable {p : Plan} {layers : List (List String)} {layer : List String} {id : String} {k : Nat}

def callAmong? (p : Plan) (earlier : List String) (stage : Stage) (id : String) : Option Call :=
  if earlier.contains id then (p.call? id).filter fun call => call.stage = stage else none

def before (layers : List (List String)) (id : String) : List String :=
  (layers.takeWhile fun layer => id ∉ layer).flatten

/-- The call that another one takes its input from, if nothing is skipped: the one that it names,
if that is of the stage before and of an earlier layer, and otherwise its first blocker of the stage
before. -/
def sourceCall? (p : Plan) (layers : List (List String)) (call : Call) : Option Call := do
  let stage ← call.stage.previous?
  let among := p.callAmong? (before layers call.id) stage
  (call.param? "source_call_id").bind among <|> (p.blockers call.id).findSome? among

theorem before_eq (hk : layers[k]? = some layer) (hid : id ∈ layer)
    (hnew : id ∉ firstLayers layers k) : before layers id = firstLayers layers k := by
  induction layers generalizing k with
  | nil => cases hk
  | cons first rest ih =>
    cases k with
    | zero =>
      obtain rfl := Option.some.inj hk
      simp [before, hid]
    | succ k =>
      obtain ⟨hfirst, hrest⟩ : id ∉ first ∧ id ∉ firstLayers rest k := by
        simpa [firstLayers] using hnew
      simpa [before, firstLayers, hfirst] using ih hk hrest

theorem isSome_sourceCall? {call blocker : Call} (hnodup : p.callIds.Nodup)
    (hblocker : blocker ∈ p.calls) (hstage : call.stage.previous? = some blocker.stage)
    (hblocks : blocker.id ∈ p.blockers call.id) (hbefore : blocker.id ∈ before layers call.id) :
    (p.sourceCall? layers call).isSome = true := by
  have hfound : p.call? blocker.id = some blocker :=
    (Call.find?_eq_some_iff hnodup).mpr ⟨hblocker, rfl⟩
  have hsome : ((p.blockers call.id).findSome?
      (p.callAmong? (before layers call.id) blocker.stage)).isSome = true := by
    rw [List.findSome?_isSome_iff]
    exact ⟨blocker.id, hblocks, by simp [callAmong?, hbefore, hfound]⟩
  simp only [sourceCall?, hstage, Option.bind_eq_bind, Option.bind_some, Option.orElse_eq_orElse,
    Option.orElse_eq_or, Option.isSome_or, hsome, Bool.or_true]

end Plan

/-! ## Options that correspond -/

section

variable {α β γ : Type} {R : β → γ → Prop}

theorem rel_orElse {x x' : Option β} {y y' : Option γ} (h : Option.Rel R x y)
    (h' : Option.Rel R x' y') : Option.Rel R (x <|> x') (y <|> y') := by
  cases h with
  | some h => exact .some h
  | none => exact h'

theorem rel_findSome? {f : α → Option β} {g : α → Option γ}
    (h : ∀ a, Option.Rel R (f a) (g a)) (as : List α) :
    Option.Rel R (as.findSome? f) (as.findSome? g) := by
  induction as with
  | nil => exact .none
  | cons a rest ih =>
    have ha := h a
    rw [List.findSome?_cons, List.findSome?_cons]
    generalize f a = x at ha
    generalize g a = y at ha
    cases ha with
    | some h => exact .some h
    | none => exact ih

end

namespace Request

variable {r : Request} {layers : List (List String)} {layer : List String}
variable {done : List (List (Call × Outcome))} {s t : RunState} {works : List (Call × Work)}
variable {call : Call} {key : String}

/-! ## Sources of a run that skips nothing -/

section

variable (h : RoundInv r layers done s) (hl : r.plan.Layered layers) (hskipped : s.skippedIds = [])
include h hl hskipped

theorem RoundInv.rel_among (stage : Stage) (id : String) :
    Option.Rel (fun c e => (c, e) ∈ s.produced)
      (r.plan.callAmong? (Plan.firstLayers layers done.length) stage id)
      (s.producedAt? stage id) := by
  have hdone : id ∈ s.completed ↔ id ∈ Plan.firstLayers layers done.length := by
    rw [h.mem_completed, hskipped]
    simp
  by_cases hid : id ∈ s.completed
  · obtain ⟨p, hp, rfl⟩ := List.mem_map.mp hid
    have hnodup := (List.nodup_append.mp h.accounted.done_nodup).1
    have hfound : r.plan.call? p.1.id = some p.1 :=
      (Call.find?_eq_some_iff hl.nodup).mpr ⟨h.call_mem hp, rfl⟩
    rw [Plan.callAmong?, if_pos (by simpa using hdone.mp hid), RunState.producedAt?, hfound,
      RunState.produced?_eq hnodup hp, Option.filter_some, Option.filter_some, h.stage_eq hp]
    split_ifs
    · exact .some hp
    · exact .none
  · have hnone : s.produced? id = none := by
      rw [← Option.not_isSome_iff_eq_none, RunState.isSome_produced?_iff]
      exact hid
    rw [Plan.callAmong?, if_neg (by simpa using fun hlayer => hid (hdone.mpr hlayer)),
      RunState.producedAt?, hnone]
    exact .none

theorem RoundInv.rel_source (hk : layers[done.length]? = some layer) (hid : call.id ∈ layer) :
    Option.Rel (fun c e => (c, e) ∈ s.produced) (r.plan.sourceCall? layers call)
      (s.source? r.plan call) := by
  unfold Plan.sourceCall? RunState.source?
  rw [Plan.before_eq hk hid ((hl.mem_layer hk).mp hid).2.1]
  cases call.stage.previous? with
  | none => exact .none
  | some stage =>
    simp only [Option.bind_eq_bind, Option.bind_some]
    refine rel_orElse ?_ (rel_findSome? (h.rel_among hl hskipped stage) _)
    cases call.param? "source_call_id" with
    | none => exact .none
    | some id => exact h.rel_among hl hskipped stage id

end

/-! ## A run in which every fetch is answered -/

/-- A run with built-in handlers and stubs, without the cache and a deadline, in which nothing goes
wrong around the handlers: all later calls have a blocker of the stage before, all fetches are
answered, all tasks run to their end and all rows are written. -/
structure Unhindered (r : Request) : Prop where
  registry : r.registry = .standard ∨ r.registry = .withStubs
  chained : ∀ call ∈ r.plan.calls, ∀ stage, call.stage.previous? = some stage →
    ∃ blocker ∈ r.plan.calls, blocker.id ∈ r.plan.blockers call.id ∧ blocker.stage = stage
  allowCache_eq : r.options.allowCache = false
  deadline_eq : r.options.deadlineMs = none
  maxConcurrency_le : r.options.maxConcurrency ≤ Run.greatestConcurrency
  answered : ∀ call ∈ r.plan.calls, call.stage = .fetch → ∃ raw, r.answer? call = some raw
  task_eq : ∀ id, r.readings.faults.task id = none
  write_eq : ∀ id, r.readings.faults.write id = none
  finish_eq : r.readings.faults.finish = none

/-- A call with a registered tool takes its input from a call without one, which leaves no list
under the key. -/
def Starves (r : Request) (layers : List (List String)) (call : Call) (key : String) : Prop :=
  r.registry.isRegistered call.stage call.tool = true ∧
    ∃ source, r.plan.sourceCall? layers call = some source ∧
      source.stage.listKey? = some key ∧
      r.registry.isRegistered source.stage source.tool = false

/-- All calls so far left what their tools let expect, and none of them starved. -/
def Fed (r : Request) (layers : List (List String)) (s : RunState) : Prop :=
  ∀ p ∈ s.produced, r.registry.Leaves p.1 p.2 ∧ ∀ key, ¬ r.Starves layers p.1 key

namespace Unhindered

variable (h : r.Unhindered) (hl : r.plan.Layered layers)
include h

theorem not_dropped (id : String) : ¬ r.Dropped id := by
  intro hdropped
  induction hdropped with
  | missed hcall hstage _ _ hmiss =>
    obtain ⟨raw, hraw⟩ := h.answered _ hcall hstage
    rw [misses_iff.mp hmiss] at hraw
    cases hraw
  | blocked _ _ ih => exact ih

theorem fetch_completes {work : Work} (hcall : call ∈ r.plan.calls) (hstage : call.stage = .fetch)
    (hwires : s.Wires r.plan r.clients r.registry call work) :
    ∃ e, work.perform r.plan.id call (r.readings.call call.id) = .completed e := by
  obtain ⟨raw, hraw⟩ := h.answered call hcall hstage
  cases hwires with
  | fetch _ hclient =>
    refine ⟨.raw raw, Outcome.eq_of_completed? ?_⟩
    rw [completed?_perform_fetch hclient, hraw, Option.map_some]
  | extract hother | derive hother | claim hother =>
    rw [hstage] at hother
    cases hother

theorem result_eq (hlayers : r.plan.layers = .ok layers) (store : Store) :
    (r.execute store).result =
      r.allRounds.2.map fun s => .ofEffects (r.summary s) s.effects s.skipped := by
  have hlimits := Run.checkLimits_of_untimed r.readings h.deadline_eq
  rw [if_pos h.maxConcurrency_le] at hlimits
  refine result_of_allRounds hlayers hlimits ?_ h.finish_eq
  intro hallow
  rw [h.allowCache_eq] at hallow
  cases hallow

include hl

theorem skippedIds_eq (hreach : Reaches r done s) : s.skippedIds = [] :=
  List.eq_nil_iff_forall_not_mem.mpr fun id hid => h.not_dropped id (hreach.dropped hl id hid)

theorem exists_source (hreach : Reaches r done s) (hk : layers[done.length]? = some layer)
    (hcall : call ∈ r.plan.calls) (hid : call.id ∈ layer) (hstage : call.stage ≠ .fetch) :
    ∃ source e, r.plan.sourceCall? layers call = some source ∧ (source, e) ∈ s.produced ∧
      s.source? r.plan call = some e := by
  obtain ⟨-, hnew, hblockers⟩ := (hl.mem_layer hk).mp hid
  cases hprevious : call.stage.previous? with
  | none => exact absurd (Stage.previous?_eq_none.mp hprevious) hstage
  | some stage =>
    obtain ⟨blocker, hblocker, hblocks, rfl⟩ := h.chained call hcall stage hprevious
    have hsome := Plan.isSome_sourceCall? hl.nodup hblocker hprevious hblocks
      (Plan.before_eq hk hid hnew ▸ hblockers _ hblocks)
    obtain ⟨source, hsource⟩ := Option.isSome_iff_exists.mp hsome
    have hrel := (hreach.roundInv hl).rel_source hl (h.skippedIds_eq hl hreach) hk hid
    rw [hsource] at hrel ⊢
    generalize s.source? r.plan call = found at hrel
    cases hrel with
    | some hp => exact ⟨source, _, rfl, hp, rfl⟩

/-! ### Its rounds -/

theorem later_call_cases {work : Work} (hreach : Reaches r done s) (hfed : r.Fed layers s)
    (hk : layers[done.length]? = some layer) (hcall : call ∈ r.plan.calls) (hid : call.id ∈ layer)
    (hstage : call.stage ≠ .fetch) (hwires : s.Wires r.plan r.clients r.registry call work) :
    (∃ e, work.perform r.plan.id call (r.readings.call call.id) = .completed e ∧
      r.registry.Leaves call e ∧ ∀ key, ¬ r.Starves layers call key) ∨
    ∃ key, r.Starves layers call key ∧
      work.perform r.plan.id call (r.readings.call call.id) = .failed
        (.handlerFailed r.plan.id call.id call.stage s!"payload has no '{key}' array") := by
  obtain ⟨source, e, hsource, hp, heffect⟩ := h.exists_source hl hreach hk hcall hid hstage
  have hleaves := (hfed _ hp).1
  have hstages : e.stage = source.stage := (hreach.roundInv hl).stage_eq hp
  by_cases hstarves : ∃ key, r.Starves layers call key
  · obtain ⟨key, hregistered, other, hother, hkey, hstub⟩ := hstarves
    obtain rfl := Option.some.inj (hsource.symm.trans hother)
    have hlist := hleaves key hkey
    rw [if_neg (by simp [hstub])] at hlist
    exact .inr ⟨key, ⟨hregistered, source, hsource, hkey, hstub⟩,
      hwires.fails h.registry heffect hregistered (hstages ▸ hkey) hlist⟩
  · have hlist : r.registry.isRegistered call.stage call.tool = true →
        ∀ key, e.stage.listKey? = some key →
          ∃ strings, Handler.stringsIn e.payload key = .ok strings := by
      intro hregistered key hkey
      rw [hstages] at hkey
      have hlist := hleaves key hkey
      split_ifs at hlist with hstub
      · exact hlist
      · exact absurd ⟨key, hregistered, source, hsource, hkey, by simpa using hstub⟩ hstarves
    obtain ⟨made, hmade, hleft⟩ := hwires.completes h.registry heffect hlist
    exact .inl ⟨made, hmade, hleft, fun key hkey => hstarves ⟨key, hkey⟩⟩

theorem outcome_cases (hreach : Reaches r done s) (hfed : r.Fed layers s)
    (hstart : r.start done.length s = .work t works) {o : Call × Outcome}
    (ho : o ∈ r.perform works) :
    (∃ e, o.2 = .completed e ∧ r.registry.Leaves o.1 e ∧ ∀ key, ¬ r.Starves layers o.1 key) ∨
    ∃ key, r.Starves layers o.1 key ∧ o.2 = .failed
      (.handlerFailed r.plan.id o.1.id o.1.stage s!"payload has no '{key}' array") := by
  have hs := hreach.startInv hl hstart
  obtain ⟨w, hw, rfl⟩ := mem_perform.mp ho
  obtain ⟨hcall, -, -, hwires⟩ := hs.works_mem w hw
  obtain ⟨layer, hk, hnames⟩ := hs.names_eq
  have hid : w.1.id ∈ layer := by
    have hmem : w.1.id ∈ names works := List.mem_map_of_mem hw
    rw [hnames] at hmem
    exact (List.mem_filter.mp hmem).1
  have hwhole : Run.settle r.plan r.readings.faults w.1
      (w.2.perform r.plan.id w.1 (r.readings.call w.1.id)) =
        w.2.perform r.plan.id w.1 (r.readings.call w.1.id) :=
    outcomeOf_whole (h.task_eq _) (h.write_eq _) w.2
  rw [hwhole]
  by_cases hstage : w.1.stage = .fetch
  · obtain ⟨e, he⟩ := h.fetch_completes hcall hstage hwires
    refine .inl ⟨e, he, .of_no_list (by rw [hstage]; rfl), ?_⟩
    rintro key ⟨-, source, hsource, -⟩
    simp [Plan.sourceCall?, hstage, Stage.previous?] at hsource
  · exact h.later_call_cases hl hreach hfed hk hcall hid hstage hwires

theorem fed (hreach : Reaches r done s) : r.Fed layers s := by
  induction hreach with
  | start => exact fun p hp => (List.not_mem_nil hp).elim
  | @round done s t u works hreach hstart htake ih =>
    have hs := hreach.startInv hl hstart
    intro p hp
    rw [(hs.taken htake).produced_eq, hs.produced_eq, List.mem_append] at hp
    rcases hp with hp | hp
    · exact ih p hp
    · obtain ⟨o, ho, hp⟩ := List.mem_filterMap.mp hp
      obtain ⟨effect, heffect, rfl⟩ := Option.map_eq_some_iff.mp hp
      rcases h.outcome_cases hl hreach ih hstart ho with ⟨e, he, hfed⟩ | ⟨key, -, he⟩
      · rw [he] at heffect
        cases heffect
        exact hfed
      · rw [he] at heffect
        cases heffect

/-! ### Its end -/

theorem wireAll_ne_error {failure : Failure} (hreach : Reaches r done s)
    (hpending : (s.skipBlocked r.plan).pending ≠ []) :
    RunState.wireAll r.plan r.clients r.registry ((s.skipBlocked r.plan).ready r.plan)
      (s.skipBlocked r.plan) ≠ .error failure := by
  intro hwire
  have hready := (hreach.roundInv hl).skipBlocked
  have hskips := RunState.skipsDone_skipBlocked (hreach.roundInv hl).accounted
  have hproduced := RunState.produced_skipBlocked (hreach.roundInv hl).accounted
  have hk := List.getElem?_eq_getElem (hready.lt_length hl hpending)
  obtain ⟨id, hid, call, hfound, hfailure, -⟩ := RunState.wireAll_error hwire
  obtain ⟨hcall, rfl⟩ := (Call.find?_eq_some_iff hl.nodup).mp hfound
  rw [hready.ready_eq hl hskips hk] at hid
  rw [RunState.wire_congr hproduced] at hfailure
  by_cases hstage : call.stage = .fetch
  · obtain ⟨raw, hraw⟩ := h.answered call hcall hstage
    simp [answer?, RunState.clients_get?_of_wire_error hstage hfailure] at hraw
  · obtain ⟨source, e, -, -, hsource⟩ :=
      h.exists_source hl hreach hk hcall (List.mem_filter.mp hid).1 hstage
    obtain ⟨work, hwires⟩ := RunState.exists_wires hsource
      (Registry.BuiltIn.resolves? h.registry hstage call.tool)
    rw [RunState.wire_of_wires hwires] at hfailure
    cases hfailure

theorem starves_of_error {failure : Failure} (hends : Ends r done (.error failure)) :
    ∃ call ∈ r.plan.calls, ∃ key, r.Starves layers call key ∧
      failure = .handlerFailed r.plan.id call.id call.stage s!"payload has no '{key}' array" := by
  cases hends with
  | @stopped done s failure hreach hstart =>
    have hinv := hreach.roundInv hl
    obtain ⟨hpending, hready | ⟨hexpired, -⟩ | hwire⟩ := start_failed hstart
    · exact absurd hready (hinv.skipBlocked.ready_ne_nil hl
        (RunState.skipsDone_skipBlocked hinv.accounted) hpending)
    · simp [Run.isExpired, h.deadline_eq] at hexpired
    · exact absurd hwire (h.wireAll_ne_error hl hreach hpending)
  | @broken done s t works failure hreach hstart htake =>
    obtain ⟨o, ho, hfailure, -⟩ := RunState.failure_of_takeOutcomes htake
    have hs := hreach.startInv hl hstart
    obtain ⟨w, hw, heq⟩ := mem_perform.mp ho
    have hcall : o.1 ∈ r.plan.calls := heq ▸ (hs.works_mem w hw).1
    rcases h.outcome_cases hl hreach (h.fed hl hreach) hstart ho with ⟨e, he, -⟩ | ⟨key, hkey, he⟩
    · rw [he] at hfailure
      cases hfailure
    · rw [he] at hfailure
      exact ⟨o.1, hcall, key, hkey, (Option.some.inj hfailure).symm⟩

theorem not_starves_of_ok (hends : Ends r done (.ok s)) (hcall : call ∈ r.plan.calls)
    (key : String) : ¬ r.Starves layers call key := by
  have hid : call.id ∈ s.completed := by
    refine (hends.completed_or_skipped hl (List.mem_map_of_mem hcall)).resolve_right ?_
    exact fun hskipped => h.not_dropped _ ((hends.dropped_iff hl).mp hskipped)
  obtain ⟨p, hp, hsame⟩ := List.mem_map.mp hid
  have hmem := (hends.final hl).1.call_mem hp
  obtain rfl : p.1 = call := List.inj_on_of_nodup_map hl.nodup hmem hcall hsame
  cases hends with
  | finished hreach hstart =>
    obtain ⟨rfl, -⟩ := start_finished hstart
    rw [RunState.produced_skipBlocked (hreach.roundInv hl).accounted] at hp
    exact (h.fed hl hreach p hp).2 key

end Unhindered

theorem Goes.result_eq {store : Store} {deeds : List Deed} {final : RunReport}
    (h : r.Goes store deeds (.ended final)) : final.result = (r.execute store).result := by
  rcases h.ended_cases with ⟨-, rfl⟩ | ⟨each, -, -, hfinal, hexecute⟩
  · rfl
  · obtain ⟨plans, ended, hreport⟩ := r.report_putAll r.allRounds.1 r.allRounds.2
    rw [hfinal, hexecute, hreport, hreport]

/-- With the built-in handlers and stubs, and with nothing in their way, a run completes exactly if
no call with a registered tool takes its input from a call without one whose list it needs. It fails
with the complaint about that list. Without registered tools it always completes. All of this holds
for every order of the tasks. -/
theorem ok_iff_not_starves (h : r.Unhindered) (hlayers : r.plan.layers = .ok layers)
    (store : Store) :
    ((∃ a, (r.execute store).result = .ok a) ↔
      ∀ call ∈ r.plan.calls, ∀ key, ¬ r.Starves layers call key) ∧
    (∀ failure, (r.execute store).result = .error failure →
      ∃ call ∈ r.plan.calls, ∃ key, r.Starves layers call key ∧ failure = .handlerFailed r.plan.id
        call.id call.stage s!"payload has no '{key}' array") ∧
    (r.registry = .withStubs → ∃ a, (r.execute store).result = .ok a) ∧
    (∀ deeds c, r.Goes store deeds c → ∃ more final, r.Turns c more (.ended final)) ∧
    ∀ deeds final, r.Goes store deeds (.ended final) →
      final.result = (r.execute store).result := by
  have hl := Plan.layered_of_layers hlayers
  have hresult := h.result_eq hlayers store
  have hends := ends_allRounds hl
  have hiff : (∃ a, (r.execute store).result = .ok a) ↔
      ∀ call ∈ r.plan.calls, ∀ key, ¬ r.Starves layers call key := by
    rw [hresult]
    cases hrounds : r.allRounds.2 with
    | ok s =>
      rw [hrounds] at hends
      exact ⟨fun _ call hcall => h.not_starves_of_ok hl hends hcall, fun _ => ⟨_, rfl⟩⟩
    | error failure =>
      rw [hrounds] at hends
      obtain ⟨call, hcall, key, hkey, -⟩ := h.starves_of_error hl hends
      refine ⟨?_, fun hnone => absurd hkey (hnone call hcall key)⟩
      rintro ⟨a, ha⟩
      cases ha
  refine ⟨hiff, ?_, ?_, fun deeds c hgoes => hgoes.completes, fun deeds final hgoes =>
    hgoes.result_eq⟩
  · intro failure hfailure
    rw [hresult] at hfailure
    cases hrounds : r.allRounds.2 with
    | ok s =>
      rw [hrounds] at hfailure
      cases hfailure
    | error why =>
      rw [hrounds] at hfailure hends
      cases hfailure
      exact h.starves_of_error hl hends
  · intro hstubs
    refine hiff.mpr fun call _ key hstarves => ?_
    have hnone : Registry.withStubs.isRegistered call.stage call.tool = false := by
      cases call.stage <;> rfl
    rw [Starves, hstubs, hnone] at hstarves
    cases hstarves.1

/-! ### A page, its words and their lemmas -/

def mixed (extractTool deriveTool : String) : Request :=
  { stubbed with
    plan := { stubbed.plan with
      calls := [pageCall, { wordsCall with tool := extractTool },
        { lemmasCall with tool := deriveTool }]
      dependencies := [{ blocker := "a", blocked := "c" }, { blocker := "c", blocked := "d" }] }
    registry := .standard
    options := { allowCache := false } }

theorem mixed_layers (extractTool deriveTool : String) :
    (mixed extractTool deriveTool).plan.layers = .ok [["a"], ["c"], ["d"]] := by
  cbv

theorem unhindered_mixed (extractTool deriveTool : String) :
    (mixed extractTool deriveTool).Unhindered where
  registry := .inl rfl
  chained := by
    intro call hcall stage hstage
    simp only [mixed, List.mem_cons, List.not_mem_nil, or_false] at hcall
    rcases hcall with rfl | rfl | rfl
    · cases hstage
    · cases hstage
      exact ⟨pageCall, List.mem_cons_self,
        Plan.mem_blockers.mpr ⟨_, List.mem_cons_self, rfl, rfl⟩, rfl⟩
    · cases hstage
      exact ⟨{ wordsCall with tool := extractTool }, List.mem_cons_of_mem _ List.mem_cons_self,
        Plan.mem_blockers.mpr ⟨_, List.mem_cons_of_mem _ List.mem_cons_self, rfl, rfl⟩, rfl⟩
  allowCache_eq := rfl
  deadline_eq := rfl
  maxConcurrency_le := show 4 ≤ Run.greatestConcurrency by decide
  answered := by
    intro call hcall hstage
    simp only [mixed, List.mem_cons, List.not_mem_nil, or_false] at hcall
    rcases hcall with rfl | rfl | rfl
    · exact ⟨_, rfl⟩
    · cases hstage
    · cases hstage
  task_eq _ := rfl
  write_eq _ := rfl
  finish_eq := rfl

theorem starves_mixed_iff {extractTool deriveTool : String}
    (hcall : call ∈ (mixed extractTool deriveTool).plan.calls) :
    (mixed extractTool deriveTool).Starves [["a"], ["c"], ["d"]] call key ↔
      call.id = "d" ∧ key = "tokens" ∧ Registry.standard.isRegistered .derive deriveTool = true ∧
        Registry.standard.isRegistered .extract extractTool = false := by
  have hwords : (mixed extractTool deriveTool).plan.sourceCall? [["a"], ["c"], ["d"]]
      { wordsCall with tool := extractTool } = some pageCall := by cbv
  have hlemmas : (mixed extractTool deriveTool).plan.sourceCall? [["a"], ["c"], ["d"]]
      { lemmasCall with tool := deriveTool } = some { wordsCall with tool := extractTool } := by cbv
  simp only [mixed, List.mem_cons, List.not_mem_nil, or_false] at hcall
  constructor
  · rintro ⟨hregistered, source, hsource, hkey, hstub⟩
    rcases hcall with rfl | rfl | rfl
    · cases hregistered
    · cases hwords.symm.trans hsource
      cases hkey
    · cases hlemmas.symm.trans hsource
      cases hkey
      exact ⟨rfl, rfl, hregistered, hstub⟩
  · rintro ⟨hid, rfl, hregistered, hstub⟩
    have ha : pageCall.id ≠ "d" := by decide
    have hc : wordsCall.id ≠ "d" := by decide
    rcases hcall with rfl | rfl | rfl
    · exact absurd hid ha
    · exact absurd hid hc
    · exact ⟨hregistered, _, hlemmas, rfl, hstub⟩

theorem mixed_ok : (mixed "extract.diogenes.html" "derive.diogenes.lemmas").Unhindered ∧
    ∃ a, ((mixed "extract.diogenes.html" "derive.diogenes.lemmas").execute .empty).result =
      .ok a := by
  have h := unhindered_mixed "extract.diogenes.html" "derive.diogenes.lemmas"
  obtain ⟨hiff, -⟩ := ok_iff_not_starves h (mixed_layers _ _) .empty
  refine ⟨h, hiff.mpr fun call hcall key hstarves => ?_⟩
  have hstub := ((starves_mixed_iff hcall).mp hstarves).2.2.2
  have hregistered : Registry.standard.isRegistered .extract "extract.diogenes.html" = true := rfl
  rw [hregistered] at hstub
  cases hstub

/-- The handler that makes lemmas finds no words in what a stub has left. -/
theorem mystery_fails :
    (mixed "x.mystery" "derive.diogenes.lemmas").Unhindered ∧
      (mixed "x.mystery" "derive.diogenes.lemmas").plan.layers = .ok [["a"], ["c"], ["d"]] ∧
      ((mixed "x.mystery" "derive.diogenes.lemmas").execute .empty).result = .error
        (.handlerFailed "p" "d" .derive "payload has no 'tokens' array") := by
  have h := unhindered_mixed "x.mystery" "derive.diogenes.lemmas"
  have hlayers := mixed_layers "x.mystery" "derive.diogenes.lemmas"
  have hl := Plan.layered_of_layers hlayers
  have hends := ends_allRounds hl
  refine ⟨h, hlayers, ?_⟩
  rw [h.result_eq hlayers]
  cases hrounds : (mixed "x.mystery" "derive.diogenes.lemmas").allRounds.2 with
  | ok s =>
    rw [hrounds] at hends
    have hcall : { lemmasCall with tool := "derive.diogenes.lemmas" } ∈
        (mixed "x.mystery" "derive.diogenes.lemmas").plan.calls := by simp [mixed]
    exact absurd ((starves_mixed_iff hcall).mpr ⟨rfl, rfl, rfl, rfl⟩)
      (h.not_starves_of_ok hl hends hcall "tokens")
  | error failure =>
    rw [hrounds] at hends
    obtain ⟨call, hcall, key, hstarves, rfl⟩ := h.starves_of_error hl hends
    obtain ⟨hid, rfl, -⟩ := (starves_mixed_iff hcall).mp hstarves
    simp only [mixed, List.mem_cons, List.not_mem_nil, or_false] at hcall
    rcases hcall with rfl | rfl | rfl
    · exact absurd hid (by decide)
    · exact absurd hid (by decide)
    · rfl

end Request

end Lemmata
