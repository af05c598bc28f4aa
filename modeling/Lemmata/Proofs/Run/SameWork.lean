import Lemmata.Proofs.Effect.BuiltIn
import Lemmata.Proofs.Plan.Layers
import Lemmata.Proofs.Run.View
import Mathlib.Data.List.Permutation

/-! # Runs of the same work cannot be told apart -/

namespace Lemmata.View

variable {v : View} {p q : Plan} {clients : Clients} {registry : Registry}
variable {options : ExecutionOptions} {readings readings' : Readings}
variable {s t : RunState} {c d : Call} {ids : List String}

/-- Onlookers who cannot tell the runs apart by the ID of the plan or by a clock. -/
structure Blind (v : View) (p q : Plan) (readings readings' : Readings) : Prop where
  planId : v.planId p.id = v.planId q.id
  reason : ∀ callId tool, v.reason (Failure.missingClient p.id callId tool).message =
    v.reason (Failure.missingClient q.id callId tool).message
  call : ∀ id, v.duration (readings.call id) = v.duration (readings'.call id)
  total : v.duration readings.total = v.duration readings'.total
  write : ∀ id, v.savedAt (readings.write id).second = v.savedAt (readings'.write id).second
  finish : v.access readings.finish.text = v.access readings'.finish.text

/-- No client judges a response by what the view does not show. -/
def Judged (v : View) (clients : Clients) : Prop :=
  ∀ tool client, clients.get? tool = some client →
    ∀ e f, v.raw e = v.raw f → client.isSuccess e = client.isSuccess f

/-- The handlers make the same of what the view shows as the same. -/
structure Heeds (v : View) (registry : Registry) (p q : Plan) : Prop where
  extract : ∀ tool handler, registry.extractFor? tool = some handler →
    ∀ c ∈ p.calls, ∀ d ∈ q.calls, c.bare = d.bare → ∀ e f, v.raw e = v.raw f →
      handler c e = handler d f
  derive : ∀ tool handler, registry.deriveFor? tool = some handler →
    ∀ c ∈ p.calls, ∀ d ∈ q.calls, c.bare = d.bare → ∀ e f, v.extraction e = v.extraction f →
      handler c e = handler d f
  claim : ∀ tool handler, registry.claimFor? tool = some handler →
    ∀ c ∈ p.calls, ∀ d ∈ q.calls, c.bare = d.bare → ∀ e f, v.derivation e = v.derivation f →
      handler c e = handler d f

/-! ## Skipping and the ready calls -/

theorem pending_seen (hs : v.state s = v.state t) : s.pending = t.pending :=
  (RunState.mk.inj hs).1

section

variable (h : p.SameWork q)
include h

theorem skipBlockedCall_seen (entry : String × String) (hs : v.state s = v.state t) :
    v.state (RunState.skipBlockedCall p s entry) = v.state (RunState.skipBlockedCall q t entry) := by
  rcases option_cases (h.call?_bare entry.1) with ⟨hp, hq⟩ | ⟨c, d, hp, hq, hcd⟩
  · simp only [RunState.skipBlockedCall, hp, hq, state_drop, hs]
  · simp only [RunState.skipBlockedCall, hp, hq, state_skip, hs, hcd]

theorem skipBlockedCalls_seen (entries : List (String × String)) (hs : v.state s = v.state t) :
    v.state (entries.foldl (RunState.skipBlockedCall p) s) =
      v.state (entries.foldl (RunState.skipBlockedCall q) t) := by
  induction entries generalizing s t with
  | nil => exact hs
  | cons entry rest ih => exact ih (skipBlockedCall_seen h entry hs)

theorem blockedBySkipped_seen (hs : v.state s = v.state t) :
    s.blockedBySkipped p = t.blockedBySkipped q := by
  have hplan : (v.state s).blockedBySkipped p = (v.state s).blockedBySkipped q := by
    simp only [RunState.blockedBySkipped, h.blockers_eq]
  rw [← v.blockedBySkipped_state, hplan, hs, v.blockedBySkipped_state]

theorem skipBlockedWithin_seen (rounds : Nat) (hs : v.state s = v.state t) :
    v.state (s.skipBlockedWithin p rounds) = v.state (t.skipBlockedWithin q rounds) := by
  induction rounds generalizing s t with
  | zero => exact hs
  | succ rounds ih =>
    rw [RunState.skipBlockedWithin, RunState.skipBlockedWithin, blockedBySkipped_seen h hs]
    split
    · exact hs
    · exact ih (skipBlockedCalls_seen h _ hs)

theorem skipBlocked_seen (hs : v.state s = v.state t) :
    v.state (s.skipBlocked p) = v.state (t.skipBlocked q) := by
  rw [RunState.skipBlocked, RunState.skipBlocked, pending_seen hs]
  exact skipBlockedWithin_seen h _ hs

theorem ready_seen (hs : v.state s = v.state t) : s.ready p = t.ready q := by
  have hplan : (v.state s).ready p = (v.state s).ready q := by
    simp only [RunState.ready, h.blockers_eq]
  rw [← v.ready_state, hplan, hs, v.ready_state]

theorem source?_seen (hs : v.state s = v.state t) (hc : c.bare = d.bare) :
    (s.source? p c).map v.effect = (t.source? q d).map v.effect := by
  have hplan : (v.state s).source? p c = (v.state s).source? q d := by
    obtain ⟨-, hid, -, hparams, hstage, -⟩ := Call.bare_eq_iff.mp hc
    simp only [RunState.source?, Call.param?, h.blockers_eq, hid, hparams, hstage]
  rw [← v.source?_state, hplan, hs, v.source?_state]

end

/-! ## Wiring -/

def work (v : View) : Work → Work
  | .fetch client => .fetch client
  | .extract handler raw => .extract handler (v.raw raw)
  | .derive handler extraction => .derive handler (v.extraction extraction)
  | .claim handler derivation => .claim handler (v.derivation derivation)

theorem wire_eq_of_source {plan plan' : Plan} {call call' : Call} (hid : plan.id = plan'.id)
    (hsource : s.source? plan call = t.source? plan' call') (hcall : call.bare = call'.bare) :
    s.wire plan clients registry call = t.wire plan' clients registry call' := by
  obtain ⟨htool, hcallId, -, -, hstage, -⟩ := Call.bare_eq_iff.mp hcall
  simp only [RunState.wire, hid, hsource, htool, hcallId, hstage]

theorem wire_state (plan : Plan) (call : Call) :
    (v.state s).wire { plan with id := v.planId plan.id } clients registry call =
      v.except v.work (s.wire plan clients registry call) := by
  have hsource : (v.state s).source? { plan with id := v.planId plan.id } call =
      (s.source? plan call).map v.effect := v.source?_state s plan call
  simp only [RunState.wire, hsource]
  generalize s.source? plan call = source
  cases call.stage with
  | fetch => cases clients.get? call.tool <;> rfl
  | extract =>
    rcases source with _ | (raw | extraction | derivation | claim)
    case some.raw => cases registry.extractFor? call.tool <;> rfl
    all_goals rfl
  | derive =>
    rcases source with _ | (raw | extraction | derivation | claim)
    case some.extraction => cases registry.deriveFor? call.tool <;> rfl
    all_goals rfl
  | claim =>
    rcases source with _ | (raw | extraction | derivation | claim)
    case some.derivation => cases registry.claimFor? call.tool <;> rfl
    all_goals rfl

theorem wire_seen (clients : Clients) (registry : Registry) (h : p.SameWork q)
    (hid : v.planId p.id = v.planId q.id) (hs : v.state s = v.state t) (hc : c.bare = d.bare) :
    v.except v.work (s.wire p clients registry c) =
      v.except v.work (t.wire q clients registry d) := by
  rw [← wire_state, ← wire_state]
  refine wire_eq_of_source hid ?_ hc
  have hsource := source?_seen h hs hc
  rwa [← v.source?_state, ← v.source?_state] at hsource

/-! ## Working -/

theorem handler_eq {α β : Type} {handler : Call → α → β} {untimed : α → α} {a b : α}
    (hheeds : ∀ call a, handler call a = handler (Call.bare call) (untimed a))
    (hc : c.bare = d.bare) (hab : untimed a = untimed b) : handler c a = handler d b := by
  rw [hheeds c, hheeds d, hc, hab]

section

variable (hregistry : registry.BuiltIn) {tool : String}
include hregistry

/-- A built-in handler reads of a call what a hash covers, and of its source no duration. -/
theorem extract_untimed {handler : ExtractHandler} (h : registry.extractFor? tool = some handler)
    (call : Call) (source : RawResponse) :
    handler call source = handler call.bare { source with durationMs := 0 } := by
  rcases hregistry.extract_cases h with rfl | rfl <;> rfl

theorem derive_untimed {handler : DeriveHandler} (h : registry.deriveFor? tool = some handler)
    (call : Call) (source : Extraction) :
    handler call source = handler call.bare { source with durationMs := 0 } := by
  rcases hregistry.derive_cases h with rfl | rfl <;> rfl

theorem claim_untimed {handler : ClaimHandler} (h : registry.claimFor? tool = some handler)
    (call : Call) (source : Derivation) :
    handler call source = handler call.bare { source with durationMs := 0 } := by
  rcases hregistry.claim_cases h with rfl | rfl <;> rfl

end

theorem outcomeOf_seen {α : Type} {make make' : α → Effect} {result : Except String α}
    (hid : v.planId p.id = v.planId q.id) (hc : c.bare = d.bare)
    (hmake : ∀ e, v.effect (make e) = v.effect (make' e)) :
    v.outcome (Work.outcomeOf p.id c make result) =
      v.outcome (Work.outcomeOf q.id d make' result) := by
  obtain ⟨-, hcallId, -, -, hstage, -⟩ := Call.bare_eq_iff.mp hc
  cases result with
  | ok e => simp only [Work.outcomeOf, outcome, hmake]
  | error text => simp only [Work.outcomeOf, outcome, failure, hid, hcallId, hstage]

theorem fetchOutcome_seen {client : Client} {d₁ d₂ : UInt64} (hid : v.planId p.id = v.planId q.id)
    (hc : c.bare = d.bare) (hduration : v.duration d₁ = v.duration d₂)
    (hjudged : ∀ e f, v.raw e = v.raw f → client.isSuccess e = client.isSuccess f) :
    v.outcome (Work.fetchOutcome p.id c d₁ client) =
      v.outcome (Work.fetchOutcome q.id d d₂ client) := by
  obtain ⟨htool, hcallId, hendpoint, hparams, -, -⟩ := Call.bare_eq_iff.mp hc
  rw [Work.fetchOutcome, Work.fetchOutcome, htool, hcallId, hendpoint, hparams]
  cases client.execute d.id d.endpoint d.params with
  | error failure => simp only [outcome, View.failure, hid]
  | ok raw =>
    have hstamp : v.raw (Work.stamp d.tool d₁ raw) = v.raw (Work.stamp d.tool d₂ raw) := by
      unfold Work.stamp View.raw
      split <;> simp [hduration]
    simp only [hjudged _ _ hstamp]
    split
    · exact congrArg (Outcome.completed ∘ Effect.raw) hstamp
    · simp only [outcome, Option.map_some, hstamp, View.failure, hid]
      rfl

theorem perform_seen {work work' : Work} {d₁ d₂ : UInt64} (hheeds : v.Heeds registry p q)
    (hjudged : v.Judged clients) (hid : v.planId p.id = v.planId q.id)
    (hduration : v.duration d₁ = v.duration d₂) (hp : c ∈ p.calls) (hq : d ∈ q.calls)
    (hc : c.bare = d.bare)
    (hwires : s.Wires p clients registry c work) (hwork : v.work work = v.work work') :
    v.outcome (work.perform p.id c d₁) = v.outcome (work'.perform q.id d d₂) := by
  cases hwires with
  | @fetch client _ hclient =>
    obtain rfl : work' = .fetch client := by cases work' <;> cases hwork; rfl
    exact fetchOutcome_seen hid hc hduration (hjudged _ _ hclient)
  | @extract handler raw _ _ hhandler =>
    cases work' with
    | extract handler' raw' =>
      obtain ⟨rfl, hraw⟩ := Work.extract.inj hwork
      rw [Work.perform, Work.perform,
        hheeds.extract _ _ hhandler c hp d hq hc _ _ hraw]
      exact outcomeOf_seen hid hc fun e => by simp [effect, extraction, hduration]
    | _ => cases hwork
  | @derive handler extraction _ _ hhandler =>
    cases work' with
    | derive handler' extraction' =>
      obtain ⟨rfl, hextraction⟩ := Work.derive.inj hwork
      rw [Work.perform, Work.perform,
        hheeds.derive _ _ hhandler c hp d hq hc _ _ hextraction]
      exact outcomeOf_seen hid hc fun e => by simp [effect, derivation, hduration]
    | _ => cases hwork
  | @claim handler derivation _ _ hhandler =>
    cases work' with
    | claim handler' derivation' =>
      obtain ⟨rfl, hderivation⟩ := Work.claim.inj hwork
      rw [Work.perform, Work.perform,
        hheeds.claim _ _ hhandler c hp d hq hc _ _ hderivation]
      exact outcomeOf_seen hid hc fun e => by simp [effect, claim, hduration]
    | _ => cases hwork

theorem written?_outcome (o : Outcome) : (v.outcome o).written? = o.written?.map v.effect := by
  cases o with
  | completed e => rfl
  | failed failure => rfl
  | failedFetch raw reason failure => cases raw <;> rfl

theorem settle_seen {faults : Faults} {o o' : Outcome} (hid : v.planId p.id = v.planId q.id)
    (hc : c.bare = d.bare) (ho : v.outcome o = v.outcome o') :
    v.outcome (Run.settle p faults c o) = v.outcome (Run.settle q faults d o') := by
  obtain ⟨-, hcallId, -, -, hstage, -⟩ := Call.bare_eq_iff.mp hc
  have hwritten : o.written?.map v.effect = o'.written?.map v.effect := by
    rw [← written?_outcome, ho, written?_outcome]
  rw [Run.settle, Run.settle, hcallId, hstage]
  cases faults.task d.id with
  | some text => simp only [outcome, failure, hid]
  | none =>
    rcases option_cases hwritten with ⟨hx, hy⟩ | ⟨e, f, hx, hy, -⟩
    · simpa only [hx, hy] using ho
    · rw [hx, hy]
      cases faults.write d.id with
      | some text => rfl
      | none => exact ho

/-! ## A round -/

def wired (v : View) (plan : Plan) (readings : Readings) (w : RunState × List (Call × Work)) :
    RunState × List (Call × Outcome) :=
  (v.state w.1, (Run.performAll plan readings w.2).map v.done)

theorem failure_of_wire_fetch {failure : Failure} (hstage : c.stage = .fetch)
    (h : s.wire p clients registry c = .error failure) :
    failure = .missingClient p.id c.id c.tool := by
  rw [RunState.wire, hstage] at h
  cases hclient : clients.get? c.tool with
  | none =>
    simp only [hclient] at h
    exact (Except.error.inj h).symm
  | some client => simp [hclient] at h

theorem wireAll_seen (h : p.SameWork q) (hb : v.Blind p q readings readings')
    (hfaults : readings.faults = readings'.faults) (hheeds : v.Heeds registry p q)
    (hjudged : v.Judged clients) (ids : List String) (hs : v.state s = v.state t) :
    v.except (v.wired p readings) (RunState.wireAll p clients registry ids s) =
      v.except (v.wired q readings') (RunState.wireAll q clients registry ids t) := by
  induction ids generalizing s t with
  | nil => simp only [RunState.wireAll, except, wired, hs]; rfl
  | cons id rest ih =>
    rw [RunState.wireAll, RunState.wireAll]
    rcases option_cases (h.call?_bare id) with ⟨hp, hq⟩ | ⟨c, d, hp, hq, hc⟩
    · simpa only [hp, hq] using ih hs
    · obtain ⟨htool, hcallId, -, -, hstage, hoptional⟩ := Call.bare_eq_iff.mp hc
      have hwire := wire_seen clients registry h hb.planId hs hc
      rcases except_cases hwire with ⟨work, work', hx, hy, hwork⟩ | ⟨e, e', hx, hy, hfailure⟩
      · -- Both calls are wired, and the same comes of them.
        have houtcome := perform_seen hheeds hjudged hb.planId (hb.call c.id)
          (List.mem_of_find?_eq_some hp) (List.mem_of_find?_eq_some hq) hc
          (RunState.wires_of_wire hx) hwork
        have hdone : v.done (c, Run.settle p readings.faults c
            (work.perform p.id c (readings.call c.id))) =
            v.done (d, Run.settle q readings'.faults d
              (work'.perform q.id d (readings'.call d.id))) := by
          rw [← hfaults, ← hcallId]
          exact Prod.ext hc (settle_seen hb.planId hc houtcome)
        simp only [hp, hq, hx, hy]
        rcases except_cases (ih hs) with ⟨a, b, ha, hb', hab⟩ | ⟨e, e', ha, hb', hab⟩
        · simp only [ha, hb', Except.map, except, wired, Run.performAll, List.map_cons] at hab ⊢
          rw [hdone, (Prod.mk.inj hab).1, (Prod.mk.inj hab).2]
        · simp only [ha, hb', Except.map, except, hab]
      · -- Neither is; only a fetch may be skipped, for want of a client.
        simp only [hp, hq, hx, hy, ← hstage, ← hoptional]
        split
        · next hfetch =>
          obtain rfl := failure_of_wire_fetch hfetch.1 hx
          obtain rfl := failure_of_wire_fetch (hstage.symm.trans hfetch.1) hy
          refine ih ?_
          rw [state_skip, state_skip, hs, hc, hcallId, htool, hb.reason]
        · simp only [except, hfailure]

theorem writeAll_seen {store store' : Store} {os os' : List (Call × Outcome)}
    (hb : v.Blind p q readings readings') (hos : os.map v.done = os'.map v.done)
    (hstore : v.store store = v.store store') :
    v.store (Run.writeAll readings store os) = v.store (Run.writeAll readings' store' os') := by
  induction os generalizing os' store store' with
  | nil =>
    obtain rfl := List.map_eq_nil_iff.mp hos.symm
    exact hstore
  | cons o rest ih =>
    obtain ⟨o', rest', rfl, ho, hrest⟩ := List.map_eq_cons_iff.mp hos.symm
    obtain ⟨hcall, houtcome⟩ := Prod.mk.inj ho
    have hcallId : o'.1.id = o.1.id := (Call.bare_eq_iff.mp hcall).2.1
    have hwritten : o.2.written?.map v.effect = o'.2.written?.map v.effect := by
      rw [← written?_outcome, ← written?_outcome, houtcome]
    have hfirst : v.store (Run.writeOutcome readings store o) =
        v.store (Run.writeOutcome readings' store' o') := by
      unfold Run.writeOutcome
      rcases option_cases hwritten with ⟨hx, hy⟩ | ⟨e, f, hx, hy, hf⟩
      · simpa only [hx, hy] using hstore
      · simpa only [hx, hy, hcallId] using store_save hstore (hb.write _) hf
    change v.store (Run.writeAll readings (Run.writeOutcome readings store o) rest) =
      v.store (Run.writeAll readings' (Run.writeOutcome readings' store' o') rest')
    exact ih hrest.symm hfirst

/-! ## The beginning and the end of a run -/

theorem initial_seen (h : p.SameWork q) : v.state (.initial p) = v.state (.initial q) := by
  simp only [RunState.initial, state, sortNames_eq_of_perm h.callIds_perm, List.map_nil]

theorem summary_seen (h : p.SameWork q) (hb : v.Blind p q readings readings')
    (hs : v.state s = v.state t) :
    v.executed (Run.summary p readings s) = v.executed (Run.summary q readings' t) := by
  have hreferences : s.produced.map RunState.reference = t.produced.map RunState.reference := by
    rw [← v.references_state, hs, v.references_state]
  simp only [Run.summary, executed, hb.planId, hb.total, h.hash_eq, hreferences]

theorem remember_seen (h : p.SameWork q) (hb : v.Blind p q readings readings')
    (hfaults : readings.faults = readings'.faults) {store store' : Store}
    (hstore : v.store store = v.store store') (hs : v.state s = v.state t) :
    v.except v.store (Run.remember readings store (Run.summary p readings s) s) =
      v.except v.store (Run.remember readings' store' (Run.summary q readings' t) t) := by
  have hskipped : s.skipped.isEmpty = t.skipped.isEmpty := by
    have hlists : s.skipped.map v.skipped = t.skipped.map v.skipped := (RunState.mk.inj hs).2.2.2
    rw [← List.isEmpty_map, hlists, List.isEmpty_map]
  rw [Run.remember, Run.remember, hskipped, hfaults]
  split
  · cases readings'.faults.finish with
    | some text => rfl
    | none => exact congrArg Except.ok (store_saveExecuted hstore hb.finish (summary_seen h hb hs))
  · exact congrArg Except.ok hstore

/-! ## A whole run -/

section

variable (h : p.SameWork q) (hb : v.Blind p q readings readings')
variable (hfaults : readings.faults = readings'.faults) (hdeadline : options.deadlineMs = none)
variable (hheeds : v.Heeds registry p q) (hjudged : v.Judged clients)
include h hb hfaults hdeadline hheeds hjudged

theorem startRound_seen (k : Nat) (hs : v.state s = v.state t) :
    let start := Run.startRound p clients registry options readings k s
    let start' := Run.startRound q clients registry options readings' k t
    (∃ s t, start = .finished s ∧ start' = .finished t ∧ v.state s = v.state t) ∨
    (∃ e e', start = .failed e ∧ start' = .failed e' ∧ v.failure e = v.failure e') ∨
    ∃ s t works works', start = .work s works ∧ start' = .work t works' ∧
      v.state s = v.state t ∧
      (Run.performAll p readings works).map v.done =
        (Run.performAll q readings' works').map v.done := by
  intro start start'
  have hskipped := skipBlocked_seen h hs
  have hexpired : ∀ readings : Readings, Run.isExpired options readings k = false := by
    intro readings
    rw [Run.isExpired, hdeadline]
  have hwire := wireAll_seen h hb hfaults hheeds hjudged
    ((t.skipBlocked q).ready q) hskipped
  simp only [start, start', Run.startRound, pending_seen hskipped, ready_seen h hskipped, hexpired]
  split
  · exact .inl ⟨_, _, rfl, rfl, hskipped⟩
  split
  · exact .inr (.inl ⟨_, _, rfl, rfl, by rw [failure, failure, hb.planId]⟩)
  · rcases except_cases hwire with ⟨w, w', hx, hy, hw⟩ | ⟨e, e', hx, hy, he⟩
    · obtain ⟨hstate, hdone⟩ := Prod.mk.inj hw
      exact .inr (.inr ⟨w.1, w'.1, w.2, w'.2, by simp [hx], by simp [hy], hstate, hdone⟩)
    · exact .inr (.inl ⟨e, e', by simp [hx], by simp [hy], he⟩)

theorem rounds_seen (fuel k : Nat) {store store' : Store} (hstore : v.store store = v.store store')
    (hs : v.state s = v.state t) :
    let ended := Run.rounds p clients registry options readings fuel k store s
    let ended' := Run.rounds q clients registry options readings' fuel k store' t
    v.store ended.1 = v.store ended'.1 ∧ ended.2.1 = ended'.2.1 ∧
      v.except v.state ended.2.2 = v.except v.state ended'.2.2 := by
  induction fuel generalizing k store store' s t with
  | zero => exact ⟨hstore, rfl, by simp [Run.rounds, except, failure, hb.planId, pending_seen hs]⟩
  | succ fuel ih =>
    simp only [Run.rounds]
    rcases startRound_seen h hb hfaults hdeadline hheeds hjudged k hs with
      ⟨s', t', hx, hy, hst⟩ | ⟨e, e', hx, hy, he⟩ | ⟨s', t', works, works', hx, hy, hst, hdone⟩
    · simp only [hx, hy, except, hst, hstore, and_self]
    · simp only [hx, hy, except, he, hstore, and_self]
    · have hnames : works.map (fun w => w.1.id) = works'.map fun w => w.1.id := by
        have hids := congrArg (List.map fun o => o.1.id) hdone
        simpa [Run.performAll, done, Call.bare, Function.comp_def] using hids
      have htake : v.except v.state (s'.takeOutcomes (Run.performAll p readings works)) =
          v.except v.state (t'.takeOutcomes (Run.performAll q readings' works')) := by
        rw [← v.takeOutcomes_state, hst, hdone, v.takeOutcomes_state]
      have hwritten := writeAll_seen hb hdone hstore
      simp only [hx, hy, hnames]
      rcases except_cases htake with ⟨u, u', hu, hu', huu⟩ | ⟨e, e', hu, hu', he⟩
      · obtain ⟨hlast, hstarted, hresult⟩ := ih (k + 1) hwritten huu
        simp only [hu, hu']
        exact ⟨hlast, congrArg _ hstarted, hresult⟩
      · simpa only [hu, hu', except, he, and_true] using hwritten

theorem fresh_seen {layers layers' : List (List String)} (hp : p.layers = .ok layers)
    (hq : q.layers = .ok layers') (store : Store) :
    v.report (Run.runFresh p clients registry options readings store) =
      v.report (Run.runFresh q clients registry options readings' store) := by
  have hlimits : Run.checkLimits options readings = Run.checkLimits options readings' := by
    simp only [Run.checkLimits, hdeadline]
  rw [Run.runFresh, Run.runFresh, hp, hq, hlimits, h.length_eq]
  cases Run.checkLimits options readings' with
  | error failure => rfl
  | ok _ =>
    have hrounds := rounds_seen h hb hfaults hdeadline hheeds hjudged (q.calls.length + 1) 0
      (rfl : v.store store = v.store store) (initial_seen h)
    dsimp only at hrounds ⊢
    generalize Run.rounds p _ _ _ _ _ _ _ _ = ended at hrounds ⊢
    generalize Run.rounds q _ _ _ _ _ _ _ _ = ended' at hrounds ⊢
    obtain ⟨left, started, result⟩ := ended
    obtain ⟨left', started', result'⟩ := ended'
    obtain ⟨hstore, rfl, hresult⟩ := hrounds
    rcases except_cases hresult with ⟨s, t, rfl, rfl, hs⟩ | ⟨e, e', rfl, rfl, he⟩
    · rcases except_cases (remember_seen h hb hfaults hstore hs) with
        ⟨saved, saved', hx, hy, hsaved⟩ | ⟨e, e', hx, hy, he⟩
      · have hparts := RunState.mk.inj hs
        simp only [hx, hy, report, except, hsaved, artifacts_ofEffects, summary_seen h hb hs,
          hparts.2.2.1, hparts.2.2.2]
      · simp only [hx, hy, report, except, hstore, he]
    · simp only [report, except, hstore, he]

end

end Lemmata.View
