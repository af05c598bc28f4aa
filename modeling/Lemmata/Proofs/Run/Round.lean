import Lemmata.Proofs.Run.State
import Lemmata.Run.Execute

/-! # One round: wiring, working and taking in the outcomes -/

namespace Lemmata.RunState

variable {plan : Plan} {clients : Clients} {registry : Registry}
variable {s t : RunState} {call : Call} {work : Work} {ids : List String}
variable {works : List (Call × Work)} {outcomes : List (Call × Outcome)}

/-! ## Wiring a call -/

/-- What a call needs to be wired, and to what. -/
inductive Wires (plan : Plan) (clients : Clients) (registry : Registry) (s : RunState)
    (call : Call) : Work → Prop
  | fetch {client : Client} (hstage : call.stage = .fetch)
      (hclient : clients.get? call.tool = some client) :
      Wires plan clients registry s call (.fetch client)
  | extract {handler : ExtractHandler} {raw : RawResponse} (hstage : call.stage = .extract)
      (hsource : s.source? plan call = some (.raw raw))
      (hhandler : registry.extractFor? call.tool = some handler) :
      Wires plan clients registry s call (.extract handler raw)
  | derive {handler : DeriveHandler} {extraction : Extraction} (hstage : call.stage = .derive)
      (hsource : s.source? plan call = some (.extraction extraction))
      (hhandler : registry.deriveFor? call.tool = some handler) :
      Wires plan clients registry s call (.derive handler extraction)
  | claim {handler : ClaimHandler} {derivation : Derivation} (hstage : call.stage = .claim)
      (hsource : s.source? plan call = some (.derivation derivation))
      (hhandler : registry.claimFor? call.tool = some handler) :
      Wires plan clients registry s call (.claim handler derivation)

theorem wires_of_wire (h : s.wire plan clients registry call = .ok work) :
    s.Wires plan clients registry call work := by
  unfold wire at h
  split at h
  · next hstage =>
    split at h
    · next client hclient =>
      cases h
      exact .fetch hstage hclient
    · cases h
  · next raw hstage hsource =>
    cases hhandler : registry.extractFor? call.tool with
    | none => simp [hhandler] at h
    | some handler =>
      obtain rfl : Work.extract handler raw = work := by simpa [hhandler] using h
      exact .extract hstage hsource hhandler
  · next extraction hstage hsource =>
    cases hhandler : registry.deriveFor? call.tool with
    | none => simp [hhandler] at h
    | some handler =>
      obtain rfl : Work.derive handler extraction = work := by simpa [hhandler] using h
      exact .derive hstage hsource hhandler
  · next derivation hstage hsource =>
    cases hhandler : registry.claimFor? call.tool with
    | none => simp [hhandler] at h
    | some handler =>
      obtain rfl : Work.claim handler derivation = work := by simpa [hhandler] using h
      exact .claim hstage hsource hhandler
  · cases h

theorem clients_get?_of_wire_error {failure : Failure} (hstage : call.stage = .fetch)
    (h : s.wire plan clients registry call = .error failure) : clients.get? call.tool = none := by
  unfold wire at h
  simp only [hstage] at h
  cases hclient : clients.get? call.tool with
  | none => rfl
  | some client => simp [hclient] at h

theorem wire_ne_cycle {planId : String} {names : List String} :
    s.wire plan clients registry call ≠ .error (.cycle planId names) := by
  intro h
  unfold wire at h
  split at h
  · split at h <;> cases h
  · cases hhandler : registry.extractFor? call.tool <;> simp [hhandler] at h
  · cases hhandler : registry.deriveFor? call.tool <;> simp [hhandler] at h
  · cases hhandler : registry.claimFor? call.tool <;> simp [hhandler] at h
  · cases h

/-- Wiring looks at what was produced, and at nothing else in the state. -/
theorem wire_congr (h : s.produced = t.produced) (call : Call) :
    s.wire plan clients registry call = t.wire plan clients registry call := by
  cases s
  cases t
  cases h
  rfl

/-! ## Wiring the ready calls -/

structure Wired (plan : Plan) (clients : Clients) (registry : Registry) (ids : List String)
    (s t : RunState) (works : List (Call × Work)) : Prop where
  accounted : t.Accounted plan
  produced_eq : t.produced = s.produced
  effects_eq : t.effects = s.effects
  skippedIds_subset : s.skippedIds ⊆ t.skippedIds
  skipped_cases : ∀ id ∈ t.skippedIds, id ∈ s.skippedIds ∨ id ∈ ids ∧ ∃ call ∈ plan.calls,
    call.id = id ∧ call.stage = .fetch ∧ call.optional = true ∧ clients.get? call.tool = none
  names_eq : works.map (fun w => w.1.id) = ids.filter fun id => !t.isSkipped id
  works_mem : ∀ w ∈ works, w.1 ∈ plan.calls ∧ s.wire plan clients registry w.1 = .ok w.2

theorem wired_of_wireAll (h : wireAll plan clients registry ids s = .ok (t, works))
    (hacc : s.Accounted plan) (hids : ∀ id ∈ ids, id ∈ s.pending) (hnodup : ids.Nodup) :
    Wired plan clients registry ids s t works := by
  induction ids generalizing s works with
  | nil =>
    cases h
    exact ⟨hacc, rfl, rfl, fun _ => id, by simp_all, rfl, by simp⟩
  | cons callId rest ih =>
    obtain ⟨hnew, hlater⟩ := List.nodup_cons.mp hnodup
    have hid : callId ∈ s.pending := hids _ List.mem_cons_self
    obtain ⟨call, hcall, hfound, rfl⟩ := hacc.call?_of_pending hid
    rw [wireAll, hfound] at h
    simp only at h
    split at h
    · next work hwork =>
      -- The call is wired.
      cases hrest : wireAll plan clients registry rest s with
      | error failure => simp [hrest, Except.map] at h
      | ok found =>
        obtain ⟨t', works'⟩ := found
        obtain ⟨rfl, rfl⟩ : t' = t ∧ (call, work) :: works' = works := by
          simpa [hrest, Except.map] using h
        have hw := ih hrest hacc (fun id h => hids id (List.mem_cons_of_mem _ h)) hlater
        have hkept : t'.isSkipped call.id = false := by
          rw [← Bool.not_eq_true, isSkipped_iff]
          intro hskipped
          rcases hw.skipped_cases _ hskipped with h | ⟨h, -⟩
          · exact (hacc.mem_pending.mp hid).2.2 h
          · exact hnew h
        refine ⟨hw.accounted, hw.produced_eq, hw.effects_eq, hw.skippedIds_subset, ?_, ?_, ?_⟩
        · intro id hskipped
          exact (hw.skipped_cases id hskipped).imp_right
            fun h => ⟨List.mem_cons_of_mem _ h.1, h.2⟩
        · simp [hkept, hw.names_eq]
        · intro w hmem
          rcases List.mem_cons.mp hmem with rfl | hmem
          · exact ⟨hcall, hwork⟩
          · exact hw.works_mem w hmem
    · next failure hfailure =>
      split at h
      case isFalse => cases h
      case isTrue hoptional =>
        -- The call is an optional fetch without a client.
        obtain ⟨hstage, hoptional⟩ := hoptional
        have hids' : ∀ id ∈ rest, id ∈ (s.skip call failure.message).pending := by
          intro id hmem
          rw [pending_skip, List.mem_filter, bne_iff_ne]
          exact ⟨hids id (List.mem_cons_of_mem _ hmem), fun heq => hnew (heq ▸ hmem)⟩
        have hw := ih h (hacc.skip hcall hid) hids' hlater
        have hskipped : call.id ∈ t.skippedIds := hw.skippedIds_subset (by simp)
        refine ⟨hw.accounted, hw.produced_eq, hw.effects_eq, ?_, ?_, ?_, hw.works_mem⟩
        · exact fun id hmem => hw.skippedIds_subset (by simp [hmem])
        · intro id hmem
          rcases hw.skipped_cases id hmem with h | h
          · rw [skippedIds_skip, List.mem_append, List.mem_singleton] at h
            rcases h with h | rfl
            · exact .inl h
            · exact .inr ⟨List.mem_cons_self, call, hcall, rfl, hstage, hoptional,
                clients_get?_of_wire_error hstage hfailure⟩
          · exact .inr ⟨List.mem_cons_of_mem _ h.1, h.2⟩
        · rw [hw.names_eq, List.filter_cons_of_neg (by simpa using hskipped)]

/-- The call has no work, and the plan cannot do without it. -/
def Unwired (plan : Plan) (clients : Clients) (registry : Registry) (s : RunState) (call : Call)
    (failure : Failure) : Prop :=
  s.wire plan clients registry call = .error failure ∧
    ¬ (call.stage = .fetch ∧ call.optional = true)

theorem unwired_congr {failure : Failure} (h : s.produced = t.produced) :
    s.Unwired plan clients registry call failure ↔
      t.Unwired plan clients registry call failure := by
  rw [Unwired, Unwired, wire_congr h]

theorem wireAll_error_first {failure : Failure}
    (h : wireAll plan clients registry ids s = .error failure) :
    ∃ before id after call, ids = before ++ id :: after ∧ plan.call? id = some call ∧
      s.Unwired plan clients registry call failure ∧ ∀ x ∈ before, ∀ c why,
        plan.call? x = some c → ¬ s.Unwired plan clients registry c why := by
  induction ids generalizing s with
  | nil => cases h
  | cons callId rest ih =>
    -- Skipped calls produce nothing, so the calls after them are wired as before.
    have hrest : ∀ {t : RunState}, wireAll plan clients registry rest t = .error failure →
        t.produced = s.produced →
        (∀ c why, plan.call? callId = some c → ¬ s.Unwired plan clients registry c why) →
        ∃ before id after call, callId :: rest = before ++ id :: after ∧
          plan.call? id = some call ∧ s.Unwired plan clients registry call failure ∧
          ∀ x ∈ before, ∀ c why, plan.call? x = some c →
            ¬ s.Unwired plan clients registry c why := by
      intro t h ht hfirst
      obtain ⟨before, id, after, call, rfl, hcall, hunwired, hbefore⟩ := ih h
      refine ⟨callId :: before, id, after, call, rfl, hcall, (unwired_congr ht).mp hunwired, ?_⟩
      refine List.forall_mem_cons.mpr ⟨hfirst, fun x hx c why hc => ?_⟩
      exact mt (unwired_congr ht).mpr (hbefore x hx c why hc)
    rw [wireAll] at h
    split at h
    · next hnone => exact hrest h rfl fun c why hc => by simp [hnone] at hc
    · next call hcall =>
      have honly : ∀ c why, plan.call? callId = some c →
          s.Unwired plan clients registry c why → s.Unwired plan clients registry call why := by
        intro c why hc hunwired
        obtain rfl : call = c := Option.some.inj (hcall.symm.trans hc)
        exact hunwired
      split at h
      · next work hwork =>
        cases hlater : wireAll plan clients registry rest s with
        | ok found => simp [hlater, Except.map] at h
        | error why =>
          obtain rfl : why = failure := by simpa [hlater, Except.map] using h
          refine hrest hlater rfl fun c why hc hunwired => ?_
          rw [(honly c why hc hunwired).1] at hwork
          cases hwork
      · next hfailure =>
        split at h
        · next hoptional =>
          exact hrest h rfl fun c why hc hunwired => (honly c why hc hunwired).2 hoptional
        · next hneeded =>
          cases h
          exact ⟨[], callId, rest, call, rfl, hcall, ⟨hfailure, hneeded⟩, by simp⟩

theorem wireAll_error {failure : Failure} (h : wireAll plan clients registry ids s = .error failure) :
    ∃ id ∈ ids, ∃ call, plan.call? id = some call ∧
      s.wire plan clients registry call = .error failure ∧
      ¬ (call.stage = .fetch ∧ call.optional = true) := by
  obtain ⟨before, id, after, call, rfl, hcall, hunwired, -⟩ := wireAll_error_first h
  exact ⟨id, List.mem_append_right _ List.mem_cons_self, call, hcall, hunwired⟩

theorem wireAll_ne_cycle {planId : String} {names : List String} :
    wireAll plan clients registry ids s ≠ .error (.cycle planId names) := by
  intro h
  obtain ⟨id, -, call, -, hwire, -⟩ := wireAll_error h
  exact wire_ne_cycle hwire

/-! ## Taking in the outcomes -/

end RunState

namespace Outcome

def completed? : Outcome → Option Effect
  | completed effect => some effect
  | _ => none

/-- Whether there is nothing to go on with, though the run goes on. -/
def isMiss : Outcome → Bool
  | failedFetch _ _ _ => true
  | _ => false

/-- The failure that the run ends with, unless the call may be skipped. -/
def failure? : Outcome → Option Failure
  | completed _ => none
  | failedFetch _ _ failure => some failure
  | failed failure => some failure

def fatal? (call : Call) : Outcome → Option Failure
  | completed _ => none
  | failedFetch _ _ failure => if call.optional then none else some failure
  | failed failure => some failure

theorem failure?_of_fatal? {outcome : Outcome} {call : Call} {failure : Failure}
    (h : outcome.fatal? call = some failure) :
    outcome.failure? = some failure ∧ (outcome.isMiss = true → call.optional = false) := by
  cases outcome with
  | completed effect => cases h
  | failed why => exact ⟨h, nofun⟩
  | failedFetch raw reason why =>
    rw [fatal?] at h
    split at h
    · cases h
    · next hoptional => exact ⟨h, fun _ => by simpa using hoptional⟩

theorem not_isMiss_of_isSome {outcome : Outcome} (h : outcome.completed?.isSome = true) :
    ¬ outcome.isMiss = true := by
  cases outcome with
  | completed effect => exact Bool.false_ne_true
  | failedFetch raw reason failure => cases h
  | failed failure => cases h

theorem written?_of_completed? {outcome : Outcome} {effect : Effect}
    (h : outcome.completed? = some effect) : outcome.written? = some effect := by
  cases outcome with
  | completed effect => exact h
  | failedFetch raw reason failure => cases h
  | failed failure => cases h

end Outcome

namespace Work

variable {planId : String} {call : Call} {durationMs : UInt64} {effect : Effect}

theorem completed?_fetchOutcome {client : Client}
    (h : (fetchOutcome planId call durationMs client).completed? = some effect) :
    ∃ raw, client.execute call.id call.endpoint call.params = .ok raw ∧
      client.isSuccess (stamp call.tool durationMs raw) = true ∧
      effect = .raw (stamp call.tool durationMs raw) := by
  unfold fetchOutcome at h
  split at h
  · cases h
  · next raw hraw =>
    simp only at h
    split at h
    · next hsuccess =>
      cases h
      exact ⟨raw, hraw, hsuccess, rfl⟩
    · cases h

theorem completed?_outcomeOf {α : Type} {make : α → Effect} {result : Except String α}
    (h : (outcomeOf planId call make result).completed? = some effect) :
    ∃ e, result = .ok e ∧ effect = make e := by
  cases result with
  | error text => cases h
  | ok e =>
    cases h
    exact ⟨e, rfl, rfl⟩

end Work

namespace RunState

variable {plan : Plan} {s t : RunState} {call : Call} {outcomes : List (Call × Outcome)}

def completedOf (o : Call × Outcome) : Option (Call × Effect) :=
  o.2.completed?.map fun effect => (o.1, effect)

theorem fst_of_completedOf {o : Call × Outcome} {p : Call × Effect} (h : completedOf o = some p) :
    p.1 = o.1 := by
  obtain ⟨effect, -, rfl⟩ := Option.map_eq_some_iff.mp h
  rfl

structure Taken (plan : Plan) (outcomes : List (Call × Outcome)) (s t : RunState) : Prop where
  accounted : t.Accounted plan
  produced_eq : t.produced = s.produced ++ outcomes.filterMap completedOf
  effects_eq : t.effects = s.effects ++ outcomes.filterMap fun o => o.2.written?
  mem_skippedIds : ∀ id, id ∈ t.skippedIds ↔
    id ∈ s.skippedIds ∨ ∃ o ∈ outcomes, o.1.id = id ∧ o.2.isMiss = true
  not_fatal : ∀ o ∈ outcomes,
    (o.2.completed?.isSome = true ∨ o.1.optional = true ∧ o.2.isMiss = true)

theorem taken_of_takeOutcomes (h : s.takeOutcomes outcomes = .ok t) (hacc : s.Accounted plan)
    (hcalls : ∀ o ∈ outcomes, o.1 ∈ plan.calls ∧ o.1.id ∈ s.pending)
    (hnodup : (outcomes.map fun o => o.1.id).Nodup) : Taken plan outcomes s t := by
  induction outcomes generalizing s with
  | nil =>
    cases h
    exact ⟨hacc, by simp, by simp, by simp, by simp⟩
  | cons head rest ih =>
    obtain ⟨call, outcome⟩ := head
    obtain ⟨hcall, hid⟩ := hcalls _ List.mem_cons_self
    obtain ⟨hnew, hlater⟩ := List.nodup_cons.mp hnodup
    have hrest : ∀ o ∈ rest, o.1 ∈ plan.calls ∧ o.1.id ∈ s.pending.filter (· != call.id) := by
      intro o ho
      obtain ⟨hmem, hpending⟩ := hcalls o (List.mem_cons_of_mem _ ho)
      refine ⟨hmem, List.mem_filter.mpr ⟨hpending, bne_iff_ne.mpr fun heq => hnew ?_⟩⟩
      exact List.mem_map.mpr ⟨o, ho, heq⟩
    rw [takeOutcomes] at h
    cases outcome with
    | completed effect =>
      have ht := ih h (hacc.complete hcall hid) hrest hlater
      refine ⟨ht.accounted, ?_, ?_, ?_, ?_⟩
      · simp [ht.produced_eq, completedOf, Outcome.completed?]
      · simp [ht.effects_eq, Outcome.written?]
      · simp [ht.mem_skippedIds, Outcome.isMiss]
      · intro o ho
        rcases List.mem_cons.mp ho with rfl | ho
        · exact .inl rfl
        · exact ht.not_fatal o ho
    | failedFetch raw reason failure =>
      by_cases hoptional : call.optional = true
      · simp only [takeOutcome, hoptional, if_true] at h
        have ht := ih h ((hacc.reportRaw raw).skip hcall hid) hrest hlater
        refine ⟨ht.accounted, ?_, ?_, ?_, ?_⟩
        · rw [ht.produced_eq, List.filterMap_cons_none rfl]
          rfl
        · rw [ht.effects_eq]
          cases raw <;> simp [reportRaw, Outcome.written?]
        · intro id
          rw [ht.mem_skippedIds, skippedIds_skip, List.mem_append, List.mem_singleton,
            List.exists_mem_cons_iff]
          simp only [Outcome.isMiss, and_true, or_assoc, eq_comm (a := call.id)]
          rfl
        · intro o ho
          rcases List.mem_cons.mp ho with rfl | ho
          · exact .inr ⟨hoptional, rfl⟩
          · exact ht.not_fatal o ho
      · simp only [takeOutcome, hoptional] at h
        cases h
    | failed failure => cases h

theorem takeOutcome_error_iff {failure : Failure} {o : Outcome} :
    s.takeOutcome call o = .error failure ↔ o.fatal? call = some failure := by
  cases o with
  | completed effect => simp [takeOutcome, Outcome.fatal?]
  | failed why => simp [takeOutcome, Outcome.fatal?]
  | failedFetch raw reason why =>
    rw [takeOutcome, Outcome.fatal?]
    split <;> simp

theorem not_fatal_of_takeOutcome {o : Outcome} (h : s.takeOutcome call o = .ok t) :
    o.fatal? call = none := by
  rw [Option.eq_none_iff_forall_ne_some]
  intro failure hfatal
  rw [takeOutcome_error_iff.mpr hfatal] at h
  cases h

theorem takeOutcomes_error_first {failure : Failure}
    (h : s.takeOutcomes outcomes = .error failure) :
    ∃ before o after, outcomes = before ++ o :: after ∧ o.2.fatal? o.1 = some failure ∧
      ∀ x ∈ before, x.2.fatal? x.1 = none := by
  induction outcomes generalizing s with
  | nil => cases h
  | cons head rest ih =>
    obtain ⟨call, outcome⟩ := head
    rw [takeOutcomes] at h
    split at h
    · next t ht =>
      obtain ⟨before, o, after, rfl, hfatal, hbefore⟩ := ih h
      exact ⟨(call, outcome) :: before, o, after, rfl, hfatal,
        List.forall_mem_cons.mpr ⟨not_fatal_of_takeOutcome ht, hbefore⟩⟩
    · next why hwhy =>
      cases h
      exact ⟨[], _, rest, rfl, takeOutcome_error_iff.mp hwhy, by simp⟩

theorem not_fatal_of_takeOutcomes (h : s.takeOutcomes outcomes = .ok t) :
    ∀ o ∈ outcomes, o.2.fatal? o.1 = none := by
  induction outcomes generalizing s with
  | nil => simp
  | cons head rest ih =>
    obtain ⟨call, outcome⟩ := head
    rw [takeOutcomes] at h
    split at h
    · next hhead => exact List.forall_mem_cons.mpr ⟨not_fatal_of_takeOutcome hhead, ih h⟩
    · cases h

/-- A fetch that misses ends the run only if the plan cannot do without it. -/
theorem failure_of_takeOutcomes {failure : Failure} (h : s.takeOutcomes outcomes = .error failure) :
    ∃ o ∈ outcomes, o.2.failure? = some failure ∧ (o.2.isMiss = true → o.1.optional = false) := by
  obtain ⟨before, o, after, rfl, hfatal, -⟩ := takeOutcomes_error_first h
  exact ⟨o, List.mem_append_right _ List.mem_cons_self, Outcome.failure?_of_fatal? hfatal⟩

namespace Taken

variable (ht : Taken plan outcomes s t)
include ht

theorem isSome_completedOf {o : Call × Outcome} (ho : o ∈ outcomes) :
    (completedOf o).isSome = !t.isSkipped o.1.id := by
  rcases ht.not_fatal o ho with hsome | ⟨-, hmiss⟩
  · -- Completed calls are not skipped.
    obtain ⟨effect, heffect⟩ := Option.isSome_iff_exists.mp hsome
    have hmem : (o.1, effect) ∈ t.produced := by
      rw [ht.produced_eq, List.mem_append, List.mem_filterMap]
      exact .inr ⟨o, ho, by simp [completedOf, heffect]⟩
    have hid : o.1.id ∈ t.completed := List.mem_map.mpr ⟨_, hmem, rfl⟩
    have hnot : t.isSkipped o.1.id = false := by
      rw [← Bool.not_eq_true, isSkipped_iff]
      exact fun hskipped => (List.nodup_append.mp ht.accounted.done_nodup).2.2 _ hid _ hskipped rfl
    simp [completedOf, heffect, hnot]
  · have hskipped : t.isSkipped o.1.id = true :=
      isSkipped_iff.mpr ((ht.mem_skippedIds _).mpr (.inr ⟨o, ho, rfl, hmiss⟩))
    obtain ⟨call, outcome⟩ := o
    cases outcome with
    | failedFetch raw reason failure => simpa [completedOf, Outcome.completed?] using hskipped
    | completed effect => cases hmiss
    | failed failure => cases hmiss

theorem completed_eq :
    t.completed =
      s.completed ++ (outcomes.map fun o => o.1.id).filter fun id => !t.isSkipped id := by
  have hall : ∀ os ⊆ outcomes, (os.filterMap completedOf).map (fun p => p.1.id) =
      (os.map fun o => o.1.id).filter fun id => !t.isSkipped id := by
    intro os
    induction os with
    | nil => simp
    | cons o rest ih =>
      intro hsub
      obtain ⟨ho, hrest⟩ := List.cons_subset.mp hsub
      have hflag : (completedOf o).isSome = !t.isSkipped o.1.id := ht.isSome_completedOf ho
      rw [List.map_cons, List.filter_cons, ← hflag, ← ih hrest, List.filterMap_cons]
      cases hp : completedOf o with
      | none => rfl
      | some p => simp [fst_of_completedOf hp]
  rw [completed, ht.produced_eq, List.map_append, hall _ (List.Subset.refl _)]
  rfl

end Taken

end Lemmata.RunState
