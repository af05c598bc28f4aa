import Lemmata.Proofs.Run.Pool

/-! # Why a call has no work, and how its task fails -/

namespace Lemmata

namespace RunState

variable {plan : Plan} {clients : Clients} {registry : Registry} {s t : RunState}
variable {call : Call} {work : Work} {failure : Failure} {effect : Effect} {ids : List String}
variable {works : List (Call × Work)}

/-! ## Calls without work -/

/-- Why a call that the plan cannot do without has no work. -/
inductive Lacks (plan : Plan) (clients : Clients) (registry : Registry) (s : RunState)
    (call : Call) : Failure → Prop
  | client (hstage : call.stage = .fetch) (hrequired : call.optional = false)
      (h : clients.get? call.tool = none) :
      Lacks plan clients registry s call (.missingClient plan.id call.id call.tool)
  | source (hstage : call.stage ≠ .fetch) (h : s.source? plan call = none) :
      Lacks plan clients registry s call (.missingSource plan.id call.id call.stage)
  | handler {effect : Effect} (hsource : s.source? plan call = some effect)
      (h : registry.resolves? call.stage call.tool = some false) :
      Lacks plan clients registry s call (.missingHandler plan.id call.id call.stage call.tool)

theorem previous?_of_source? (h : s.source? plan call = some effect) :
    call.stage.previous? = some effect.stage := by
  unfold source? at h
  cases hstage : call.stage.previous? with
  | none => simp [hstage] at h
  | some stage =>
    have hat : ∀ id, s.producedAt? stage id = some effect → effect.stage = stage := by
      intro id hid
      simpa using (Option.filter_eq_some_iff.mp hid).2
    simp only [hstage, Option.bind_eq_bind, Option.bind_some, Option.orElse_eq_orElse,
      Option.orElse_eq_or, Option.or_eq_some_iff] at h
    rcases h with h | ⟨-, h⟩
    · obtain ⟨id, -, hid⟩ := Option.bind_eq_some_iff.mp h
      rw [hat id hid]
    · obtain ⟨id, -, hid⟩ := List.exists_of_findSome?_eq_some h
      rw [hat id hid]

theorem wire_of_wires (h : s.Wires plan clients registry call work) :
    s.wire plan clients registry call = .ok work := by
  cases h with
  | fetch hstage hclient => simp only [wire, hstage, hclient]
  | extract hstage hsource hhandler => simp only [wire, hstage, hsource, hhandler]
  | derive hstage hsource hhandler => simp only [wire, hstage, hsource, hhandler]
  | claim hstage hsource hhandler => simp only [wire, hstage, hsource, hhandler]

theorem unwired_of_lacks (h : s.Lacks plan clients registry call failure) :
    s.Unwired plan clients registry call failure := by
  cases h with
  | client hstage hrequired h =>
    refine ⟨by simp only [wire, hstage, h], fun hoptional => ?_⟩
    rw [hrequired] at hoptional
    cases hoptional.2
  | source hstage h =>
    refine ⟨?_, fun hoptional => hstage hoptional.1⟩
    cases hcall : call.stage with
    | fetch => exact absurd hcall hstage
    | _ => simp only [wire, hcall, h]
  | @handler effect hsource h =>
    -- The source is of the stage before, which leaves one kind of handler.
    have hprevious := previous?_of_source? hsource
    cases hstage : call.stage with
    | fetch => simp [hstage, Stage.previous?] at hprevious
    | extract =>
      cases effect <;> simp [hstage, Stage.previous?, Effect.stage] at hprevious
      simp_all [Unwired, wire, Registry.resolves?]
    | derive =>
      cases effect <;> simp [hstage, Stage.previous?, Effect.stage] at hprevious
      simp_all [Unwired, wire, Registry.resolves?]
    | claim =>
      cases effect <;> simp [hstage, Stage.previous?, Effect.stage] at hprevious
      simp_all [Unwired, wire, Registry.resolves?]

theorem exists_wires (hsource : s.source? plan call = some effect)
    (h : registry.resolves? call.stage call.tool = some true) :
    ∃ work, s.Wires plan clients registry call work := by
  have hprevious := previous?_of_source? hsource
  cases hstage : call.stage with
  | fetch => simp [hstage, Stage.previous?] at hprevious
  | extract =>
    cases effect <;> simp [hstage, Stage.previous?, Effect.stage] at hprevious
    simp only [Registry.resolves?, hstage, Option.some.injEq] at h
    obtain ⟨handler, hhandler⟩ := Option.isSome_iff_exists.mp h
    exact ⟨_, .extract hstage hsource hhandler⟩
  | derive =>
    cases effect <;> simp [hstage, Stage.previous?, Effect.stage] at hprevious
    simp only [Registry.resolves?, hstage, Option.some.injEq] at h
    obtain ⟨handler, hhandler⟩ := Option.isSome_iff_exists.mp h
    exact ⟨_, .derive hstage hsource hhandler⟩
  | claim =>
    cases effect <;> simp [hstage, Stage.previous?, Effect.stage] at hprevious
    simp only [Registry.resolves?, hstage, Option.some.injEq] at h
    obtain ⟨handler, hhandler⟩ := Option.isSome_iff_exists.mp h
    exact ⟨_, .claim hstage hsource hhandler⟩

/-- A call has work, or it lacks something, or it is a fetch that the plan can do without. -/
theorem wires_or_lacks (plan : Plan) (clients : Clients) (registry : Registry) (s : RunState)
    (call : Call) : (∃ work, s.Wires plan clients registry call work) ∨
      (∃ failure, s.Lacks plan clients registry call failure) ∨
      call.stage = .fetch ∧ call.optional = true ∧ clients.get? call.tool = none := by
  by_cases hstage : call.stage = .fetch
  · cases hclient : clients.get? call.tool with
    | some client => exact .inl ⟨_, .fetch hstage hclient⟩
    | none =>
      cases hoptional : call.optional with
      | true => exact .inr (.inr ⟨hstage, rfl, rfl⟩)
      | false => exact .inr (.inl ⟨_, .client hstage hoptional hclient⟩)
  · cases hsource : s.source? plan call with
    | none => exact .inr (.inl ⟨_, .source hstage hsource⟩)
    | some effect =>
      cases hresolves : registry.resolves? call.stage call.tool with
      | none => cases hcall : call.stage <;> simp_all [Registry.resolves?]
      | some found =>
        cases found with
        | true => exact .inl (exists_wires hsource hresolves)
        | false => exact .inr (.inl ⟨_, .handler hsource hresolves⟩)

theorem lacks_iff : s.Lacks plan clients registry call failure ↔
    s.Unwired plan clients registry call failure := by
  refine ⟨unwired_of_lacks, ?_⟩
  rintro ⟨hwire, hneeded⟩
  rcases wires_or_lacks plan clients registry s call with ⟨work, hwork⟩ | ⟨why, hwhy⟩ | hoptional
  · rw [wire_of_wires hwork] at hwire
    cases hwire
  · rw [(unwired_of_lacks hwhy).1] at hwire
    cases hwire
    exact hwhy
  · exact absurd ⟨hoptional.1, hoptional.2.1⟩ hneeded

theorem cases_of_wireAll (h : wireAll plan clients registry ids s = .ok (t, works)) :
    ∀ id ∈ ids, ∀ call, plan.call? id = some call →
      (∃ work, (call, work) ∈ works ∧ s.Wires plan clients registry call work) ∨
        call.stage = .fetch ∧ call.optional = true ∧ clients.get? call.tool = none := by
  induction ids generalizing s works with
  | nil => exact fun id hid => (List.not_mem_nil hid).elim
  | cons callId rest ih =>
    intro id hid call hcall
    rw [wireAll] at h
    split at h
    · next hnone =>
      rcases List.mem_cons.mp hid with rfl | hid
      · simp [hnone] at hcall
      · exact ih h id hid call hcall
    · next found hfound =>
      split at h
      · next work hwork =>
        cases hrest : wireAll plan clients registry rest s with
        | error failure => simp [hrest, Except.map] at h
        | ok later =>
          obtain ⟨t', works'⟩ := later
          obtain ⟨rfl, rfl⟩ : t' = t ∧ (found, work) :: works' = works := by
            simpa [hrest, Except.map] using h
          rcases List.mem_cons.mp hid with rfl | hid
          · obtain rfl : found = call := Option.some.inj (hfound.symm.trans hcall)
            exact .inl ⟨work, List.mem_cons_self, wires_of_wire hwork⟩
          · refine (ih hrest id hid call hcall).imp_left ?_
            rintro ⟨w, hw, hwires⟩
            exact ⟨w, List.mem_cons_of_mem _ hw, hwires⟩
      · next failure hfailure =>
        split at h
        case isFalse => cases h
        case isTrue hoptional =>
          rcases List.mem_cons.mp hid with rfl | hid
          · obtain rfl : found = call := Option.some.inj (hfound.symm.trans hcall)
            exact .inr ⟨hoptional.1, hoptional.2, clients_get?_of_wire_error hoptional.1 hfailure⟩
          · refine (ih h id hid call hcall).imp_left ?_
            rintro ⟨w, hw, hwires⟩
            have hwire := wire_of_wires hwires
            rw [wire_congr (produced_skip (s := s))] at hwire
            exact ⟨w, hw, wires_of_wire hwire⟩

end RunState

namespace Request

variable {r : Request} {call : Call} {work : Work} {failure : Failure}

/-! ## Tasks that fail -/

/-- How the task of a call ends the run: it breaks off, its handler fails, or it is a fetch that the
plan cannot do without and gets no response or no success. -/
inductive Fails (r : Request) (call : Call) : Work → Failure → Prop
  | broken {work : Work} {text : String} (h : r.readings.faults.task call.id = some text) :
      Fails r call work (.handlerFailed r.plan.id call.id call.stage s!"Task failed: {text}")
  | client {client : Client} {failure : Failure} (hwhole : r.readings.faults.task call.id = none)
      (hrequired : call.optional = false)
      (h : client.execute call.id call.endpoint call.params = .error failure) :
      Fails r call (.fetch client) (.clientFailed r.plan.id call.id call.tool failure.message)
  | status {client : Client} {raw : RawResponse} (hwhole : r.readings.faults.task call.id = none)
      (hrequired : call.optional = false)
      (h : client.execute call.id call.endpoint call.params = .ok raw)
      (hstatus : client.isSuccess (Work.stamp call.tool (r.readings.call call.id) raw) = false) :
      Fails r call (.fetch client) (.fetchFailed r.plan.id call.id raw.status)
  | extract {handler : ExtractHandler} {raw : RawResponse} {text : String}
      (hwhole : r.readings.faults.task call.id = none) (h : handler call raw = .error text) :
      Fails r call (.extract handler raw) (.handlerFailed r.plan.id call.id call.stage text)
  | derive {handler : DeriveHandler} {extraction : Extraction} {text : String}
      (hwhole : r.readings.faults.task call.id = none)
      (h : handler call extraction = .error text) :
      Fails r call (.derive handler extraction) (.handlerFailed r.plan.id call.id call.stage text)
  | claim {handler : ClaimHandler} {derivation : Derivation} {text : String}
      (hwhole : r.readings.faults.task call.id = none)
      (h : handler call derivation = .error text) :
      Fails r call (.claim handler derivation) (.handlerFailed r.plan.id call.id call.stage text)

theorem outcomeOf_broken {text : String} (h : r.readings.faults.task call.id = some text)
    (work : Work) : r.outcomeOf call work =
      .failed (.handlerFailed r.plan.id call.id call.stage s!"Task failed: {text}") := by
  simp only [outcomeOf, Run.settle, h]

theorem outcomeOf_whole (hwhole : r.readings.faults.task call.id = none)
    (hwrite : r.readings.faults.write call.id = none) (work : Work) :
    r.outcomeOf call work = work.perform r.plan.id call (r.readings.call call.id) := by
  unfold outcomeOf Run.settle
  rw [hwhole, hwrite]
  cases (work.perform r.plan.id call (r.readings.call call.id)).written? <;> rfl

theorem fatal?_outcomeOf {α : Type} {planId : String} {make : α → Effect}
    {result : Except String α} :
    (Work.outcomeOf planId call make result).fatal? call = some failure ↔
      ∃ text, result = .error text ∧ failure = .handlerFailed planId call.id call.stage text := by
  cases result with
  | ok e => simp [Work.outcomeOf, Outcome.fatal?]
  | error text => simp [Work.outcomeOf, Outcome.fatal?, eq_comm]

theorem fatal?_fetchOutcome {client : Client} (hwhole : r.readings.faults.task call.id = none)
    (h : (Work.fetchOutcome r.plan.id call (r.readings.call call.id) client).fatal? call =
      some failure) : r.Fails call (.fetch client) failure := by
  unfold Work.fetchOutcome at h
  cases hrequired : call.optional with
  | true =>
    split at h
    · simp [Outcome.fatal?, hrequired] at h
    · dsimp only at h
      split at h <;> simp [Outcome.fatal?, hrequired] at h
  | false =>
    split at h
    · next why hwhy =>
      obtain rfl : Failure.clientFailed r.plan.id call.id call.tool why.message = failure := by
        simpa [Outcome.fatal?, hrequired] using h
      exact .client hwhole hrequired hwhy
    · next raw hraw =>
      dsimp only at h
      split at h
      · cases h
      · next hstatus =>
        have hfailure : Failure.fetchFailed r.plan.id call.id
            (Work.stamp call.tool (r.readings.call call.id) raw).status = failure := by
          simpa [Outcome.fatal?, hrequired] using h
        have hfails : r.Fails call (.fetch client) (.fetchFailed r.plan.id call.id raw.status) :=
          .status hwhole hrequired hraw (by simpa using hstatus)
        obtain rfl := hfailure
        exact hfails

theorem fails_iff (hwrite : r.readings.faults.write call.id = none) :
    r.Fails call work failure ↔ (r.outcomeOf call work).fatal? call = some failure := by
  cases hwhole : r.readings.faults.task call.id with
  | some text =>
    rw [outcomeOf_broken hwhole]
    constructor
    · intro h
      cases h <;> simp_all [Outcome.fatal?]
    · intro h
      cases h
      exact .broken hwhole
  | none =>
    rw [outcomeOf_whole hwhole hwrite]
    constructor
    · intro h
      cases h with
      | broken h => simp [hwhole] at h
      | client _ hrequired h =>
        simp [Work.perform, Work.fetchOutcome, h, Outcome.fatal?, hrequired]
      | status _ hrequired h hstatus =>
        simp only [Work.perform, Work.fetchOutcome, h, hstatus, Outcome.fatal?, hrequired]
        rfl
      | extract _ h => exact fatal?_outcomeOf.mpr ⟨_, h, rfl⟩
      | derive _ h => exact fatal?_outcomeOf.mpr ⟨_, h, rfl⟩
      | claim _ h => exact fatal?_outcomeOf.mpr ⟨_, h, rfl⟩
    · intro h
      cases work with
      | fetch client => exact fatal?_fetchOutcome hwhole h
      | extract handler raw =>
        obtain ⟨text, htext, rfl⟩ := fatal?_outcomeOf.mp h
        exact .extract hwhole htext
      | derive handler extraction =>
        obtain ⟨text, htext, rfl⟩ := fatal?_outcomeOf.mp h
        exact .derive hwhole htext
      | claim handler derivation =>
        obtain ⟨text, htext, rfl⟩ := fatal?_outcomeOf.mp h
        exact .claim hwhole htext

end Request

end Lemmata
