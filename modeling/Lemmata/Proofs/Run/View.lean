import Lemmata.Proofs.Plan.SameWork
import Lemmata.Proofs.Run.Round

/-! # What an onlooker sees of a run -/

namespace Lemmata

/-- How an onlooker sees what two runs of the same work may differ in: the ID of the plan, and what
was read from a clock. All else is seen as it is. -/
structure View where
  planId : String → String
  /-- The reason of a skip, which may name the plan. -/
  reason : String → String
  duration : UInt64 → UInt64
  savedAt : Int → Int
  access : String → String

namespace View

variable (v : View)

/-! ## Effects -/

def raw (e : RawResponse) : RawResponse :=
  { e with durationMs := v.duration e.durationMs }

def extraction (e : Extraction) : Extraction :=
  { e with durationMs := v.duration e.durationMs }

def derivation (e : Derivation) : Derivation :=
  { e with durationMs := v.duration e.durationMs }

def claim (e : Claim) : Claim :=
  { e with durationMs := v.duration e.durationMs }

def effect : Effect → Effect
  | .raw e => .raw (v.raw e)
  | .extraction e => .extraction (v.extraction e)
  | .derivation e => .derivation (v.derivation e)
  | .claim e => .claim (v.claim e)

@[simp] theorem id_effect (e : Effect) : (v.effect e).id = e.id := by
  cases e <;> rfl

@[simp] theorem stage_effect (e : Effect) : (v.effect e).stage = e.stage := by
  cases e <;> rfl

/-! ## Results -/

def failure : Failure → Failure
  | .duplicateCall planId callId => .duplicateCall (v.planId planId) callId
  | .unknownDependency planId callId => .unknownDependency (v.planId planId) callId
  | .cycle planId pending => .cycle (v.planId planId) pending
  | .missingClient planId callId tool => .missingClient (v.planId planId) callId tool
  | .missingHandler planId callId stage tool => .missingHandler (v.planId planId) callId stage tool
  | .missingSource planId callId stage => .missingSource (v.planId planId) callId stage
  | .fetchFailed planId callId status => .fetchFailed (v.planId planId) callId status
  | .clientFailed planId callId tool text => .clientFailed (v.planId planId) callId tool text
  | .handlerFailed planId callId stage text => .handlerFailed (v.planId planId) callId stage text
  | .timeout planId completed => .timeout (v.planId planId) completed
  | other => other

def except {α β : Type} (f : α → β) : Except Failure α → Except Failure β
  | .ok a => .ok (f a)
  | .error e => .error (v.failure e)

def skipped (c : SkippedCall) : SkippedCall :=
  { c with reason := v.reason c.reason }

def executed (e : ExecutedPlan) : ExecutedPlan :=
  { e with planId := v.planId e.planId, durationMs := v.duration e.durationMs }

def artifacts (a : Artifacts) : Artifacts where
  executed := v.executed a.executed
  raws := a.raws.map v.raw
  extractions := a.extractions.map v.extraction
  derivations := a.derivations.map v.derivation
  claims := a.claims.map v.claim
  skipped := a.skipped.map v.skipped

theorem artifacts_ofEffects (executed : ExecutedPlan) (effects : List Effect)
    (skipped : List SkippedCall) :
    v.artifacts (.ofEffects executed effects skipped) =
      .ofEffects (v.executed executed) (effects.map v.effect) (skipped.map v.skipped) := by
  simp only [artifacts, Artifacts.ofEffects, List.map_filterMap, List.filterMap_map]
  congr 1 <;>
  · apply List.filterMap_congr
    intro e _
    cases e <;> rfl

/-! ## The store -/

def column (c : Int64) : Int64 :=
  (v.duration c.toUInt64).toInt64

def rawRow (r : RawRow) : RawRow :=
  { r with durationMs := v.column r.durationMs, savedAt := v.savedAt r.savedAt }

def extractionRow (r : ExtractionRow) : ExtractionRow :=
  { r with durationMs := v.column r.durationMs }

def derivationRow (r : DerivationRow) : DerivationRow :=
  { r with durationMs := v.column r.durationMs }

def claimRow (r : ClaimRow) : ClaimRow :=
  { r with durationMs := v.column r.durationMs }

def planRow (r : PlanRow) : PlanRow :=
  { r with
    planId := v.planId r.planId
    durationMs := v.column r.durationMs
    lastAccess := v.access r.lastAccess }

def table {α : Type} [Keyed α] (f : α → α) (t : Table α) : Table α :=
  ⟨t.rows.map f⟩

def store (s : Store) : Store where
  raws := table v.rawRow s.raws
  extractions := table v.extractionRow s.extractions
  derivations := table v.derivationRow s.derivations
  claims := table v.claimRow s.claims
  plans := table v.planRow s.plans

def report (r : RunReport) : RunReport where
  store := v.store r.store
  started := r.started
  result := v.except v.artifacts r.result

theorem table_put {α : Type} [Keyed α] {f : α → α} (hf : ∀ a, Keyed.key (f a) = Keyed.key a)
    (t : Table α) (row : α) : table f (t.put row) = (table f t).put (f row) := by
  have hkey : (fun a => Keyed.key a != Keyed.key row) =
      (fun a => Keyed.key a != Keyed.key row) ∘ f := funext fun a => by rw [Function.comp, hf]
  simp only [table, Table.put, Table.erase, List.map_cons, hf, List.filter_map, ← hkey]

@[simp] theorem column_toInt64 (d : UInt64) : v.column d.toInt64 = (v.duration d).toInt64 := by
  rw [column, UInt64.toUInt64_toInt64]

theorem raws_put (t : Table RawRow) (second : Int) (e : RawResponse) :
    table v.rawRow (t.put (.ofEffect second e)) =
      (table v.rawRow t).put (.ofEffect (v.savedAt second) (v.raw e)) := by
  rw [table_put (f := v.rawRow) fun _ => rfl]
  simp [rawRow, RawRow.ofEffect, raw]

theorem extractions_put (t : Table ExtractionRow) (e : Extraction) :
    table v.extractionRow (t.put (.ofEffect e)) =
      (table v.extractionRow t).put (.ofEffect (v.extraction e)) := by
  rw [table_put (f := v.extractionRow) fun _ => rfl]
  simp [extractionRow, ExtractionRow.ofEffect, extraction]

theorem derivations_put (t : Table DerivationRow) (e : Derivation) :
    table v.derivationRow (t.put (.ofEffect e)) =
      (table v.derivationRow t).put (.ofEffect (v.derivation e)) := by
  rw [table_put (f := v.derivationRow) fun _ => rfl]
  simp [derivationRow, DerivationRow.ofEffect, derivation]

theorem claims_put (t : Table ClaimRow) (e : Claim) :
    table v.claimRow (t.put (.ofEffect e)) = (table v.claimRow t).put (.ofEffect (v.claim e)) := by
  rw [table_put (f := v.claimRow) fun _ => rfl]
  simp [claimRow, ClaimRow.ofEffect, claim]

def saveAt (second : Int) (s : Store) : Effect → Store
  | .raw e => { s with raws := s.raws.put (.ofEffect second e) }
  | .extraction e => s.saveExtraction e
  | .derivation e => s.saveDerivation e
  | .claim e => s.saveClaim e

theorem save_eq_saveAt (s : Store) (now : Moment) (e : Effect) :
    s.save now e = saveAt now.second s e := by
  cases e <;> rfl

theorem store_saveAt (second : Int) (s : Store) (e : Effect) :
    v.store (saveAt second s e) = saveAt (v.savedAt second) (v.store s) (v.effect e) := by
  cases e with
  | raw e => simp only [saveAt, store, effect, raws_put]
  | extraction e => simp only [saveAt, Store.saveExtraction, store, effect, extractions_put]
  | derivation e => simp only [saveAt, Store.saveDerivation, store, effect, derivations_put]
  | claim e => simp only [saveAt, Store.saveClaim, store, effect, claims_put]

variable {v}

theorem option_cases {α β γ : Type} {f : α → γ} {g : β → γ} {x : Option α} {y : Option β}
    (h : x.map f = y.map g) :
    (x = none ∧ y = none) ∨ ∃ a b, x = some a ∧ y = some b ∧ f a = g b := by
  cases x <;> cases y
  · exact .inl ⟨rfl, rfl⟩
  · cases h
  · cases h
  · exact .inr ⟨_, _, rfl, rfl, Option.some.inj h⟩

theorem except_cases {α β γ : Type} {f : α → γ} {g : β → γ} {x : Except Failure α}
    {y : Except Failure β} (h : v.except f x = v.except g y) :
    (∃ a b, x = .ok a ∧ y = .ok b ∧ f a = g b) ∨
      ∃ e e', x = .error e ∧ y = .error e' ∧ v.failure e = v.failure e' := by
  cases x <;> cases y
  · exact .inr ⟨_, _, rfl, rfl, Except.error.inj h⟩
  · cases h
  · cases h
  · exact .inl ⟨_, _, rfl, rfl, Except.ok.inj h⟩

theorem store_save {s t : Store} {m n : Moment} {e f : Effect} (hs : v.store s = v.store t)
    (hmoment : v.savedAt m.second = v.savedAt n.second) (he : v.effect e = v.effect f) :
    v.store (s.save m e) = v.store (t.save n f) := by
  rw [save_eq_saveAt, save_eq_saveAt, store_saveAt, store_saveAt, hs, hmoment, he]

theorem store_saveExecuted {s t : Store} {m n : Moment} {e f : ExecutedPlan}
    (hs : v.store s = v.store t) (hmoment : v.access m.text = v.access n.text)
    (he : v.executed e = v.executed f) :
    v.store (s.saveExecuted m e) = v.store (t.saveExecuted n f) := by
  have hkey : ∀ r : PlanRow, Keyed.key (v.planRow r) = Keyed.key r := fun _ => rfl
  have hrow : v.planRow (.ofExecuted m e) = v.planRow (.ofExecuted n f) := by
    simp only [executed, ExecutedPlan.mk.injEq] at he
    obtain ⟨hplan, hhash, hreferences, hduration, -⟩ := he
    simp [planRow, PlanRow.ofExecuted, hplan, hhash, hreferences, hduration, hmoment]
  simp only [store, Store.mk.injEq] at hs
  obtain ⟨hraws, hextractions, hderivations, hclaims, hplans⟩ := hs
  simp only [Store.saveExecuted, store]
  rw [table_put hkey, table_put hkey, hraws, hextractions, hderivations, hclaims, hplans, hrow]

/-! ## The state between two rounds -/

variable (v)

def produced (p : Call × Effect) : Call × Effect :=
  (p.1.bare, v.effect p.2)

def state (s : RunState) : RunState where
  pending := s.pending
  produced := s.produced.map v.produced
  effects := s.effects.map v.effect
  skipped := s.skipped.map v.skipped

def outcome : Outcome → Outcome
  | .completed e => .completed (v.effect e)
  | .failedFetch e reason failure =>
    .failedFetch (e.map v.raw) (v.reason reason) (v.failure failure)
  | .failed failure => .failed (v.failure failure)

def done (o : Call × Outcome) : Call × Outcome :=
  (o.1.bare, v.outcome o.2)

theorem isSkipped_state (s : RunState) : (v.state s).isSkipped = s.isSkipped := by
  funext id
  simp [RunState.isSkipped, state, List.any_map, Function.comp_def, skipped]

theorem produced?_state (s : RunState) (id : String) :
    (v.state s).produced? id = (s.produced? id).map v.effect := by
  simp only [RunState.produced?, state, List.find?_map, Option.map_map]
  rfl

theorem producedAt?_state (s : RunState) (stage : Stage) (id : String) :
    (v.state s).producedAt? stage id = (s.producedAt? stage id).map v.effect := by
  rw [RunState.producedAt?, RunState.producedAt?, produced?_state, Option.filter_map]
  simp [Function.comp_def]

theorem source?_state (s : RunState) (plan : Plan) (call : Call) :
    (v.state s).source? plan call = (s.source? plan call).map v.effect := by
  cases hstage : call.stage.previous? with
  | none => simp [RunState.source?, hstage]
  | some stage =>
    have hat := funext (v.producedAt?_state s stage)
    simp only [RunState.source?, hstage, hat, Option.bind_eq_bind, Option.bind_some,
      Option.orElse_eq_orElse, Option.orElse_eq_or, Option.map_or, Option.map_bind,
      List.map_findSome?]
    rfl

theorem blockedBySkipped_state (s : RunState) (plan : Plan) :
    (v.state s).blockedBySkipped plan = s.blockedBySkipped plan := by
  rw [RunState.blockedBySkipped, isSkipped_state]
  rfl

theorem ready_state (s : RunState) (plan : Plan) : (v.state s).ready plan = s.ready plan := by
  simp only [RunState.ready, produced?_state, Option.isSome_map]
  rfl

theorem references_state (s : RunState) :
    (v.state s).produced.map RunState.reference = s.produced.map RunState.reference := by
  simp [state, produced, RunState.reference, Call.bare]

theorem state_skip (s : RunState) (call : Call) (reason : String) :
    v.state (s.skip call reason) = (v.state s).skip call.bare (v.reason reason) := by
  simp [state, RunState.skip, RunState.drop, Call.bare, skipped]

theorem state_drop (s : RunState) (callId : String) :
    v.state (s.drop callId) = (v.state s).drop callId := rfl

theorem state_complete (s : RunState) (call : Call) (e : Effect) :
    v.state (s.complete call e) = (v.state s).complete call.bare (v.effect e) := by
  simp [state, RunState.complete, RunState.drop, Call.bare, produced]

theorem state_reportRaw (s : RunState) (raw : Option RawResponse) :
    v.state (s.reportRaw raw) = (v.state s).reportRaw (raw.map v.raw) := by
  cases raw <;> simp [state, RunState.reportRaw, effect]

theorem takeOutcome_state (s : RunState) (call : Call) (o : Outcome) :
    (v.state s).takeOutcome call.bare (v.outcome o) = v.except v.state (s.takeOutcome call o) := by
  cases o with
  | completed e => rw [outcome, RunState.takeOutcome, RunState.takeOutcome, except, state_complete]
  | failed failure => rfl
  | failedFetch raw reason failure =>
    have hoptional : call.bare.optional = call.optional := rfl
    rw [outcome, RunState.takeOutcome, RunState.takeOutcome, hoptional]
    split
    · rw [except, state_skip, state_reportRaw]
    · rfl

theorem takeOutcomes_state (s : RunState) (os : List (Call × Outcome)) :
    (v.state s).takeOutcomes (os.map v.done) = v.except v.state (s.takeOutcomes os) := by
  induction os generalizing s with
  | nil => rfl
  | cons o rest ih =>
    obtain ⟨call, o⟩ := o
    rw [List.map_cons, done, RunState.takeOutcomes, RunState.takeOutcomes, takeOutcome_state]
    cases s.takeOutcome call o with
    | ok s => exact ih s
    | error failure => rfl

end View

end Lemmata
