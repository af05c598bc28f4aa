import Lemmata.Proofs.Run.Rounds

/-! # A whole run -/

namespace Lemmata

namespace Artifacts

def completedIds (a : Artifacts) : List String :=
  a.executed.references.map Reference.callId

def skippedIds (a : Artifacts) : List String :=
  a.skipped.map SkippedCall.callId

end Artifacts

def Effect.raw? : Effect → Option RawResponse
  | raw e => some e
  | _ => none

theorem Run.checkLimits_of_untimed {options : ExecutionOptions} (readings : Readings)
    (hdeadline : options.deadlineMs = none) :
    checkLimits options readings =
      if options.maxConcurrency ≤ greatestConcurrency then .ok ()
      else .error (.outOfRange .concurrency) := by
  have hone : 1 ≤ greatestConcurrency := by decide
  have hmax : greatestConcurrency < max options.maxConcurrency 1 ↔
      ¬ options.maxConcurrency ≤ greatestConcurrency := by omega
  simp only [checkLimits, hdeadline, hmax, ite_not]
  split_ifs <;> rfl

namespace Request

variable {r : Request} {layers : List (List String)} {done : List (List (Call × Outcome))}
variable {s t u : RunState} {works : List (Call × Work)} {store : Store}
variable {failure : Failure} {result : Except Failure RunState}

/-! ## How the rounds end -/

/-- The rounds end, after these outcomes, with a state or with a failure. -/
inductive Ends (r : Request) : List (List (Call × Outcome)) → Except Failure RunState → Prop
  | finished {done : List (List (Call × Outcome))} {s t : RunState} (h : Reaches r done s)
      (hstart : r.start done.length s = .finished t) : Ends r done (.ok t)
  | stopped {done : List (List (Call × Outcome))} {s : RunState} {failure : Failure}
      (h : Reaches r done s) (hstart : r.start done.length s = .failed failure) :
      Ends r done (.error failure)
  | broken {done : List (List (Call × Outcome))} {s t : RunState} {works : List (Call × Work)}
      {failure : Failure} (h : Reaches r done s) (hstart : r.start done.length s = .work t works)
      (htake : t.takeOutcomes (r.perform works) = .error failure) :
      Ends r (done ++ [r.perform works]) (.error failure)

theorem Reaches.length_le (h : Reaches r done s) (hl : r.plan.Layered layers) :
    done.length ≤ layers.length := by
  cases h with
  | start => exact Nat.zero_le _
  | round h hstart _ =>
    obtain ⟨layer, hk, -⟩ := (h.startInv hl hstart).names_eq
    obtain ⟨hlt, -⟩ := List.getElem?_eq_some_iff.mp hk
    rw [List.length_append, List.length_singleton]
    omega

theorem writeAll_append (readings : Readings) (store : Store)
    (before after : List (Call × Outcome)) :
    Run.writeAll readings store (before ++ after) =
      Run.writeAll readings (Run.writeAll readings store before) after :=
  List.foldl_append

theorem writeAll_cons (readings : Readings) (store : Store) (o : Call × Outcome)
    (rest : List (Call × Outcome)) :
    Run.writeAll readings store (o :: rest) =
      Run.writeAll readings (Run.writeOutcome readings store o) rest := rfl

/-- The rounds without a store: what came of the calls, and how the rounds ended. -/
def rounds (r : Request) : (fuel round : Nat) → RunState →
    List (List (Call × Outcome)) × Except Failure RunState
  | 0, _, s => ([], .error (.cycle r.plan.id s.pending))
  | fuel + 1, round, s =>
    match r.start round s with
    | .finished t => ([], .ok t)
    | .failed failure => ([], .error failure)
    | .work t works =>
      match t.takeOutcomes (r.perform works) with
      | .error failure => ([r.perform works], .error failure)
      | .ok u =>
        let (further, result) := r.rounds fuel (round + 1) u
        (r.perform works :: further, result)

/-- The store takes no part in the rounds, it only takes what they write. -/
theorem rounds_eq (r : Request) (fuel round : Nat) (store : Store) (s : RunState) :
    Run.rounds r.plan r.clients r.registry r.options r.readings fuel round store s =
      (Run.writeAll r.readings store (r.rounds fuel round s).1.flatten,
        (r.rounds fuel round s).1.map names, (r.rounds fuel round s).2) := by
  induction fuel generalizing round store s with
  | zero => rfl
  | succ fuel ih =>
    rw [Run.rounds, rounds]
    cases hstart : r.start round s with
    | finished t =>
      unfold start at hstart
      simp [hstart, Run.writeAll]
    | failed failure =>
      unfold start at hstart
      simp [hstart, Run.writeAll]
    | work t works =>
      have hround : Run.startRound r.plan r.clients r.registry r.options r.readings round s =
          .work t works := hstart
      have hnames : works.map (fun p => p.1.id) = names (r.perform works) := names_perform.symm
      have hperform : Run.performAll r.plan r.readings works = r.perform works := rfl
      simp only [hround, hnames, hperform]
      cases htake : t.takeOutcomes (r.perform works) with
      | error failure => simp
      | ok u => simp only [ih, List.flatten_cons, List.map_cons, writeAll_append]

/-- There are no more rounds than calls, so that the rounds do end. -/
theorem ends_rounds (hl : r.plan.Layered layers) (fuel : Nat) (h : Reaches r done s)
    (hfuel : r.plan.calls.length < fuel + done.length) :
    Ends r (done ++ (r.rounds fuel done.length s).1) (r.rounds fuel done.length s).2 := by
  induction fuel generalizing done s with
  | zero =>
    have hdone := h.length_le hl
    have hlayers := hl.length_le
    omega
  | succ fuel ih =>
    rw [rounds]
    cases hstart : r.start done.length s with
    | finished t => simpa using Ends.finished h hstart
    | failed failure => simpa using Ends.stopped h hstart
    | work t works =>
      simp only
      cases htake : t.takeOutcomes (r.perform works) with
      | error failure => exact .broken h hstart htake
      | ok u =>
        have hends := ih (.round h hstart htake)
          (by rw [List.length_append, List.length_singleton]; omega)
        rw [List.length_append, List.length_singleton] at hends
        simpa using hends

def allRounds (r : Request) : List (List (Call × Outcome)) × Except Failure RunState :=
  r.rounds (r.plan.calls.length + 1) 0 (.initial r.plan)

theorem ends_allRounds (hl : r.plan.Layered layers) : Ends r r.allRounds.1 r.allRounds.2 := by
  have hends := ends_rounds hl (r.plan.calls.length + 1) .start (Nat.lt_succ_self _)
  rwa [List.nil_append] at hends

theorem rounds_eq_allRounds (r : Request) (store : Store) :
    Run.rounds r.plan r.clients r.registry r.options r.readings (r.plan.calls.length + 1) 0 store
        (.initial r.plan) =
      (Run.writeAll r.readings store r.allRounds.1.flatten, r.allRounds.1.map names,
        r.allRounds.2) :=
  rounds_eq r _ 0 store _

/-! ## The last state -/

theorem Ends.final (h : Ends r done (.ok s)) (hl : r.plan.Layered layers) :
    RoundInv r layers done s ∧ s.pending = [] := by
  cases h with
  | finished h hstart =>
    obtain ⟨rfl, hpending⟩ := start_finished hstart
    exact ⟨(h.roundInv hl).skipBlocked, hpending⟩

theorem Ends.completed_or_skipped (h : Ends r done (.ok s)) (hl : r.plan.Layered layers)
    {id : String} (hid : id ∈ r.plan.callIds) : id ∈ s.completed ∨ id ∈ s.skippedIds := by
  obtain ⟨hinv, hpending⟩ := h.final hl
  have hnot : id ∉ s.pending := hpending ▸ List.not_mem_nil
  rw [hinv.accounted.mem_pending] at hnot
  tauto

theorem Ends.completed_eq (h : Ends r done (.ok s)) (hl : r.plan.Layered layers) :
    s.completed = layers.flatten.filter fun id => !s.isSkipped id := by
  obtain ⟨hinv, -⟩ := h.final hl
  have hsplit : layers.flatten = Plan.firstLayers layers done.length ++
      (layers.drop done.length).flatten := by
    rw [Plan.firstLayers, ← List.flatten_append, List.take_append_drop]
  have hrest : ((layers.drop done.length).flatten.filter fun id => !s.isSkipped id) = [] := by
    rw [List.filter_eq_nil_iff]
    intro id hid hskipped
    rw [RunState.not_isSkipped_iff] at hskipped
    have hcall : id ∈ r.plan.callIds := hl.mem_flatten.mp (hsplit ▸ List.mem_append_right _ hid)
    have hcompleted := (h.completed_or_skipped hl hcall).resolve_right hskipped
    rw [hinv.completed_eq] at hcompleted
    have hnodup := hl.flatten_nodup
    rw [hsplit] at hnodup
    exact (List.nodup_append.mp hnodup).2.2 id (List.mem_filter.mp hcompleted).1 id hid rfl
  rw [hsplit, List.filter_append, hrest, List.append_nil, hinv.completed_eq]

/-! ## Where a run comes from -/

/-- The earlier run that is the answer. -/
def Served (r : Request) (store : Store) (cached : ExecutedPlan) : Prop :=
  r.options.allowCache = true ∧
    (Run.ask r.readings store r.plan.hash).2 = .ok (some cached)

/-- The store when the first round begins. -/
def asked (r : Request) (store : Store) : Store :=
  if r.options.allowCache then (Run.ask r.readings store r.plan.hash).1 else store

def summary (r : Request) (s : RunState) : ExecutedPlan :=
  Run.summary r.plan r.readings s

theorem completedIds_ofEffects (r : Request) (s : RunState) :
    (Artifacts.ofEffects (r.summary s) s.effects s.skipped).completedIds = s.completed := by
  simp [Artifacts.completedIds, Artifacts.ofEffects, summary, Run.summary, RunState.completed,
    RunState.reference]

/-- The report of a run that is not answered from the store. -/
inductive Fresh (r : Request) (store : Store) : RunReport → Prop
  | refused {failure : Failure}
      (hwhy : Run.checkLimits r.options r.readings = .error failure ∨
        (Run.ask r.readings store r.plan.hash).2 = .error failure) :
      Fresh r store ⟨r.asked store, [], .error failure⟩
  | failed {done : List (List (Call × Outcome))} {failure : Failure}
      (h : Ends r done (.error failure)) :
      Fresh r store ⟨Run.writeAll r.readings (r.asked store) done.flatten, done.map names,
        .error failure⟩
  | unsaved {done : List (List (Call × Outcome))} {s : RunState} {failure : Failure}
      (h : Ends r done (.ok s))
      (hsave : Run.remember r.readings (Run.writeAll r.readings (r.asked store) done.flatten)
        (r.summary s) s = .error failure) :
      Fresh r store ⟨Run.writeAll r.readings (r.asked store) done.flatten, done.map names,
        .error failure⟩
  | completed {done : List (List (Call × Outcome))} {s : RunState} {saved : Store}
      (h : Ends r done (.ok s))
      (hsave : Run.remember r.readings (Run.writeAll r.readings (r.asked store) done.flatten)
        (r.summary s) s = .ok saved) :
      Fresh r store ⟨saved, done.map names, .ok (.ofEffects (r.summary s) s.effects s.skipped)⟩

theorem result_of_served {cached : ExecutedPlan} (h : r.Served store cached) :
    (r.execute store).result =
      Run.restore r.readings.faults (Run.ask r.readings store r.plan.hash).1 cached := by
  obtain ⟨hallow, hask⟩ := h
  unfold execute Run.execute
  rw [if_pos hallow]
  split
  · next h => simp [h] at hask
  · next h =>
    rw [h] at hask ⊢
    cases hask
    rfl
  · next h => simp [h] at hask

theorem restore_ok {faults : Faults} {cached : ExecutedPlan} {a : Artifacts}
    (h : Run.restore faults store cached = .ok a) :
    ∃ effects, Run.restoreEffects faults store cached.intoCached.references = .ok effects ∧
      a = .ofEffects cached.intoCached effects [] := by
  unfold Run.restore at h
  cases heffects : Run.restoreEffects faults store cached.intoCached.references with
  | error failure => simp [heffects, bind, Except.bind] at h
  | ok effects =>
    refine ⟨effects, rfl, ?_⟩
    simpa [heffects, bind, Except.bind, pure, Except.pure, eq_comm] using h

theorem fresh_of_runFresh (hlayers : r.plan.layers = .ok layers) (store : Store) :
    Fresh r store
      (Run.runFresh r.plan r.clients r.registry r.options r.readings (r.asked store)) := by
  have hl := Plan.layered_of_layers hlayers
  unfold Run.runFresh
  rw [hlayers]
  cases hlimits : Run.checkLimits r.options r.readings with
  | error failure => exact .refused (.inl hlimits)
  | ok _ =>
    have hends := ends_allRounds hl
    simp only [rounds_eq_allRounds]
    generalize r.allRounds = ended at hends ⊢
    obtain ⟨done, result⟩ := ended
    cases result with
    | error failure => exact .failed hends
    | ok s =>
      cases hsave : Run.remember r.readings
        (Run.writeAll r.readings (r.asked store) done.flatten)
        (Run.summary r.plan r.readings s) s with
      | error failure =>
        simp only [hsave]
        exact .unsaved hends hsave
      | ok saved =>
        simp only [hsave]
        exact .completed hends hsave

section

variable (hmissed : r.options.allowCache = true →
  (Run.ask r.readings store r.plan.hash).2 = .ok none)
include hmissed

theorem asked_of_missed : r.asked store = store := by
  unfold asked
  split_ifs with hallow
  · have hask := hmissed hallow
    unfold Run.ask at hask ⊢
    cases hlookup : r.readings.faults.lookup with
    | some text => simp [hlookup] at hask
    | none =>
      simp only [hlookup, Store.findExecuted] at hask ⊢
      cases hrow : store.plans.get? r.plan.hash with
      | none => simp only [Store.touch, hrow]
      | some row => cases hread : row.executed <;> simp [hrow, Store.readRow, hread, Except.map] at hask
  · rfl

theorem execute_of_missed : r.execute store =
    Run.runFresh r.plan r.clients r.registry r.options r.readings (r.asked store) := by
  unfold execute Run.execute asked
  split_ifs with hallow
  · have hask := hmissed hallow
    split <;> simp_all
  · rfl

theorem execute_of_limits (hlayers : r.plan.layers = .ok layers)
    (hlimits : Run.checkLimits r.options r.readings = .error failure) :
    r.execute store = ⟨store, [], .error failure⟩ := by
  rw [execute_of_missed hmissed, asked_of_missed hmissed, Run.runFresh, hlayers, hlimits]

end

/-- With nothing in the way, a run ends as its rounds do. -/
theorem result_of_allRounds (hlayers : r.plan.layers = .ok layers)
    (hlimits : Run.checkLimits r.options r.readings = .ok ())
    (hask : r.options.allowCache = true → (Run.ask r.readings store r.plan.hash).2 = .ok none)
    (hfinish : r.readings.faults.finish = none) :
    (r.execute store).result =
      r.allRounds.2.map fun s => .ofEffects (r.summary s) s.effects s.skipped := by
  rw [execute_of_missed hask, Run.runFresh, hlayers, hlimits]
  simp only [rounds_eq_allRounds]
  cases r.allRounds.2 with
  | error failure => rfl
  | ok s =>
    simp only [Run.remember, hfinish]
    split_ifs <;> rfl

theorem fresh_of_execute (hlayers : r.plan.layers = .ok layers)
    (hserved : ∀ cached, ¬ r.Served store cached) : Fresh r store (r.execute store) := by
  have hfresh := fresh_of_runFresh hlayers store
  unfold execute Run.execute
  unfold asked at hfresh
  split_ifs with hallow
  · rw [if_pos hallow] at hfresh
    split
    · next left failure hask =>
      have hreport : Fresh r store ⟨r.asked store, [], .error failure⟩ :=
        .refused (.inr (by rw [hask]))
      simpa [asked, hallow, hask] using hreport
    · next cached hask => exact absurd ⟨hallow, by rw [hask]⟩ (hserved cached)
    · next hask => simpa [hask] using hfresh
  · rwa [if_neg hallow] at hfresh

theorem result_of_no_layers {why : Failure} (hlayers : r.plan.layers = .error why)
    (hserved : ∀ cached, ¬ r.Served store cached) :
    ∃ failure, (r.execute store).result = .error failure := by
  unfold execute Run.execute Run.runFresh
  rw [hlayers]
  split_ifs with hallow
  · split
    · exact ⟨_, rfl⟩
    · next hask => exact absurd ⟨hallow, by rw [hask]⟩ (hserved _)
    · exact ⟨_, rfl⟩
  · exact ⟨_, rfl⟩

theorem completed_of_execute {a : Artifacts} (h : (r.execute store).result = .ok a)
    (hfresh : a.executed.fromCache = false) :
    ∃ layers done s saved, r.plan.layers = .ok layers ∧ Ends r done (.ok s) ∧
      Run.remember r.readings (Run.writeAll r.readings (r.asked store) done.flatten)
        (r.summary s) s = .ok saved ∧
      a = .ofEffects (r.summary s) s.effects s.skipped ∧
      r.execute store = ⟨saved, done.map names, .ok a⟩ := by
  have hserved : ∀ cached, ¬ r.Served store cached := by
    rintro cached ⟨hallow, hask⟩
    rw [result_of_served ⟨hallow, hask⟩] at h
    obtain ⟨effects, -, rfl⟩ := restore_ok h
    cases hfresh
  cases hlayers : r.plan.layers with
  | error failure =>
    obtain ⟨why, hwhy⟩ := result_of_no_layers hlayers hserved
    rw [hwhy] at h
    cases h
  | ok layers =>
    have hrun := fresh_of_execute hlayers hserved
    generalize hreport : r.execute store = report at h hrun
    cases hrun with
    | @completed done s saved hends hsave =>
      cases h
      exact ⟨layers, done, s, saved, rfl, hends, hsave, rfl, rfl⟩
    | _ => cases h

end Request

end Lemmata
