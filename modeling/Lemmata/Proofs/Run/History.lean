import Lemmata.Proofs.Run.Rerun

/-! # What runs and prunings write, one after the other -/

namespace Lemmata

def Statement.effect? : Statement → Option Effect
  | write _ e => some e
  | _ => none

theorem Statement.mem_effects {xs : List Statement} {e : Effect} :
    e ∈ xs.filterMap effect? ↔ ∃ now, .write now e ∈ xs := by
  rw [List.mem_filterMap]
  constructor
  · rintro ⟨x, hx, he⟩
    cases x with
    | write now f =>
      cases he
      exact ⟨now, hx⟩
    | _ => cases he
  · rintro ⟨now, hx⟩
    exact ⟨_, hx, rfl⟩

namespace Request

variable {r : Request} {store : Store}

/-! ## What a run writes -/

def outcomes (r : Request) (store : Store) : List (Call × Outcome) :=
  if (r.execute store).started = [] then [] else r.allRounds.1.flatten

def written (r : Request) (store : Store) : List Effect :=
  (r.outcomes store).filterMap fun o => o.2.written?

theorem asked_statements (r : Request) (store : Store) :
    ∃ xs, r.asked store = Statement.runAll store xs ∧ xs.filterMap Statement.effect? = [] := by
  unfold asked Run.ask
  split
  · cases r.readings.faults.lookup with
    | some text => exact ⟨[], rfl, rfl⟩
    | none => exact ⟨[.touch r.readings.lookup r.plan.hash], rfl, rfl⟩
  · exact ⟨[], rfl, rfl⟩

/-- The report of a run: no round was begun, or it tells what all rounds gave. -/
inductive Ran (r : Request) (store : Store) (report : RunReport) : Prop
  | unbegun (hstarted : report.started = []) (hstore : report.store = r.asked store)
      (hcached : ∀ a, report.result = .ok a → a.executed.fromCache = true)
  | begun {layers : List (List String)} {xs : List Statement} (hlayers : r.plan.layers = .ok layers)
      (hstarted : report.started = r.allRounds.1.map names)
      (hstore : report.store = Statement.runAll
        (Run.writeAll r.readings (r.asked store) r.allRounds.1.flatten) xs)
      (hxs : xs.filterMap Statement.effect? = [])
      (hresult : ∀ a, report.result = .ok a → ∃ s, r.allRounds.2 = .ok s ∧
        a = .ofEffects (r.summary s) s.effects s.skipped)

theorem ran_runFresh (r : Request) (store : Store) :
    Ran r store
      (Run.runFresh r.plan r.clients r.registry r.options r.readings (r.asked store)) := by
  unfold Run.runFresh
  cases hlayers : r.plan.layers with
  | error failure => exact .unbegun rfl rfl fun a h => by cases h
  | ok layers =>
    cases hlimits : Run.checkLimits r.options r.readings with
    | error failure => exact .unbegun rfl rfl fun a h => by cases h
    | ok _ =>
      simp only [rounds_eq_allRounds]
      cases hresult : r.allRounds.2 with
      | error failure =>
        exact .begun hlayers rfl (Eq.refl (Statement.runAll _ [])) rfl fun a h => by cases h
      | ok s =>
        have hdone : ∀ a, Except.ok (ε := Failure) (Artifacts.ofEffects (r.summary s) s.effects
            s.skipped) = .ok a → ∃ s, r.allRounds.2 = .ok s ∧
              a = .ofEffects (r.summary s) s.effects s.skipped := by
          rintro a ⟨⟩
          exact ⟨s, hresult, rfl⟩
        simp only [Run.remember]
        split_ifs
        · cases r.readings.faults.finish with
          | some text =>
            exact .begun hlayers rfl (Eq.refl (Statement.runAll _ [])) rfl fun a h => by cases h
          | none =>
            exact .begun hlayers rfl
              (Eq.refl (Statement.runAll _ [.remember r.readings.finish (r.summary s)])) rfl hdone
        · exact .begun hlayers rfl (Eq.refl (Statement.runAll _ [])) rfl hdone

theorem ran_execute (r : Request) (store : Store) : Ran r store (r.execute store) := by
  have hfresh := r.ran_runFresh store
  by_cases hallow : r.options.allowCache = true
  · have hasked : r.asked store = (Run.ask r.readings store r.plan.hash).1 := if_pos hallow
    unfold execute Run.execute
    rw [if_pos hallow]
    split
    · next hask => exact .unbegun rfl (by rw [hasked, hask]) nofun
    · next hask =>
      refine .unbegun rfl (by rw [hasked, hask]) fun a ha => ?_
      obtain ⟨effects, -, rfl⟩ := restore_ok ha
      rfl
    · next hask =>
      rw [hasked, hask] at hfresh
      exact hfresh
  · have hasked : r.asked store = store := if_neg hallow
    unfold execute Run.execute
    rw [if_neg hallow]
    rwa [hasked] at hfresh

theorem effects_writes (readings : Readings) (os : List (Call × Outcome)) :
    (writes readings os).filterMap Statement.effect? = os.filterMap fun o => o.2.written? := by
  rw [writes, List.filterMap_filterMap]
  apply List.filterMap_congr
  intro o _
  cases o.2.written? <;> rfl

theorem outcomes_cases (r : Request) (store : Store) :
    r.outcomes store = [] ∨
      (∃ layers, r.plan.layers = .ok layers) ∧ r.outcomes store = r.allRounds.1.flatten := by
  cases r.ran_execute store with
  | unbegun hstarted _ _ => exact .inl (if_pos hstarted)
  | begun hlayers _ _ _ _ =>
    unfold outcomes
    split
    · exact .inl rfl
    · exact .inr ⟨⟨_, hlayers⟩, rfl⟩

theorem outcomes_eq (hstarted : (r.execute store).started = r.allRounds.1.map names) :
    r.outcomes store = r.allRounds.1.flatten := by
  unfold outcomes
  split
  · next hnone =>
    rw [hstarted, List.map_eq_nil_iff] at hnone
    rw [hnone, List.flatten_nil]
  · rfl

theorem execute_written (r : Request) (store : Store) :
    ∃ xs, (r.execute store).store = Statement.runAll store xs ∧
      xs.filterMap Statement.effect? = r.written store := by
  obtain ⟨asked, hasked, hnone⟩ := r.asked_statements store
  cases r.ran_execute store with
  | unbegun hstarted hstore _ =>
    refine ⟨asked, hstore.trans hasked, ?_⟩
    rw [written, outcomes, if_pos hstarted, hnone]
    rfl
  | @begun _ xs _ hstarted hstore hxs _ =>
    refine ⟨asked ++ writes r.readings r.allRounds.1.flatten ++ xs, ?_, ?_⟩
    · rw [hstore, writeAll_eq_runAll, hasked, Statement.runAll, Statement.runAll, Statement.runAll,
        Statement.runAll, List.foldl_append, List.foldl_append]
    · rw [List.filterMap_append, List.filterMap_append, hnone, hxs, effects_writes, written,
        outcomes_eq hstarted, List.nil_append, List.append_nil]

theorem written_of_result {a : Artifacts} (h : (r.execute store).result = .ok a)
    (hfresh : a.executed.fromCache = false) :
    r.written store = r.allRounds.1.flatten.filterMap fun o => o.2.written? := by
  cases r.ran_execute store with
  | unbegun _ _ hcached => simp [hcached a h] at hfresh
  | begun _ hstarted _ _ _ => rw [written, outcomes_eq hstarted]

theorem reported_of_execute {a : Artifacts} (h : (r.execute store).result = .ok a)
    (hfresh : a.executed.fromCache = false) :
    ∃ layers s, r.plan.layers = .ok layers ∧ Ends r r.allRounds.1 (.ok s) ∧
      r.written store = s.effects ∧ a = .ofEffects (r.summary s) s.effects s.skipped := by
  cases r.ran_execute store with
  | unbegun _ _ hcached => simp [hcached a h] at hfresh
  | @begun layers _ hlayers hstarted _ _ hresult =>
    obtain ⟨s, hs, rfl⟩ := hresult a h
    have hl := Plan.layered_of_layers hlayers
    have hends := ends_allRounds hl
    rw [hs] at hends
    refine ⟨layers, s, hlayers, hends, ?_, rfl⟩
    rw [written, outcomes_eq hstarted, (hends.final hl).1.effects_eq]

end Request

/-! ## Runs and prunings -/

/-- What happens to a store from outside. -/
inductive Event where
  | run (request : Request)
  | prune (cutoff : Moment)

namespace Event

def after (store : Store) : Event → Store
  | run r => (r.execute store).store
  | prune cutoff => (store.prune cutoff).1

def afterAll (store : Store) (events : List Event) : Store :=
  events.foldl after store

def written (store : Store) : Event → List Effect
  | run r => r.written store
  | prune _ => []

def writtenAll (store : Store) : List Event → List Effect
  | [] => []
  | event :: rest => event.written store ++ writtenAll (event.after store) rest

theorem after_statements (store : Store) (event : Event) :
    ∃ xs, event.after store = Statement.runAll store xs ∧
      xs.filterMap Statement.effect? = event.written store := by
  cases event with
  | run r => exact r.execute_written store
  | prune cutoff => exact ⟨[.prune cutoff], rfl, rfl⟩

theorem afterAll_statements (store : Store) (events : List Event) :
    ∃ xs, afterAll store events = Statement.runAll store xs ∧
      xs.filterMap Statement.effect? = writtenAll store events := by
  induction events generalizing store with
  | nil => exact ⟨[], rfl, rfl⟩
  | cons event rest ih =>
    obtain ⟨xs, hxs, hwritten⟩ := event.after_statements store
    obtain ⟨ys, hys, hwritten'⟩ := ih (event.after store)
    refine ⟨xs ++ ys, ?_, ?_⟩
    · change afterAll (event.after store) rest = _
      rw [hys, hxs, Statement.runAll, Statement.runAll, Statement.runAll, List.foldl_append]
    · rw [List.filterMap_append, hwritten, hwritten', writtenAll]

end Event

end Lemmata
