import Lemmata.Proofs.Run.Rounds
import Mathlib.Algebra.GroupWithZero.Nat

/-! # The tasks of a round in a pool with permits -/

namespace Lemmata

/-- How far a task has come. -/
inductive Phase where
  | waiting
  /-- The task holds a permit, until it is finished. -/
  | admitted
  /-- The client or the handler has answered. -/
  | answered (outcome : Outcome)
  /-- The row is written, if there is one. -/
  | written (outcome : Outcome)
  | finished (outcome : Outcome)

namespace Phase

def holds : Phase → Bool
  | waiting => false
  | admitted => true
  | answered _ => true
  | written _ => true
  | finished _ => false

def outcome? : Phase → Option Outcome
  | waiting => none
  | admitted => none
  | answered o => some o
  | written o => some o
  | finished o => some o

def stored? : Phase → Option Outcome
  | waiting => none
  | admitted => none
  | answered _ => none
  | written o => some o
  | finished o => some o

def result? : Phase → Option Outcome
  | finished o => some o
  | _ => none

def left : Phase → Nat
  | waiting => 4
  | admitted => 3
  | answered _ => 2
  | written _ => 1
  | finished _ => 0

end Phase

structure Task where
  call : Call
  work : Work
  phase : Phase

structure Pool where
  store : Store
  tasks : List Task

/-- What others can see of a task. -/
inductive Deed where
  /-- The client or the handler was called. -/
  | called (call : Call) (work : Work)
  | wrote (call : Call) (effect : Effect)

namespace Deed

def called? : Deed → Option (Call × Work)
  | called call work => some (call, work)
  | wrote _ _ => none

def wrote? : Deed → Option (Call × Effect)
  | called _ _ => none
  | wrote call effect => some (call, effect)

end Deed

def rowOf (o : Call × Outcome) : Option (Call × Effect) :=
  o.2.written?.map fun effect => (o.1, effect)

namespace Task

def called? (t : Task) : Option (Call × Work) :=
  t.phase.outcome?.map fun _ => (t.call, t.work)

def wrote? (t : Task) : Option (Call × Effect) :=
  t.phase.stored?.bind fun o => rowOf (t.call, o)

def result? (t : Task) : Option (Call × Outcome) :=
  t.phase.result?.map fun o => (t.call, o)

end Task

namespace Pool

def opened (store : Store) (works : List (Call × Work)) : Pool where
  store := store
  tasks := works.map fun w => ⟨w.1, w.2, .waiting⟩

def held (tasks : List Task) : Nat :=
  tasks.countP fun t => t.phase.holds

def left (tasks : List Task) : Nat :=
  (tasks.map fun t => t.phase.left).sum

/-- All tasks are finished, and these are their outcomes. -/
def Yields (p : Pool) (outcomes : List (Call × Outcome)) : Prop :=
  p.tasks.map Task.result? = outcomes.map some

end Pool

def Run.saveAll (readings : Readings) (store : Store) (rows : List (Call × Effect)) : Store :=
  rows.foldl (fun store row => store.save (readings.write row.1.id) row.2) store

namespace Request

variable {r : Request} {store now : Store} {works : List (Call × Work)} {deeds : List Deed}
variable {p q : Pool} {x : Option Deed} {call : Call} {work : Work} {phase next : Phase}

def outcomeOf (r : Request) (call : Call) (work : Work) : Outcome :=
  Run.settle r.plan r.readings.faults call (work.perform r.plan.id call (r.readings.call call.id))

def permits (r : Request) : Nat :=
  max r.options.maxConcurrency 1

/-! ## Steps of the tasks -/

inductive TaskStep (r : Request) (store : Store) (call : Call) (work : Work) :
    Phase → Option Deed → Store → Phase → Prop
  | admitted : TaskStep r store call work .waiting none store .admitted
  | called : TaskStep r store call work .admitted (some (.called call work)) store
      (.answered (r.outcomeOf call work))
  | wrote {o : Outcome} : TaskStep r store call work (.answered o) (o.written?.map (.wrote call))
      (Run.writeOutcome r.readings store (call, o)) (.written o)
  | finished {o : Outcome} : TaskStep r store call work (.written o) none store (.finished o)

/-- One of the tasks goes on, as far as there are permits. -/
inductive Move (r : Request) : Pool → Option Deed → Pool → Prop
  | step {store now : Store} {call : Call} {work : Work} {phase next : Phase} {x : Option Deed}
      {before after : List Task} (h : r.TaskStep store call work phase x now next)
      (hpermits : Pool.held (before ++ ⟨call, work, next⟩ :: after) ≤ r.permits) :
      Move r ⟨store, before ++ ⟨call, work, phase⟩ :: after⟩ x
        ⟨now, before ++ ⟨call, work, next⟩ :: after⟩

inductive Moves (r : Request) : Pool → List Deed → Pool → Prop
  | refl (p : Pool) : Moves r p [] p
  | head {p q last : Pool} {x : Option Deed} {deeds : List Deed} (h : r.Move p x q)
      (hrest : Moves r q deeds last) : Moves r p (x.toList ++ deeds) last

/-! ## What the tasks have done -/

/-- The deeds since these works were opened over this store. -/
structure PoolInv (r : Request) (store : Store) (works : List (Call × Work)) (deeds : List Deed)
    (p : Pool) : Prop where
  works_eq : p.tasks.map (fun t => (t.call, t.work)) = works
  outcome_eq : ∀ t ∈ p.tasks, ∀ o, t.phase.outcome? = some o → o = r.outcomeOf t.call t.work
  held_le : Pool.held p.tasks ≤ r.permits
  store_eq : p.store = Run.saveAll r.readings store (deeds.filterMap Deed.wrote?)
  called_perm : (deeds.filterMap Deed.called?).Perm (p.tasks.filterMap Task.called?)
  wrote_perm : (deeds.filterMap Deed.wrote?).Perm (p.tasks.filterMap Task.wrote?)

theorem poolInv_opened (r : Request) (store : Store) (works : List (Call × Work)) :
    PoolInv r store works [] (.opened store works) where
  works_eq := by simp [Pool.opened, Function.comp_def]
  outcome_eq := by
    intro t ht o ho
    obtain ⟨w, -, rfl⟩ := List.mem_map.mp ht
    cases ho
  held_le := by
    have hnone : Pool.held (Pool.opened store works).tasks = 0 := by
      simp [Pool.opened, Pool.held, List.countP_map, Phase.holds, Function.comp_def]
    omega
  store_eq := rfl
  called_perm := by simp [Pool.opened, Task.called?, Phase.outcome?, Function.comp_def]
  wrote_perm := by simp [Pool.opened, Task.wrote?, Phase.stored?, Function.comp_def]

theorem perm_filterMap_middle {α β : Type} {f : α → Option β} {before after : List α} {a b : α}
    {added : Option β} (h : f b = f a ∧ added = none ∨ f a = none ∧ f b = added) :
    ((before ++ a :: after).filterMap f ++ added.toList).Perm
      ((before ++ b :: after).filterMap f) := by
  rcases h with ⟨hsame, rfl⟩ | ⟨hnone, hadded⟩
  · simp [List.filterMap_cons, hsame]
  · cases added with
    | none => simp [hnone, hadded]
    | some y =>
      simp only [List.filterMap_append, List.filterMap_cons, hnone, hadded, Option.toList_some,
        List.append_assoc]
      exact (List.perm_append_singleton _ _).append_left _

theorem TaskStep.store_eq (h : r.TaskStep store call work phase x now next) :
    now = Run.saveAll r.readings store (x.bind Deed.wrote?).toList := by
  cases h with
  | @wrote o =>
    unfold Run.writeOutcome
    cases o.written? <;> rfl
  | _ => rfl

theorem TaskStep.called_cases (h : r.TaskStep store call work phase x now next) :
    Task.called? ⟨call, work, next⟩ = Task.called? ⟨call, work, phase⟩ ∧
        x.bind Deed.called? = none ∨
      Task.called? ⟨call, work, phase⟩ = none ∧
        Task.called? ⟨call, work, next⟩ = x.bind Deed.called? := by
  cases h with
  | admitted => exact .inl ⟨rfl, rfl⟩
  | called => exact .inr ⟨rfl, rfl⟩
  | @wrote o => cases ho : o.written? <;> exact .inl ⟨rfl, rfl⟩
  | finished => exact .inl ⟨rfl, rfl⟩

theorem TaskStep.wrote_cases (h : r.TaskStep store call work phase x now next) :
    Task.wrote? ⟨call, work, next⟩ = Task.wrote? ⟨call, work, phase⟩ ∧
        x.bind Deed.wrote? = none ∨
      Task.wrote? ⟨call, work, phase⟩ = none ∧
        Task.wrote? ⟨call, work, next⟩ = x.bind Deed.wrote? := by
  cases h with
  | admitted => exact .inl ⟨rfl, rfl⟩
  | called => exact .inl ⟨rfl, rfl⟩
  | @wrote o =>
    refine .inr ⟨rfl, ?_⟩
    simp only [Task.wrote?, Phase.stored?, Option.bind_some, rowOf]
    cases o.written? <;> rfl
  | finished => exact .inl ⟨rfl, rfl⟩

theorem TaskStep.outcome_cases {o : Outcome} (h : r.TaskStep store call work phase x now next)
    (ho : next.outcome? = some o) : phase.outcome? = some o ∨ o = r.outcomeOf call work := by
  cases h with
  | admitted => cases ho
  | called => exact .inr (Option.some.inj ho).symm
  | wrote => exact .inl ho
  | finished => exact .inl ho

theorem saveAll_append (readings : Readings) (store : Store) (before after : List (Call × Effect)) :
    Run.saveAll readings store (before ++ after) =
      Run.saveAll readings (Run.saveAll readings store before) after :=
  List.foldl_append

theorem filterMap_toList {α β : Type} (f : α → Option β) (x : Option α) :
    x.toList.filterMap f = (x.bind f).toList := by
  cases x with
  | none => rfl
  | some a => cases h : f a <;> simp [h]

theorem PoolInv.move (h : PoolInv r store works deeds p) (hmove : r.Move p x q) :
    PoolInv r store works (deeds ++ x.toList) q := by
  obtain @⟨old, now, call, work, phase, next, _, before, after, hstep, hpermits⟩ := hmove
  obtain ⟨hworks, houtcome, -, hstore, hcalled, hwrote⟩ := h
  dsimp only at hworks houtcome hstore hcalled hwrote
  refine ⟨?_, ?_, hpermits, ?_, ?_, ?_⟩
  · simpa using hworks
  · intro t ht o ho
    rw [List.forall_mem_append, List.forall_mem_cons] at houtcome
    rcases List.mem_append.mp ht with ht | ht
    · exact houtcome.1 t ht o ho
    rcases List.mem_cons.mp ht with rfl | ht
    · exact (hstep.outcome_cases ho).elim (houtcome.2.1 o) id
    · exact houtcome.2.2 t ht o ho
  · rw [List.filterMap_append, filterMap_toList, saveAll_append, ← hstore]
    exact hstep.store_eq
  · rw [List.filterMap_append, filterMap_toList]
    exact (hcalled.append_right _).trans (perm_filterMap_middle hstep.called_cases)
  · rw [List.filterMap_append, filterMap_toList]
    exact (hwrote.append_right _).trans (perm_filterMap_middle hstep.wrote_cases)

theorem PoolInv.moves {more : List Deed} (h : PoolInv r store works deeds p)
    (hmoves : r.Moves p more q) : PoolInv r store works (deeds ++ more) q := by
  induction hmoves generalizing deeds with
  | refl => rwa [List.append_nil]
  | head hmove _ ih =>
    rw [← List.append_assoc]
    exact ih (h.move hmove)

/-! ## When all tasks are finished -/

theorem result?_cases {t : Task} {o : Call × Outcome} (h : t.result? = some o) :
    t.phase = .finished o.2 ∧ t.call = o.1 := by
  obtain ⟨call, work, phase⟩ := t
  cases phase with
  | finished outcome =>
    cases h
    exact ⟨rfl, rfl⟩
  | _ => cases h

/-- The outcomes are in the order of the calls, whatever the order of the steps was. -/
theorem PoolInv.yields {outcomes : List (Call × Outcome)} (h : PoolInv r store works deeds p)
    (hyields : p.Yields outcomes) : outcomes = r.perform works ∧
      (deeds.filterMap Deed.called?).Perm works ∧
      (deeds.filterMap Deed.wrote?).Perm ((r.perform works).filterMap rowOf) := by
  have hfinished : ∀ t ∈ p.tasks,
      t.phase = .finished (r.outcomeOf t.call t.work) := by
    intro t ht
    have hsome : t.result? ∈ outcomes.map some := hyields ▸ List.mem_map_of_mem ht
    obtain ⟨o, -, ho⟩ := List.mem_map.mp hsome
    obtain ⟨hphase, -⟩ := result?_cases ho.symm
    rw [hphase, h.outcome_eq t ht o.2 (by rw [hphase]; rfl)]
  have hperform : r.perform works =
      p.tasks.map fun t => (t.call, r.outcomeOf t.call t.work) := by
    rw [← h.works_eq]
    exact List.map_map
  have hresults : outcomes.map some = (r.perform works).map some := by
    rw [← hyields, hperform, List.map_map]
    refine List.map_congr_left fun t ht => ?_
    simp [Task.result?, hfinished t ht, Phase.result?]
  have hcalled : p.tasks.filterMap Task.called? = works := by
    rw [← h.works_eq, ← List.filterMap_eq_map]
    refine List.filterMap_congr fun t ht => ?_
    simp [Task.called?, hfinished t ht, Phase.outcome?]
  have hwrote : p.tasks.filterMap Task.wrote? = (r.perform works).filterMap rowOf := by
    rw [hperform, List.filterMap_map]
    refine List.filterMap_congr fun t ht => ?_
    simp [Task.wrote?, hfinished t ht, Phase.stored?]
  refine ⟨(List.map_inj_right fun _ _ => Option.some.inj).mp hresults, ?_, ?_⟩
  · exact hcalled ▸ h.called_perm
  · exact hwrote ▸ h.wrote_perm

/-! ## The tasks never wait for each other for ever -/

theorem left_step (h : r.TaskStep store call work phase x now next) :
    next.left < phase.left := by
  cases h <;> exact Nat.lt_succ_self _

theorem move_left (h : r.Move p x q) : Pool.left q.tasks < Pool.left p.tasks := by
  obtain @⟨_, _, call, work, phase, next, _, before, after, hstep, -⟩ := h
  have hless := left_step hstep
  simp only [Pool.left, List.map_append, List.map_cons, List.sum_append, List.sum_cons]
  omega

theorem move_held (h : r.Move p x q) : Pool.held q.tasks ≤ r.permits := by
  cases h with
  | step _ hpermits => exact hpermits

theorem held_middle (before after : List Task) (t : Task) :
    Pool.held (before ++ t :: after) =
      Pool.held (before ++ after) + if t.phase.holds then 1 else 0 := by
  simp only [Pool.held, List.countP_append, List.countP_cons]
  omega

/-- A task with a permit can go on; if there is none, a waiting task gets one. -/
theorem exists_move (hheld : Pool.held p.tasks ≤ r.permits)
    (hleft : ∃ t ∈ p.tasks, t.result? = none) : ∃ x q, r.Move p x q := by
  obtain ⟨store, tasks⟩ := p
  dsimp only at hheld hleft
  by_cases hholds : ∃ t ∈ tasks, t.phase.holds = true
  · obtain ⟨⟨call, work, phase⟩, ht, hphase⟩ := hholds
    obtain ⟨before, after, rfl⟩ := List.append_of_mem ht
    have hroom : ∀ next : Phase, Pool.held (before ++ ⟨call, work, next⟩ :: after) ≤ r.permits := by
      intro next
      rw [held_middle] at hheld ⊢
      rw [if_pos hphase] at hheld
      split <;> omega
    cases phase with
    | admitted => exact ⟨_, _, .step .called (hroom _)⟩
    | answered o => exact ⟨_, _, .step .wrote (hroom _)⟩
    | written o => exact ⟨_, _, .step .finished (hroom _)⟩
    | _ => cases hphase
  · obtain ⟨⟨call, work, phase⟩, ht, hresult⟩ := hleft
    obtain ⟨before, after, rfl⟩ := List.append_of_mem ht
    cases phase with
    | waiting =>
      refine ⟨_, _, .step .admitted ?_⟩
      have hnone : Pool.held (before ++ after) = 0 := by
        refine List.countP_eq_zero.mpr fun t ht h => hholds ⟨t, ?_, h⟩
        exact (List.mem_append.mp ht).elim (List.mem_append_left _)
          fun h => List.mem_append_right _ (List.mem_cons_of_mem _ h)
      rw [held_middle, hnone]
      exact Nat.le_max_right _ _
    | finished o => cases hresult
    | admitted => exact absurd ⟨_, ht, rfl⟩ hholds
    | answered o => exact absurd ⟨_, ht, rfl⟩ hholds
    | written o => exact absurd ⟨_, ht, rfl⟩ hholds

theorem exists_yields (p : Pool) (h : ∀ t ∈ p.tasks, t.result? ≠ none) :
    ∃ outcomes, p.Yields outcomes := by
  obtain ⟨store, tasks⟩ := p
  unfold Pool.Yields
  dsimp only at h ⊢
  induction tasks with
  | nil => exact ⟨[], rfl⟩
  | cons t rest ih =>
    obtain ⟨hfirst, hlater⟩ := List.forall_mem_cons.mp h
    obtain ⟨outcomes, houtcomes⟩ := ih hlater
    obtain ⟨o, ho⟩ := Option.ne_none_iff_exists'.mp hfirst
    exact ⟨o :: outcomes, by rw [List.map_cons, List.map_cons, ho, houtcomes]⟩

theorem exists_moves (hheld : Pool.held p.tasks ≤ r.permits) :
    ∃ deeds q outcomes, r.Moves p deeds q ∧ q.Yields outcomes := by
  induction hsize : Pool.left p.tasks using Nat.strongRecOn generalizing p with
  | _ n ih =>
    by_cases hleft : ∃ t ∈ p.tasks, t.result? = none
    · obtain ⟨x, q, hmove⟩ := exists_move hheld hleft
      obtain ⟨deeds, last, outcomes, hmoves, hyields⟩ :=
        ih _ (hsize ▸ move_left hmove) (move_held hmove) rfl
      exact ⟨_, last, outcomes, .head hmove hmoves, hyields⟩
    · obtain ⟨outcomes, hyields⟩ := exists_yields p fun t ht h => hleft ⟨t, ht, h⟩
      exact ⟨[], p, outcomes, .refl p, hyields⟩

/-! ## One task after the other -/

theorem Moves.trans {more : List Deed} {last : Pool} (h : r.Moves p deeds q)
    (hrest : r.Moves q more last) : r.Moves p (deeds ++ more) last := by
  induction h with
  | refl => exact hrest
  | head hmove _ ih =>
    rw [List.append_assoc]
    exact .head hmove (ih hrest)

def deedsOf (r : Request) (call : Call) (work : Work) : List Deed :=
  .called call work :: ((r.outcomeOf call work).written?.map (.wrote call)).toList

theorem moves_task {before after : List Task} (hfree : Pool.held (before ++ after) = 0)
    (store : Store) (call : Call) (work : Work) :
    r.Moves ⟨store, before ++ ⟨call, work, .waiting⟩ :: after⟩ (r.deedsOf call work)
      ⟨Run.writeOutcome r.readings store (call, r.outcomeOf call work),
        before ++ ⟨call, work, .finished (r.outcomeOf call work)⟩ :: after⟩ := by
  have hroom : ∀ next : Phase, Pool.held (before ++ ⟨call, work, next⟩ :: after) ≤ r.permits := by
    intro next
    have hone : 1 ≤ r.permits := Nat.le_max_right _ _
    rw [held_middle, hfree]
    split <;> omega
  have hanswered : r.Moves
      ⟨store, before ++ ⟨call, work, .answered (r.outcomeOf call work)⟩ :: after⟩
      (((r.outcomeOf call work).written?.map (.wrote call)).toList ++ [])
      ⟨Run.writeOutcome r.readings store (call, r.outcomeOf call work),
        before ++ ⟨call, work, .finished (r.outcomeOf call work)⟩ :: after⟩ :=
    .head (.step .wrote (hroom _)) (.head (.step .finished (hroom _)) (.refl _))
  rw [List.append_nil] at hanswered
  exact Moves.head (.step .admitted (hroom _)) (.head (.step .called (hroom _)) hanswered)

theorem moves_in_order (r : Request) (works : List (Call × Work)) {before : List Task}
    (hfree : Pool.held before = 0) (store : Store) :
    r.Moves ⟨store, before ++ works.map fun w => ⟨w.1, w.2, .waiting⟩⟩
      (works.flatMap fun w => r.deedsOf w.1 w.2) ⟨Run.writeAll r.readings store (r.perform works),
        before ++ works.map fun w => ⟨w.1, w.2, .finished (r.outcomeOf w.1 w.2)⟩⟩ := by
  induction works generalizing before store with
  | nil => exact .refl _
  | cons w rest ih =>
    have hwaiting : Pool.held (before ++ rest.map fun w => ⟨w.1, w.2, .waiting⟩) = 0 := by
      simpa [Pool.held, List.countP_map, Phase.holds, Function.comp_def] using hfree
    have hfirst := moves_task (r := r) hwaiting store w.1 w.2
    have hdone : Pool.held (before ++ [⟨w.1, w.2, .finished (r.outcomeOf w.1 w.2)⟩]) = 0 := by
      simpa [Pool.held, Phase.holds] using hfree
    have hmore := ih hdone (Run.writeOutcome r.readings store (w.1, r.outcomeOf w.1 w.2))
    simp only [List.append_assoc, List.singleton_append] at hmore
    exact hfirst.trans hmore

theorem yields_finished (r : Request) (store : Store) (works : List (Call × Work)) :
    Pool.Yields ⟨store, works.map fun w => ⟨w.1, w.2, .finished (r.outcomeOf w.1 w.2)⟩⟩
      (r.perform works) := by
  simp only [Pool.Yields, perform, Run.performAll, List.map_map]
  rfl

end Request

end Lemmata
