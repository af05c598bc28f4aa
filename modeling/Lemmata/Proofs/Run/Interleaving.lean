import Lemmata.Proofs.Run.Whole
import Lemmata.Proofs.Store.Statements

/-! # Runs statement by statement

Runs that go on at the same time share the store. Each of them does one statement at a time; the
calls of a round write their rows in any order.
-/

namespace Lemmata

/-- How far a run has come. -/
inductive Point where
  | asking
  /-- The entry was found and its access is not yet recorded. -/
  | touching (entry : PlanRow)
  | reading (executed : ExecutedPlan) (found : List Effect) (left : List Reference)
  | working (done : List (List (Call × Outcome))) (state : RunState)
  /-- These outcomes of the round are still to be written. -/
  | writing (done : List (List (Call × Outcome))) (state : RunState)
      (outcomes left : List (Call × Outcome))
  | saving (done : List (List (Call × Outcome))) (state : RunState)
  | ended (result : Except Failure Artifacts)

def Store.after (s : Store) : Option Statement → Store
  | none => s
  | some x => x.run s

namespace Request

variable {r : Request} {done : List (List (Call × Outcome))} {s t : RunState} {store : Store}

/-! ## The steps of a run -/

def artifacts (r : Request) (s : RunState) : Artifacts :=
  .ofEffects (r.summary s) s.effects s.skipped

/-- Where a run begins that is not answered from the store. -/
def opening (r : Request) : Point :=
  match r.plan.layers with
  | .error failure => .ended (.error failure)
  | .ok _ =>
    match Run.checkLimits r.options r.readings with
    | .error failure => .ended (.error failure)
    | .ok () => .working [] (.initial r.plan)

def first (r : Request) : Point :=
  if r.options.allowCache then .asking else r.opening

def serving (entry : PlanRow) : Point :=
  match entry.executed with
  | .error failure => .ended (.error failure)
  | .ok executed => .reading executed.intoCached [] executed.intoCached.references

def afterRead (executed : ExecutedPlan) (found : List Effect) (left : List Reference) :
    Except Failure (Option Effect) → Point
  | .error failure => .ended (.error failure)
  | .ok none => .reading executed found left
  | .ok (some effect) => .reading executed (found ++ [effect]) left

/-- A run in which a call was skipped has nothing to save. -/
def closing (r : Request) (done : List (List (Call × Outcome))) (s : RunState) : Point :=
  if s.skipped.isEmpty then .saving done s else .ended (.ok (r.artifacts s))

/-- One step of a run over the store as it is, with its statement. -/
inductive Step (r : Request) (store : Store) : Point → Option Statement → Point → Prop
  | refused {text : String} (h : r.readings.faults.lookup = some text) :
      Step r store .asking none (.ended (.error (.storage text)))
  | missed (h : store.plans.get? r.plan.hash = none) : Step r store .asking none r.opening
  | found {entry : PlanRow} (h : store.plans.get? r.plan.hash = some entry) :
      Step r store .asking none (.touching entry)
  | untouched {entry : PlanRow} {text : String} (h : r.readings.faults.lookup = some text) :
      Step r store (.touching entry) none (.ended (.error (.storage text)))
  | touched {entry : PlanRow} (h : r.readings.faults.lookup = none) :
      Step r store (.touching entry) (some (.touch r.readings.lookup r.plan.hash)) (serving entry)
  | read {executed : ExecutedPlan} {found : List Effect} {ref : Reference} {left : List Reference} :
      Step r store (.reading executed found (ref :: left)) none
        (afterRead executed found left (Run.restoreEffect r.readings.faults store ref))
  | served {executed : ExecutedPlan} {found : List Effect} :
      Step r store (.reading executed found []) none (.ended (.ok (.ofEffects executed found [])))
  | finished {done : List (List (Call × Outcome))} {s t : RunState}
      (h : r.start done.length s = .finished t) :
      Step r store (.working done s) none (r.closing done t)
  | stopped {done : List (List (Call × Outcome))} {s : RunState} {failure : Failure}
      (h : r.start done.length s = .failed failure) :
      Step r store (.working done s) none (.ended (.error failure))
  | started {done : List (List (Call × Outcome))} {s t : RunState} {works : List (Call × Work)}
      (h : r.start done.length s = .work t works) :
      Step r store (.working done s) none (.writing done t (r.perform works) (r.perform works))
  | wrote {done : List (List (Call × Outcome))} {s : RunState} {effect : Effect}
      {outcomes before after : List (Call × Outcome)} {o : Call × Outcome}
      (h : o.2.written? = some effect) :
      Step r store (.writing done s outcomes (before ++ o :: after))
        (some (.write (r.readings.write o.1.id) effect))
        (.writing done s outcomes (before ++ after))
  | empty {done : List (List (Call × Outcome))} {s : RunState}
      {outcomes before after : List (Call × Outcome)} {o : Call × Outcome}
      (h : o.2.written? = none) :
      Step r store (.writing done s outcomes (before ++ o :: after)) none
        (.writing done s outcomes (before ++ after))
  | taken {done : List (List (Call × Outcome))} {s t : RunState} {outcomes : List (Call × Outcome)}
      (h : s.takeOutcomes outcomes = .ok t) :
      Step r store (.writing done s outcomes []) none (.working (done ++ [outcomes]) t)
  | broken {done : List (List (Call × Outcome))} {s : RunState} {failure : Failure}
      {outcomes : List (Call × Outcome)} (h : s.takeOutcomes outcomes = .error failure) :
      Step r store (.writing done s outcomes []) none (.ended (.error failure))
  | unsaved {done : List (List (Call × Outcome))} {s : RunState} {text : String}
      (h : r.readings.faults.finish = some text) :
      Step r store (.saving done s) none (.ended (.error (.storage text)))
  | saved {done : List (List (Call × Outcome))} {s : RunState}
      (h : r.readings.faults.finish = none) :
      Step r store (.saving done s) (some (.remember r.readings.finish (r.summary s)))
        (.ended (.ok (r.artifacts s)))

/-- Steps of one run, with nothing in between. -/
inductive Steps (r : Request) : Store → Point → Store → Point → Prop
  | refl (store : Store) (p : Point) : Steps r store p store p
  | head {store final : Store} {p q last : Point} {x : Option Statement}
      (h : r.Step store p x q) (hrest : Steps r (store.after x) q final last) :
      Steps r store p final last

theorem Steps.trans {middle final : Store} {p q last : Point} (h : Steps r store p middle q)
    (hrest : Steps r middle q final last) : Steps r store p final last := by
  induction h with
  | refl => exact hrest
  | head h _ ih => exact .head h (ih hrest)

/-! ## A run on its own -/

theorem steps_writing (outcomes left : List (Call × Outcome)) (store : Store) :
    Steps r store (.writing done s outcomes left) (Run.writeAll r.readings store left)
      (.writing done s outcomes []) := by
  induction left generalizing store with
  | nil => exact .refl _ _
  | cons o rest ih =>
    have hnext := ih (Run.writeOutcome r.readings store o)
    unfold Run.writeOutcome at hnext
    cases hwritten : o.2.written? with
    | none =>
      rw [hwritten] at hnext
      have hstep : r.Step store (.writing done s outcomes ([] ++ o :: rest)) none
          (.writing done s outcomes ([] ++ rest)) := .empty hwritten
      refine .head hstep ?_
      simpa [Run.writeAll, Run.writeOutcome, hwritten, Store.after] using hnext
    | some effect =>
      rw [hwritten] at hnext
      have hstep : r.Step store (.writing done s outcomes ([] ++ o :: rest)) _
          (.writing done s outcomes ([] ++ rest)) := .wrote hwritten
      refine .head hstep ?_
      simpa [Run.writeAll, Run.writeOutcome, hwritten, Store.after, Statement.run] using hnext

theorem Reaches.steps (h : Reaches r done s) (store : Store) :
    Steps r store (.working [] (.initial r.plan)) (Run.writeAll r.readings store done.flatten)
      (.working done s) := by
  induction h with
  | start => exact .refl _ _
  | @round done s t u works h hstart htake ih =>
    refine ih.trans (.head (.started hstart)
      ((steps_writing _ _ _).trans (.head (.taken htake) ?_)))
    have hwrites : Run.writeAll r.readings store (done ++ [r.perform works]).flatten =
        Run.writeAll r.readings (Run.writeAll r.readings store done.flatten) (r.perform works) := by
      rw [List.flatten_append, List.flatten_singleton, writeAll_append]
    rw [hwrites]
    exact .refl _ _

theorem steps_reading (executed : ExecutedPlan) (found : List Effect) (left : List Reference)
    (store : Store) :
    Steps r store (.reading executed found left) store
      (.ended ((Run.restoreEffects r.readings.faults store left).map
        fun effects => .ofEffects executed (found ++ effects) [])) := by
  induction left generalizing found with
  | nil =>
    have hlast : Steps r store (.reading executed found []) store _ := .head .served (.refl _ _)
    simpa [Run.restoreEffects, Except.map, pure, Except.pure, bind, Except.bind] using hlast
  | cons ref rest ih =>
    refine .head .read ?_
    unfold Run.restoreEffects at ih ⊢
    rw [List.mapM_cons, Store.after]
    cases hread : Run.restoreEffect r.readings.faults store ref with
    | error failure => exact .refl _ _
    | ok effect =>
      cases hrest : rest.mapM (Run.restoreEffect r.readings.faults store) with
      | error failure =>
        cases effect with
        | none => simpa [afterRead, hrest, bind, Except.bind, Except.map] using ih found
        | some e => simpa [afterRead, hrest, bind, Except.bind, Except.map] using ih (found ++ [e])
      | ok effects =>
        cases effect with
        | none =>
          simpa [afterRead, hrest, bind, Except.bind, Except.map, pure, Except.pure] using ih found
        | some e =>
          simpa [afterRead, hrest, bind, Except.bind, Except.map, pure, Except.pure] using
            ih (found ++ [e])

theorem steps_closing (store : Store) (done : List (List (Call × Outcome))) (s : RunState) :
    match Run.remember r.readings store (r.summary s) s with
    | .error failure => Steps r store (r.closing done s) store (.ended (.error failure))
    | .ok saved => Steps r store (r.closing done s) saved (.ended (.ok (r.artifacts s))) := by
  unfold Run.remember closing
  split_ifs
  · cases hfault : r.readings.faults.finish with
    | some text => exact .head (.unsaved hfault) (.refl _ _)
    | none => exact .head (.saved hfault) (.refl _ _)
  · exact .refl _ _

theorem steps_opening (store : Store) :
    let report := Run.runFresh r.plan r.clients r.registry r.options r.readings store
    Steps r store r.opening report.store (.ended report.result) := by
  simp only [Run.runFresh, opening]
  cases hlayers : r.plan.layers with
  | error failure => exact .refl _ _
  | ok layers =>
    cases hlimits : Run.checkLimits r.options r.readings with
    | error failure => exact .refl _ _
    | ok _ =>
      have hends := ends_allRounds (Plan.layered_of_layers hlayers)
      simp only [rounds_eq_allRounds]
      generalize r.allRounds = ended at hends ⊢
      obtain ⟨done, result⟩ := ended
      dsimp only at hends ⊢
      cases hends with
      | stopped h hstart => exact (h.steps store).trans (.head (.stopped hstart) (.refl _ _))
      | @broken done s t works failure h hstart htake =>
        refine (h.steps store).trans (.head (.started hstart)
          ((steps_writing _ _ _).trans (.head (.broken htake) ?_)))
        rw [List.flatten_append, List.flatten_singleton, writeAll_append]
        exact .refl _ _
      | @finished done s t h hstart =>
        have hclosing := steps_closing (r := r) (Run.writeAll r.readings store done.flatten) done t
        have hrun := (h.steps store).trans (.head (.finished hstart) (.refl _ _))
        unfold summary at hclosing
        cases hsave : Run.remember r.readings (Run.writeAll r.readings store done.flatten)
          (Run.summary r.plan r.readings t) t with
        | error failure =>
          rw [hsave] at hclosing
          simp only [hsave]
          exact hrun.trans hclosing
        | ok saved =>
          rw [hsave] at hclosing
          simp only [hsave]
          exact hrun.trans hclosing

/-- A whole run is one of the ways in which its steps can follow each other. -/
theorem execute_steps (r : Request) (store : Store) :
    Steps r store r.first (r.execute store).store (.ended (r.execute store).result) := by
  unfold first execute Run.execute
  split_ifs with hallow
  · unfold Run.ask
    cases hfault : r.readings.faults.lookup with
    | some text => exact .head (.refused hfault) (.refl _ _)
    | none =>
      simp only [Store.findExecuted]
      cases hfound : store.plans.get? r.plan.hash with
      | none =>
        have htouch : store.touch r.readings.lookup r.plan.hash = store := by
          simp [Store.touch, hfound]
        rw [htouch]
        exact .head (.missed hfound) (steps_opening store)
      | some entry =>
        refine .head (.found hfound) (.head (.touched hfault) ?_)
        simp only [Store.readRow, serving]
        cases hentry : entry.executed with
        | error failure => exact .refl _ _
        | ok executed => exact steps_reading _ _ _ _
  · exact steps_opening store

end Request

/-! ## Runs that share a store -/

structure Job where
  request : Request
  point : Point

structure System where
  store : Store
  jobs : List Job

namespace System

inductive Next : System → System → Prop
  | begins (sys : System) (r : Request) : Next sys ⟨sys.store, sys.jobs ++ [⟨r, r.first⟩]⟩
  | steps {store : Store} {before after : List Job} {r : Request} {p q : Point}
      {x : Option Statement} (h : r.Step store p x q) :
      Next ⟨store, before ++ ⟨r, p⟩ :: after⟩ ⟨store.after x, before ++ ⟨r, q⟩ :: after⟩
  | prunes (sys : System) (cutoff : Moment) :
      Next sys ⟨(Statement.prune cutoff).run sys.store, sys.jobs⟩

inductive Reachable : System → Prop
  | empty : Reachable ⟨.empty, []⟩
  | next {sys sys' : System} (h : Reachable sys) (hnext : Next sys sys') : Reachable sys'

theorem Reachable.steps {store final : Store} {jobs : List Job} {r : Request} {p q : Point}
    (hsteps : r.Steps store p final q) (h : Reachable ⟨store, jobs ++ [⟨r, p⟩]⟩) :
    Reachable ⟨final, jobs ++ [⟨r, q⟩]⟩ := by
  induction hsteps with
  | refl => exact h
  | head hstep _ ih => exact ih (h.next (.steps hstep))

theorem Reachable.execute {sys : System} (h : sys.Reachable) (r : Request) :
    Reachable ⟨(r.execute sys.store).store,
      sys.jobs ++ [⟨r, .ended (r.execute sys.store).result⟩]⟩ :=
  .steps (r.execute_steps sys.store) (h.next (.begins sys r))

end System

end Lemmata
