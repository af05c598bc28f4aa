import Lemmata.Proofs.Run.Pool
import Lemmata.Proofs.Run.Interleaving

/-!
# Runs task by task

A run goes from round to round. In a round its tasks go on in any order that the pool allows; when
all of them are finished, their outcomes are taken in.
-/

namespace Lemmata

inductive Course where
  | between (store : Store) (done : List (List (Call × Outcome))) (state : RunState)
  | during (done : List (List (Call × Outcome))) (state : RunState) (pool : Pool)
  | ended (report : RunReport)

namespace Request

variable {r : Request} {layers : List (List String)} {done : List (List (Call × Outcome))}
variable {s t : RunState} {works : List (Call × Work)} {store now : Store} {deeds : List Deed}
variable {final : RunReport} {c c' : Course}

def report (r : Request) (store : Store) (done : List (List (Call × Outcome))) :
    Except Failure RunState → RunReport
  | .error failure => ⟨store, done.map names, .error failure⟩
  | .ok s =>
    match Run.remember r.readings store (r.summary s) s with
    | .error failure => ⟨store, done.map names, .error failure⟩
    | .ok saved => ⟨saved, done.map names, .ok (r.artifacts s)⟩

inductive Turn (r : Request) : Course → Option Deed → Course → Prop
  | finished {store : Store} {done : List (List (Call × Outcome))} {s t : RunState}
      (h : r.start done.length s = .finished t) :
      Turn r (.between store done s) none (.ended (r.report store done (.ok t)))
  | stopped {store : Store} {done : List (List (Call × Outcome))} {s : RunState}
      {failure : Failure} (h : r.start done.length s = .failed failure) :
      Turn r (.between store done s) none (.ended (r.report store done (.error failure)))
  | opened {store : Store} {done : List (List (Call × Outcome))} {s t : RunState}
      {works : List (Call × Work)} (h : r.start done.length s = .work t works) :
      Turn r (.between store done s) none (.during done t (.opened store works))
  | moved {done : List (List (Call × Outcome))} {s : RunState} {p q : Pool} {x : Option Deed}
      (h : r.Move p x q) : Turn r (.during done s p) x (.during done s q)
  | taken {done : List (List (Call × Outcome))} {s t : RunState} {p : Pool}
      {outcomes : List (Call × Outcome)} (hyields : p.Yields outcomes)
      (h : s.takeOutcomes outcomes = .ok t) :
      Turn r (.during done s p) none (.between p.store (done ++ [outcomes]) t)
  | broken {done : List (List (Call × Outcome))} {s : RunState} {p : Pool} {failure : Failure}
      {outcomes : List (Call × Outcome)} (hyields : p.Yields outcomes)
      (h : s.takeOutcomes outcomes = .error failure) :
      Turn r (.during done s p) none
        (.ended (r.report p.store (done ++ [outcomes]) (.error failure)))

inductive Turns (r : Request) : Course → List Deed → Course → Prop
  | refl (c : Course) : Turns r c [] c
  | head {c c' last : Course} {x : Option Deed} {deeds : List Deed} (h : r.Turn c x c')
      (hrest : Turns r c' deeds last) : Turns r c (x.toList ++ deeds) last

/-- How a run begins. There is no beginning with a limit that the machine does not take: the
program is gone then. -/
inductive Begins (r : Request) (store : Store) : Course → Prop
  | refused {failure : Failure} (hallow : r.options.allowCache = true)
      (hask : (Run.ask r.readings store r.plan.hash).2 = .error failure) :
      Begins r store (.ended ⟨r.asked store, [], .error failure⟩)
  | served {cached : ExecutedPlan} (h : r.Served store cached) :
      Begins r store (.ended ⟨r.asked store, [],
        Run.restore r.readings.faults (r.asked store) cached⟩)
  | invalid {failure : Failure} (hlayers : r.plan.layers = .error failure)
      (hmissed : r.options.allowCache = true →
        (Run.ask r.readings store r.plan.hash).2 = .ok none) :
      Begins r store (.ended ⟨r.asked store, [], .error failure⟩)
  | fresh {layers : List (List String)} (hlayers : r.plan.layers = .ok layers)
      (hmissed : r.options.allowCache = true →
        (Run.ask r.readings store r.plan.hash).2 = .ok none)
      (hlimits : Run.checkLimits r.options r.readings = .ok ()) :
      Begins r store (.between (r.asked store) [] (.initial r.plan))

/-- A run over the store can come here, with these deeds. -/
def Goes (r : Request) (store : Store) (deeds : List Deed) (c : Course) : Prop :=
  ∃ first, r.Begins store first ∧ r.Turns first deeds c

theorem Turns.trans {more : List Deed} {last : Course} (h : r.Turns c deeds c')
    (hrest : r.Turns c' more last) : r.Turns c (deeds ++ more) last := by
  induction h with
  | refl => exact hrest
  | head hturn _ ih =>
    rw [List.append_assoc]
    exact .head hturn (ih hrest)

theorem Goes.turns {more : List Deed} (h : r.Goes store deeds c) (hrest : r.Turns c more c') :
    r.Goes store (deeds ++ more) c' := by
  obtain ⟨first, hbegins, hturns⟩ := h
  exact ⟨first, hbegins, hturns.trans hrest⟩

theorem Moves.turns {p q : Pool} (h : r.Moves p deeds q) :
    r.Turns (.during done s p) deeds (.during done s q) := by
  induction h with
  | refl => exact .refl _
  | head hmove _ ih => exact .head (.moved hmove) ih

/-! ## What the rounds have done -/

/-- In this round these deeds led to these outcomes. -/
def Leads (r : Request) (deeds : List Deed) (outcomes : List (Call × Outcome)) : Prop :=
  ∃ works, outcomes = r.perform works ∧ (deeds.filterMap Deed.called?).Perm works ∧
    (deeds.filterMap Deed.wrote?).Perm (outcomes.filterMap rowOf)

inductive Underway (r : Request) (store : Store) (deeds : List Deed) : Course → Prop
  | between {done : List (List (Call × Outcome))} {s : RunState} {each : List (List Deed)}
      (h : Reaches r done s) (hdeeds : deeds = each.flatten)
      (heach : List.Forall₂ r.Leads each done) :
      Underway r store deeds (.between (Run.saveAll r.readings store
        (deeds.filterMap Deed.wrote?)) done s)
  | during {done : List (List (Call × Outcome))} {s t : RunState} {works : List (Call × Work)}
      {each : List (List Deed)} {last : List Deed} {p : Pool}
      (h : Reaches r done s) (hstart : r.start done.length s = .work t works)
      (hdeeds : deeds = each.flatten ++ last) (heach : List.Forall₂ r.Leads each done)
      (hpool : PoolInv r (Run.saveAll r.readings store (each.flatten.filterMap Deed.wrote?)) works
        last p) :
      Underway r store deeds (.during done t p)
  | ended {done : List (List (Call × Outcome))} {result : Except Failure RunState}
      {each : List (List Deed)} (h : Ends r done result) (hdeeds : deeds = each.flatten)
      (heach : List.Forall₂ r.Leads each done) :
      Underway r store deeds (.ended (r.report (Run.saveAll r.readings store
        (deeds.filterMap Deed.wrote?)) done result))

theorem PoolInv.store_flatten {each : List (List Deed)} {last : List Deed} {p : Pool}
    (h : PoolInv r (Run.saveAll r.readings store (each.flatten.filterMap Deed.wrote?)) works
      last p) :
    p.store = Run.saveAll r.readings store
      ((each ++ [last]).flatten.filterMap Deed.wrote?) := by
  rw [h.store_eq, ← saveAll_append, ← List.filterMap_append, List.flatten_append,
    List.flatten_singleton]

theorem PoolInv.leads {last : List Deed} {p : Pool} {outcomes : List (Call × Outcome)}
    (h : PoolInv r now works last p) (hyields : p.Yields outcomes) :
    outcomes = r.perform works ∧ r.Leads last outcomes := by
  obtain ⟨rfl, hcalled, hwrote⟩ := h.yields hyields
  exact ⟨rfl, works, rfl, hcalled, hwrote⟩

theorem forall₂_append_singleton {α β : Type} {R : α → β → Prop} {as : List α} {bs : List β}
    {a : α} {b : β} (h : List.Forall₂ R as bs) (hlast : R a b) :
    List.Forall₂ R (as ++ [a]) (bs ++ [b]) :=
  List.rel_append h (.cons hlast .nil)

theorem Underway.turn {x : Option Deed} (h : r.Underway store deeds c) (hturn : r.Turn c x c') :
    r.Underway store (deeds ++ x.toList) c' := by
  cases h with
  | @between done s each h hdeeds heach =>
    have hsame : deeds ++ none.toList = deeds := List.append_nil _
    cases hturn with
    | finished hstart => exact hsame.symm ▸ .ended (.finished h hstart) hdeeds heach
    | stopped hstart => exact hsame.symm ▸ .ended (.stopped h hstart) hdeeds heach
    | opened hstart =>
      rw [hsame]
      refine .during h hstart (hdeeds.trans (List.append_nil _).symm) heach ?_
      rw [← hdeeds]
      exact poolInv_opened _ _ _
  | @during done s t works each last p h hstart hdeeds heach hpool =>
    cases hturn with
    | moved hmove =>
      refine .during h hstart ?_ heach (hpool.move hmove)
      rw [hdeeds, List.append_assoc]
    | taken hyields htake =>
      obtain ⟨rfl, hleads⟩ := hpool.leads hyields
      have hall : deeds = (each ++ [last]).flatten := by simpa using hdeeds
      rw [hpool.store_flatten, ← hall, Option.toList_none, List.append_nil]
      exact .between (.round h hstart htake) hall (forall₂_append_singleton heach hleads)
    | broken hyields htake =>
      obtain ⟨rfl, hleads⟩ := hpool.leads hyields
      have hall : deeds = (each ++ [last]).flatten := by simpa using hdeeds
      rw [hpool.store_flatten, ← hall, Option.toList_none, List.append_nil]
      exact .ended (.broken h hstart htake) hall (forall₂_append_singleton heach hleads)
  | ended => cases hturn

theorem Underway.turns {more : List Deed} (h : r.Underway store deeds c)
    (hturns : r.Turns c more c') : r.Underway store (deeds ++ more) c' := by
  induction hturns generalizing deeds with
  | refl => rwa [List.append_nil]
  | head hturn _ ih =>
    rw [← List.append_assoc]
    exact ih (h.turn hturn)

theorem Turns.of_ended (h : r.Turns (.ended final) deeds c) : deeds = [] ∧ c = .ended final := by
  cases h with
  | refl => exact ⟨rfl, rfl⟩
  | head hturn _ => cases hturn

theorem Goes.cases (h : r.Goes store deeds c) :
    (∃ report, r.Begins store (.ended report) ∧ deeds = [] ∧ c = .ended report) ∨
      (∃ layers, r.plan.layers = .ok layers) ∧
        (r.options.allowCache = true →
          (Run.ask r.readings store r.plan.hash).2 = .ok none) ∧
        Run.checkLimits r.options r.readings = .ok () ∧ r.Underway (r.asked store) deeds c := by
  obtain ⟨first, hbegins, hturns⟩ := h
  have hended : ∀ {report}, first = .ended report →
      ∃ report, r.Begins store (.ended report) ∧ deeds = [] ∧ c = .ended report := by
    rintro report rfl
    exact ⟨report, hbegins, hturns.of_ended⟩
  cases hbegins with
  | refused => exact .inl (hended rfl)
  | served => exact .inl (hended rfl)
  | invalid => exact .inl (hended rfl)
  | fresh hlayers hmissed hlimits =>
    have hstart : r.Underway (r.asked store) [] (.between (r.asked store) [] (.initial r.plan)) :=
      .between .start (List.flatten_nil).symm .nil
    exact .inr ⟨⟨_, hlayers⟩, hmissed, hlimits, hstart.turns hturns⟩

/-! ## Every run can be brought to its end -/

/-- Each round takes a layer of the plan, and its tasks can be finished. -/
theorem Reaches.completes (hl : r.plan.Layered layers) (h : Reaches r done s) (store : Store) :
    ∃ deeds final, r.Turns (.between store done s) deeds (.ended final) := by
  induction hrest : r.plan.calls.length + 1 - done.length generalizing done s store with
  | zero =>
    have hdone := h.length_le hl
    have hlayers := hl.length_le
    omega
  | succ rest ih =>
    cases hstart : r.start done.length s with
    | finished t => exact ⟨_, _, .head (.finished hstart) (.refl _)⟩
    | failed failure => exact ⟨_, _, .head (.stopped hstart) (.refl _)⟩
    | work t works =>
      obtain ⟨first, p, outcomes, hmoves, hyields⟩ :=
        exists_moves (poolInv_opened r store works).held_le
      obtain ⟨rfl, -⟩ := ((poolInv_opened r store works).moves hmoves).leads hyields
      have hround := Turns.head (.opened hstart) (hmoves.turns (s := t))
      cases htake : t.takeOutcomes (r.perform works) with
      | error failure =>
        exact ⟨_, _, hround.trans (.head (.broken hyields htake) (.refl _))⟩
      | ok u =>
        obtain ⟨more, final, hmore⟩ := ih (.round h hstart htake) p.store
          (by rw [List.length_append, List.length_singleton]; omega)
        exact ⟨_, final, hround.trans (.head (.taken hyields htake) hmore)⟩

theorem Goes.completes (h : r.Goes store deeds c) :
    ∃ more final, r.Turns c more (.ended final) := by
  obtain ⟨final, -, -, rfl⟩ | ⟨⟨layers, hlayers⟩, -, -, hway⟩ := h.cases
  · exact ⟨[], final, .refl _⟩
  · have hl := Plan.layered_of_layers hlayers
    cases hway with
    | between hreach _ _ => exact hreach.completes hl _
    | ended => exact ⟨[], _, .refl _⟩
    | @during done s t works each last p hreach hstart _ _ hpool =>
      obtain ⟨first, q, outcomes, hmoves, hyields⟩ := exists_moves hpool.held_le
      obtain ⟨rfl, -⟩ := (hpool.moves hmoves).leads hyields
      have hround : r.Turns (.during done t p) first (.during done t q) := hmoves.turns
      cases htake : t.takeOutcomes (r.perform works) with
      | error failure =>
        exact ⟨_, _, hround.trans (.head (.broken hyields htake) (.refl _))⟩
      | ok u =>
        obtain ⟨more, final, hmore⟩ := Reaches.completes hl (.round hreach hstart htake) q.store
        exact ⟨_, final, hround.trans (.head (.taken hyields htake) hmore)⟩

/-! ## All runs end in the same way -/

theorem Reaches.rounds_eq (hl : r.plan.Layered layers) (h : Reaches r done s) :
    r.allRounds =
      (done ++ (r.rounds (r.plan.calls.length + 1 - done.length) done.length s).1,
        (r.rounds (r.plan.calls.length + 1 - done.length) done.length s).2) := by
  induction h with
  | start => rfl
  | @round done s t u works h hstart htake ih =>
    have hlength : done.length ≤ r.plan.calls.length := Nat.le_trans (h.length_le hl) hl.length_le
    have hfuel : r.plan.calls.length + 1 - done.length =
        r.plan.calls.length + 1 - (done ++ [r.perform works]).length + 1 := by
      rw [List.length_append, List.length_singleton]
      omega
    rw [ih, hfuel, rounds, hstart]
    simp only [htake, List.length_append, List.length_singleton, List.append_assoc,
      List.singleton_append]

theorem Ends.eq_allRounds (hl : r.plan.Layered layers) {result : Except Failure RunState}
    (h : Ends r done result) : r.allRounds = (done, result) := by
  have hfuel : ∀ {done : List (List (Call × Outcome))} {s : RunState}, Reaches r done s →
      r.plan.calls.length + 1 - done.length = r.plan.calls.length - done.length + 1 := by
    intro done s h
    have hlength : done.length ≤ r.plan.calls.length := Nat.le_trans (h.length_le hl) hl.length_le
    omega
  cases h with
  | finished h hstart => rw [h.rounds_eq hl, hfuel h, rounds, hstart, List.append_nil]
  | stopped h hstart => rw [h.rounds_eq hl, hfuel h, rounds, hstart, List.append_nil]
  | broken h hstart htake =>
    rw [h.rounds_eq hl, hfuel h, rounds, hstart]
    simp only [htake]

theorem runFresh_eq (hlayers : r.plan.layers = .ok layers)
    (hlimits : Run.checkLimits r.options r.readings = .ok ()) (store : Store) :
    Run.runFresh r.plan r.clients r.registry r.options r.readings store =
      r.report (Run.writeAll r.readings store r.allRounds.1.flatten) r.allRounds.1
        r.allRounds.2 := by
  unfold Run.runFresh
  rw [hlayers, hlimits]
  simp only [rounds_eq_allRounds]
  cases r.allRounds.2 <;> rfl

theorem Begins.within_limits {first : Course} (h : r.Begins store first)
    (hlayers : r.plan.layers = .ok layers) (hmissed : r.options.allowCache = true →
      (Run.ask r.readings store r.plan.hash).2 = .ok none) :
    Run.checkLimits r.options r.readings = .ok () ∧
      first = .between (r.asked store) [] (.initial r.plan) := by
  cases h with
  | refused hallow hask =>
    rw [hmissed hallow] at hask
    cases hask
  | served h =>
    have hask := h.2
    rw [hmissed h.1] at hask
    cases hask
  | invalid hnone =>
    rw [hlayers] at hnone
    cases hnone
  | fresh _ _ hlimits => exact ⟨hlimits, rfl⟩

theorem Begins.eq_execute (h : r.Begins store (.ended final)) : r.execute store = final := by
  cases h with
  | refused hallow hask =>
    unfold execute Run.execute asked
    rw [if_pos hallow, if_pos hallow]
    split <;> simp_all
  | served h =>
    obtain ⟨hallow, hask⟩ := h
    unfold execute Run.execute asked
    rw [if_pos hallow, if_pos hallow]
    split <;> simp_all
  | invalid hlayers hmissed =>
    rw [execute_of_missed hmissed, Run.runFresh, hlayers]

/-- The deeds of a whole run, round by round, and what `execute` makes of the same rounds. -/
theorem Goes.ended_cases (h : r.Goes store deeds (.ended final)) :
    deeds = [] ∧ final = r.execute store ∨
      ∃ each : List (List Deed), deeds = each.flatten ∧ List.Forall₂ r.Leads each r.allRounds.1 ∧
        final = r.report (Run.saveAll r.readings (r.asked store)
          (deeds.filterMap Deed.wrote?)) r.allRounds.1 r.allRounds.2 ∧
        r.execute store = r.report (Run.writeAll r.readings (r.asked store)
          r.allRounds.1.flatten) r.allRounds.1 r.allRounds.2 := by
  obtain ⟨report, hbegins, rfl, hfinal⟩ | ⟨⟨layers, hlayers⟩, hmissed, hlimits, hway⟩ := h.cases
  · cases hfinal
    exact .inl ⟨rfl, hbegins.eq_execute.symm⟩
  · have hl := Plan.layered_of_layers hlayers
    have hexecute := execute_of_missed hmissed
    rw [runFresh_eq hlayers hlimits] at hexecute
    cases hway with
    | @ended done result each hends hdeeds heach =>
      have hall := hends.eq_allRounds hl
      rw [hall] at hexecute ⊢
      exact .inr ⟨each, hdeeds, heach, rfl, hexecute⟩

/-! ## One of them has the tasks in the order of their calls -/

theorem exists_round (store : Store) (hstart : r.start done.length s = .work t works) :
    ∃ deeds p, r.Turns (.between (Run.writeAll r.readings store done.flatten) done s) deeds
        (.during done t p) ∧
      p.store = Run.writeAll r.readings store (done ++ [r.perform works]).flatten ∧
      p.Yields (r.perform works) := by
  have hmoves := @moves_in_order r works [] rfl (Run.writeAll r.readings store done.flatten)
  refine ⟨_, _, .head (.opened hstart) hmoves.turns, ?_, r.yields_finished _ works⟩
  rw [List.flatten_append, List.flatten_singleton, writeAll_append]

theorem Reaches.turns (h : Reaches r done s) (store : Store) :
    ∃ deeds, r.Turns (.between store [] (.initial r.plan)) deeds
      (.between (Run.writeAll r.readings store done.flatten) done s) := by
  induction h with
  | start => exact ⟨[], .refl _⟩
  | @round done s t u works h hstart htake ih =>
    obtain ⟨before, hbefore⟩ := ih
    obtain ⟨deeds, p, hround, hstore, hyields⟩ := exists_round store hstart
    have hlast : r.Turn (.during done t p) none
        (.between p.store (done ++ [r.perform works]) u) := .taken hyields htake
    rw [hstore] at hlast
    exact ⟨_, hbefore.trans (hround.trans (.head hlast (.refl _)))⟩

theorem Ends.turns {result : Except Failure RunState} (h : Ends r done result) (store : Store) :
    ∃ deeds, r.Turns (.between store [] (.initial r.plan)) deeds
      (.ended (r.report (Run.writeAll r.readings store done.flatten) done result)) := by
  cases h with
  | finished h hstart =>
    obtain ⟨deeds, hturns⟩ := h.turns store
    exact ⟨_, hturns.trans (.head (.finished hstart) (.refl _))⟩
  | stopped h hstart =>
    obtain ⟨deeds, hturns⟩ := h.turns store
    exact ⟨_, hturns.trans (.head (.stopped hstart) (.refl _))⟩
  | @broken done s t works failure h hstart htake =>
    obtain ⟨before, hbefore⟩ := h.turns store
    obtain ⟨deeds, p, hround, hstore, hyields⟩ := exists_round store hstart
    have hlast : r.Turn (.during done t p) none
        (.ended (r.report p.store (done ++ [r.perform works]) (.error failure))) :=
      .broken hyields htake
    rw [hstore] at hlast
    exact ⟨_, hbefore.trans (hround.trans (.head hlast (.refl _)))⟩

/-- What `execute` does is one of the ways in which the run can go. -/
theorem goes_execute (hlimits : Run.checkLimits r.options r.readings = .ok ()) (store : Store) :
    ∃ deeds, r.Goes store deeds (.ended (r.execute store)) := by
  have hbegun : ∀ final, r.Begins store (.ended final) →
      ∃ deeds, r.Goes store deeds (.ended (r.execute store)) := by
    intro final hbegins
    rw [hbegins.eq_execute]
    exact ⟨[], _, hbegins, .refl _⟩
  have hrun : (r.options.allowCache = true →
      (Run.ask r.readings store r.plan.hash).2 = .ok none) →
      ∃ deeds, r.Goes store deeds (.ended (r.execute store)) := by
    intro hmissed
    cases hlayers : r.plan.layers with
    | error failure => exact hbegun _ (.invalid hlayers hmissed)
    | ok layers =>
      obtain ⟨deeds, hturns⟩ := (ends_allRounds (Plan.layered_of_layers hlayers)).turns
        (r.asked store)
      rw [execute_of_missed hmissed, runFresh_eq hlayers hlimits]
      exact ⟨deeds, _, .fresh hlayers hmissed hlimits, hturns⟩
  by_cases hallow : r.options.allowCache = true
  · cases hask : (Run.ask r.readings store r.plan.hash).2 with
    | error failure => exact hbegun _ (.refused hallow hask)
    | ok cached =>
      cases cached with
      | some cached => exact hbegun _ (.served ⟨hallow, hask⟩)
      | none => exact hrun fun _ => hask
  · exact hrun fun h => absurd h hallow

end Request

end Lemmata
