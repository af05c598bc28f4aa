import Lemmata.Proofs.Run.Whole
import Mathlib.Computability.Primrec.List
import Mathlib.Data.List.Permutation

/-! # A run takes the layers of its plan one by one -/

namespace Lemmata.Request

variable {r : Request} {layers : List (List String)} {done : List (List (Call × Outcome))}
variable {s t u : RunState} {works : List (Call × Work)} {store : Store} {report : RunReport}
variable {result : Except Failure RunState} {outcomes : List (Call × Outcome)} {k : Nat}

/-! ## What was started -/

def AllStarted (r : Request) (done : List (List (Call × Outcome))) : Prop :=
  ∀ k outcomes, done[k]? = some outcomes → ∃ s t works, Reaches r (done.take k) s ∧
    (done.take k).length = k ∧ r.start k s = .work t works ∧ outcomes = r.perform works

theorem AllStarted.append (h : AllStarted r done) (hreach : Reaches r done s)
    (hstart : r.start done.length s = .work t works) :
    AllStarted r (done ++ [r.perform works]) := by
  intro k outcomes hk
  rcases Nat.lt_or_ge k done.length with hlt | hge
  · rw [List.getElem?_append_left hlt] at hk
    rw [List.take_append_of_le_length (by omega)]
    exact h k outcomes hk
  · obtain ⟨rfl, rfl⟩ : k = done.length ∧ r.perform works = outcomes := by
      rw [List.getElem?_append_right hge, List.getElem?_singleton] at hk
      split at hk
      · next hzero => exact ⟨by omega, by simpa using hk⟩
      · cases hk
    refine ⟨s, t, works, ?_, ?_, hstart, rfl⟩
    · rwa [List.take_left]
    · rw [List.take_left]

theorem Reaches.allStarted (h : Reaches r done s) : AllStarted r done := by
  induction h with
  | start => exact fun k outcomes hk => by simp at hk
  | round h hstart _ ih => exact ih.append h hstart

theorem Ends.allStarted (h : Ends r done result) : AllStarted r done := by
  cases h with
  | finished h _ => exact h.allStarted
  | stopped h _ => exact h.allStarted
  | broken h hstart _ => exact h.allStarted.append h hstart

theorem Fresh.allStarted (h : Fresh r store report) :
    ∃ done, AllStarted r done ∧ report.started = done.map names := by
  cases h with
  | refused _ => exact ⟨[], fun k outcomes hk => by simp at hk, rfl⟩
  | failed h => exact ⟨_, h.allStarted, rfl⟩
  | unsaved h _ => exact ⟨_, h.allStarted, rfl⟩
  | completed h _ => exact ⟨_, h.allStarted, rfl⟩

theorem flatten_sublist {parts wholes : List (List String)}
    (h : ∀ (k : Nat) (part : List String), parts[k]? = some part →
      ∃ whole, wholes[k]? = some whole ∧ part.Sublist whole) :
    parts.flatten.Sublist wholes.flatten := by
  induction parts generalizing wholes with
  | nil => exact List.nil_sublist _
  | cons part rest ih =>
    obtain ⟨whole, hwhole, hsub⟩ := h 0 part rfl
    cases wholes with
    | nil => simp at hwhole
    | cons first others =>
      obtain rfl : first = whole := by simpa using hwhole
      rw [List.flatten_cons, List.flatten_cons]
      exact hsub.append (ih fun k part hk => by simpa using h (k + 1) part hk)

/-- No layer shares a call with another, and so no round with another. -/
theorem AllStarted.nodup (h : AllStarted r done) (hl : r.plan.Layered layers) :
    (done.map names).flatten.Nodup := by
  refine List.Sublist.nodup (flatten_sublist ?_) hl.flatten_nodup
  intro k started hk
  rw [List.getElem?_map, Option.map_eq_some_iff] at hk
  obtain ⟨outcomes, hk, rfl⟩ := hk
  obtain ⟨s, t, works, hreach, hlength, hstart, rfl⟩ := h k outcomes hk
  rw [← hlength] at hstart
  obtain ⟨layer, hlayer, hnames⟩ := (hreach.startInv hl hstart).names_eq
  rw [hlength] at hlayer
  rw [names_perform, hnames]
  exact ⟨layer, hlayer, List.filter_sublist⟩

/-! ## The rounds never get stuck -/

end Request

theorem Run.checkLimits_ne_cycle {options : ExecutionOptions} {readings : Readings}
    {planId : String} {ids : List String} :
    Run.checkLimits options readings ≠ .error (.cycle planId ids) := by
  unfold Run.checkLimits
  cases options.deadlineMs with
  | none => split_ifs <;> exact fun h => by cases h
  | some deadline =>
    simp only
    split_ifs <;> exact fun h => by cases h

theorem Run.ask_ne_cycle {readings : Readings} {store : Store} {hash planId : String}
    {ids : List String} : (Run.ask readings store hash).2 ≠ .error (.cycle planId ids) := by
  unfold Run.ask
  cases readings.faults.lookup with
  | some text => exact fun h => by cases h
  | none =>
    simp only [Store.findExecuted]
    cases store.plans.get? hash with
    | none => exact fun h => by cases h
    | some row =>
      simp only [Store.readRow, PlanRow.executed, Column.readJson]
      split <;> exact fun h => by cases h

theorem Run.remember_ne_cycle {readings : Readings} {store : Store} {executed : ExecutedPlan}
    {s : RunState} {planId : String} {ids : List String} :
    Run.remember readings store executed s ≠ .error (.cycle planId ids) := by
  unfold Run.remember
  split_ifs
  · cases readings.faults.finish <;> exact fun h => by cases h
  · exact fun h => by cases h

theorem Outcome.failure_settle_ne_cycle {plan : Plan} {faults : Faults} {call : Call} {work : Work}
    {durationMs : UInt64} {planId : String} {ids : List String} :
    (Run.settle plan faults call (work.perform plan.id call durationMs)).failure? ≠
      some (.cycle planId ids) := by
  have hwork : (work.perform plan.id call durationMs).failure? ≠ some (.cycle planId ids) := by
    cases work with
    | fetch client =>
      simp only [Work.perform, Work.fetchOutcome]
      split
      · exact fun h => by cases h
      · split <;> exact fun h => by cases h
    | extract handler raw =>
      simp only [Work.perform]
      cases handler call raw <;> exact fun h => by cases h
    | derive handler extraction =>
      simp only [Work.perform]
      cases handler call extraction <;> exact fun h => by cases h
    | claim handler derivation =>
      simp only [Work.perform]
      cases handler call derivation <;> exact fun h => by cases h
  unfold Run.settle
  split
  · exact fun h => by cases h
  · exact fun h => by cases h
  · exact hwork

namespace Request

theorem Ends.ne_cycle (h : Ends r done result) (hl : r.plan.Layered layers) (planId : String)
    (ids : List String) : result ≠ .error (.cycle planId ids) := by
  rintro rfl
  cases h with
  | stopped h hstart => exact (h.roundInv hl).start_ne_cycle hl planId ids hstart
  | broken _ _ htake =>
    obtain ⟨o, ho, hfailure, -⟩ := RunState.failure_of_takeOutcomes htake
    obtain ⟨w, -, rfl⟩ := mem_perform.mp ho
    exact Outcome.failure_settle_ne_cycle hfailure

theorem Fresh.ne_cycle (h : Fresh r store report) (hl : r.plan.Layered layers)
    (planId : String) (ids : List String) : report.result ≠ .error (.cycle planId ids) := by
  intro hresult
  cases h with
  | refused hwhy =>
    cases hresult
    rcases hwhy with hlimits | hask
    · exact Run.checkLimits_ne_cycle hlimits
    · exact Run.ask_ne_cycle hask
  | failed h =>
    cases hresult
    exact h.ne_cycle hl planId ids rfl
  | unsaved _ hsave =>
    cases hresult
    exact Run.remember_ne_cycle hsave
  | completed _ _ => cases hresult

/-! ## A run refines the layers -/

/-- A run that is not answered from the store starts, in each round, the next layer of its plan
but for what was skipped. It starts no call twice, goes through no more rounds than there are
layers, is never stuck, and refers to what completed layer by layer. -/
theorem execute_layer_by_layer (r : Request) (store : Store) (layers : List (List String))
    (hlayers : r.plan.layers = .ok layers) (hserved : ∀ cached, ¬ r.Served store cached) :
    (∀ done s t works, Reaches r done s → r.start done.length s = .work t works →
      ∃ layer, layers[done.length]? = some layer ∧
        names works = layer.filter fun id => id ∉ t.skippedIds) ∧
    (∀ k started, (r.execute store).started[k]? = some started →
      ∃ done s t works, Reaches r done s ∧ done.length = k ∧
        r.start k s = .work t works ∧ started = names works) ∧
    (r.execute store).started.flatten.Nodup ∧
    (∀ done s, Reaches r done s → s.pending ≠ [] → done.length < layers.length) ∧
    (∀ planId ids, (r.execute store).result ≠ .error (.cycle planId ids)) ∧
    ∀ a, (r.execute store).result = .ok a →
      a.completedIds = layers.flatten.filter fun id => id ∉ a.skippedIds := by
  have hl := Plan.layered_of_layers hlayers
  have hfresh := fresh_of_execute hlayers hserved
  obtain ⟨done, hstarted, hnames⟩ := hfresh.allStarted
  refine ⟨?_, ?_, ?_, ?_, hfresh.ne_cycle hl, ?_⟩
  · intro done s t works hreach hstart
    obtain ⟨layer, hlayer, hnames⟩ := (hreach.startInv hl hstart).names_eq
    exact ⟨layer, hlayer, by simp only [hnames, RunState.not_isSkipped_eq]⟩
  · intro k started hk
    rw [hnames, List.getElem?_map, Option.map_eq_some_iff] at hk
    obtain ⟨outcomes, hk, rfl⟩ := hk
    obtain ⟨s, t, works, hreach, hlength, hstart, rfl⟩ := hstarted k outcomes hk
    exact ⟨_, s, t, works, hreach, hlength, hstart, names_perform⟩
  · rw [hnames]
    exact hstarted.nodup hl
  · intro done s hreach hpending
    exact (hreach.roundInv hl).lt_length hl hpending
  · intro a ha
    generalize hreport : r.execute store = report at ha hfresh
    cases hfresh with
    | @completed done s saved h _ =>
      cases ha
      have hcompleted := h.completed_eq hl
      simp only [RunState.not_isSkipped_eq] at hcompleted
      rw [completedIds_ofEffects]
      exact hcompleted
    | _ => cases ha

/-! ### A plan with an optional fetch that fails -/

theorem not_served_empty (r : Request) (cached : ExecutedPlan) : ¬ r.Served .empty cached := by
  rintro ⟨-, hask⟩
  unfold Run.ask at hask
  split at hask <;> cases hask

def sampleClient : Client where
  name := "sample"
  execute callId endpoint _ :=
    .ok {
      id := "raw-" ++ callId, tool := "", callId, endpoint
      status := if callId = "b" then 500 else 200
      contentType := "text/plain", headers := .empty, body := [], durationMs := 1 }
  isSuccess := Client.isHttpSuccess

def sampleExtract : ExtractHandler := fun call raw =>
  .ok {
    id := "ext-" ++ call.id, tool := call.tool, callId := call.id, sourceCallId := raw.callId
    responseId := raw.id, kind := "words", canonical := none, payload := .null, chain := []
    durationMs := 0 }

def sample : Request where
  plan := {
    id := "p"
    hash := "h"
    query := { typed := "amo", language := .latin, candidates := [] }
    calls := [
      { tool := "words", id := "c", endpoint := "", stage := .extract },
      { tool := "page", id := "a", endpoint := "", stage := .fetch },
      { tool := "page", id := "b", endpoint := "", stage := .fetch, optional := true },
      { tool := "words", id := "d", endpoint := "", stage := .extract }]
    dependencies := [{ blocker := "a", blocked := "c" }, { blocker := "b", blocked := "d" }] }
  clients := Clients.empty.add "page" sampleClient
  registry := Registry.empty.addExtract "words" sampleExtract
  options := {}
  readings := .still { second := 0 }

theorem sample_layer_by_layer :
    sample.plan.layers = .ok [["a", "b"], ["c", "d"]] ∧
      (sample.execute .empty).started = [["a", "b"], ["c"]] ∧
      ∃ a, (sample.execute .empty).result = .ok a ∧ a.skippedIds = ["b", "d"] ∧
        a.completedIds = ["a", "c"] := by
  have hlayers : sample.plan.layers = .ok [["a", "b"], ["c", "d"]] := by cbv
  have hstarted : (sample.execute .empty).started = [["a", "b"], ["c"]] := by cbv
  have hskipped : (sample.execute .empty).result.map Artifacts.skippedIds = .ok ["b", "d"] := by cbv
  obtain ⟨-, -, -, -, -, hcompleted⟩ :=
    execute_layer_by_layer sample .empty _ hlayers (not_served_empty sample)
  refine ⟨hlayers, hstarted, ?_⟩
  cases hresult : (sample.execute .empty).result with
  | error failure =>
    rw [hresult] at hskipped
    cases hskipped
  | ok a =>
    rw [hresult] at hskipped
    have hids : a.skippedIds = ["b", "d"] := Except.ok.inj hskipped
    refine ⟨a, rfl, hids, ?_⟩
    rw [hcompleted a hresult, hids]
    decide

end Lemmata.Request
