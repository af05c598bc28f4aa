import Lemmata.Proofs.Run.Deadline

/-! # What a call consumes was produced and written before -/

namespace Lemmata

def Work.input? : Work → Option Effect
  | .fetch _ => none
  | .extract _ raw => some (.raw raw)
  | .derive _ extraction => some (.extraction extraction)
  | .claim _ derivation => some (.derivation derivation)

namespace RunState

variable {plan : Plan} {clients : Clients} {registry : Registry} {s : RunState} {call : Call}
variable {work : Work} {effect : Effect}

theorem Wires.exists_input (h : s.Wires plan clients registry call work)
    (hstage : call.stage ≠ .fetch) :
    ∃ effect, work.input? = some effect ∧ s.source? plan call = some effect := by
  cases h with
  | fetch hfetch => exact absurd hfetch hstage
  | extract _ hsource => exact ⟨_, rfl, hsource⟩
  | derive _ hsource => exact ⟨_, rfl, hsource⟩
  | claim _ hsource => exact ⟨_, rfl, hsource⟩

theorem wire_eq_missingSource_iff (hstage : call.stage ≠ .fetch) :
    s.wire plan clients registry call = .error (.missingSource plan.id call.id call.stage) ↔
      s.source? plan call = none := by
  constructor
  · intro hwire
    have hlacks := lacks_iff.mpr ⟨hwire, fun hoptional => hstage hoptional.1⟩
    cases hlacks with
    | source _ h => exact h
  · intro hnone
    exact (lacks_iff.mp (.source hstage hnone)).1

end RunState

namespace Request

variable {r : Request} {layers : List (List String)} {done : List (List (Call × Outcome))}
variable {s t : RunState} {store now : Store} {before deeds : List Deed} {each : List (List Deed)}
variable {call c d : Call} {work : Work} {e f : Effect} {stage : Stage} {id : String}
variable {p q : Pool} {why failure : Failure} {final : RunReport}

/-! ## Which effect a call is meant to consume -/

def Gave (done : List (List (Call × Outcome))) (c : Call) (e : Effect) : Prop :=
  ∃ o ∈ done.flatten, o.1 = c ∧ o.2.completed? = some e

/-- The call names this one, which is of the stage before and has completed. -/
structure NamesSource (done : List (List (Call × Outcome))) (call c : Call) (e : Effect) :
    Prop where
  named : call.param? "source_call_id" = some c.id
  previous : call.stage.previous? = some c.stage
  gave : Gave done c e

/-- The call waits for this one directly, which is of the stage before. -/
structure Precedes (r : Request) (c call : Call) : Prop where
  mem : c ∈ r.plan.calls
  blocks : c.id ∈ r.plan.blockers call.id
  previous : call.stage.previous? = some c.stage

/-- The call consumes the effect of the one it names, or else of the least that it waits for. -/
inductive Feeds (r : Request) (done : List (List (Call × Outcome))) (c : Call) (e : Effect)
    (call : Call) : Prop
  | named (h : NamesSource done call c e)
  | blocker (hunnamed : ∀ d f, ¬ NamesSource done call d f) (h : r.Precedes c call)
      (hleast : ∀ d, r.Precedes d call → c.id ≤ d.id) (hgave : Gave done c e)

/-! ## The source that is found -/

namespace RoundInv

variable (h : RoundInv r layers done s)
include h

theorem producedAt?_eq_some_iff : s.producedAt? stage id = some e ↔
    ∃ c, c.id = id ∧ c.stage = stage ∧ Gave done c e := by
  constructor
  · intro hat
    obtain ⟨hfound, hstage⟩ := Option.filter_eq_some_iff.mp hat
    obtain ⟨p, hp, rfl⟩ := Option.map_eq_some_iff.mp hfound
    have hmem := List.mem_of_find?_eq_some hp
    refine ⟨p.1, by simpa using List.find?_some hp, ?_, h.mem_produced.mp hmem⟩
    rw [← h.stage_eq hmem]
    simpa using hstage
  · rintro ⟨c, rfl, rfl, hgave⟩
    have hmem : (c, e) ∈ s.produced := h.mem_produced.mpr hgave
    have hnodup := (List.nodup_append.mp h.accounted.done_nodup).1
    rw [RunState.producedAt?, RunState.produced?_eq hnodup hmem]
    simpa using h.stage_eq hmem

theorem exists_producedAt? (hblockers : ∀ b ∈ r.plan.blockers call.id, b ∈ s.completed)
    (hprevious : call.stage.previous? = some stage) (hc : r.Precedes c call) :
    ∃ e, s.producedAt? stage c.id = some e := by
  obtain ⟨p, hp, hid⟩ := List.mem_map.mp (hblockers c.id hc.blocks)
  have hsame : p.1 = c :=
    List.inj_on_of_nodup_map h.accounted.callIds_nodup (h.call_mem hp) hc.mem hid
  have hstage : c.stage = stage := Option.some.inj (hc.previous.symm.trans hprevious)
  exact ⟨p.2, h.producedAt?_eq_some_iff.mpr ⟨c, rfl, hstage, hsame ▸ h.mem_produced.mp hp⟩⟩

theorem named_eq_some_iff (hprevious : call.stage.previous? = some stage) :
    (call.param? "source_call_id").bind (s.producedAt? stage) = some e ↔
      ∃ c, NamesSource done call c e := by
  rw [Option.bind_eq_some_iff]
  constructor
  · rintro ⟨id, hnamed, hat⟩
    obtain ⟨c, rfl, rfl, hgave⟩ := h.producedAt?_eq_some_iff.mp hat
    exact ⟨c, hnamed, hprevious, hgave⟩
  · rintro ⟨c, hnamed, hstage, hgave⟩
    obtain rfl := Option.some.inj (hprevious.symm.trans hstage)
    exact ⟨c.id, hnamed, h.producedAt?_eq_some_iff.mpr ⟨c, rfl, rfl, hgave⟩⟩

theorem named_eq_none_iff (hprevious : call.stage.previous? = some stage) :
    (call.param? "source_call_id").bind (s.producedAt? stage) = none ↔
      ∀ c e, ¬ NamesSource done call c e := by
  rw [Option.eq_none_iff_forall_ne_some]
  simp only [ne_eq, h.named_eq_some_iff hprevious, not_exists]
  exact forall_comm

/-- All blockers have completed, so the first of the right stage is the least one. -/
theorem least_of_findSome? (hblockers : ∀ b ∈ r.plan.blockers call.id, b ∈ s.completed)
    (hprevious : call.stage.previous? = some stage)
    (hfound : (r.plan.blockers call.id).findSome? (s.producedAt? stage) = some e) :
    ∃ c, r.Precedes c call ∧ (∀ d, r.Precedes d call → c.id ≤ d.id) ∧ Gave done c e := by
  obtain ⟨first, id, last, hsplit, hat, hnone⟩ := List.findSome?_eq_some_iff.mp hfound
  obtain ⟨c, rfl, rfl, hgave⟩ := h.producedAt?_eq_some_iff.mp hat
  have hmem : (c, e) ∈ s.produced := h.mem_produced.mpr hgave
  have hblocks : c.id ∈ r.plan.blockers call.id :=
    hsplit ▸ List.mem_append_right _ List.mem_cons_self
  refine ⟨c, ⟨h.call_mem hmem, hblocks, hprevious⟩, fun d hd => ?_, hgave⟩
  have hsorted : (r.plan.blockers call.id).Pairwise (· ≤ ·) := sortNames_pairwise _
  rw [hsplit, ← List.map_id (first ++ c.id :: last)] at hsorted
  refine le_of_first (f := id) hsorted (hsplit ▸ hd.blocks) fun hbefore => ?_
  obtain ⟨f, hf⟩ := h.exists_producedAt? hblockers hprevious hd
  rw [hnone d.id hbefore] at hf
  cases hf

theorem findSome?_eq_none_iff (hblockers : ∀ b ∈ r.plan.blockers call.id, b ∈ s.completed)
    (hprevious : call.stage.previous? = some stage) :
    (r.plan.blockers call.id).findSome? (s.producedAt? stage) = none ↔
      ∀ c, ¬ r.Precedes c call := by
  constructor
  · intro hnone c hc
    obtain ⟨e, he⟩ := h.exists_producedAt? hblockers hprevious hc
    rw [List.findSome?_eq_none_iff.mp hnone c.id hc.blocks] at he
    cases he
  · intro hnone
    rw [Option.eq_none_iff_forall_ne_some]
    intro e hfound
    obtain ⟨c, hc, -⟩ := h.least_of_findSome? hblockers hprevious hfound
    exact hnone c hc

theorem feeds_of_source? (hblockers : ∀ b ∈ r.plan.blockers call.id, b ∈ s.completed)
    (hsource : s.source? r.plan call = some e) : ∃ c, r.Feeds done c e call := by
  unfold RunState.source? at hsource
  cases hprevious : call.stage.previous? with
  | none => simp [hprevious] at hsource
  | some stage =>
    simp only [hprevious, Option.bind_eq_bind, Option.bind_some, Option.orElse_eq_orElse,
      Option.orElse_eq_or, Option.or_eq_some_iff] at hsource
    rcases hsource with hnamed | ⟨hunnamed, hfound⟩
    · obtain ⟨c, hc⟩ := (h.named_eq_some_iff hprevious).mp hnamed
      exact ⟨c, .named hc⟩
    · obtain ⟨c, hc, hleast, hgave⟩ := h.least_of_findSome? hblockers hprevious hfound
      exact ⟨c, .blocker ((h.named_eq_none_iff hprevious).mp hunnamed) hc hleast hgave⟩

theorem source?_eq_none_iff (hblockers : ∀ b ∈ r.plan.blockers call.id, b ∈ s.completed) :
    s.source? r.plan call = none ↔
      (∀ c e, ¬ NamesSource done call c e) ∧ ∀ c, ¬ r.Precedes c call := by
  unfold RunState.source?
  cases hprevious : call.stage.previous? with
  | none =>
    refine ⟨fun _ => ⟨fun c e hc => ?_, fun c hc => ?_⟩, fun _ => rfl⟩
    · exact absurd (hprevious.symm.trans hc.previous) nofun
    · exact absurd (hprevious.symm.trans hc.previous) nofun
  | some stage =>
    simp only [Option.bind_eq_bind, Option.bind_some, Option.orElse_eq_orElse,
      Option.orElse_eq_or, Option.or_eq_none_iff]
    rw [h.named_eq_none_iff hprevious, h.findSome?_eq_none_iff hblockers hprevious]

theorem blockers_of_due (hdue : r.Due s call) : ∀ b ∈ r.plan.blockers call.id, b ∈ s.completed := by
  intro b hb
  have hcompleted := (RunState.mem_ready.mp hdue.2).2 b hb
  rwa [RunState.completed_congr h.produced_skipBlocked] at hcompleted

end RoundInv

/-! ## The calls of a round -/

theorem Move.mem_of_called (h : r.Move p (some (.called call work)) q) :
    ∃ t ∈ p.tasks, (t.call, t.work) = (call, work) := by
  generalize hx : some (Deed.called call work) = x at h
  obtain ⟨hstep, -⟩ := h
  cases hstep with
  | admitted => cases hx
  | called =>
    cases hx
    exact ⟨_, List.mem_append_right _ List.mem_cons_self, rfl⟩
  | @wrote o =>
    cases hwritten : o.written? with
    | none => simp [hwritten] at hx
    | some effect => simp [hwritten] at hx
  | finished => cases hx

theorem move_alone {phase next : Phase} {x : Option Deed}
    (h : r.TaskStep store call work phase x now next) :
    r.Move ⟨store, [⟨call, work, phase⟩]⟩ x ⟨now, [⟨call, work, next⟩]⟩ := by
  have hroom : Pool.held ([] ++ ⟨call, work, next⟩ :: []) ≤ r.permits :=
    Nat.le_trans List.countP_le_length (Nat.le_max_right _ _)
  exact @Move.step r store now call work phase next x [] [] h hroom

/-- The call has made this effect and written it, and a row of its ID is still in the store. -/
structure Supplied (r : Request) (store : Store) (before : List Deed) (c : Call) (e : Effect) :
    Prop where
  made : ∃ work, .called c work ∈ before ∧ (r.outcomeOf c work).completed? = some e
  wrote : .wrote c e ∈ before
  has_row : ∃ d f, .wrote d f ∈ before ∧ f.stage = e.stage ∧ f.id = e.id ∧
    store.HasRow (r.readings.write d.id) f

theorem Supplied.of_gave (h : List.Forall₂ r.Leads each done) (hdeeds : each.flatten ⊆ before)
    (hstore : now = Run.saveAll r.readings (r.asked store) (before.filterMap Deed.wrote?))
    (hgave : Gave done c e) : r.Supplied now before c e := by
  obtain ⟨o, ho, rfl, he⟩ := hgave
  obtain ⟨work, hcalled, houtcome, hwrote⟩ := deeds_of_outcome h ho
  have hwrites := hdeeds (hwrote e (Outcome.written?_of_completed? he))
  -- Under the ID there may be a later effect by now, of another call.
  obtain ⟨row, hrow, hrowStage, hrowId, hkept⟩ :=
    exists_hasRow_saveAll r.readings (r.asked store) (mem_wrote.mpr hwrites)
  exact ⟨⟨work, hdeeds hcalled, houtcome ▸ he⟩, hwrites, row.1, row.2, mem_wrote.mp hrow, hrowStage,
    hrowId, hstore ▸ hkept⟩

theorem Feeds.gave (h : r.Feeds done c e call) : Gave done c e := by
  cases h with
  | named h => exact h.gave
  | blocker _ _ _ hgave => exact hgave

theorem Least.unique (hnodup : r.plan.callIds.Nodup) (h : Least (r.Lacking s) call failure)
    (h' : Least (r.Lacking s) c why) : failure = why := by
  have hid := String.le_antisymm (h.2 c why h'.1) (h'.2 call failure h.1)
  obtain rfl := List.inj_on_of_nodup_map hnodup h.1.1.1 h'.1.1.1 hid
  have hwire := (RunState.lacks_iff.mp h.1.2).1
  rw [(RunState.lacks_iff.mp h'.1.2).1] at hwire
  exact (Except.error.inj hwire).symm

theorem Goes.feeds_called (hgoes : r.Goes store before (.during done t p))
    (hmove : r.Move p (some (.called call work)) q) (hstage : call.stage ≠ .fetch) :
    ∃ c e, work.input? = some e ∧ r.Feeds done c e call ∧ call.stage.previous? = some e.stage ∧
      r.Supplied p.store before c e := by
  obtain ⟨report, -, -, hended⟩ | ⟨⟨layers, hlayers⟩, -, -, hway⟩ := hgoes.cases
  · cases hended
  cases hway with
  | @during _ s _ works each last _ hreach hstart hdeeds heach hpool =>
    have hinv := hreach.roundInv (Plan.layered_of_layers hlayers)
    obtain ⟨task, htask, hsame⟩ := hmove.mem_of_called
    have hwork : (call, work) ∈ works := by
      rw [← hpool.works_eq, ← hsame]
      exact List.mem_map_of_mem htask
    obtain ⟨hdue, hwires⟩ := (hinv.mem_works hstart).mp hwork
    obtain ⟨e, hinput, hsource⟩ := hwires.exists_input hstage
    obtain ⟨c, hfeeds⟩ := hinv.feeds_of_source? (hinv.blockers_of_due hdue) hsource
    have hstore : p.store =
        Run.saveAll r.readings (r.asked store) (before.filterMap Deed.wrote?) := by
      rw [hpool.store_flatten, List.flatten_append, List.flatten_singleton, ← hdeeds]
    exact ⟨c, e, hinput, hfeeds, RunState.previous?_of_source? hsource,
      .of_gave heach (hdeeds ▸ List.subset_append_left _ _) hstore hfeeds.gave⟩

/-- A handler is given the effect that its call is meant to consume. An earlier round has produced
it and written its row. A call fails for want of a source if there is no such effect, and never
because the one that was found is of another stage. -/
theorem called_with_source (r : Request) (store : Store) :
    (∀ before done t p call work q, r.Goes store before (.during done t p) →
      r.Move p (some (.called call work)) q → call.stage ≠ .fetch →
      ∃ c e, work.input? = some e ∧ r.Feeds done c e call ∧
        call.stage.previous? = some e.stage ∧ r.Supplied p.store before c e) ∧
    (∀ before now done s call, r.Goes store before (.between now done s) → r.Due s call →
      call.stage ≠ .fetch →
      (s.wire r.plan r.clients r.registry call =
          .error (.missingSource r.plan.id call.id call.stage) ↔
        (∀ c e, ¬ NamesSource done call c e) ∧ ∀ c, ¬ r.Precedes c call) ∧
      (Run.isExpired r.options r.readings done.length = false →
        Least (r.Lacking s) call (.missingSource r.plan.id call.id call.stage) →
        ∀ deeds final, r.Turns (.between now done s) deeds (.ended final) →
          deeds = [] ∧ final.result = .error (.missingSource r.plan.id call.id call.stage))) ∧
    ∀ (s : RunState) call e, s.source? r.plan call = some e →
      call.stage.previous? = some e.stage ∧ s.wire r.plan r.clients r.registry call ≠
        .error (.missingSource r.plan.id call.id call.stage) := by
  refine ⟨?_, ?_, ?_⟩
  · intro before done t p call work q hgoes hmove hstage
    exact hgoes.feeds_called hmove hstage
  · intro before now done s call hgoes hdue hstage
    obtain ⟨⟨layers, hl, hinv⟩, -⟩ := hgoes.between_cases
    refine ⟨?_, fun htime hleast deeds final hturns => ?_⟩
    · rw [RunState.wire_eq_missingSource_iff hstage,
        hinv.source?_eq_none_iff (hinv.blockers_of_due hdue)]
    · obtain ⟨rfl, c, why, rfl, hother⟩ := hinv.ends_of_lacking htime hleast.1 hturns
      exact ⟨rfl, congrArg Except.error (hother.unique hl.nodup hleast)⟩
  · intro s call e hsource
    have hprevious := RunState.previous?_of_source? hsource
    have hstage : call.stage ≠ .fetch := fun hfetch => by
      rw [hfetch] at hprevious
      cases hprevious
    refine ⟨hprevious, fun hwire => ?_⟩
    rw [(RunState.wire_eq_missingSource_iff hstage).mp hwire] at hsource
    cases hsource

/-! ### Words of a page that they do not wait for, and words of no page -/

def otherWords : Call where
  tool := "words"
  id := "d"
  endpoint := ""
  params := Dict.empty.insert "source_call_id" "c"
  stage := .extract

def rareWords : Call := { tool := "words", id := "e", endpoint := "", stage := .extract }

def misled : Request where
  plan := { sample.plan with
    calls := [tornCall "a", tornCall "c", otherWords, rareWords]
    dependencies := [{ blocker := "a", blocked := "d" }, { blocker := "d", blocked := "e" }] }
  clients := sample.clients
  registry := .withStubs
  options := {}
  readings := .still { second := 0 }

def pageOf (callId : String) : RawResponse :=
  { RawResponse.blank ("raw-" ++ callId) callId "" with
    tool := "page", status := 200, contentType := "text/plain", durationMs := 1 }

def misledPages : RunState :=
  ((RunState.initial misled.plan).complete (tornCall "a") (.raw (pageOf "a"))).complete
    (tornCall "c") (.raw (pageOf "c"))

theorem misled_with_source :
    (∃ before done t p q c e, misled.Goes .empty before (.during done t p) ∧
      misled.Move p (some (.called otherWords (.extract Handler.stubExtract (pageOf "c")))) q ∧
      misled.Feeds done c e otherWords ∧ e = .raw (pageOf "c") ∧ .wrote c e ∈ before) ∧
    ∃ before now done s deeds final, misled.Goes .empty before (.between now done s) ∧
      misled.Turns (.between now done s) deeds (.ended final) ∧
      (∀ c, ¬ misled.Precedes c rareWords) ∧
      final.result = .error (.missingSource "p" "e" .extract) := by
  have hlayers : misled.plan.layers = .ok [["a", "c"], ["d"], ["e"]] := by cbv
  have hbegins : misled.Begins .empty (.between .empty [] (.initial misled.plan)) :=
    .fresh hlayers (fun _ => rfl) rfl
  obtain ⟨hfed, hlost, -⟩ := called_with_source misled .empty
  have hpages : misled.start 0 (.initial misled.plan) = .work (.initial misled.plan)
      [(tornCall "a", .fetch sampleClient), (tornCall "c", .fetch sampleClient)] := by cbv
  have hfirst : Reaches misled _ misledPages := .round .start hpages rfl
  have hwords : misled.start 1 misledPages = .work misledPages
      [(otherWords, .extract Handler.stubExtract (pageOf "c"))] := by cbv
  obtain ⟨before, hbefore⟩ := hfirst.turns .empty
  have hgoes : misled.Goes .empty _ _ := ⟨_, hbegins, hbefore⟩
  constructor
  · have hopened := hgoes.turns (.head (.opened hwords) (.head (.moved (move_alone .admitted))
      (.refl _)))
    obtain ⟨c, e, hinput, hfeeds, -, hsupplied⟩ :=
      hfed _ _ _ _ _ _ _ hopened (move_alone .called) (by decide)
    exact ⟨_, _, _, _, _, c, e, hopened, move_alone .called, hfeeds, (Option.some.inj hinput).symm,
      hsupplied.wrote⟩
  · obtain ⟨x, hsecond⟩ : ∃ x, Reaches misled _
        (misledPages.complete otherWords (.extraction x)) := ⟨_, .round hfirst hwords rfl⟩
    have hstage : rareWords.stage ≠ .fetch := by decide
    have hready : ((misledPages.complete otherWords (.extraction x)).skipBlocked misled.plan).ready
        misled.plan = ["e"] := by cbv
    have hnone : (misledPages.complete otherWords (.extraction x)).source? misled.plan rareWords =
        none := by cbv
    have hdue : misled.Due (misledPages.complete otherWords (.extraction x)) rareWords :=
      ⟨by simp [misled], hready ▸ List.mem_singleton_self _⟩
    have hleast : Least (misled.Lacking (misledPages.complete otherWords (.extraction x))) rareWords
        (.missingSource "p" "e" .extract) := by
      refine ⟨⟨hdue, .source hstage hnone⟩, fun c why hc => ?_⟩
      have hid := hready ▸ hc.1.2
      rw [List.mem_singleton.mp hid]
      exact String.le_refl _
    obtain ⟨before, hbefore⟩ := hsecond.turns .empty
    have hgoes : misled.Goes .empty _ _ := ⟨_, hbegins, hbefore⟩
    obtain ⟨hiff, hends⟩ := hlost _ _ _ _ _ hgoes hdue hstage
    obtain ⟨deeds, final, hturns⟩ := hgoes.completes
    exact ⟨_, _, _, _, deeds, final, hgoes, hturns,
      (hiff.mp ((RunState.wire_eq_missingSource_iff hstage).mpr hnone)).2,
      (hends rfl hleast _ _ hturns).2⟩

end Request

end Lemmata
