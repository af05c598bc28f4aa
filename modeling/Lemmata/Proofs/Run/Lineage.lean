import Lemmata.Proofs.Run.Rerun

/-! # Effects that follow from others -/

namespace Lemmata

namespace Effect

variable {fine good : Json → Prop} {es fs : List Effect} {call : Call} {e f : Effect}

/-- The call made the effect of one of these, or it is a response. -/
inductive Follows (fine : Json → Prop) (es : List Effect) (call : Call) : Effect → Prop
  | raw (raw : RawResponse) : Follows fine es call (.raw raw)
  | extraction {raw : RawResponse} {payload : Json} (hsource : .raw raw ∈ es)
      (hfine : fine payload) (kind : String) (canonical : Option String) (durationMs : UInt64) :
      Follows fine es call
        (.extraction { Extraction.make call raw kind canonical payload with durationMs })
  | derivation {extraction : Extraction} {payload : Json} (hsource : .extraction extraction ∈ es)
      (hfine : fine payload) (kind : String) (canonical : Option String) (durationMs : UInt64) :
      Follows fine es call
        (.derivation { Derivation.make call extraction kind canonical payload with durationMs })
  | claim {derivation : Derivation} {value : Json} (hsource : .derivation derivation ∈ es)
      (hfine : fine value) (subject predicate : String) (durationMs : UInt64) :
      Follows fine es call
        (.claim { Claim.make call derivation subject predicate value with durationMs })

theorem Follows.mono (h : e.Follows fine es call) (hsub : es ⊆ fs) : e.Follows fine fs call := by
  cases h with
  | raw raw => exact .raw raw
  | extraction hsource hfine kind canonical durationMs =>
    exact .extraction (hsub hsource) hfine kind canonical durationMs
  | derivation hsource hfine kind canonical durationMs =>
    exact .derivation (hsub hsource) hfine kind canonical durationMs
  | claim hsource hfine subject predicate durationMs =>
    exact .claim (hsub hsource) hfine subject predicate durationMs

def Grown (fine : Json → Prop) (es : List Effect) : Prop :=
  ∀ e ∈ es, ∃ call, e.Follows fine es call

theorem Grown.append (hes : Grown fine es) (hfs : Grown fine fs) : Grown fine (es ++ fs) := by
  intro e he
  rcases List.mem_append.mp he with he | he
  · obtain ⟨call, hcall⟩ := hes e he
    exact ⟨call, hcall.mono (List.subset_append_left es fs)⟩
  · obtain ⟨call, hcall⟩ := hfs e he
    exact ⟨call, hcall.mono (List.subset_append_right es fs)⟩

/-- Down to the response, an effect keeps what can be read back. -/
theorem Grown.readable (h : Grown Json.Lasting es) : ∀ e ∈ es, e.Readable := by
  have hextraction : ∀ x, .extraction x ∈ es → (Effect.extraction x).Readable := by
    intro x hx
    obtain ⟨call, hcall⟩ := h _ hx
    cases hcall with
    | @extraction raw payload _ hfine _ _ _ =>
      refine ⟨hfine, ?_⟩
      intro l hl
      rcases List.mem_cons.mp hl with rfl | hl
      · exact raw.lasting_link
      · exact Link.lasting_of_metadata (by rw [List.mem_singleton.mp hl])
  have hderivation : ∀ d, .derivation d ∈ es → (Effect.derivation d).Readable := by
    intro d hd
    obtain ⟨call, hcall⟩ := h _ hd
    cases hcall with
    | derivation hsource hfine _ _ _ =>
      exact ⟨hfine, lasting_extendChain (hextraction _ hsource).2 (Link.lasting_of_metadata rfl)⟩
  intro e he
  cases e with
  | raw x => trivial
  | extraction x => exact hextraction x he
  | derivation d => exact hderivation d he
  | claim c =>
    obtain ⟨call, hcall⟩ := h _ he
    cases hcall with
    | claim hsource hfine _ _ _ =>
      exact ⟨hfine, lasting_extendChain (hderivation _ hsource).2 (Link.lasting_of_metadata rfl)⟩

/-! ## IDs -/

/-- No two effects of a stage have IDs with digests that collide. -/
def NoCollision (es : List Effect) : Prop :=
  ∀ stage, EffectId.NoCollision ((es.filter fun e => e.stage = stage).filterMap material?)

/-- The clients gave every response an ID of its own. -/
def RawsDistinct (es : List Effect) : Prop :=
  ((es.filterMap raw?).map RawResponse.id).Nodup

variable {os : List (Call × Outcome)}

theorem Follows.id_eq {m : String × String} (h : e.Follows fine es call)
    (hm : e.material? = some m) : m.1 = call.id ∧ e.id = EffectId.derived e.label m.1 m.2 := by
  cases h with
  | raw raw => cases hm
  | extraction _ _ _ _ _ =>
    cases hm
    exact ⟨rfl, rfl⟩
  | derivation _ _ _ _ _ =>
    cases hm
    exact ⟨rfl, rfl⟩
  | claim _ _ _ _ _ =>
    cases hm
    exact ⟨rfl, rfl⟩

theorem Follows.source {m : String × String} (h : e.Follows fine es call)
    (hm : e.material? = some m) :
    ∃ source ∈ es, e.stage.previous? = some source.stage ∧ source.id = m.2 := by
  cases h with
  | raw raw => cases hm
  | extraction hsource _ _ _ _ =>
    cases hm
    exact ⟨_, hsource, rfl, rfl⟩
  | derivation hsource _ _ _ _ =>
    cases hm
    exact ⟨_, hsource, rfl, rfl⟩
  | claim hsource _ _ _ _ =>
    cases hm
    exact ⟨_, hsource, rfl, rfl⟩

theorem label_eq_of_stage_eq (h : e.stage = f.stage) : e.label = f.label := by
  cases e <;> cases f <;> first | rfl | cases h

theorem material_cases (h : e.stage = f.stage) : (∃ x y, e = .raw x ∧ f = .raw y) ∨
    ∃ m n, e.material? = some m ∧ f.material? = some n := by
  cases e <;> cases f <;> first
    | exact .inl ⟨_, _, rfl, rfl⟩
    | exact .inr ⟨_, _, rfl, rfl⟩
    | cases h

theorem NoCollision.mono (h : NoCollision fs) (hsub : es ⊆ fs) : NoCollision es := by
  intro stage m hm n hn
  have hmem : ∀ m ∈ (es.filter fun e => e.stage = stage).filterMap material?,
      m ∈ (fs.filter fun e => e.stage = stage).filterMap material? := by
    intro m hm
    obtain ⟨e, he, hem⟩ := List.mem_filterMap.mp hm
    obtain ⟨he, hstage⟩ := List.mem_filter.mp he
    exact List.mem_filterMap.mpr ⟨e, List.mem_filter.mpr ⟨hsub he, hstage⟩, hem⟩
  exact h stage m (hmem m hm) n (hmem n hn)

theorem RawsDistinct.left (h : RawsDistinct (es ++ fs)) : RawsDistinct es := by
  rw [RawsDistinct, List.filterMap_append, List.map_append] at h
  exact (List.nodup_append.mp h).1

theorem NoCollision.material_eq {gs hs : List Effect} {d : Call} {m n : String × String}
    (h : NoCollision es) (hmem : e ∈ es) (hmem' : f ∈ es) (he : e.Follows fine gs call)
    (hf : f.Follows good hs d) (hm : e.material? = some m) (hn : f.material? = some n)
    (hstage : e.stage = f.stage) (hid : e.id = f.id) : m = n := by
  rw [(he.id_eq hm).2, (hf.id_eq hn).2, label_eq_of_stage_eq hstage] at hid
  refine (h e.stage).eq (List.mem_filterMap.mpr ⟨e, ?_, hm⟩) (List.mem_filterMap.mpr ⟨f, ?_, hn⟩) hid
  · exact List.mem_filter.mpr ⟨hmem, by simp⟩
  · exact List.mem_filter.mpr ⟨hmem', by simp [hstage]⟩

def ApartAt (es fs : List Effect) (stage : Stage) : Prop :=
  ∀ e ∈ es, ∀ f ∈ fs, e.stage = stage → f.stage = stage → e.id ≠ f.id

theorem RawsDistinct.apartAt (h : RawsDistinct (es ++ fs)) : ApartAt es fs .fetch := by
  rw [RawsDistinct, List.filterMap_append, List.map_append, List.nodup_append] at h
  intro e he f hf hstage hstage'
  cases e with
  | raw x =>
    cases f with
    | raw y =>
      exact h.2.2 _ (List.mem_map_of_mem (List.mem_filterMap.mpr ⟨_, he, rfl⟩)) _
        (List.mem_map_of_mem (List.mem_filterMap.mpr ⟨_, hf, rfl⟩))
    | _ => cases hstage'
  | _ => cases hstage

/-- From one stage to the next: what was made of different effects has different IDs. -/
theorem Grown.apartAt_next {stage previous : Stage} (hes : Grown fine es) (hfs : Grown good fs)
    (hms : NoCollision (es ++ fs)) (hprevious : stage.previous? = some previous)
    (h : ApartAt es fs previous) : ApartAt es fs stage := by
  rintro e he f hf rfl hstage hid
  rcases material_cases hstage.symm with ⟨x, y, rfl, rfl⟩ | ⟨m, n, hm, hn⟩
  · cases hprevious
  · obtain ⟨c, hc⟩ := hes e he
    obtain ⟨d, hd⟩ := hfs f hf
    obtain rfl := hms.material_eq (List.mem_append_left _ he) (List.mem_append_right _ hf) hc hd
      hm hn hstage.symm hid
    obtain ⟨x, hx, hxstage, hxid⟩ := hc.source hm
    obtain ⟨y, hy, hystage, hyid⟩ := hd.source hn
    rw [hstage] at hystage
    exact h x hx y hy (Option.some.inj (hxstage.symm.trans hprevious))
      (Option.some.inj (hystage.symm.trans hprevious)) (hxid.trans hyid.symm)

theorem Grown.apart (hes : Grown fine es) (hfs : Grown good fs) (hids : RawsDistinct (es ++ fs))
    (hms : NoCollision (es ++ fs)) : ∀ e ∈ es, ∀ f ∈ fs, e.Apart f := by
  have hextract : ApartAt es fs .extract := hes.apartAt_next hfs hms rfl hids.apartAt
  have hderive : ApartAt es fs .derive := hes.apartAt_next hfs hms rfl hextract
  have hclaim : ApartAt es fs .claim := hes.apartAt_next hfs hms rfl hderive
  have hall : ∀ stage, ApartAt es fs stage
    | .fetch => hids.apartAt
    | .extract => hextract
    | .derive => hderive
    | .claim => hclaim
  exact fun e he f hf hstage => hall f.stage e he f hf hstage rfl

theorem eq_of_id_eq (hcalls : (os.map fun o => o.1.id).Nodup)
    (hfollows : ∀ o ∈ os, ∀ e, o.2.written? = some e →
      e.Follows fine (os.filterMap fun o => o.2.written?) o.1)
    (hids : RawsDistinct (os.filterMap fun o => o.2.written?))
    (hms : NoCollision (os.filterMap fun o => o.2.written?)) :
    ∀ e ∈ os.filterMap fun o => o.2.written?, ∀ f ∈ os.filterMap fun o => o.2.written?,
      e.stage = f.stage → e.id = f.id → e = f := by
  intro e he f hf hstage hid
  obtain ⟨o, ho, howritten⟩ := List.mem_filterMap.mp he
  obtain ⟨o', ho', howritten'⟩ := List.mem_filterMap.mp hf
  have hsame : o.1.id = o'.1.id → e = f := by
    intro hcall
    obtain rfl := List.inj_on_of_nodup_map hcalls ho ho' hcall
    exact Option.some.inj (howritten.symm.trans howritten')
  rcases material_cases hstage with ⟨x, y, rfl, rfl⟩ | ⟨m, n, hm, hn⟩
  · have hx : x ∈ (os.filterMap fun o => o.2.written?).filterMap raw? :=
      List.mem_filterMap.mpr ⟨_, he, rfl⟩
    have hy : y ∈ (os.filterMap fun o => o.2.written?).filterMap raw? :=
      List.mem_filterMap.mpr ⟨_, hf, rfl⟩
    exact congrArg Effect.raw (List.inj_on_of_nodup_map hids hx hy hid)
  · have he' := hfollows o ho e howritten
    have hf' := hfollows o' ho' f howritten'
    obtain rfl := hms.material_eq he hf he' hf' hm hn hstage hid
    exact hsame ((he'.id_eq hm).1.symm.trans (hf'.id_eq hn).1)

end Effect

end Lemmata
