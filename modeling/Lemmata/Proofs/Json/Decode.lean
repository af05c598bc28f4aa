import Lemmata.Effect.Json
import Lemmata.Proofs.Json.ReadBack

/-! # Decoders undo their encoders -/

namespace Lemmata.Json

/-! ## Members by key -/

theorem lookup_cons_eq (key name : String) (v : Json) (ms : List (String × Json)) :
    ((key, v) :: ms).lookup name = if name = key then some v else ms.lookup name := by
  rw [List.lookup_cons]
  by_cases h : name = key
  · rw [if_pos h, beq_iff_eq.mpr h]
  · rw [if_neg h, beq_eq_false_iff_ne.mpr h]

theorem lookup_insertMember (key name : String) (v : Json) (ms : List (String × Json)) :
    (insertMember key v ms).lookup name = if name = key then some v else ms.lookup name := by
  induction ms with
  | nil => exact lookup_cons_eq key name v []
  | cons m rest ih =>
    obtain ⟨k, w⟩ := m
    rw [insertMember, lookup_cons_eq]
    split
    · rw [lookup_cons_eq, lookup_cons_eq]
    · split
      · next heq =>
        subst heq
        rw [lookup_cons_eq]
        split <;> rfl
      · next hne =>
        rw [lookup_cons_eq, ih]
        by_cases hk : name = k
        · rw [if_pos hk, if_neg (hk ▸ Ne.symm hne), if_pos hk]
        · rw [if_neg hk, if_neg hk]

theorem insertMember_eq_append {key : String} {v : Json} {ms : List (String × Json)}
    (h : ∀ m ∈ ms, m.1 < key) : insertMember key v ms = ms ++ [(key, v)] := by
  induction ms with
  | nil => rfl
  | cons m rest ih =>
    obtain ⟨k, w⟩ := m
    have hlt : k < key := h _ List.mem_cons_self
    rw [insertMember, if_neg (String.lt_asymm hlt), if_neg (String.ne_of_lt hlt).symm,
      ih fun m hm => h m (List.mem_cons_of_mem _ hm)]
    rfl

theorem foldl_insertMember_of_pairwise {f : Json → Json} {done ms : List (String × Json)}
    (h : (done ++ ms).Pairwise fun a b => a.1 < b.1) :
    ms.foldl (fun done m => insertMember m.1 (f m.2) done) done =
      done ++ ms.map fun m => (m.1, f m.2) := by
  induction ms generalizing done with
  | nil => simp
  | cons m rest ih =>
    obtain ⟨key, v⟩ := m
    have hlt : ∀ m ∈ done, m.1 < key := fun m hm =>
      (List.pairwise_append.mp h).2.2 m hm _ List.mem_cons_self
    rw [List.foldl_cons, insertMember_eq_append hlt, ih]
    · simp
    · rw [List.append_assoc, List.singleton_append]
      refine List.pairwise_append.mpr ⟨(List.pairwise_append.mp h).1, ?_, ?_⟩
      · have := (List.pairwise_append.mp h).2.1
        rw [List.pairwise_cons] at this ⊢
        exact this
      · intro a ha b hb
        rcases List.mem_cons.mp hb with rfl | hb
        · exact hlt a ha
        · exact (List.pairwise_append.mp h).2.2 a ha b (List.mem_cons_of_mem _ hb)

theorem tidyMembers_eq_foldl (done ms : List (String × Json)) :
    tidyMembers done ms = ms.foldl (fun done m => insertMember m.1 m.2.tidy done) done := by
  induction ms generalizing done with
  | nil => rfl
  | cons m rest ih => exact ih _

theorem rereadMembers_eq_foldl (done ms : List (String × Json)) :
    rereadMembers done ms = ms.foldl (fun done m => insertMember m.1 m.2.reread done) done := by
  induction ms generalizing done with
  | nil => rfl
  | cons m rest ih => exact ih _

theorem tidyMembers_of_pairwise {done ms : List (String × Json)}
    (h : (done ++ ms).Pairwise fun a b => a.1 < b.1) :
    tidyMembers done ms = done ++ ms.map fun m => (m.1, m.2.tidy) := by
  rw [tidyMembers_eq_foldl, foldl_insertMember_of_pairwise h]

/-! ## Lists of values -/

theorem areExact_iff {vs : List Json} : areExact vs = true ↔ ∀ v ∈ vs, v.isExact = true := by
  induction vs with
  | nil => simp [areExact]
  | cons v rest ih => simp [areExact, ih]

theorem haveExact_iff {ms : List (String × Json)} :
    haveExact ms = true ↔ ∀ m ∈ ms, m.2.isExact = true := by
  induction ms with
  | nil => simp [haveExact]
  | cons m rest ih => simp [haveExact, ih]

theorem depthItems_le_iff {vs : List Json} {n : Nat} :
    depthItems vs ≤ n ↔ ∀ v ∈ vs, v.depth ≤ n := by
  induction vs with
  | nil => simp [depthItems]
  | cons v rest ih => rw [depthItems, Nat.max_le, ih, List.forall_mem_cons]

theorem depthMembers_le_iff {ms : List (String × Json)} {n : Nat} :
    depthMembers ms ≤ n ↔ ∀ m ∈ ms, m.2.depth ≤ n := by
  induction ms with
  | nil => simp [depthMembers]
  | cons m rest ih => rw [depthMembers, Nat.max_le, ih, List.forall_mem_cons]

theorem tidyItems_eq_map (vs : List Json) : tidyItems vs = vs.map tidy := by
  induction vs with
  | nil => rfl
  | cons v rest ih => rw [tidyItems, ih, List.map_cons]

theorem rereadItems_eq_map (vs : List Json) : rereadItems vs = vs.map reread := by
  induction vs with
  | nil => rfl
  | cons v rest ih => rw [rereadItems, ih, List.map_cons]

theorem map_eq_self_iff {α : Type} {f : α → α} {as : List α} :
    as.map f = as ↔ ∀ a ∈ as, f a = a := by
  have hid := List.map_inj_left (l := as) (f := f) (g := id)
  rwa [List.map_id] at hid

theorem mapM_map {α β γ : Type} {f : α → β} {g : β → Option γ} {h : α → γ} {as : List α}
    (hg : ∀ a ∈ as, g (f a) = some (h a)) : (as.map f).mapM g = some (as.map h) := by
  induction as with
  | nil => rfl
  | cons a rest ih =>
    rw [List.map_cons, List.mapM_cons, hg a List.mem_cons_self,
      ih fun a ha => hg a (List.mem_cons_of_mem _ ha)]
    rfl

theorem decodeList_map {α : Type} {encode : α → Json} {decode : Decoder α} {as : List α}
    (h : ∀ a ∈ as, decode (encode a).tidy = some a) :
    decodeList decode (Json.array (as.map encode)).tidy = some as := by
  rw [tidy, tidyItems_eq_map, decodeList, List.map_map, mapM_map (f := tidy ∘ encode) (h := id) h,
    List.map_id]

/-! ## Dictionaries -/

theorem isExact_ofDict (d : Dict) : (ofDict d).isExact = true := by
  rw [ofDict, isExact, haveExact_iff]
  intro m hm
  obtain ⟨entry, -, rfl⟩ := List.mem_map.mp hm
  rfl

theorem depth_ofDict (d : Dict) : (ofDict d).depth ≤ 1 := by
  have hdepth : depthMembers (d.entries.map fun e => (e.1, Json.string e.2)) ≤ 0 := by
    rw [depthMembers_le_iff]
    intro m hm
    obtain ⟨entry, -, rfl⟩ := List.mem_map.mp hm
    exact Nat.le_refl 0
  exact Nat.succ_le_succ hdepth

theorem tidy_ofDict (d : Dict) : (ofDict d).tidy = ofDict d := by
  have hsorted : (d.entries.map fun e => (e.1, Json.string e.2)).Pairwise
      fun a b => a.1 < b.1 := by
    rw [List.pairwise_map]
    exact d.sorted
  rw [ofDict, tidy, tidyMembers_of_pairwise (by simpa using hsorted), List.nil_append,
    List.map_map]
  rfl

theorem insertSorted_eq_append {key value : String} {entries : List (String × String)}
    (h : ∀ e ∈ entries, e.1 < key) :
    insertSorted key value entries = entries ++ [(key, value)] := by
  induction entries with
  | nil => rfl
  | cons e rest ih =>
    obtain ⟨k, v⟩ := e
    have hlt : k < key := h _ List.mem_cons_self
    rw [insertSorted, if_neg (String.lt_asymm hlt), if_neg (String.ne_of_lt hlt).symm,
      ih fun e he => h e (List.mem_cons_of_mem _ he)]
    rfl

theorem entries_foldl_insert {d : Dict} {entries : List (String × String)}
    (h : (d.entries ++ entries).Pairwise fun a b => a.1 < b.1) :
    (entries.foldl (fun d (k, v) => d.insert k v) d).entries = d.entries ++ entries := by
  induction entries generalizing d with
  | nil => simp
  | cons e rest ih =>
    obtain ⟨key, value⟩ := e
    have hinsert : (d.insert key value).entries = d.entries ++ [(key, value)] :=
      insertSorted_eq_append fun e he =>
        (List.pairwise_append.mp h).2.2 e he _ List.mem_cons_self
    rw [List.foldl_cons, ih]
    · rw [hinsert, List.append_assoc, List.singleton_append]
    · rwa [hinsert, List.append_assoc, List.singleton_append]

theorem ofList_entries (d : Dict) : Dict.ofList d.entries = d := by
  apply Dict.ext
  rw [Dict.ofList, entries_foldl_insert (by simpa [Dict.empty] using d.sorted)]
  rfl

theorem decodeDict_ofDict (d : Dict) : decodeDict (ofDict d).tidy = some d := by
  have hread : (d.entries.map fun e => (e.1, Json.string e.2)).mapM
      (fun m => (decodeString m.2).map fun s => (m.1, s)) =
      some (d.entries.map id) := mapM_map fun _ _ => rfl
  rw [tidy_ofDict, ofDict, decodeDict, hread, Option.map_some, List.map_id, ofList_entries]

/-! ## References -/

theorem decodeStage_ofStage (stage : Stage) : decodeStage (.string stage.name) = some stage := by
  cases stage <;> decide

theorem isExact_ofReference (r : Reference) : (ofReference r).isExact = true := rfl

theorem depth_ofReference (r : Reference) : (ofReference r).depth = 1 := rfl

theorem decodeReference_ofReference (r : Reference) :
    decodeReference (ofReference r).tidy = some r := by
  simp [decodeReference, ofReference, tidy, tidyMembers, record?, Record.get, lookup_insertMember,
    decodeString, string?, decodeBool, ofStage, decodeStage_ofStage]

/-! ## Links -/

/-- A value that comes back from a column as it was, also from inside a chain. -/
structure Lasting (v : Json) : Prop where
  exact : v.isExact = true
  depth_le : v.depth + 2 ≤ Reader.nestingLimit
  tidy_eq : v.tidy = v

end Json

/-- The metadata come back from a column as they were; a null would come back as nothing. -/
def Link.Lasting (l : Link) : Prop :=
  ∀ v, l.metadata = some v → v.Lasting ∧ v ≠ .null

namespace Json

variable {l : Link}

theorem isExact_ofLink (h : l.Lasting) : (ofLink l).isExact = true := by
  rw [ofLink, isExact, haveExact_iff]
  cases hmetadata : l.metadata with
  | none => simp [isExact, ofStage]
  | some v => simp [isExact, ofStage, (h v hmetadata).1.exact]

theorem depth_ofLink (h : l.Lasting) : (ofLink l).depth + 1 ≤ Reader.nestingLimit := by
  rw [ofLink, depth]
  cases hmetadata : l.metadata with
  | none =>
    simp only [List.append_nil, depthMembers, depth, ofStage]
    decide
  | some v =>
    have := (h v hmetadata).1.depth_le
    simp only [List.cons_append, List.nil_append, depthMembers, depth, ofStage]
    omega

theorem decodeLink_ofLink (h : l.Lasting) : decodeLink (ofLink l).tidy = some l := by
  obtain ⟨stage, tool, effectId, metadata⟩ := l
  cases metadata with
  | none =>
    simp [decodeLink, ofLink, tidy, tidyMembers, record?, Record.get, Record.getOption,
      Record.getD, lookup_insertMember, decodeString, string?, ofStage, decodeStage_ofStage]
  | some v =>
    obtain ⟨hv, hnull⟩ := h v rfl
    have hoption : decodeOption some v = some (some v) := by
      cases v <;> first | rfl | exact absurd rfl hnull
    simp [decodeLink, ofLink, tidy, tidyMembers, record?, Record.get, Record.getOption,
      Record.getD, lookup_insertMember, decodeString, string?, ofStage, decodeStage_ofStage,
      hv.tidy_eq, hoption]

end Lemmata.Json
