import Lemmata.Proofs.Json.Canonical

/-! # Values that are read as they were written -/

namespace Lemmata.Json

/-- No number is rounded, and the members of each object stand in the order of their keys. -/
inductive Intact : Json → Prop
  | null : Intact .null
  | bool (b : Bool) : Intact (.bool b)
  | string (s : String) : Intact (.string s)
  | number {n : Number} (hread : (Reader.numberAt n.text).map Prod.fst = some n) :
      Intact (.number n)
  | array {vs : List Json} (hitems : ∀ v ∈ vs, Intact v) : Intact (.array vs)
  | object {ms : List (String × Json)} (hsorted : ms.Pairwise fun a b => a.1 < b.1)
      (hmembers : ∀ m ∈ ms, Intact m.2) : Intact (.object ms)

variable {v : Json} {vs : List Json} {ms : List (String × Json)}

/-! ## Legible parts -/

theorem areLegible_iff : areLegible vs = true ↔ ∀ v ∈ vs, v.isLegible = true := by
  induction vs with
  | nil => simp [areLegible]
  | cons v rest ih => simp [areLegible, ih]

theorem haveLegible_iff : haveLegible ms = true ↔ ∀ m ∈ ms, m.2.isLegible = true := by
  induction ms with
  | nil => simp [haveLegible]
  | cons m rest ih => simp [haveLegible, ih]

/-! ## Members in order -/

theorem mem_insertMember {key : String} {m : String × Json}
    (h : m ∈ insertMember key v ms) : m = (key, v) ∨ m ∈ ms := by
  induction ms with
  | nil => exact .inl (List.mem_singleton.mp h)
  | cons n rest ih =>
    obtain ⟨k, w⟩ := n
    rw [insertMember] at h
    split at h
    · exact List.mem_cons.mp h
    · split at h
      · exact (List.mem_cons.mp h).imp_right (List.mem_cons_of_mem _)
      · rcases List.mem_cons.mp h with rfl | h
        · exact .inr List.mem_cons_self
        · exact (ih h).imp_right (List.mem_cons_of_mem _)

theorem pairwise_insertMember {key : String} (h : ms.Pairwise fun a b => a.1 < b.1) :
    (insertMember key v ms).Pairwise fun a b => a.1 < b.1 := by
  induction ms with
  | nil => exact List.pairwise_singleton _ _
  | cons n rest ih =>
    obtain ⟨k, w⟩ := n
    obtain ⟨hk, hrest⟩ := List.pairwise_cons.mp h
    rw [insertMember]
    split
    · next hlt =>
      refine List.pairwise_cons.mpr ⟨fun m hm => ?_, h⟩
      rcases List.mem_cons.mp hm with rfl | hm
      · exact hlt
      · exact String.lt_trans hlt (hk m hm)
    · next hge =>
      split
      · next heq => exact List.pairwise_cons.mpr ⟨fun m hm => heq ▸ hk m hm, hrest⟩
      · next hne =>
        refine List.pairwise_cons.mpr ⟨fun m hm => ?_, ih hrest⟩
        rcases mem_insertMember hm with rfl | hm
        · exact Std.lt_of_le_of_ne (String.not_lt.mp hge) (Ne.symm hne)
        · exact hk m hm

theorem pairwise_rereadMembers {done : List (String × Json)}
    (h : done.Pairwise fun a b => a.1 < b.1) :
    (rereadMembers done ms).Pairwise fun a b => a.1 < b.1 := by
  induction ms generalizing done with
  | nil => exact h
  | cons m rest ih => exact ih (pairwise_insertMember h)

theorem rereadMembers_eq_self_iff : rereadMembers [] ms = ms ↔
    (ms.Pairwise fun a b => a.1 < b.1) ∧ ∀ m ∈ ms, m.2.reread = m.2 := by
  have hmap (hsorted : ms.Pairwise fun a b => a.1 < b.1) :
      rereadMembers [] ms = ms.map fun m => (m.1, m.2.reread) := by
    rw [rereadMembers_eq_foldl, foldl_insertMember_of_pairwise (by rwa [List.nil_append]),
      List.nil_append]
  constructor
  · intro h
    have hsorted : ms.Pairwise fun a b => a.1 < b.1 := h ▸ pairwise_rereadMembers .nil
    refine ⟨hsorted, fun m hm => ?_⟩
    have heach := map_eq_self_iff.mp ((hmap hsorted).symm.trans h) m hm
    exact congrArg Prod.snd heach
  · rintro ⟨hsorted, heach⟩
    rw [hmap hsorted]
    exact map_eq_self_iff.mpr fun m hm => Prod.ext rfl (heach m hm)

/-! ## Whole values -/

theorem intact_number_iff {n : Number} : (number n).Intact ↔
    (number n).isLegible = true ∧ (number n).reread = number n := by
  have hparts : (Reader.numberAt n.text).map Prod.fst = some n ↔
      (Reader.numberAt n.text).isSome = true ∧ n.reread = n := by
    rw [Number.reread]
    cases Reader.numberAt n.text <;> simp
  rw [isLegible, reread, Json.number.injEq, ← hparts]
  exact ⟨fun | .number hread => hread, .number⟩

theorem intact_iff : v.Intact ↔ v.isLegible = true ∧ v.reread = v := by
  induction v using inductParts with
  | null => exact ⟨fun _ => ⟨rfl, rfl⟩, fun _ => .null⟩
  | bool b => exact ⟨fun _ => ⟨rfl, rfl⟩, fun _ => .bool b⟩
  | string s => exact ⟨fun _ => ⟨rfl, rfl⟩, fun _ => .string s⟩
  | number n => exact intact_number_iff
  | array vs ih =>
    rw [isLegible, areLegible_iff, reread, Json.array.injEq, rereadItems_eq_map,
      map_eq_self_iff]
    constructor
    · rintro (_ | _ | _ | _ | hitems)
      exact ⟨fun v hv => ((ih v hv).mp (hitems v hv)).1,
        fun v hv => ((ih v hv).mp (hitems v hv)).2⟩
    · rintro ⟨hlegible, hreread⟩
      exact .array fun v hv => (ih v hv).mpr ⟨hlegible v hv, hreread v hv⟩
  | object ms ih =>
    rw [isLegible, haveLegible_iff, reread, Json.object.injEq, rereadMembers_eq_self_iff]
    constructor
    · rintro (_ | _ | _ | _ | _ | ⟨hsorted, hmembers⟩)
      exact ⟨fun m hm => ((ih m hm).mp (hmembers m hm)).1, hsorted,
        fun m hm => ((ih m hm).mp (hmembers m hm)).2⟩
    · rintro ⟨hlegible, hsorted, hreread⟩
      exact .object hsorted fun m hm => (ih m hm).mpr ⟨hlegible m hm, hreread m hm⟩

end Lemmata.Json
