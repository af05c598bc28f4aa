import Lemmata.Proofs.Json.Intact
import Lemmata.Proofs.Store.Legible

/-! # Which effects are read as they were saved -/

namespace Lemmata

variable {v : Json} {l : Link} {chain : List Link}

/-! ## Durations -/

theorem Column.readDuration_toInt64_of_not_fits {duration : UInt64} (h : ¬ Fits duration) :
    readDuration duration.toInt64 = 0 := by
  have hlt := duration.toNat_lt
  have hneg : duration.toInt64.toInt ≤ 0 := by
    unfold Fits at h
    rw [← Int64.toInt_toBitVec, UInt64.toBitVec_toInt64, BitVec.toInt_eq_toNat_cond,
      UInt64.toNat_toBitVec]
    omega
  unfold readDuration
  change (if duration.toInt64 ≤ 0 then 0 else duration.toInt64).toUInt64 = 0
  rw [if_pos (Int64.le_iff_toInt_le.mpr hneg)]
  rfl

theorem Column.stored_eq_iff {duration : UInt64} : stored duration = duration ↔ Fits duration := by
  refine ⟨fun h => ?_, stored_eq⟩
  by_contra hfits
  rw [stored, readDuration_toInt64_of_not_fits hfits] at h
  subst h
  exact hfits (by decide)

example : Column.stored 0x8000000000000000 = 0 := by decide

/-! ## Links -/

/-- The metadata stand in an object in the array of the chain, and a null there is nothing. -/
def Link.Intact (l : Link) : Prop :=
  ∀ v, l.metadata = some v → v.Intact ∧ v ≠ .null ∧ v.depth + 2 ≤ Json.Reader.nestingLimit

theorem Link.reread_eq_self_iff :
    l.reread = l ↔ ∀ v, l.metadata = some v → v.reread = v ∧ v ≠ .null := by
  obtain ⟨stage, tool, effectId, metadata⟩ := l
  cases metadata with
  | none => simp [reread]
  | some v =>
    simp only [reread, Option.map_some, Link.mk.injEq, true_and, Option.some.injEq, forall_eq']
    by_cases hnull : v.reread = .null
    · rw [hnull, Option.filter_some_neg (by simp)]
      constructor
      · intro h
        cases h
      · exact fun h => absurd h.1.symm h.2
    · rw [Option.filter_some_pos (by simpa using hnull), Option.some.injEq]
      exact ⟨fun h => ⟨h, h ▸ hnull⟩, And.left⟩

namespace Json

theorem isLegible_ofLink :
    (ofLink l).isLegible = true ↔ ∀ v, l.metadata = some v → v.isLegible = true := by
  rw [ofLink, isLegible, haveLegible_iff]
  cases l.metadata <;> simp [isLegible, ofStage]

theorem depth_ofLink_le_iff : (ofLink l).depth + 1 ≤ Reader.nestingLimit ↔
    ∀ v, l.metadata = some v → v.depth + 2 ≤ Reader.nestingLimit := by
  have hlimit : 2 ≤ Reader.nestingLimit := by decide
  rw [ofLink, depth]
  cases l.metadata with
  | none =>
    simp only [List.append_nil, depthMembers, depth, ofStage, reduceCtorEq, false_imp_iff,
      implies_true, iff_true]
    omega
  | some v =>
    simp only [List.cons_append, List.nil_append, depthMembers, depth, ofStage, Option.some.injEq,
      forall_eq']
    omega

theorem legible_ofChain : (ofChain chain).Legible ↔
    ∀ l ∈ chain, (ofLink l).isLegible = true ∧ (ofLink l).depth + 1 ≤ Reader.nestingLimit := by
  have hdepth : (ofChain chain).depth ≤ Reader.nestingLimit ↔
      ∀ l ∈ chain, (ofLink l).depth + 1 ≤ Reader.nestingLimit := by
    have hitems : depthItems (chain.map ofLink) ≤ Reader.nestingLimit - 1 ↔
        ∀ l ∈ chain, (ofLink l).depth ≤ Reader.nestingLimit - 1 := by
      rw [depthItems_le_iff, List.forall_mem_map]
    have hlimit : 1 ≤ Reader.nestingLimit := by decide
    rw [ofChain, depth, ← Nat.le_sub_iff_add_le hlimit, hitems]
    simp only [Nat.le_sub_iff_add_le hlimit]
  rw [Legible, hdepth, ofChain, isLegible, areLegible_iff, List.forall_mem_map]
  constructor
  · exact fun h l hl => ⟨h.2 l hl, h.1 l hl⟩
  · exact fun h => ⟨fun l hl => (h l hl).2, fun l hl => (h l hl).1⟩

theorem reread_eq_self_of_legible : v.Legible ∧ v.reread = v ↔
    v.Intact ∧ v.depth ≤ Reader.nestingLimit := by
  rw [Legible, intact_iff]
  tauto

theorem reread_eq_self_of_legible_ofChain :
    (ofChain chain).Legible ∧ chain.map Link.reread = chain ↔ ∀ l ∈ chain, l.Intact := by
  rw [legible_ofChain, map_eq_self_iff]
  constructor
  · rintro ⟨hlegible, hreread⟩ l hl v hv
    obtain ⟨hnumbers, hdepth⟩ := hlegible l hl
    obtain ⟨hv', hnull⟩ := Link.reread_eq_self_iff.mp (hreread l hl) v hv
    exact ⟨intact_iff.mpr ⟨isLegible_ofLink.mp hnumbers v hv, hv'⟩, hnull,
      depth_ofLink_le_iff.mp hdepth v hv⟩
  · intro h
    constructor
    · intro l hl
      exact ⟨isLegible_ofLink.mpr fun v hv => (intact_iff.mp (h l hl v hv).1).1,
        depth_ofLink_le_iff.mpr fun v hv => (h l hl v hv).2.2⟩
    · intro l hl
      refine Link.reread_eq_self_iff.mpr fun v hv => ?_
      exact ⟨(intact_iff.mp (h l hl v hv).1).2, (h l hl v hv).2.1⟩

end Json

/-! ## Effects -/

structure Column.Intact (v : Json) (chain : List Link) (duration : UInt64) : Prop where
  value : v.Intact
  depth_le : v.depth ≤ Json.Reader.nestingLimit
  chain : ∀ l ∈ chain, l.Intact
  duration : Fits duration

theorem Column.intact_iff {duration : UInt64} : Intact v chain duration ↔
    (v.Legible ∧ (Json.ofChain chain).Legible) ∧
      v.reread = v ∧ chain.map Link.reread = chain ∧ stored duration = duration := by
  rw [stored_eq_iff]
  constructor
  · intro h
    obtain ⟨hv, hreread⟩ := Json.reread_eq_self_of_legible.mpr ⟨h.value, h.depth_le⟩
    obtain ⟨hchain, hlinks⟩ := Json.reread_eq_self_of_legible_ofChain.mpr h.chain
    exact ⟨⟨hv, hchain⟩, hreread, hlinks, h.duration⟩
  · rintro ⟨⟨hv, hchain⟩, hreread, hlinks, hduration⟩
    obtain ⟨hvalue, hdepth⟩ := Json.reread_eq_self_of_legible.mp ⟨hv, hreread⟩
    exact ⟨hvalue, hdepth, Json.reread_eq_self_of_legible_ofChain.mp ⟨hchain, hlinks⟩, hduration⟩

namespace Effect

def Intact : Effect → Prop
  | raw e => Column.Fits e.durationMs
  | extraction e => Column.Intact e.payload e.chain e.durationMs
  | derivation e => Column.Intact e.payload e.chain e.durationMs
  | claim e => Column.Intact e.value e.chain e.durationMs

theorem intact_iff {e : Effect} : e.Intact ↔ e.Legible ∧ e.reread = e := by
  cases e with
  | raw e =>
    obtain ⟨⟩ := e
    simp [Intact, Legible, reread, RawResponse.stored, Column.stored_eq_iff]
  | extraction e =>
    obtain ⟨⟩ := e
    simp [Intact, Legible, reread, Extraction.reread, Extraction.stored, Column.intact_iff]
  | derivation e =>
    obtain ⟨⟩ := e
    simp [Intact, Legible, reread, Derivation.reread, Derivation.stored, Column.intact_iff]
  | claim e =>
    obtain ⟨⟩ := e
    simp [Intact, Legible, reread, Claim.reread, Claim.stored, Column.intact_iff]

end Effect

/-- An effect comes back as it was saved exactly if its duration is a signed number, no number in
it is rounded, nothing is nested too deep and no link has a null for its metadata. -/
theorem Store.get_save_eq_iff_intact (s : Store) (now : Moment) (e : Effect) :
    (s.save now e).get e.stage e.id = .ok (some e) ↔ e.Intact := by
  rw [get_save_eq, Effect.intact_iff]
  split
  · next hlegible => simp [hlegible]
  · next hlegible => simp [hlegible]

end Lemmata
