import Lemmata.Proofs.Json.Decode
import Lemmata.Store.PlanCache

/-! # Rows are read as they were written -/

namespace Lemmata

/-! ## Columns -/

namespace Column

theorem readJson_text {α : Type} {decode : Json.Decoder α} {v : Json} {a : α}
    (hexact : v.isExact = true) (hdepth : v.depth ≤ Json.Reader.nestingLimit)
    (h : decode v.tidy = some a) : readJson decode v.text = .ok a := by
  rw [readJson, Json.parse?_text hexact hdepth, Option.bind_some, h]

theorem readJson_lasting {v : Json} (h : v.Lasting) : readJson some v.text = .ok v := by
  have hdepth := h.depth_le
  exact readJson_text h.exact (by omega) (by rw [h.tidy_eq])

theorem readJson_ofDict (d : Dict) : readJson Json.decodeDict (Json.ofDict d).text = .ok d := by
  have hdepth := Json.depth_ofDict d
  have hlimit : 1 ≤ Json.Reader.nestingLimit := by decide
  exact readJson_text (Json.isExact_ofDict d) (by omega) (Json.decodeDict_ofDict d)

theorem readJson_list {α : Type} {encode : α → Json} {decode : Json.Decoder α} {as : List α}
    (hexact : ∀ a ∈ as, (encode a).isExact = true)
    (hdepth : ∀ a ∈ as, (encode a).depth + 1 ≤ Json.Reader.nestingLimit)
    (h : ∀ a ∈ as, decode (encode a).tidy = some a) :
    readJson (Json.decodeList decode) (Json.array (as.map encode)).text = .ok as := by
  refine readJson_text ?_ ?_ (Json.decodeList_map h)
  · rw [Json.isExact, Json.areExact_iff]
    intro v hv
    obtain ⟨a, ha, rfl⟩ := List.mem_map.mp hv
    exact hexact a ha
  · have hitems : Json.depthItems (as.map encode) ≤ Json.Reader.nestingLimit - 1 := by
      rw [Json.depthItems_le_iff]
      intro v hv
      obtain ⟨a, ha, rfl⟩ := List.mem_map.mp hv
      have := hdepth a ha
      omega
    have hlimit : 1 ≤ Json.Reader.nestingLimit := by decide
    rw [Json.depth]
    omega

theorem readJson_ofChain {chain : List Link} (h : ∀ l ∈ chain, l.Lasting) :
    readJson (Json.decodeList Json.decodeLink) (Json.ofChain chain).text = .ok chain :=
  readJson_list (fun l hl => Json.isExact_ofLink (h l hl)) (fun l hl => Json.depth_ofLink (h l hl))
    fun l hl => Json.decodeLink_ofLink (h l hl)

theorem readJson_references (references : List Reference) :
    readJson (Json.decodeList Json.decodeReference)
      (Json.array (references.map Json.ofReference)).text = .ok references :=
  readJson_list (fun r _ => Json.isExact_ofReference r)
    (fun r _ => by rw [Json.depth_ofReference]; decide)
    fun r _ => Json.decodeReference_ofReference r

/-- A duration that a signed number holds. -/
def Fits (duration : UInt64) : Prop :=
  duration.toNat < 0x8000000000000000

instance (duration : UInt64) : Decidable (Fits duration) :=
  inferInstanceAs (Decidable (duration.toNat < 0x8000000000000000))

theorem readDuration_toInt64 {duration : UInt64} (h : Fits duration) :
    readDuration duration.toInt64 = duration := by
  have hvalue : duration.toInt64.toInt = duration.toNat := by
    rw [← Int64.toInt_toBitVec, UInt64.toBitVec_toInt64]
    exact BitVec.toInt_eq_toNat_of_lt (by unfold Fits at h; rw [UInt64.toNat_toBitVec]; omega)
  unfold readDuration
  change (if duration.toInt64 ≤ 0 then 0 else duration.toInt64).toUInt64 = duration
  split
  · next hle =>
    rw [Int64.le_iff_toInt_le, hvalue, Int64.toInt_zero] at hle
    have hzero : duration.toNat = 0 := by omega
    exact (UInt64.toNat_inj.mp (by rw [hzero]; rfl)).symm
  · exact UInt64.toUInt64_toInt64 duration

end Column

/-! ## Effects -/

namespace Effect

/-- What a row can hold so that it can be read. -/
def Readable : Effect → Prop
  | raw _ => True
  | extraction e => e.payload.Lasting ∧ ∀ l ∈ e.chain, l.Lasting
  | derivation e => e.payload.Lasting ∧ ∀ l ∈ e.chain, l.Lasting
  | claim e => e.value.Lasting ∧ ∀ l ∈ e.chain, l.Lasting

/-- What a row gives back as it was. -/
def Lasting : Effect → Prop
  | raw e => Column.Fits e.durationMs
  | extraction e => e.payload.Lasting ∧ (∀ l ∈ e.chain, l.Lasting) ∧ Column.Fits e.durationMs
  | derivation e => e.payload.Lasting ∧ (∀ l ∈ e.chain, l.Lasting) ∧ Column.Fits e.durationMs
  | claim e => e.value.Lasting ∧ (∀ l ∈ e.chain, l.Lasting) ∧ Column.Fits e.durationMs

end Effect

/-! ### As they are read -/

/-- The duration as its column gives it back. -/
def Column.stored (duration : UInt64) : UInt64 :=
  readDuration duration.toInt64

theorem Column.stored_eq {duration : UInt64} (h : Fits duration) : stored duration = duration :=
  readDuration_toInt64 h

def RawResponse.stored (e : RawResponse) : RawResponse :=
  { e with durationMs := Column.stored e.durationMs }

def Extraction.stored (e : Extraction) : Extraction :=
  { e with durationMs := Column.stored e.durationMs }

def Derivation.stored (e : Derivation) : Derivation :=
  { e with durationMs := Column.stored e.durationMs }

def Claim.stored (e : Claim) : Claim :=
  { e with durationMs := Column.stored e.durationMs }

namespace Effect

def stored : Effect → Effect
  | raw e => raw e.stored
  | extraction e => extraction e.stored
  | derivation e => derivation e.stored
  | claim e => claim e.stored

/-- Only a duration that no signed number holds is not read back. -/
theorem Lasting.readable {e : Effect} (h : e.Lasting) : e.Readable := by
  cases e with
  | raw e => trivial
  | extraction e => exact ⟨h.1, h.2.1⟩
  | derivation e => exact ⟨h.1, h.2.1⟩
  | claim e => exact ⟨h.1, h.2.1⟩

theorem Lasting.stored_eq {e : Effect} (h : e.Lasting) : e.stored = e := by
  cases e with
  | raw e => rw [stored, RawResponse.stored, Column.stored_eq h]
  | extraction e => rw [stored, Extraction.stored, Column.stored_eq h.2.2]
  | derivation e => rw [stored, Derivation.stored, Column.stored_eq h.2.2]
  | claim e => rw [stored, Claim.stored, Column.stored_eq h.2.2]

end Effect

theorem RawRow.effect_ofEffect (savedAt : Int) (e : RawResponse) :
    (RawRow.ofEffect savedAt e).effect = .ok e.stored := by
  simp only [RawRow.effect, RawRow.ofEffect, Column.readJson_ofDict]
  rfl

theorem ExtractionRow.effect_ofEffect {e : Extraction} (h : (Effect.extraction e).Readable) :
    (ExtractionRow.ofEffect e).effect = .ok e.stored := by
  simp only [ExtractionRow.effect, ExtractionRow.ofEffect, Column.readJson_lasting h.1,
    Column.readJson_ofChain h.2]
  rfl

theorem DerivationRow.effect_ofEffect {e : Derivation} (h : (Effect.derivation e).Readable) :
    (DerivationRow.ofEffect e).effect = .ok e.stored := by
  simp only [DerivationRow.effect, DerivationRow.ofEffect, Column.readJson_lasting h.1,
    Column.readJson_ofChain h.2]
  rfl

theorem ClaimRow.effect_ofEffect {e : Claim} (h : (Effect.claim e).Readable) :
    (ClaimRow.ofEffect e).effect = .ok e.stored := by
  simp only [ClaimRow.effect, ClaimRow.ofEffect, Column.readJson_lasting h.1,
    Column.readJson_ofChain h.2]
  rfl

/-! ## Executed plans -/

/-- An entry of the cache is read with all its references, whenever it was last accessed. -/
theorem PlanRow.executed_ofExecuted (now : Moment) (access : String) (e : ExecutedPlan) :
    PlanRow.executed { PlanRow.ofExecuted now e with lastAccess := access } =
      .ok { e with
        durationMs := Column.readDuration e.durationMs.toInt64
        fromCache := false } := by
  simp only [PlanRow.executed, PlanRow.ofExecuted, Column.readJson_references]
  rfl

end Lemmata
