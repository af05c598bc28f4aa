import Lemmata.Proofs.Store.Statements

/-! # Which rows can be read -/

namespace Lemmata

/-! ## Columns -/

namespace Json

def Legible (v : Json) : Prop :=
  v.depth ≤ Reader.nestingLimit ∧ v.isLegible = true

instance (v : Json) : Decidable v.Legible :=
  inferInstanceAs (Decidable (_ ∧ _))

end Json

/-- The link as a column gives it back, where a null is no metadata. -/
def Link.reread (l : Link) : Link :=
  { l with metadata := (l.metadata.map Json.reread).filter (· ≠ .null) }

namespace Json

theorem decodeLink_reread (l : Link) : decodeLink (ofLink l).reread = some l.reread := by
  obtain ⟨stage, tool, effectId, metadata⟩ := l
  cases metadata with
  | none =>
    simp [decodeLink, ofLink, reread, rereadMembers, record?, Record.get, Record.getOption,
      Record.getD, lookup_insertMember, decodeString, string?, ofStage, decodeStage_ofStage,
      Link.reread]
  | some v =>
    have hoption : decodeOption some v.reread = some ((some v.reread).filter (· ≠ .null)) := by
      cases v.reread <;> simp [decodeOption, Option.filter]
    simp [decodeLink, ofLink, reread, rereadMembers, record?, Record.get, Record.getOption,
      Record.getD, lookup_insertMember, decodeString, string?, ofStage, decodeStage_ofStage,
      hoption, Link.reread]

theorem decodeChain_reread (chain : List Link) :
    decodeList decodeLink (ofChain chain).reread = some (chain.map Link.reread) := by
  rw [ofChain, reread, rereadItems_eq_map, decodeList, List.map_map,
    mapM_map (f := reread ∘ ofLink) (h := Link.reread) fun l _ => decodeLink_reread l]

end Json

namespace Column

variable {α : Type} {decode : Json.Decoder α} {v : Json}

theorem readJson_of_legible {a : α} (hv : v.Legible) (h : decode v.reread = some a) :
    readJson decode v.text = .ok a := by
  unfold Json.Legible at hv
  rw [readJson, Json.parse?_text_eq, if_pos hv, Option.bind_some, h]

theorem readJson_of_not_legible (hv : ¬ v.Legible) :
    readJson decode v.text = .error .unreadable := by
  unfold Json.Legible at hv
  rw [readJson, Json.parse?_text_eq, if_neg hv]
  rfl

theorem read_columns (v : Json) (chain : List Link) (make : Json → List Link → α) :
    (do
      let payload ← readJson some v.text
      let chain ← readJson (Json.decodeList Json.decodeLink) (Json.ofChain chain).text
      .ok (make payload chain)) =
    if v.Legible ∧ (Json.ofChain chain).Legible then
      .ok (make v.reread (chain.map Link.reread))
    else .error .unreadable := by
  by_cases hv : v.Legible
  · rw [readJson_of_legible hv rfl]
    by_cases hchain : (Json.ofChain chain).Legible
    · rw [readJson_of_legible hchain (Json.decodeChain_reread chain), if_pos ⟨hv, hchain⟩]
      rfl
    · rw [readJson_of_not_legible hchain, if_neg fun h => hchain h.2]
      rfl
  · rw [readJson_of_not_legible hv, if_neg fun h => hv h.1]
    rfl

end Column

/-! ## Effects -/

def Extraction.reread (e : Extraction) : Extraction :=
  { e.stored with payload := e.payload.reread, chain := e.chain.map Link.reread }

def Derivation.reread (e : Derivation) : Derivation :=
  { e.stored with payload := e.payload.reread, chain := e.chain.map Link.reread }

def Claim.reread (e : Claim) : Claim :=
  { e.stored with value := e.value.reread, chain := e.chain.map Link.reread }

namespace Effect

/-- The columns of the row are not nested too deep, and hold numbers that can be read. -/
def Legible : Effect → Prop
  | raw _ => True
  | extraction e => e.payload.Legible ∧ (Json.ofChain e.chain).Legible
  | derivation e => e.payload.Legible ∧ (Json.ofChain e.chain).Legible
  | claim e => e.value.Legible ∧ (Json.ofChain e.chain).Legible

instance : (e : Effect) → Decidable e.Legible
  | raw _ => inferInstanceAs (Decidable True)
  | extraction _ | derivation _ | claim _ => inferInstanceAs (Decidable (_ ∧ _))

def reread : Effect → Effect
  | raw e => raw e.stored
  | extraction e => extraction e.reread
  | derivation e => derivation e.reread
  | claim e => claim e.reread

end Effect

theorem ExtractionRow.effect_eq (e : Extraction) : (ExtractionRow.ofEffect e).effect =
    if (Effect.extraction e).Legible then .ok e.reread else .error .unreadable :=
  Column.read_columns _ _ _

theorem DerivationRow.effect_eq (e : Derivation) : (DerivationRow.ofEffect e).effect =
    if (Effect.derivation e).Legible then .ok e.reread else .error .unreadable :=
  Column.read_columns _ _ _

theorem ClaimRow.effect_eq (e : Claim) : (ClaimRow.ofEffect e).effect =
    if (Effect.claim e).Legible then .ok e.reread else .error .unreadable :=
  Column.read_columns _ _ _

namespace Store

variable {s : Store} {now : Moment} {stage : Stage} {id : String}

theorem read_put_of_effect {α β : Type} [Keyed α] {t : Table α} {new : α} {e : β}
    {effect : α → Except Failure β} {P : Prop} [Decidable P] (wrap : β → Effect)
    (h : effect new = if P then .ok e else .error .unreadable) :
    (readRow effect ((t.put new).get? (Keyed.key new))).map (·.map wrap) =
      if P then .ok (some (wrap e)) else .error .unreadable := by
  rw [Table.get?_put_self, readRow, h]
  split <;> rfl

/-- The row that was just written is read exactly if it is legible. -/
theorem get_save_eq (s : Store) (now : Moment) (e : Effect) : (s.save now e).get e.stage e.id =
    if e.Legible then .ok (some e.reread) else .error .unreadable := by
  cases e with
  | raw e => exact read_put_self Effect.raw (RawRow.effect_ofEffect now.second e)
  | extraction e => exact read_put_of_effect Effect.extraction (ExtractionRow.effect_eq e)
  | derivation e => exact read_put_of_effect Effect.derivation (DerivationRow.effect_eq e)
  | claim e => exact read_put_of_effect Effect.claim (ClaimRow.effect_eq e)

theorem get_save_of_ne {e : Effect} (h : ¬ (e.stage = stage ∧ e.id = id)) :
    (s.save now e).get stage id = s.get stage id := by
  refine get_run (x := .write now e) ?_
  rintro later f hwrite hstage hid
  cases hwrite
  exact h ⟨hstage, hid⟩

end Store

end Lemmata
